import Chip.Support.TimeUtils

/-! The conversions between calendar times and seconds since an epoch (`TimeUtils.cpp`). -/
namespace Chip.TimeUtils

open Gregorian

structure CalendarTime where
  date : Date
  hour : Nat
  minute : Nat
  second : Nat
deriving DecidableEq

def kSecondsPerMinute : Nat := 60

def kSecondsPerHour : Nat := 3600

def kSecondsPerDay : Nat := 86400

def kMaxYearInSecondsSinceUnixEpoch32 : Nat := 2105

def kChipEpochBaseYear : Nat := 2000

def kChipEpochMaxYear : Nat := 2135

def kChipEpochDaysSinceUnixEpoch : Nat := 10957

def kChipEpochSecondsSinceUnixEpoch : Nat := kChipEpochDaysSinceUnixEpoch * kSecondsPerDay

def calendarTimeToSecondsSinceUnixEpoch (time : CalendarTime) : Bool × Nat :=
  if time.date.year < kUnixEpochYear ∨ time.date.year > kMaxYearInSecondsSinceUnixEpoch32 then (false, 2 ^ 32 - 1)
  else
    let daysSinceEpoch := (calendarDateToDaysSinceUnixEpoch time.date).2
    (true, (daysSinceEpoch * kSecondsPerDay + time.hour * kSecondsPerHour + time.minute * kSecondsPerMinute +
      time.second) % 2 ^ 32)

/-- The static function with 64 bits of seconds. The days are multiplied in 32 bits, and the time of the
day is cut to 32 bits. -/
def secondsSinceUnixEpochToCalendarTime64 (secondsSinceEpoch : Nat) (time : CalendarTime) : CalendarTime :=
  let daysSinceEpoch := secondsSinceEpoch / kSecondsPerDay % 2 ^ 32
  let timeOfDay := (secondsSinceEpoch - daysSinceEpoch * kSecondsPerDay % 2 ^ 32) % 2 ^ 32
  let hour := timeOfDay / kSecondsPerHour % 2 ^ 8
  let timeOfHour := timeOfDay - hour * kSecondsPerHour
  let minute := timeOfHour / kSecondsPerMinute % 2 ^ 8
  let second := (timeOfHour - minute * kSecondsPerMinute) % 2 ^ 8
  ⟨(daysSinceUnixEpochToCalendarDate daysSinceEpoch time.date).2, hour, minute, second⟩

def secondsSinceUnixEpochToCalendarTime (secondsSinceEpoch : Nat) (time : CalendarTime) : CalendarTime :=
  secondsSinceUnixEpochToCalendarTime64 secondsSinceEpoch time

def calendarToChipEpochTime (time : CalendarTime) (chipEpochTime : Nat) : Bool × Nat :=
  if kChipEpochBaseYear ≤ time.date.year ∧ time.date.year ≤ kChipEpochMaxYear then
    let daysSinceUnixEpoch := (calendarDateToDaysSinceUnixEpoch time.date).2
    (true, ((daysSinceUnixEpoch + (2 ^ 32 - kChipEpochDaysSinceUnixEpoch)) % 2 ^ 32 * kSecondsPerDay +
      time.hour * kSecondsPerHour + time.minute * kSecondsPerMinute + time.second) % 2 ^ 32)
  else (false, chipEpochTime)

def chipEpochToCalendarTime (chipEpochTime : Nat) (time : CalendarTime) : CalendarTime :=
  secondsSinceUnixEpochToCalendarTime64 (chipEpochTime + kChipEpochSecondsSinceUnixEpoch) time

def dateProducts (date : Date) : List Nat :=
  let year := if date.month ≤ kFebruary then date.year - 1 else date.year
  let month := if date.month ≤ kFebruary then date.month + 9 else date.month - 3
  let cycle := year / kYearsPerCycle
  [153 * month, cycle * kYearsPerCycle, (year - cycle * kYearsPerCycle) * kDaysPerStandardYear, cycle * kDaysPerCycle]

/-- The products in the conversion of a time to seconds since an epoch, which begins on this day. -/
def timeProducts (epoch : Nat) (time : CalendarTime) : List Nat :=
  dateProducts time.date ++
    [((calendarDateToDaysSinceUnixEpoch time.date).2 - epoch) * kSecondsPerDay, time.hour * kSecondsPerHour,
      time.minute * kSecondsPerMinute]

def dayProducts (daysSinceEpoch : Nat) : List Nat :=
  let days := daysSinceEpoch + kEpochOffsetDays
  let cycle := days / kDaysPerCycle
  let dayOfCycle := days - cycle * kDaysPerCycle
  let yearOfCycle := (dayOfCycle - dayOfCycle / 1460 + dayOfCycle / 36524 - dayOfCycle / 146096) / kDaysPerStandardYear
  let dayOfYear := dayOfCycle - (yearOfCycle * kDaysPerStandardYear + yearOfCycle / kLeapYearInterval -
    yearOfCycle / kYearsPerCentury)
  [cycle * kDaysPerCycle, yearOfCycle * kDaysPerStandardYear, 5 * dayOfYear,
    153 * marchBasedDayOfYearToMonth dayOfYear, cycle * kYearsPerCycle]

/-- The product of the days in the conversion of seconds to a time. -/
def dayProduct (secondsSinceEpoch : Nat) : Nat := secondsSinceEpoch / kSecondsPerDay * kSecondsPerDay

def secondsProducts (secondsSinceEpoch : Nat) (time : CalendarTime) : List Nat :=
  dayProducts (secondsSinceEpoch / kSecondsPerDay) ++
    [time.hour * kSecondsPerHour, time.minute * kSecondsPerMinute]

def CalendarTime.Valid (time : CalendarTime) : Prop :=
  time.date.Valid ∧ time.hour < 24 ∧ time.minute < 60 ∧ time.second < 60

instance (time : CalendarTime) : Decidable time.Valid := inferInstanceAs (Decidable (_ ∧ _ ∧ _ ∧ _))

def Date.Earlier (date later : Date) : Prop :=
  date.year < later.year ∨ date.year = later.year ∧
    (date.month < later.month ∨ date.month = later.month ∧ date.day < later.day)

instance (date later : Date) : Decidable (Date.Earlier date later) := inferInstanceAs (Decidable (_ ∨ _))

def CalendarTime.Earlier (time later : CalendarTime) : Prop :=
  Date.Earlier time.date later.date ∨ time.date = later.date ∧
    (time.hour < later.hour ∨ time.hour = later.hour ∧
      (time.minute < later.minute ∨ time.minute = later.minute ∧ time.second < later.second))

theorem Date.Earlier.trans {a b c : Date} (hab : Date.Earlier a b) (hbc : Date.Earlier b c) : Date.Earlier a c := by
  rw [Date.Earlier] at *
  omega

theorem Date.not_earlier_self (date : Date) : ¬Date.Earlier date date := by
  rw [Date.Earlier]
  omega

theorem CalendarTime.not_earlier_self (time : CalendarTime) : ¬time.Earlier time := by
  rintro (hDate | ⟨-, hTime⟩)
  · exact Date.not_earlier_self _ hDate
  · omega

theorem CalendarTime.Earlier.not_earlier {time later : CalendarTime} (h : time.Earlier later) :
  ¬later.Earlier time := by
  rintro (hDate | ⟨hSame, hTime⟩)
  · rcases h with hBack | ⟨hSame, -⟩
    · exact Date.not_earlier_self _ (hBack.trans hDate)
    · rw [hSame] at hDate
      exact Date.not_earlier_self _ hDate
  · rcases h with hBack | ⟨-, hBack⟩
    · rw [hSame] at hBack
      exact Date.not_earlier_self _ hBack
    · omega

variable {date : Date}

theorem earlier_next (h : date.Valid) : Date.Earlier date date.next := by
  obtain ⟨-, hMonth, -, hDay⟩ := h
  rw [Date.next, Date.Earlier]
  split_ifs with hInside hYear
  · exact .inr ⟨rfl, .inr ⟨rfl, Nat.lt_succ_self _⟩⟩
  · exact .inr ⟨rfl, .inl (Nat.lt_succ_self _)⟩
  · exact .inl (Nat.lt_succ_self _)

theorem earlier_dateAfter {d d' : Nat} (h : d < d') : Date.Earlier (dateAfter d) (dateAfter d') := by
  have hStep : ∀ d, Date.Earlier (dateAfter d) (dateAfter (d + 1)) := by
    intro d
    have hNext := earlier_next (valid_dateAfter d)
    rwa [show (dateAfter d).next = dateAfter (d + 1) by
      rw [Nat.add_comm, ← iterate_dateAfter 1 d, Function.iterate_one]] at hNext
  induction h with
  | refl => exact hStep d
  | step _ ih => exact ih.trans (hStep _)

def timeAfter (seconds : Nat) : CalendarTime :=
  ⟨dateAfter (seconds / 86400), seconds % 86400 / 3600, seconds % 3600 / 60, seconds % 60⟩

/-- The seconds since 1970-01-01, for a time of a year from 1970 on. -/
def CalendarTime.seconds (time : CalendarTime) : Nat :=
  daysSinceEpoch time.date * 86400 + time.hour * 3600 + time.minute * 60 + time.second

theorem seconds_timeAfter (seconds : Nat) : (timeAfter seconds).seconds = seconds := by
  rw [CalendarTime.seconds, timeAfter]
  dsimp only
  rw [daysSinceEpoch_dateAfter]
  omega

theorem valid_timeAfter (seconds : Nat) : (timeAfter seconds).Valid := by
  refine ⟨valid_dateAfter _, ?_, ?_, Nat.mod_lt _ (by decide)⟩
  · change seconds % 86400 / 3600 < 24
    omega
  · change seconds % 3600 / 60 < 60
    omega

theorem timeAfter_seconds {time : CalendarTime} (h : time.Valid) (hYear : 1970 ≤ time.date.year) :
  timeAfter time.seconds = time := by
  obtain ⟨hDate, hHour, hMinute, hSecond⟩ := h
  have hAfter := dateAfter_daysSinceEpoch hDate hYear
  obtain ⟨date, hour, minute, second⟩ := time
  dsimp only at *
  have hDays : (daysSinceEpoch date * 86400 + hour * 3600 + minute * 60 + second) / 86400 = daysSinceEpoch date := by
    omega
  simp only [timeAfter, CalendarTime.seconds, hDays, hAfter, CalendarTime.mk.injEq, true_and]
  omega

theorem earlier_timeAfter {seconds seconds' : Nat} (h : seconds < seconds') :
  (timeAfter seconds).Earlier (timeAfter seconds') := by
  rcases Nat.lt_or_eq_of_le (Nat.div_le_div_right (c := 86400) h.le) with hDay | hDay
  · exact .inl (earlier_dateAfter hDay)
  · refine .inr ⟨congrArg dateAfter hDay, ?_⟩
    change seconds % 86400 / 3600 < seconds' % 86400 / 3600 ∨ seconds % 86400 / 3600 = seconds' % 86400 / 3600 ∧
      (seconds % 3600 / 60 < seconds' % 3600 / 60 ∨ seconds % 3600 / 60 = seconds' % 3600 / 60 ∧
        seconds % 60 < seconds' % 60)
    omega

theorem secondsSinceUnixEpochToCalendarTime64_eq {seconds : Nat} (time : CalendarTime)
  (h : seconds < 2 ^ 32 + kChipEpochSecondsSinceUnixEpoch) :
  secondsSinceUnixEpochToCalendarTime64 seconds time = timeAfter seconds := by
  rw [kChipEpochSecondsSinceUnixEpoch, kChipEpochDaysSinceUnixEpoch, kSecondsPerDay] at h
  have hDays : seconds / 86400 % 2 ^ 32 = seconds / 86400 := by omega
  have hTimeOfDay : (seconds - seconds / 86400 * 86400 % 2 ^ 32) % 2 ^ 32 = seconds % 86400 := by omega
  have hDate : (daysSinceUnixEpochToCalendarDate (seconds / 86400) time.date).2 = dateAfter (seconds / 86400) := by
    rw [daysSinceUnixEpochToCalendarDate_fits (by omega)]
  simp only [secondsSinceUnixEpochToCalendarTime64, kSecondsPerDay, kSecondsPerHour, kSecondsPerMinute, hDays,
    hTimeOfDay, hDate, timeAfter, CalendarTime.mk.injEq, true_and]
  omega

theorem daysSinceEpoch_lt_of_year (year n : Nat) (h : date.Valid) (hYear : 1970 ≤ date.year)
  (hLess : date.year < year) (hStart : start (year - 1) + 306 = n + kEpochOffsetDays) :
  daysSinceEpoch date < n := by
  have hBefore : (Date.next^[date.number] zero).year < year := by rwa [h.iterate_number (by omega)]
  rw [year_iterate_lt (by omega), hStart] at hBefore
  have hEpoch := epoch_le_number h hYear
  rw [daysSinceEpoch]
  omega

theorem daysSinceEpoch_ge_of_year {year : Nat} (n : Nat) (h : date.Valid) (hYear : 1970 ≤ date.year)
  (hPositive : 1 ≤ year) (hMore : year ≤ date.year)
  (hStart : start (year - 1) + 306 = n + kEpochOffsetDays) :
  n ≤ daysSinceEpoch date := by
  have hAfter : ¬(Date.next^[date.number] zero).year < year := by rwa [h.iterate_number (by omega), not_lt]
  rw [year_iterate_lt hPositive, hStart] at hAfter
  rw [daysSinceEpoch]
  omega

/-- Seconds since an epoch and the calendar times up to a year are converted to each other, in order. -/
structure OrderIsomorphism (toTime : Nat → CalendarTime) (toSeconds : CalendarTime → Bool × Nat)
    (first last : Nat) : Prop where
  valid : ∀ t < 2 ^ 32, (toTime t).Valid ∧ first ≤ (toTime t).date.year
  back : ∀ t < 2 ^ 32, (toTime t).date.year ≤ last → toSeconds (toTime t) = (true, t)
  forth : ∀ time : CalendarTime, time.Valid → first ≤ time.date.year → time.date.year ≤ last →
    ∃ t < 2 ^ 32, toSeconds time = (true, t) ∧ toTime t = time
  earlier : ∀ t t', t < t' → t' < 2 ^ 32 → (toTime t).Earlier (toTime t')
  less : ∀ time later : CalendarTime, time.Valid → later.Valid → first ≤ time.date.year →
    later.date.year ≤ last → time.Earlier later → (toSeconds time).2 < (toSeconds later).2

theorem orderIsomorphism_of_epoch {toTime : Nat → CalendarTime} {toSeconds : CalendarTime → Bool × Nat}
  {first last : Nat} (epoch n : Nat) (hFirst : 1970 ≤ first)
  (hEpoch : start (first - 1) + 306 = epoch + kEpochOffsetDays) (hLast : start last + 306 = n + kEpochOffsetDays)
  (hFits : (n - epoch) * 86400 ≤ 2 ^ 32) (hToTime : ∀ t < 2 ^ 32, toTime t = timeAfter (t + epoch * 86400))
  (hToSeconds : ∀ time : CalendarTime, time.Valid → first ≤ time.date.year → time.date.year ≤ last →
    toSeconds time = (true, (time.seconds - epoch * 86400) % 2 ^ 32)) :
  OrderIsomorphism toTime toSeconds first last := by
  have hRange : ∀ time : CalendarTime, time.Valid → first ≤ time.date.year → time.date.year ≤ last →
      epoch * 86400 ≤ time.seconds ∧ time.seconds - epoch * 86400 < 2 ^ 32 := by
    intro time hValid hLow hHigh
    obtain ⟨hDate, hHour, hMinute, hSecond⟩ := hValid
    have hGe := daysSinceEpoch_ge_of_year epoch hDate (by omega) (by omega) hLow hEpoch
    have hLt := daysSinceEpoch_lt_of_year (last + 1) n hDate (by omega) (by omega) hLast
    rw [CalendarTime.seconds]
    omega
  have hFirstYear : ∀ t < 2 ^ 32, first ≤ (toTime t).date.year := by
    intro t ht
    rw [hToTime t ht, ← not_lt]
    change ¬(dateAfter ((t + epoch * 86400) / 86400)).year < first
    rw [dateAfter_eq, year_iterate_lt (by omega), hEpoch]
    omega
  have hBack : ∀ t < 2 ^ 32, (toTime t).date.year ≤ last → toSeconds (toTime t) = (true, t) := by
    intro t ht hHigh
    have hValid : (toTime t).Valid := hToTime t ht ▸ valid_timeAfter _
    rw [hToSeconds _ hValid (hFirstYear t ht) hHigh, hToTime t ht, seconds_timeAfter, Nat.add_sub_cancel,
      Nat.mod_eq_of_lt ht]
  have hForth : ∀ time : CalendarTime, time.Valid → first ≤ time.date.year → time.date.year ≤ last →
      ∃ t < 2 ^ 32, toSeconds time = (true, t) ∧ toTime t = time := by
    intro time hValid hLow hHigh
    obtain ⟨hEpochLe, hLess⟩ := hRange time hValid hLow hHigh
    refine ⟨time.seconds - epoch * 86400, hLess, ?_, ?_⟩
    · rw [hToSeconds time hValid hLow hHigh, Nat.mod_eq_of_lt hLess]
    · rw [hToTime _ hLess, Nat.sub_add_cancel hEpochLe, timeAfter_seconds hValid (by omega)]
  have hEarlier : ∀ t t', t < t' → t' < 2 ^ 32 → (toTime t).Earlier (toTime t') := by
    intro t t' hLess ht'
    rw [hToTime t (hLess.trans ht'), hToTime t' ht']
    exact earlier_timeAfter (Nat.add_lt_add_right hLess _)
  refine ⟨fun t ht => ⟨hToTime t ht ▸ valid_timeAfter _, hFirstYear t ht⟩, hBack, hForth, hEarlier, ?_⟩
  intro time later hValid hValid' hLow hHigh hOrder
  have hYears : time.date.year ≤ later.date.year := by
    rcases hOrder with (hYear | ⟨hYear, -⟩) | ⟨hDate, -⟩
    · exact hYear.le
    · exact hYear.le
    · exact (congrArg Date.year hDate).le
  obtain ⟨t, ht, hSeconds, rfl⟩ := hForth time hValid hLow (hYears.trans hHigh)
  obtain ⟨t', ht', hSeconds', rfl⟩ := hForth later hValid' (hLow.trans hYears) hHigh
  rw [hSeconds, hSeconds']
  by_contra hNot
  rcases Nat.lt_or_eq_of_le (not_lt.mp hNot) with hBackward | hSame
  · exact hOrder.not_earlier (hEarlier _ _ hBackward ht)
  · dsimp only at hSame
    rw [hSame] at hOrder
    exact CalendarTime.not_earlier_self _ hOrder

theorem chipEpoch_orderIsomorphism (time : CalendarTime) (chipEpochTime : Nat) :
  OrderIsomorphism (chipEpochToCalendarTime · time) (calendarToChipEpochTime · chipEpochTime)
    kChipEpochBaseYear kChipEpochMaxYear := by
  refine orderIsomorphism_of_epoch 10957 60630 (by decide) (by decide) (by decide) (by decide)
    (fun t ht => secondsSinceUnixEpochToCalendarTime64_eq time (Nat.add_lt_add_right ht _)) ?_
  intro later hValid hLow hHigh
  have hDate := hValid.1
  have hYear : 1970 ≤ later.date.year := le_trans (by decide) hLow
  have hGe := daysSinceEpoch_ge_of_year 10957 hDate hYear (by decide) hLow (by decide)
  have hLt := daysSinceEpoch_lt_of_year 2136 60630 hDate hYear (Nat.lt_succ_of_le hHigh) (by decide)
  have hDays : (daysSinceEpoch later.date + (2 ^ 32 - 10957)) % 2 ^ 32 = daysSinceEpoch later.date - 10957 := by
    omega
  rw [calendarToChipEpochTime, if_pos ⟨hLow, hHigh⟩,
    calendarDateToDaysSinceUnixEpoch_eq hDate hYear (le_trans hHigh (by decide))]
  simp only [kChipEpochDaysSinceUnixEpoch, kSecondsPerDay, kSecondsPerHour, kSecondsPerMinute, hDays,
    CalendarTime.seconds, Prod.mk.injEq, true_and]
  omega

theorem unixEpoch_orderIsomorphism (time : CalendarTime) :
  OrderIsomorphism (secondsSinceUnixEpochToCalendarTime · time) calendarTimeToSecondsSinceUnixEpoch
    kUnixEpochYear kMaxYearInSecondsSinceUnixEpoch32 := by
  have hToTime : ∀ t < 2 ^ 32, secondsSinceUnixEpochToCalendarTime t time = timeAfter (t + 0 * 86400) := by
    intro t ht
    rw [Nat.zero_mul, Nat.add_zero]
    exact secondsSinceUnixEpochToCalendarTime64_eq time (Nat.lt_add_right _ ht)
  refine orderIsomorphism_of_epoch 0 49673 (by decide) (by decide) (by decide) (by decide) hToTime ?_
  intro later hValid hLow hHigh
  have hRange : ¬(later.date.year < kUnixEpochYear ∨ later.date.year > kMaxYearInSecondsSinceUnixEpoch32) := by
    omega
  rw [calendarTimeToSecondsSinceUnixEpoch, if_neg hRange,
    calendarDateToDaysSinceUnixEpoch_eq hValid.1 hLow (le_trans hHigh (by decide)), Nat.zero_mul, Nat.sub_zero]
  rfl

theorem dateProducts_lt (h : date.Valid) (hYear : date.year ≤ kMaxYearInDaysSinceUnixEpoch32) :
  ∀ p ∈ dateProducts date, p < 2 ^ 32 := by
  obtain ⟨-, hMonth, -, -⟩ := h
  rw [kMaxYearInDaysSinceUnixEpoch32] at hYear
  have hMarchYear : (if date.month ≤ kFebruary then date.year - 1 else date.year) ≤ 28276 := by
    split <;> omega
  have hMarchMonth : (if date.month ≤ kFebruary then date.month + 9 else date.month - 3) < 12 := by
    rw [kFebruary]
    split <;> omega
  simp only [dateProducts, kYearsPerCycle, kDaysPerStandardYear, kDaysPerCycle, List.forall_mem_cons,
    List.not_mem_nil, false_implies, implies_true, and_true]
  omega

theorem dayProducts_lt {days : Nat} (h : days < 2 ^ 20) : ∀ p ∈ dayProducts days, p < 2 ^ 32 := by
  have hMonth : ∀ dayOfYear, marchBasedDayOfYearToMonth dayOfYear < 2 ^ 8 := fun _ => Nat.mod_lt _ (by decide)
  simp only [dayProducts, kEpochOffsetDays, kDaysPerCycle, kDaysPerStandardYear, kLeapYearInterval, kYearsPerCentury,
    kYearsPerCycle, List.forall_mem_cons, List.not_mem_nil, false_implies, implies_true, and_true]
  refine ⟨by omega, by omega, by omega, ?_, by omega⟩
  exact (Nat.mul_lt_mul_of_pos_left (hMonth _) (by decide)).trans (by decide)

theorem secondsProducts_lt {seconds : Nat} (h : seconds < 2 ^ 33) :
  ∀ p ∈ secondsProducts seconds (timeAfter seconds), p < 2 ^ 32 := by
  obtain ⟨-, hHour, hMinute, -⟩ := valid_timeAfter seconds
  rw [secondsProducts, List.forall_mem_append]
  refine ⟨dayProducts_lt (by rw [kSecondsPerDay]; omega), ?_⟩
  simp only [kSecondsPerHour, kSecondsPerMinute, List.forall_mem_cons, List.not_mem_nil, false_implies,
    implies_true, and_true]
  omega

theorem timeProducts_lt {time : CalendarTime} (epoch year n : Nat) (h : time.Valid) (hYear : 1970 ≤ time.date.year)
  (hLess : time.date.year < year) (hMax : year ≤ kMaxYearInDaysSinceUnixEpoch32)
  (hStart : start (year - 1) + 306 = n + kEpochOffsetDays) (hFits : (n - epoch) * 86400 ≤ 2 ^ 32) :
  ∀ p ∈ timeProducts epoch time, p < 2 ^ 32 := by
  obtain ⟨hDate, hHour, hMinute, -⟩ := h
  have hDays := daysSinceEpoch_lt_of_year year n hDate hYear hLess hStart
  rw [timeProducts, List.forall_mem_append, calendarDateToDaysSinceUnixEpoch_eq hDate hYear (by omega)]
  refine ⟨dateProducts_lt hDate (by omega), ?_⟩
  simp only [kSecondsPerDay, kSecondsPerHour, kSecondsPerMinute, List.forall_mem_cons, List.not_mem_nil,
    false_implies, implies_true, and_true]
  omega

/-- Both pairs of conversions are order isomorphisms, and of the products in them only that of the days in
`ChipEpochToCalendarTime` leaves 32 bits, from 2106-02-08 on. -/
theorem epoch_conversions (time : CalendarTime) (chipEpochTime : Nat) :
    (OrderIsomorphism (chipEpochToCalendarTime · time) (calendarToChipEpochTime · chipEpochTime)
      kChipEpochBaseYear kChipEpochMaxYear ∧
    OrderIsomorphism (secondsSinceUnixEpochToCalendarTime · time) calendarTimeToSecondsSinceUnixEpoch
      kUnixEpochYear kMaxYearInSecondsSinceUnixEpoch32) ∧
    (∀ t < 2 ^ 32, (∀ p ∈ secondsProducts (t + kChipEpochSecondsSinceUnixEpoch) (chipEpochToCalendarTime t time),
        p < 2 ^ 32) ∧
      (dayProduct (t + kChipEpochSecondsSinceUnixEpoch) < 2 ^ 32 ↔
        ¬Date.Earlier ⟨2106, 2, 7⟩ (chipEpochToCalendarTime t time).date)) ∧
    (∀ t < 2 ^ 32, (∀ p ∈ secondsProducts t (secondsSinceUnixEpochToCalendarTime t time), p < 2 ^ 32) ∧
      dayProduct t < 2 ^ 32) ∧
    (∀ later : CalendarTime, later.Valid →
      (kChipEpochBaseYear ≤ later.date.year → later.date.year ≤ kChipEpochMaxYear →
        ∀ p ∈ timeProducts kChipEpochDaysSinceUnixEpoch later, p < 2 ^ 32) ∧
      (kUnixEpochYear ≤ later.date.year → later.date.year ≤ kMaxYearInSecondsSinceUnixEpoch32 →
        ∀ p ∈ timeProducts 0 later, p < 2 ^ 32)) := by
  refine ⟨⟨chipEpoch_orderIsomorphism time chipEpochTime, unixEpoch_orderIsomorphism time⟩, ?_, ?_, ?_⟩
  · intro t ht
    have hTime : chipEpochToCalendarTime t time = timeAfter (t + kChipEpochSecondsSinceUnixEpoch) :=
      secondsSinceUnixEpochToCalendarTime64_eq time (Nat.add_lt_add_right ht _)
    have hEpoch : kChipEpochSecondsSinceUnixEpoch < 2 ^ 32 := by decide
    rw [hTime]
    refine ⟨secondsProducts_lt (by omega), ?_⟩
    have hNumber : daysSinceEpoch ⟨2106, 2, 7⟩ = 49710 := by decide
    have hLast : dateAfter 49710 = ⟨2106, 2, 7⟩ := by
      rw [← hNumber]
      exact dateAfter_daysSinceEpoch (by decide) (by decide)
    rw [dayProduct, kSecondsPerDay, ← hLast]
    change _ ↔ ¬Date.Earlier _ (dateAfter ((t + kChipEpochSecondsSinceUnixEpoch) / 86400))
    generalize (t + kChipEpochSecondsSinceUnixEpoch) / 86400 = days
    rcases Nat.lt_trichotomy 49710 days with hLater | rfl | hBefore
    · exact iff_of_false (by omega) (not_not.mpr (earlier_dateAfter hLater))
    · exact iff_of_true (by omega) (Date.not_earlier_self _)
    · refine iff_of_true (by omega) fun hEarlier => ?_
      exact Date.not_earlier_self _ (hEarlier.trans (earlier_dateAfter hBefore))
  · intro t ht
    have hTime : secondsSinceUnixEpochToCalendarTime t time = timeAfter t :=
      secondsSinceUnixEpochToCalendarTime64_eq time (Nat.lt_add_right _ ht)
    rw [hTime, dayProduct, kSecondsPerDay]
    exact ⟨secondsProducts_lt (by omega), by omega⟩
  · intro later hValid
    refine ⟨fun hLow hHigh => ?_, fun hLow hHigh => ?_⟩
    · exact timeProducts_lt 10957 2136 60630 hValid (le_trans (by decide) hLow) (Nat.lt_succ_of_le hHigh) (by decide)
        (by decide) (by decide)
    · exact timeProducts_lt 0 2106 49673 hValid hLow (Nat.lt_succ_of_le hHigh) (by decide) (by decide) (by decide)

/-- A leap day, converted to seconds since 2000-01-01 and back. -/
theorem epoch_conversions_in_2024 : calendarToChipEpochTime ⟨⟨2024, 2, 29⟩, 12, 30, 15⟩ 0 = (true, 762525015) ∧
    chipEpochToCalendarTime 762525015 ⟨⟨0, 0, 0⟩, 0, 0, 0⟩ = ⟨⟨2024, 2, 29⟩, 12, 30, 15⟩ ∧
    dayProduct (762525015 + kChipEpochSecondsSinceUnixEpoch) < 2 ^ 32 := by
  obtain ⟨⟨hChip, -⟩, hProducts, -, -⟩ := epoch_conversions ⟨⟨0, 0, 0⟩, 0, 0, 0⟩ 0
  obtain ⟨t, ht, hSeconds, hTime⟩ :=
    hChip.forth ⟨⟨2024, 2, 29⟩, 12, 30, 15⟩ (by decide) (by decide) (by decide)
  have hResult : calendarToChipEpochTime ⟨⟨2024, 2, 29⟩, 12, 30, 15⟩ 0 = (true, 762525015) := by decide
  have hNumber : t = 762525015 := by
    rw [show calendarToChipEpochTime ⟨⟨2024, 2, 29⟩, 12, 30, 15⟩ 0 = _ from hSeconds] at hResult
    exact (Prod.mk.inj hResult).2
  subst hNumber
  refine ⟨hResult, hTime, (hProducts _ ht).2.mpr ?_⟩
  rw [show chipEpochToCalendarTime 762525015 ⟨⟨0, 0, 0⟩, 0, 0, 0⟩ = _ from hTime]
  decide

/-- On the last day of 2135 the product is more than 32 bits can hold. -/
theorem dayProduct_wraps : (4291660800 : Nat) < 2 ^ 32 ∧
    chipEpochToCalendarTime 4291660800 ⟨⟨0, 0, 0⟩, 0, 0, 0⟩ = ⟨⟨2135, 12, 31⟩, 0, 0, 0⟩ ∧
    ¬dayProduct (4291660800 + kChipEpochSecondsSinceUnixEpoch) < 2 ^ 32 := by
  decide

end Chip.TimeUtils
