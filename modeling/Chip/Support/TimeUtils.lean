import Chip.Data.Gregorian
import Mathlib

/-! The conversions between calendar dates and days since 1970-01-01 (`TimeUtils.cpp`). -/
namespace Chip.TimeUtils

open Gregorian Date Gregorian

def kDaysPerStandardYear : Nat := 365

def kLeapYearInterval : Nat := 4

def kYearsPerCentury : Nat := 100

def kYearsPerCycle : Nat := 400

def kDaysPerCycle : Nat := 146097

def kEpochOffsetDays : Nat := 719468

def kFebruary : Nat := 2

def kUnixEpochYear : Nat := 1970

def kMaxYearInDaysSinceUnixEpoch32 : Nat := 28276

def marchBasedMonthToDayOfYear (month : Nat) : Nat := (153 * month + 2) / 5 % 2 ^ 16

def marchBasedDayOfYearToMonth (dayOfYear : Nat) : Nat := (5 * dayOfYear + 2) / 153 % 2 ^ 8

/-- A year out of range gives false and `UINT32_MAX`. The day of the month is not tested, and may be
zero. -/
def calendarDateToDaysSinceUnixEpoch (date : Date) : Bool × Nat :=
  if date.year < kUnixEpochYear ∨ date.year > kMaxYearInDaysSinceUnixEpoch32 then (false, 2 ^ 32 - 1)
  else
    let year := if date.month ≤ kFebruary then date.year - 1 else date.year
    let month := if date.month ≤ kFebruary then (date.month + 9) % 2 ^ 8 else date.month - 3
    let dayOfYear := (marchBasedMonthToDayOfYear month + date.day + (2 ^ 16 - 1)) % 2 ^ 16
    let cycle := year / kYearsPerCycle
    let yearOfCycle := year - cycle * kYearsPerCycle
    let dayOfCycle := yearOfCycle * kDaysPerStandardYear + dayOfYear - yearOfCycle / kYearsPerCentury +
      yearOfCycle / kLeapYearInterval
    let daysSinceCalendarStart := cycle * kDaysPerCycle + dayOfCycle
    (true, (daysSinceCalendarStart + (2 ^ 32 - kEpochOffsetDays)) % 2 ^ 32)

def daysSinceUnixEpochToCalendarDate (daysSinceEpoch : Nat) (date : Date) : Bool × Date :=
  if daysSinceEpoch / kDaysPerStandardYear + 1 > 2 ^ 16 - 1 then (false, date)
  else
    let daysSinceEpoch := (daysSinceEpoch + kEpochOffsetDays) % 2 ^ 32
    let cycle := daysSinceEpoch / kDaysPerCycle
    let dayOfCycle := daysSinceEpoch - cycle * kDaysPerCycle
    let yearOfCycle := (dayOfCycle - dayOfCycle / 1460 + dayOfCycle / 36524 - dayOfCycle / 146096) /
      kDaysPerStandardYear % 2 ^ 16
    let dayOfYear := (dayOfCycle - (yearOfCycle * kDaysPerStandardYear +
      yearOfCycle / kLeapYearInterval - yearOfCycle / kYearsPerCentury)) % 2 ^ 16
    let month := marchBasedDayOfYearToMonth dayOfYear
    let daysFromMarch1ToStartOfMonth := marchBasedMonthToDayOfYear month
    let dayOfMonth := (dayOfYear - daysFromMarch1ToStartOfMonth + 1) % 2 ^ 8
    let month := (if month < 10 then month + 3 else month - 9) % 2 ^ 8
    let year := (yearOfCycle + cycle * kYearsPerCycle) % 2 ^ 16
    let year := if month ≤ kFebruary then (year + 1) % 2 ^ 16 else year
    (true, ⟨year, month, dayOfMonth⟩)

def adjustCalendarDate (date : Date) (relativeDays : Int) : Bool × Date :=
  match calendarDateToDaysSinceUnixEpoch date with
  | (false, _) => (false, date)
  | (true, daysSinceEpoch) =>
    let adjustedDays : Int := daysSinceEpoch + relativeDays
    if 0 ≤ adjustedDays ∧ adjustedDays < 2 ^ 32 then
      daysSinceUnixEpochToCalendarDate adjustedDays.toNat date
    else (false, date)

def cycleStart (year : Nat) : Nat := 365 * year + year / 4 - year / 100

/-- What is divided by the days of a year to find the year of a day of a cycle. -/
def withoutLeapDays (day : Nat) : Nat := day - day / 1460 + day / 36524 - day / 146096

theorem withoutLeapDays_mono : Monotone withoutLeapDays := by
  refine monotone_nat_of_le_succ fun day => ?_
  rw [withoutLeapDays, withoutLeapDays]
  omega

theorem withoutLeapDays_year : ∀ year < 400, withoutLeapDays (cycleStart year) / 365 = year ∧
  withoutLeapDays (cycleStart year + (length year - 1)) / 365 = year := by
  decide +kernel

variable {cycle year day d : Nat} {date : Date}

theorem start_cycle (h : year < 400) :
  start (400 * cycle + year) = 146097 * cycle + cycleStart year := by
  rw [start, cycleStart]
  omega

theorem length_cycle (cycle year : Nat) :
  length (400 * cycle + year) = length year := by
  have hLeap : Leap (400 * cycle + year + 1) ↔ Leap (year + 1) := by
    rw [Leap, Leap]
    omega
  rw [length, length, if_congr hLeap rfl rfl]

theorem cycleStart_add_lt (hYear : year < 400) (hDay : day < length year) :
  cycleStart year + day < 146097 := by
  have hLength := length_le year
  rw [cycleStart]
  omega

theorem yearOfCycle_eq (hYear : year < 400) (hDay : day < length year) :
  withoutLeapDays (cycleStart year + day) / 365 = year := by
  obtain ⟨hFirst, hLast⟩ := withoutLeapDays_year year hYear
  have hAfter : withoutLeapDays (cycleStart year) ≤ withoutLeapDays (cycleStart year + day) :=
    withoutLeapDays_mono (Nat.le_add_right _ _)
  have hBefore : withoutLeapDays (cycleStart year + day) ≤
      withoutLeapDays (cycleStart year + (length year - 1)) :=
    withoutLeapDays_mono (by omega)
  exact le_antisymm ((Nat.div_le_div_right hBefore).trans_eq hLast)
    (hFirst.symm.trans_le (Nat.div_le_div_right hAfter))

def dateAfter (d : Nat) : Date := Date.next^[d] ⟨1970, 1, 1⟩

theorem dateAfter_eq (d : Nat) : dateAfter d = next^[d + kEpochOffsetDays] zero := by
  have hEpoch : next^[kEpochOffsetDays] zero = ⟨1970, 1, 1⟩ :=
    (show (⟨1970, 1, 1⟩ : Date).Valid by decide).iterate_number (by decide)
  rw [Function.iterate_add_apply, hEpoch, dateAfter]

theorem year_dateAfter_lt : (dateAfter d).year < 2 ^ 16 ↔ d < 23217004 := by
  rw [dateAfter_eq, year_iterate_lt (by decide)]
  have hStart : start (2 ^ 16 - 1) + 306 = 23217004 + kEpochOffsetDays := by decide
  rw [hStart, Nat.add_lt_add_iff_right]

theorem daysSinceUnixEpochToCalendarDate_eq (h : d < 23920275) :
  daysSinceUnixEpochToCalendarDate d date =
    (true, { dateAfter d with year := (dateAfter d).year % 2 ^ 16 }) := by
  obtain ⟨marchYear, day, hDay, hNumber, hDate⟩ := iterate_next_zero (d + kEpochOffsetDays)
  obtain ⟨cycle, year, hYear, rfl⟩ : ∃ cycle year, year < 400 ∧ marchYear = 400 * cycle + year :=
    ⟨marchYear / 400, marchYear % 400, Nat.mod_lt _ (by decide), (Nat.div_add_mod marchYear 400).symm⟩
  rw [length_cycle] at hDay
  rw [start_cycle hYear] at hNumber
  have hInside := cycleStart_add_lt hYear hDay
  have hLength := length_le year
  obtain ⟨hMonth, hMonthStart⟩ := monthOf_bounds day (by omega)
  have hWrap : (d + 719468) % 2 ^ 32 = 146097 * cycle + cycleStart year + day := by
    rw [hNumber, kEpochOffsetDays]
    omega
  have hCycle : (146097 * cycle + cycleStart year + day) / 146097 = cycle := by omega
  have hDayOfCycle : 146097 * cycle + cycleStart year + day - cycle * 146097 = cycleStart year + day := by
    omega
  have hYearOfCycle : (cycleStart year + day - (cycleStart year + day) / 1460 +
      (cycleStart year + day) / 36524 - (cycleStart year + day) / 146096) / 365 % 2 ^ 16 = year := by
    rw [← withoutLeapDays, yearOfCycle_eq hYear hDay]
    omega
  have hDayOfYear : (cycleStart year + day - (year * 365 + year / 4 - year / 100)) % 2 ^ 16 = day := by
    rw [cycleStart]
    omega
  have hMonthOf : marchBasedDayOfYearToMonth day = monthOf day := by
    rw [marchBasedDayOfYearToMonth, ← monthOf]
    omega
  have hMonthStartOf : marchBasedMonthToDayOfYear (monthOf day) = monthStart (monthOf day) := by
    rw [marchBasedMonthToDayOfYear, ← monthStart]
    omega
  have hGuard : ¬d / 365 + 1 > 2 ^ 16 - 1 := by omega
  simp only [daysSinceUnixEpochToCalendarDate, kDaysPerStandardYear, kEpochOffsetDays, kDaysPerCycle,
    kLeapYearInterval, kYearsPerCentury, kYearsPerCycle, kFebruary, if_neg hGuard, hWrap, hCycle, hDayOfCycle,
    hYearOfCycle, hDayOfYear, hMonthOf, hMonthStartOf]
  rw [dateAfter_eq, hDate]
  simp only [ofMarch, Prod.mk.injEq, mk.injEq, true_and]
  have hCalendar : (if monthOf day < 10 then monthOf day + 3 else monthOf day - 9) % 2 ^ 8 =
      (monthOf day + 2) % 12 + 1 := by
    split <;> omega
  refine ⟨?_, hCalendar, ?_⟩
  · rw [hCalendar]
    by_cases hEarly : monthOf day < 10
    · rw [if_neg (by omega), if_pos hEarly, Nat.mul_comm, Nat.add_comm]
    · rw [if_pos (by omega), if_neg hEarly]
      omega
  · refine Nat.mod_eq_of_lt ?_
    rw [monthOf, monthStart] at *
    omega

theorem daysSinceUnixEpochToCalendarDate_fst (d : Nat) (date : Date) :
  (daysSinceUnixEpochToCalendarDate d date).1 = true ↔ d < 23920275 := by
  constructor
  · intro hTrue
    by_contra hLarge
    rw [daysSinceUnixEpochToCalendarDate, if_pos (by rw [kDaysPerStandardYear]; omega)] at hTrue
    cases hTrue
  · intro hSmall
    rw [daysSinceUnixEpochToCalendarDate_eq hSmall]

theorem daysSinceUnixEpochToCalendarDate_false (h : 23920275 ≤ d) :
  daysSinceUnixEpochToCalendarDate d date = (false, date) := by
  rw [daysSinceUnixEpochToCalendarDate, if_pos (by rw [kDaysPerStandardYear]; omega)]

def YearCut (d : Int) : Prop := 23217004 ≤ d ∧ d < 23920275

instance (d : Int) : Decidable (YearCut d) := inferInstanceAs (Decidable (_ ∧ _))

/-- The days since the epoch, for a date of a year from 1970 on. -/
def daysSinceEpoch (date : Date) : Nat := date.number - kEpochOffsetDays

section

variable (h : date.Valid) (hYear : 1970 ≤ date.year)
include h hYear

theorem epoch_le_number : kEpochOffsetDays ≤ date.number := by
  by_contra hLess
  have hBefore : (next^[date.number] zero).year < 1970 := by
    refine (year_iterate_lt (by decide)).mpr ?_
    have hStart : start (1970 - 1) + 306 = kEpochOffsetDays := by decide
    omega
  rw [h.iterate_number (by omega)] at hBefore
  omega

theorem dateAfter_daysSinceEpoch : dateAfter (daysSinceEpoch date) = date := by
  rw [dateAfter_eq, daysSinceEpoch, Nat.sub_add_cancel (epoch_le_number h hYear),
    h.iterate_number (by omega)]

theorem daysSinceEpoch_lt (hMax : date.year ≤ kMaxYearInDaysSinceUnixEpoch32) :
  daysSinceEpoch date < 9608435 := by
  have hBefore : (next^[date.number] zero).year < 28277 := by
    rw [h.iterate_number (by omega)]
    exact Nat.lt_succ_of_le hMax
  rw [year_iterate_lt (by decide)] at hBefore
  have hStart : start (28277 - 1) + 306 = 9608435 + kEpochOffsetDays := by decide
  rw [daysSinceEpoch]
  have := epoch_le_number h hYear
  omega

theorem calendarDateToDaysSinceUnixEpoch_eq (hMax : date.year ≤ kMaxYearInDaysSinceUnixEpoch32) :
  calendarDateToDaysSinceUnixEpoch date = (true, daysSinceEpoch date) := by
  have hEpoch := epoch_le_number h hYear
  have hDays := daysSinceEpoch_lt h hYear hMax
  obtain ⟨hDay, -⟩ := h.marchDay_lt (by omega)
  have hLength := length_le date.marchYear
  obtain ⟨hMonth, hTwelve, hOne, hLast⟩ := h
  have hRange : ¬(date.year < kUnixEpochYear ∨ date.year > kMaxYearInDaysSinceUnixEpoch32) := by
    rw [kUnixEpochYear]
    omega
  have hMarchYear : (if date.month ≤ kFebruary then date.year - 1 else date.year) = date.marchYear := rfl
  have hMarchMonth : (if date.month ≤ kFebruary then (date.month + 9) % 2 ^ 8 else date.month - 3) =
      (date.month + 9) % 12 := by
    rw [kFebruary]
    split <;> omega
  have hDayOfYear : (marchBasedMonthToDayOfYear ((date.month + 9) % 12) + date.day + (2 ^ 16 - 1)) % 2 ^ 16 =
      date.marchDay := by
    rw [marchDay] at hDay ⊢
    rw [marchBasedMonthToDayOfYear, ← monthStart]
    omega
  simp only [calendarDateToDaysSinceUnixEpoch, if_neg hRange, hMarchYear, hMarchMonth, hDayOfYear,
    kYearsPerCycle, kDaysPerStandardYear, kYearsPerCentury, kLeapYearInterval, kDaysPerCycle]
  rw [daysSinceEpoch] at hDays ⊢
  rw [number] at hEpoch hDays ⊢
  generalize date.marchYear = year at *
  generalize date.marchDay = day at *
  obtain ⟨cycle, yearOfCycle, hYearOfCycle, rfl⟩ :
      ∃ cycle yearOfCycle, yearOfCycle < 400 ∧ year = 400 * cycle + yearOfCycle :=
    ⟨year / 400, year % 400, Nat.mod_lt _ (by decide), (Nat.div_add_mod year 400).symm⟩
  have hCycle : (400 * cycle + yearOfCycle) / 400 = cycle := by omega
  have hOfCycle : 400 * cycle + yearOfCycle - cycle * 400 = yearOfCycle := by omega
  rw [start_cycle hYearOfCycle, cycleStart, kEpochOffsetDays] at *
  rw [hCycle, hOfCycle, Prod.mk.injEq]
  refine ⟨rfl, ?_⟩
  omega

end

theorem valid_dateAfter (d : Nat) : (dateAfter d).Valid := by
  rw [dateAfter_eq]
  exact valid_iterate _

theorem iterate_dateAfter (k d : Nat) : next^[k] (dateAfter d) = dateAfter (k + d) := by
  rw [dateAfter, dateAfter, Function.iterate_add_apply]

theorem year_dateAfter_ge (d : Nat) : 1970 ≤ (dateAfter d).year := by
  rw [← not_lt, dateAfter_eq, year_iterate_lt (by decide)]
  have hStart : start (1970 - 1) + 306 = kEpochOffsetDays := by decide
  omega

theorem daysSinceEpoch_dateAfter (d : Nat) : daysSinceEpoch (dateAfter d) = d := by
  rw [daysSinceEpoch, dateAfter_eq, number_iterate, Nat.add_sub_cancel]

/-- The conversion tells the days whose year fits, and is right about them. -/
def ConversionExact (d : Nat) (prior : Date) : Prop :=
  ((daysSinceUnixEpochToCalendarDate d prior).1 = true ↔ (dateAfter d).year < 2 ^ 16) ∧
    ((daysSinceUnixEpochToCalendarDate d prior).1 = true →
      (daysSinceUnixEpochToCalendarDate d prior).2 = dateAfter d)

/-- The conversion to days is the inverse of the conversion to dates. -/
def ConvertsBack (date : Date) : Prop :=
  ∃ d < 2 ^ 32, calendarDateToDaysSinceUnixEpoch date = (true, d) ∧ dateAfter d = date ∧
    ∀ prior, daysSinceUnixEpochToCalendarDate d prior = (true, date)

/-- The date that is so many days after this one, or before it. -/
def DaysLater (date : Date) (k : Int) (later : Date) : Prop :=
  later.Valid ∧
    if 0 ≤ k then Date.next^[k.toNat] date = later else Date.next^[(-k).toNat] later = date

def AdjustmentExact (date : Date) (k : Int) : Prop :=
  ((adjustCalendarDate date k).1 = true ∧ DaysLater date k (adjustCalendarDate date k).2) ∨
    adjustCalendarDate date k = (false, date)

theorem conversionExact_iff (d : Nat) (prior : Date) : ConversionExact d prior ↔ ¬YearCut d := by
  rw [ConversionExact, daysSinceUnixEpochToCalendarDate_fst, year_dateAfter_lt, YearCut]
  constructor
  · intro h
    omega
  · intro hNotCut
    refine ⟨by omega, fun hConverted => ?_⟩
    have hFits : d < 23217004 := by omega
    rw [daysSinceUnixEpochToCalendarDate_eq hConverted,
      Nat.mod_eq_of_lt (year_dateAfter_lt.mpr hFits)]

theorem daysSinceUnixEpochToCalendarDate_fits (h : d < 23217004) :
  daysSinceUnixEpochToCalendarDate d date = (true, dateAfter d) := by
  rw [daysSinceUnixEpochToCalendarDate_eq (by omega), Nat.mod_eq_of_lt (year_dateAfter_lt.mpr h)]

theorem convertsBack (h : date.Valid) (hYear : 1970 ≤ date.year)
  (hMax : date.year ≤ kMaxYearInDaysSinceUnixEpoch32) : ConvertsBack date := by
  have hDays := daysSinceEpoch_lt h hYear hMax
  have hAfter := dateAfter_daysSinceEpoch h hYear
  refine ⟨daysSinceEpoch date, by omega, calendarDateToDaysSinceUnixEpoch_eq h hYear hMax, hAfter,
    fun prior => ?_⟩
  rw [daysSinceUnixEpochToCalendarDate_fits (by omega), hAfter]

theorem daysLater_dateAfter {n : Nat} {k : Int} (h : (n : Int) + k = d) :
  DaysLater (dateAfter n) k (dateAfter d) := by
  refine ⟨valid_dateAfter d, ?_⟩
  split
  · rw [iterate_dateAfter]
    congr 1
    omega
  · rw [iterate_dateAfter]
    congr 1
    omega

theorem adjustCalendarDate_eq (h : date.Valid) (hYear : 1970 ≤ date.year)
  (hMax : date.year ≤ kMaxYearInDaysSinceUnixEpoch32) (k : Int) :
  adjustCalendarDate date k =
    if 0 ≤ daysSinceEpoch date + k ∧ daysSinceEpoch date + k < 2 ^ 32 then
      daysSinceUnixEpochToCalendarDate (daysSinceEpoch date + k).toNat date
    else (false, date) := by
  rw [adjustCalendarDate, calendarDateToDaysSinceUnixEpoch_eq h hYear hMax]

theorem adjustmentExact_iff (h : date.Valid) (k : Int) : AdjustmentExact date k ↔
  ¬(1970 ≤ date.year ∧ date.year ≤ kMaxYearInDaysSinceUnixEpoch32 ∧ YearCut (daysSinceEpoch date + k)) := by
  by_cases hRange : 1970 ≤ date.year ∧ date.year ≤ kMaxYearInDaysSinceUnixEpoch32
  case neg =>
    have hRefused : adjustCalendarDate date k = (false, date) := by
      rw [adjustCalendarDate, calendarDateToDaysSinceUnixEpoch, if_pos (by rw [kUnixEpochYear]; omega)]
    exact iff_of_true (.inr hRefused) fun hAll => hRange ⟨hAll.1, hAll.2.1⟩
  case pos =>
    obtain ⟨hYear, hMax⟩ := hRange
    have hDays := daysSinceEpoch_lt h hYear hMax
    have hAfter := dateAfter_daysSinceEpoch h hYear
    rw [AdjustmentExact, adjustCalendarDate_eq h hYear hMax]
    by_cases hCast : 0 ≤ daysSinceEpoch date + k ∧ daysSinceEpoch date + k < 2 ^ 32
    case neg =>
      rw [if_neg hCast]
      refine iff_of_true (.inr rfl) fun hAll => hCast ?_
      obtain ⟨-, -, hLow, hHigh⟩ := hAll
      omega
    case pos =>
      obtain ⟨d, hd⟩ := Int.eq_ofNat_of_zero_le hCast.1
      rw [if_pos hCast, hd, Int.toNat_natCast]
      rcases Nat.lt_or_ge d 23217004 with hFits | hCut
      · rw [daysSinceUnixEpochToCalendarDate_fits hFits]
        refine iff_of_true (.inl ⟨rfl, hAfter ▸ daysLater_dateAfter hd⟩) fun hAll => ?_
        obtain ⟨-, -, hLow, -⟩ := hAll
        omega
      · rcases Nat.lt_or_ge d 23920275 with hWindow | hLarge
        · refine iff_of_false ?_ fun hNot => hNot ⟨hYear, hMax, by omega, by omega⟩
          rw [daysSinceUnixEpochToCalendarDate_eq hWindow]
          rintro (⟨-, -, hLater⟩ | hFalse)
          · rw [if_pos (by omega), ← hAfter, iterate_dateAfter] at hLater
            have hYearOf := congrArg year hLater
            have hSame : k.toNat + daysSinceEpoch date = d := by omega
            rw [hSame] at hYearOf
            have hSmall : (dateAfter d).year < 2 ^ 16 := hYearOf.trans_lt (Nat.mod_lt _ (by decide))
            exact absurd (year_dateAfter_lt.mp hSmall) (Nat.not_lt.mpr hCut)
          · cases hFalse
        · rw [daysSinceUnixEpochToCalendarDate_false hLarge]
          refine iff_of_true (.inr rfl) fun hAll => ?_
          obtain ⟨-, -, -, hHigh⟩ := hAll
          omega

/-- The conversions are exact but for the days from the start of the year 65536 to the last one that
makes less than 65535 years of 365 days. -/
theorem conversions_exact_iff (d : Nat) (date prior : Date) (k : Int) :
    (ConversionExact d prior ↔ ¬YearCut d) ∧
    (date.Valid → 1970 ≤ date.year → date.year ≤ kMaxYearInDaysSinceUnixEpoch32 → ConvertsBack date) ∧
    ((dateAfter d).year ≤ kMaxYearInDaysSinceUnixEpoch32 →
      calendarDateToDaysSinceUnixEpoch (dateAfter d) = (true, d)) ∧
    (date.Valid → (AdjustmentExact date k ↔ ¬(1970 ≤ date.year ∧
      date.year ≤ kMaxYearInDaysSinceUnixEpoch32 ∧ YearCut (daysSinceEpoch date + k)))) := by
  refine ⟨conversionExact_iff d prior, convertsBack, fun hMax => ?_, fun h => adjustmentExact_iff h k⟩
  have hDate := calendarDateToDaysSinceUnixEpoch_eq (valid_dateAfter d) (year_dateAfter_ge d) hMax
  rwa [daysSinceEpoch_dateAfter] at hDate

theorem conversions_exact_in_2024 : ConversionExact 19782 ⟨0, 0, 0⟩ ∧ ConvertsBack ⟨2024, 2, 28⟩ ∧
    AdjustmentExact ⟨2024, 2, 28⟩ (-60) := by
  obtain ⟨hConversion, hBack, -, hAdjustment⟩ :=
    conversions_exact_iff 19782 ⟨2024, 2, 28⟩ ⟨0, 0, 0⟩ (-60)
  exact ⟨hConversion.mpr (by decide), hBack (by decide) (by decide) (by decide),
    (hAdjustment (by decide)).mpr (by decide)⟩

/-- The first day of the year 65536 is converted to the first day of the year zero. -/
theorem year_65536_is_cut : ¬ConversionExact 23217004 ⟨0, 0, 0⟩ := by
  have hConverted : daysSinceUnixEpochToCalendarDate 23217004 ⟨0, 0, 0⟩ = (true, ⟨0, 1, 1⟩) := by decide
  rintro ⟨hFits, -⟩
  have hYear := hFits.mp (congrArg Prod.fst hConverted)
  exact absurd (year_dateAfter_lt.mp hYear) (lt_irrefl _)

end Chip.TimeUtils
