import Mathlib.Logic.Function.Iterate
import Mathlib.Tactic.IntervalCases

/-! The Gregorian calendar, day by day. Years that begin on the first of March end with the leap
day, if they have one, and so the month and the day follow from the day of such a year alone. -/
namespace Gregorian

structure Date where
  year : Nat
  month : Nat
  day : Nat
deriving DecidableEq

def Leap (year : Nat) : Prop := 4 ∣ year ∧ (¬100 ∣ year ∨ 400 ∣ year)

instance (year : Nat) : Decidable (Leap year) := inferInstanceAs (Decidable (_ ∧ _))

def monthLength (year month : Nat) : Nat :=
  if month = 2 then if Leap year then 29 else 28
  else if month = 4 ∨ month = 6 ∨ month = 9 ∨ month = 11 then 30 else 31

namespace Date

def Valid (date : Date) : Prop :=
  1 ≤ date.month ∧ date.month ≤ 12 ∧ 1 ≤ date.day ∧ date.day ≤ monthLength date.year date.month

instance (date : Date) : Decidable date.Valid := inferInstanceAs (Decidable (_ ∧ _ ∧ _ ∧ _))

def next (date : Date) : Date :=
  if date.day < monthLength date.year date.month then { date with day := date.day + 1 }
  else if date.month < 12 then ⟨date.year, date.month + 1, 1⟩
  else ⟨date.year + 1, 1, 1⟩

end Date

/-- The days from the start of the year zero to the start of this year. -/
def start (year : Nat) : Nat := 365 * year + year / 4 - year / 100 + year / 400

/-- The leap day of the next year is the last day of this one. -/
def length (year : Nat) : Nat := if Leap (year + 1) then 366 else 365

def monthOf (day : Nat) : Nat := (5 * day + 2) / 153

def monthStart (month : Nat) : Nat := (153 * month + 2) / 5

/-- The date of a day of a year. The last two months are the first ones of the next year. -/
def ofMarch (year day : Nat) : Date where
  year := if monthOf day < 10 then year else year + 1
  month := (monthOf day + 2) % 12 + 1
  day := day - monthStart (monthOf day) + 1

variable {year year' day day' n : Nat}

theorem start_succ (year : Nat) : start (year + 1) = start year + length year := by
  rw [start, start, length]
  split
  case isTrue h =>
    obtain ⟨hFour, hHundred⟩ := h
    omega
  case isFalse h =>
    rw [Leap] at h
    omega

theorem length_le (year : Nat) : length year ≤ 366 := by
  rw [length]
  split <;> decide

theorem length_ge (year : Nat) : 365 ≤ length year := by
  rw [length]
  split <;> decide

theorem start_add_le (hLess : year < year') : start year + length year ≤ start year' := by
  induction hLess with
  | refl => exact (start_succ year).ge
  | step _ ih =>
    rw [start_succ]
    exact ih.trans (Nat.le_add_right _ _)

theorem march_unique (h : day < length year) (h' : day' < length year')
  (hSame : start year + day = start year' + day') : year = year' ∧ day = day' := by
  rcases Nat.lt_trichotomy year year' with hLess | rfl | hGreater
  · have := start_add_le hLess
    omega
  · exact ⟨rfl, Nat.add_left_cancel hSame⟩
  · have := start_add_le hGreater
    omega

theorem monthLength_of_ne {month : Nat} (h : month ≠ 2) : monthLength year month = monthLength 0 month := by
  rw [monthLength, monthLength, if_neg h, if_neg h]

theorem monthLength_february (year : Nat) : monthLength (year + 1) 2 = length year - 337 := by
  rw [monthLength, length, if_pos rfl]
  split <;> rfl

theorem monthOf_succ : ∀ day < 365,
  (monthOf (day + 1) = monthOf day ∧ monthStart (monthOf day) ≤ day ∧ (monthOf day < 11 →
    day + 1 - monthStart (monthOf day) < monthLength 0 ((monthOf day + 2) % 12 + 1))) ∨
  (monthOf (day + 1) = monthOf day + 1 ∧ day + 1 = monthStart (monthOf day + 1) ∧
    day + 1 - monthStart (monthOf day) = monthLength 0 ((monthOf day + 2) % 12 + 1)) := by
  decide +kernel

theorem monthOf_bounds : ∀ day < 366, monthOf day ≤ 11 ∧ monthStart (monthOf day) ≤ day := by
  decide +kernel

theorem next_inside (h : day + 1 < length year) : (ofMarch year day).next = ofMarch year (day + 1) := by
  have hDay : day < 365 := by have := length_le year; omega
  obtain ⟨hMonth, hStart⟩ := monthOf_bounds day (by omega)
  obtain ⟨hNext, hNextStart⟩ := monthOf_bounds (day + 1) (by omega)
  rcases monthOf_succ day hDay with ⟨hSame, -, hFits⟩ | ⟨hOther, hFirst, hLast⟩
  · have hLess : (ofMarch year day).day < monthLength (ofMarch year day).year (ofMarch year day).month := by
      dsimp only [ofMarch]
      rcases Nat.lt_or_eq_of_le hMonth with hEarly | hFebruary
      · have hCommon := hFits hEarly
        rw [monthLength_of_ne (by omega)]
        omega
      · rw [hFebruary, if_neg (by decide)]
        have hLength : monthLength (year + 1) ((11 + 2) % 12 + 1) = length year - 337 :=
          monthLength_february year
        have hMarch : monthStart 11 = 337 := rfl
        rw [hFebruary] at hStart
        rw [hLength]
        omega
    rw [Date.next, if_pos hLess]
    simp only [ofMarch, hSame, Date.mk.injEq, true_and]
    omega
  · have hFull : ¬(ofMarch year day).day < monthLength (ofMarch year day).year (ofMarch year day).month := by
      dsimp only [ofMarch]
      rw [monthLength_of_ne (by omega)]
      omega
    have hZero : day + 1 - monthStart (monthOf day + 1) = 0 := by omega
    have hMonthOf : (ofMarch year day).month = (monthOf day + 2) % 12 + 1 := rfl
    have hYearOf : (ofMarch year day).year = if monthOf day < 10 then year else year + 1 := rfl
    rw [Date.next, if_neg hFull, hMonthOf, hYearOf]
    rcases Nat.lt_trichotomy (monthOf day) 9 with hBefore | hDecember | hAfter
    · rw [if_pos (by omega), if_pos (by omega)]
      simp only [ofMarch, hOther, hZero, Date.mk.injEq]
      rw [if_pos (by omega)]
      exact ⟨rfl, by omega, trivial⟩
    · rw [if_neg (by omega), if_pos (by omega)]
      simp only [ofMarch, hOther, hZero, Date.mk.injEq]
      rw [if_neg (by omega), hDecember]
      exact ⟨rfl, rfl, trivial⟩
    · rw [if_pos (by omega), if_neg (by omega)]
      simp only [ofMarch, hOther, hZero, Date.mk.injEq]
      rw [if_neg (by omega)]
      exact ⟨rfl, by omega, trivial⟩

theorem next_last (h : day + 1 = length year) : (ofMarch year day).next = ofMarch (year + 1) 0 := by
  have hFebruary : monthOf day = 11 := by
    have hLow := length_ge year
    have hHigh := length_le year
    rw [monthOf]
    omega
  have hMarch : monthStart 11 = 337 := rfl
  have hFull : ¬(ofMarch year day).day < monthLength (ofMarch year day).year (ofMarch year day).month := by
    dsimp only [ofMarch]
    rw [hFebruary, if_neg (by decide), hMarch]
    have hLength : monthLength (year + 1) ((11 + 2) % 12 + 1) = length year - 337 :=
      monthLength_february year
    omega
  rw [Date.next, if_neg hFull]
  simp only [ofMarch, hFebruary]
  rfl

theorem iterate_next (n : Nat) :
  ∃ year day, day < length year ∧ start year + day = n ∧ Date.next^[n] (ofMarch 0 0) = ofMarch year day := by
  induction n with
  | zero => exact ⟨0, 0, by decide, rfl, rfl⟩
  | succ n ih =>
    obtain ⟨year, day, hDay, hNumber, hDate⟩ := ih
    rw [Function.iterate_succ_apply', hDate]
    rcases Nat.lt_or_eq_of_le (Nat.succ_le_of_lt hDay) with hInside | hLast
    · exact ⟨year, day + 1, hInside, by omega, next_inside hInside⟩
    · refine ⟨year + 1, 0, (length_ge _).trans_lt' (by decide), ?_, next_last hLast⟩
      rw [start_succ]
      omega

theorem iterate_ofMarch (h : day < length year) :
  Date.next^[start year + day] (ofMarch 0 0) = ofMarch year day := by
  obtain ⟨year', day', hDay, hNumber, hDate⟩ := iterate_next (start year + day)
  obtain ⟨rfl, rfl⟩ := march_unique hDay h hNumber
  exact hDate

def Date.marchYear (date : Date) : Nat := if date.month ≤ 2 then date.year - 1 else date.year

def Date.marchDay (date : Date) : Nat := monthStart ((date.month + 9) % 12) + (date.day - 1)

theorem marchDay_facts : ∀ month < 13, ∀ day < 32,
  1 ≤ month ∧ 1 ≤ day ∧ month ≠ 2 ∧ day ≤ monthLength 0 month →
    monthStart ((month + 9) % 12) + (day - 1) < 365 ∧
      monthOf (monthStart ((month + 9) % 12) + (day - 1)) = (month + 9) % 12 := by
  decide +kernel

theorem monthLength_le (year month : Nat) : monthLength year month ≤ 31 := by
  rw [monthLength]
  split
  · split <;> decide
  · split <;> decide

namespace Date.Valid

variable {date : Date} (h : date.Valid)
include h

theorem marchDay_lt (hYear : 1 ≤ date.year) : date.marchDay < length date.marchYear ∧
  monthOf date.marchDay = (date.month + 9) % 12 := by
  obtain ⟨hMonth, hTwelve, hDay, hLast⟩ := h
  rw [marchDay, marchYear]
  by_cases hFebruary : date.month = 2
  · rw [hFebruary] at hLast ⊢
    obtain ⟨year, hPrevious⟩ := Nat.exists_eq_add_of_le' hYear
    have hLength : date.day ≤ length year - 337 := by
      rwa [hPrevious, monthLength_february] at hLast
    have hHigh := length_le year
    have hMarch : monthStart ((2 + 9) % 12) = 337 := rfl
    rw [if_pos (by decide), hPrevious, hMarch, Nat.add_sub_cancel, monthOf]
    omega
  · rw [monthLength_of_ne hFebruary] at hLast
    obtain ⟨hLess, hMonthOf⟩ := marchDay_facts date.month (Nat.lt_succ_of_le hTwelve)
      date.day (Nat.lt_succ_of_le (hLast.trans (monthLength_le 0 _)))
      ⟨hMonth, hDay, hFebruary, hLast⟩
    exact ⟨hLess.trans_le (length_ge _), hMonthOf⟩

theorem ofMarch_eq (hYear : 1 ≤ date.year) : ofMarch date.marchYear date.marchDay = date := by
  obtain ⟨-, hMonthOf⟩ := h.marchDay_lt hYear
  obtain ⟨hMonth, hTwelve, hDay, -⟩ := h
  obtain ⟨year, month, day⟩ := date
  dsimp only at hYear hMonth hTwelve hDay
  rw [ofMarch, hMonthOf]
  simp only [marchYear, marchDay, mk.injEq]
  refine ⟨?_, by omega, by omega⟩
  split <;> split <;> omega

end Date.Valid

theorem valid_ofMarch (h : day < length year) : (ofMarch year day).Valid := by
  have hHigh := length_le year
  obtain ⟨hMonth, hStart⟩ := monthOf_bounds day (h.trans_le hHigh)
  refine ⟨Nat.le_add_left 1 _, Nat.mod_lt _ (by decide), Nat.le_add_left 1 _, ?_⟩
  dsimp only [ofMarch]
  rcases Nat.lt_or_eq_of_le hMonth with hEarly | hFebruary
  · rw [monthLength_of_ne (by omega)]
    have hInside : day < 365 := by
      rw [monthOf] at hEarly
      omega
    rcases monthOf_succ day hInside with ⟨-, -, hFits⟩ | ⟨-, -, hLast⟩
    · have := hFits hEarly
      omega
    · omega
  · have hLength : monthLength (year + 1) ((11 + 2) % 12 + 1) = length year - 337 :=
      monthLength_february year
    have hMarch : monthStart 11 = 337 := rfl
    rw [hFebruary, hMarch] at hStart ⊢
    rw [if_neg (by decide), hLength]
    omega

def zero : Date := ofMarch 0 0

/-- The number of a date counts the days from the first of March of the year zero. -/
def Date.number (date : Date) : Nat := start date.marchYear + date.marchDay

theorem Date.Valid.iterate_number {date : Date} (h : date.Valid) (hYear : 1 ≤ date.year) :
  Date.next^[date.number] zero = date := by
  rw [Date.number, zero, iterate_ofMarch (h.marchDay_lt hYear).1, h.ofMarch_eq hYear]

theorem iterate_next_zero (n : Nat) :
  ∃ year day, day < length year ∧ start year + day = n ∧ Date.next^[n] zero = ofMarch year day :=
  iterate_next n

theorem valid_iterate (n : Nat) : (Date.next^[n] zero).Valid := by
  obtain ⟨year, day, hDay, -, hDate⟩ := iterate_next_zero n
  rw [hDate]
  exact valid_ofMarch hDay

theorem monthOf_lt_ten : monthOf day < 10 ↔ day < 306 := by
  rw [monthOf]
  omega

theorem year_iterate_lt {year : Nat} (hYear : 1 ≤ year) :
  (Date.next^[n] zero).year < year ↔ n < start (year - 1) + 306 := by
  obtain ⟨marchYear, day, hDay, hNumber, hDate⟩ := iterate_next_zero n
  rw [hDate]
  dsimp only [ofMarch]
  have hLow := length_ge (year - 1)
  rcases Nat.lt_trichotomy marchYear (year - 1) with hBefore | rfl | hAfter
  · have hStart := start_add_le hBefore
    have hYearLess : (if monthOf day < 10 then marchYear else marchYear + 1) < year := by
      split <;> omega
    exact iff_of_true hYearLess (by omega)
  · rw [← hNumber, Nat.add_lt_add_iff_left]
    split
    case isTrue hMonth => exact iff_of_true (by omega) (monthOf_lt_ten.mp hMonth)
    case isFalse hMonth => exact iff_of_false (by omega) (fun h => hMonth (monthOf_lt_ten.mpr h))
  · have hStart := start_add_le hAfter
    have hYearNotLess : ¬(if monthOf day < 10 then marchYear else marchYear + 1) < year := by
      split <;> omega
    exact iff_of_false hYearNotLess (by omega)

theorem number_ofMarch (h : day < length year) : (ofMarch year day).number = start year + day := by
  obtain ⟨hMonth, hStart⟩ := monthOf_bounds day (h.trans_le (length_le year))
  have hBack : ((monthOf day + 2) % 12 + 1 + 9) % 12 = monthOf day := by omega
  rw [Date.number, Date.marchYear, Date.marchDay]
  simp only [ofMarch, hBack, Nat.add_sub_cancel, Nat.add_sub_cancel' hStart]
  congr 2
  by_cases hEarly : monthOf day < 10
  · have hLate : ¬(monthOf day + 2) % 12 + 1 ≤ 2 := by omega
    simp [hEarly, hLate]
  · have hJanuary : (monthOf day + 2) % 12 + 1 ≤ 2 := by omega
    simp [hEarly, hJanuary]

theorem number_iterate (n : Nat) : (Date.next^[n] zero).number = n := by
  obtain ⟨year, day, hDay, hNumber, hDate⟩ := iterate_next_zero n
  rw [hDate, number_ofMarch hDay, hNumber]

end Gregorian
