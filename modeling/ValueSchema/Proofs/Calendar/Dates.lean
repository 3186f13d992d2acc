import Mathlib.Tactic
import ValueSchema.Calendar.Day

/-!
The closed formulas for dates are the calendar.

Day numbers and dates are turned into each other without a loop, by quotients. Here the quotients are tied to what they
count: a year that begins in March ends with its leap day, so years and months are intervals of days, each beginning where
the one before it ends. A day lies in exactly one year and one month of it, and this is what the quotients find.

Results:
- `dayNumber_ofDayNumber`, `ofDayNumber_dayNumber`: days and dates that exist correspond to each other.
- `ofDayNumber_succ`: days follow each other as dates do in the calendar.
- `before_ofDayNumber_iff`: and in the order of dates.
- `isValid_ofDayNumber`: the first and the last day bound the years that dates can have.
-/

namespace ValueSchema.CalendarDate

/-! ## Years and months from March -/

/-- days from 1 March of year 0 to 1 March of a year -/
def yearStart (y : Int) : Int := 365 * y + y / 4 - y / 100 + y / 400

/-- days from 1 March to the first of a month, March being month 0 -/
def monthStart (m : Int) : Int := (153 * m + 2) / 5

/-- the year of a date when years begin in March -/
def marchYear (d : CalendarDate) : Int := if d.month ≤ 2 then d.year - 1 else d.year

def marchMonth (d : CalendarDate) : Int := if d.month ≤ 2 then (d.month : Int) + 9 else (d.month : Int) - 3

theorem isLeapYear_iff {y : Int} : isLeapYear y = true ↔ y % 4 = 0 ∧ (y % 100 = 0 → y % 400 = 0) := by
  simp only [isLeapYear, Bool.and_eq_true, Bool.or_eq_true, bne_iff_ne, beq_iff_eq, ne_eq]
  tauto

/-- a year from March ends with the February of the next one -/
theorem yearStart_succ (y : Int) : yearStart (y + 1) = yearStart y + 337 + daysInMonth (y + 1) 2 := by
  -- a quotient grows by one exactly where its divisor is met
  have hfour : (y + 1) / 4 = y / 4 ∧ (y + 1) % 4 ≠ 0 ∨ (y + 1) / 4 = y / 4 + 1 ∧ (y + 1) % 4 = 0 := by omega
  have hhundred : (y + 1) / 100 = y / 100 ∧ (y + 1) % 100 ≠ 0 ∨
      (y + 1) / 100 = y / 100 + 1 ∧ (y + 1) % 100 = 0 := by omega
  have hcycle : (y + 1) / 400 = y / 400 ∧ (y + 1) % 400 ≠ 0 ∨
      (y + 1) / 400 = y / 400 + 1 ∧ (y + 1) % 400 = 0 := by omega
  simp only [yearStart, daysInMonth, if_true]
  by_cases hleap : isLeapYear (y + 1) = true
  · have h := isLeapYear_iff.1 hleap
    rw [if_pos hleap]
    push_cast
    omega
  · have h := mt isLeapYear_iff.2 hleap
    rw [if_neg hleap]
    push_cast
    omega

theorem yearStart_strictMono : StrictMono yearStart := by
  refine strictMono_int_of_lt_succ fun y => ?_
  rw [yearStart_succ]
  omega

/-- cycles of 400 years are alike -/
theorem yearStart_add_cycles (y k : Int) : yearStart (y + k * 400) = yearStart y + k * 146097 := by
  have hfour : (y + k * 400) / 4 = y / 4 + k * 100 := by omega
  have hhundred : (y + k * 400) / 100 = y / 100 + k * 4 := by omega
  have hcycle : (y + k * 400) / 400 = y / 400 + k := by omega
  simp only [yearStart, hfour, hhundred, hcycle]
  omega

theorem dayNumber_eq (d : CalendarDate) :
    d.dayNumber = yearStart d.marchYear + monthStart d.marchMonth + d.day - 719469 := by
  have hyear : yearStart d.marchYear =
      yearStart (d.marchYear - d.marchYear / 400 * 400) + d.marchYear / 400 * 146097 := by
    rw [← yearStart_add_cycles, Int.sub_add_cancel]
  have hcycle : (d.marchYear - d.marchYear / 400 * 400) / 400 = 0 := by omega
  rw [hyear, yearStart, hcycle]
  simp only [dayNumber, monthStart, marchMonth, marchYear]
  omega

/-- a day that exists in some year -/
structure IsDay (d : CalendarDate) : Prop where
  one_le_month : 1 ≤ d.month
  month_le : d.month ≤ 12
  one_le_day : 1 ≤ d.day
  day_le : d.day ≤ daysInMonth d.year d.month

theorem daysInMonth_bounds (y : Int) (m : Nat) : 28 ≤ daysInMonth y m ∧ (m = 2 → daysInMonth y m ≤ 29) := by
  simp only [daysInMonth]
  split_ifs <;> omega

/-- all months but February end where the next one begins -/
theorem daysInMonth_eq {d : CalendarDate} (h1 : 1 ≤ d.month) (h12 : d.month ≤ 12) (h2 : d.month ≠ 2) :
    (daysInMonth d.year d.month : Int) = monthStart (d.marchMonth + 1) - monthStart d.marchMonth := by
  obtain ⟨year, month, day⟩ := d
  simp only at h1 h12 h2
  simp only [daysInMonth, monthStart, marchMonth]
  interval_cases month <;> first | omega | rfl

/-! ## From day numbers to dates -/

/-- the year of a cycle that a day of the cycle lies in -/
def yearOfCycle (day : Int) : Int := (day - day / 1460 + day / 36524 - day / 146096) / 365

theorem yearOfCycle_spec (day : Int) (hday : 0 ≤ day) (hlt : day < 146097) :
    (0 ≤ yearOfCycle day ∧ yearOfCycle day < 400) ∧
      yearStart (yearOfCycle day) ≤ day ∧ day < yearStart (yearOfCycle day + 1) := by
  obtain ⟨y, hy⟩ : ∃ y, y = yearOfCycle day := ⟨_, rfl⟩
  rw [← hy]
  rw [yearOfCycle] at hy
  have hrange : 0 ≤ y ∧ y < 400 := by omega
  have hcycle : y / 400 = 0 := by omega
  -- in each century the quotients are near enough to constants
  have hcentury : day / 36524 = 0 ∨ day / 36524 = 1 ∨ day / 36524 = 2 ∨ day / 36524 = 3 ∨ day / 36524 = 4 := by
    omega
  have hhundred : y / 100 = 0 ∨ y / 100 = 1 ∨ y / 100 = 2 ∨ y / 100 = 3 := by omega
  refine ⟨hrange, ?_, ?_⟩
  · rw [yearStart, hcycle]
    clear hcycle
    rcases hcentury with h | h | h | h | h <;> rcases hhundred with h' | h' | h' | h' <;> omega
  · rw [yearStart_succ, yearStart, hcycle, daysInMonth, if_pos rfl]
    clear hcycle
    by_cases hleap : isLeapYear (y + 1) = true
    · rw [if_pos hleap]
      push_cast
      rcases hcentury with h | h | h | h | h <;> rcases hhundred with h' | h' | h' | h' <;> omega
    · have hplain : y % 4 < 3 ∨ y = 99 ∨ y = 199 ∨ y = 299 := by
        have h := mt isLeapYear_iff.2 hleap
        omega
      rw [if_neg hleap]
      push_cast
      rcases hcentury with h | h | h | h | h <;> rcases hhundred with h' | h' | h' | h' <;> omega

/-- the year from March that a day lies in, counted from 1 March of year 0 -/
def yearOfDay (z : Int) : Int := yearOfCycle (z - z / 146097 * 146097) + z / 146097 * 400

theorem yearOfDay_spec (z : Int) : yearStart (yearOfDay z) ≤ z ∧ z < yearStart (yearOfDay z + 1) := by
  obtain ⟨-, hle, hlt⟩ := yearOfCycle_spec (z - z / 146097 * 146097) (by omega) (by omega)
  have hnext : yearOfDay z + 1 = yearOfCycle (z - z / 146097 * 146097) + 1 + z / 146097 * 400 := by
    rw [yearOfDay]
    omega
  rw [hnext, yearOfDay, yearStart_add_cycles, yearStart_add_cycles]
  omega

theorem yearOfDay_eq {z y : Int} (hle : yearStart y ≤ z) (hlt : z < yearStart (y + 1)) : yearOfDay z = y := by
  obtain ⟨hle', hlt'⟩ := yearOfDay_spec z
  have h₁ : y < yearOfDay z + 1 := yearStart_strictMono.lt_iff_lt.1 (by omega)
  have h₂ : yearOfDay z < y + 1 := yearStart_strictMono.lt_iff_lt.1 (by omega)
  omega

/-- the month of a day of the year from March -/
def monthOfDay (day : Int) : Int := (5 * day + 2) / 153

theorem monthOfDay_eq_iff (day m : Int) : monthOfDay day = m ↔ monthStart m ≤ day ∧ day < monthStart (m + 1) := by
  simp only [monthOfDay, monthStart]
  omega

/-- the date of a day of a year from March -/
def ofYearDay (y day : Int) : CalendarDate :=
  let m := monthOfDay day
  let month := if m < 10 then m + 3 else m - 9
  ⟨if month ≤ 2 then y + 1 else y, month.toNat, (day - monthStart m + 1).toNat⟩

theorem day_ofYearDay (y day : Int) : ((ofYearDay y day).day : Int) = day - monthStart (monthOfDay day) + 1 := by
  obtain ⟨hle, -⟩ := (monthOfDay_eq_iff day _).1 rfl
  simp only [ofYearDay]
  omega

theorem ofDayNumber_eq (n : Int) :
    ofDayNumber n = ofYearDay (yearOfDay (n + 719468)) (n + 719468 - yearStart (yearOfDay (n + 719468))) := by
  obtain ⟨doc, hdoc⟩ : ∃ doc, doc = n + 719468 - (n + 719468) / 146097 * 146097 := ⟨_, rfl⟩
  obtain ⟨hrange, -⟩ := yearOfCycle_spec doc (by omega) (by omega)
  have hcycle : yearOfCycle doc / 400 = 0 := by omega
  have hday : n + 719468 - yearStart (yearOfDay (n + 719468)) =
      doc - (365 * yearOfCycle doc + yearOfCycle doc / 4 - yearOfCycle doc / 100) := by
    rw [yearOfDay, yearStart_add_cycles, yearStart, ← hdoc, hcycle]
    omega
  rw [hday, hdoc]
  rfl

/-- the days of a year from March -/
structure InYear (y day : Int) : Prop where
  nonneg : 0 ≤ day
  lt : yearStart y + day < yearStart (y + 1)

theorem inYear_yearOfDay (z : Int) : InYear (yearOfDay z) (z - yearStart (yearOfDay z)) := by
  obtain ⟨hle, hlt⟩ := yearOfDay_spec z
  exact ⟨by omega, by omega⟩

namespace InYear

variable {y day : Int} (h : InYear y day)

include h

theorem monthOfDay_range : 0 ≤ monthOfDay day ∧ monthOfDay day ≤ 11 := by
  have hnonneg := h.nonneg
  have hlt := h.lt
  have hfeb := (daysInMonth_bounds (y + 1) 2).2 rfl
  rw [yearStart_succ] at hlt
  simp only [monthOfDay]
  omega

theorem marchYear_ofYearDay : (ofYearDay y day).marchYear = y := by
  obtain ⟨h0, h11⟩ := h.monthOfDay_range
  simp only [ofYearDay, marchYear]
  split_ifs <;> omega

theorem marchMonth_ofYearDay : (ofYearDay y day).marchMonth = monthOfDay day := by
  obtain ⟨h0, h11⟩ := h.monthOfDay_range
  simp only [ofYearDay, marchMonth]
  split_ifs <;> omega

theorem isDay_ofYearDay : (ofYearDay y day).IsDay := by
  obtain ⟨h0, h11⟩ := h.monthOfDay_range
  obtain ⟨hle, hlt⟩ := (monthOfDay_eq_iff day _).1 rfl
  have hday := day_ofYearDay y day
  have h1 : 1 ≤ (ofYearDay y day).month := by
    simp only [ofYearDay]
    split_ifs <;> omega
  have h12 : (ofYearDay y day).month ≤ 12 := by
    simp only [ofYearDay]
    split_ifs <;> omega
  refine ⟨h1, h12, by omega, ?_⟩
  by_cases h2 : (ofYearDay y day).month = 2
  · -- February ends with the year from March
    have hyear : (ofYearDay y day).year = y + 1 ∧ monthOfDay day = 11 := by
      have hyear := h.marchYear_ofYearDay
      have hmonth := h.marchMonth_ofYearDay
      simp only [marchYear, marchMonth, h2] at hyear hmonth
      omega
    have hend := h.lt
    rw [yearStart_succ] at hend
    rw [hyear.2] at hday
    rw [h2, hyear.1]
    simp only [monthStart] at hday
    omega
  · have hlength := daysInMonth_eq h1 h12 h2
    rw [h.marchMonth_ofYearDay] at hlength
    omega

end InYear

theorem isDay_ofDayNumber (n : Int) : (ofDayNumber n).IsDay := by
  rw [ofDayNumber_eq]
  exact (inYear_yearOfDay _).isDay_ofYearDay

/-- **From days to dates and back.** -/
theorem dayNumber_ofDayNumber (n : Int) : (ofDayNumber n).dayNumber = n := by
  have h := inYear_yearOfDay (n + 719468)
  rw [ofDayNumber_eq, dayNumber_eq, h.marchYear_ofYearDay, h.marchMonth_ofYearDay, day_ofYearDay]
  omega

/-! ## From dates to day numbers -/

/-- the day of the year from March -/
def marchDay (d : CalendarDate) : Int := monthStart d.marchMonth + d.day - 1

namespace IsDay

variable {d : CalendarDate} (h : d.IsDay)

include h

theorem monthOfDay_marchDay : monthOfDay d.marchDay = d.marchMonth := by
  have hday := h.one_le_day
  have hlast := h.day_le
  rw [monthOfDay_eq_iff, marchDay]
  by_cases h2 : d.month = 2
  · have hfeb := (daysInMonth_bounds d.year d.month).2 h2
    simp only [marchMonth, monthStart, h2]
    omega
  · have hlength := daysInMonth_eq h.one_le_month h.month_le h2
    omega

theorem inYear : InYear d.marchYear d.marchDay := by
  have h1 := h.one_le_month
  have h12 := h.month_le
  have hday := h.one_le_day
  have hlast := h.day_le
  have hmonth : 0 ≤ d.marchMonth ∧ d.marchMonth ≤ 11 := by
    simp only [marchMonth]
    omega
  refine ⟨?_, ?_⟩
  · simp only [marchDay, monthStart]
    omega
  · rw [yearStart_succ, marchDay]
    by_cases h2 : d.month = 2
    · have hyear : d.marchYear + 1 = d.year := by
        simp only [marchYear]
        omega
      rw [h2] at hlast
      rw [hyear]
      simp only [marchMonth, monthStart, h2]
      omega
    · have hlength := daysInMonth_eq h1 h12 h2
      have hlt : d.marchMonth < 11 := by
        simp only [marchMonth]
        omega
      simp only [monthStart] at hlength ⊢
      omega

end IsDay

/-- **From dates to days and back.** -/
theorem ofDayNumber_dayNumber {d : CalendarDate} (h : d.IsDay) : ofDayNumber d.dayNumber = d := by
  have hnumber : d.dayNumber + 719468 = yearStart d.marchYear + d.marchDay := by
    rw [dayNumber_eq, marchDay]
    omega
  have hin := h.inYear
  have hyear : yearOfDay (yearStart d.marchYear + d.marchDay) = d.marchYear :=
    yearOfDay_eq (by have := hin.nonneg; omega) hin.lt
  rw [ofDayNumber_eq, hnumber, hyear, add_sub_cancel_left, ofYearDay, h.monthOfDay_marchDay]
  obtain ⟨year, month, day⟩ := d
  obtain ⟨h1, h12, hday, hlast⟩ := h
  simp only [marchYear, marchDay, marchMonth, CalendarDate.mk.injEq] at *
  refine ⟨?_, ?_, ?_⟩
  · split_ifs <;> omega
  · split_ifs <;> omega
  · split_ifs <;> omega

/-! ## The calendar -/

/-- the day after -/
def next (d : CalendarDate) : CalendarDate :=
  if d.day < daysInMonth d.year d.month then ⟨d.year, d.month, d.day + 1⟩
  else if d.month < 12 then ⟨d.year, d.month + 1, 1⟩
  else ⟨d.year + 1, 1, 1⟩

theorem IsDay.next {d : CalendarDate} (h : d.IsDay) : d.next.IsDay := by
  unfold CalendarDate.next
  split_ifs with hday hmonth
  · exact ⟨h.one_le_month, h.month_le, Nat.le_add_left _ _, hday⟩
  · have hlength := (daysInMonth_bounds d.year (d.month + 1)).1
    exact ⟨Nat.le_add_left _ _, hmonth, Nat.le_refl _, by dsimp only; omega⟩
  · have hlength := (daysInMonth_bounds (d.year + 1) 1).1
    exact ⟨Nat.le_refl _, by dsimp only; omega, Nat.le_refl _, by dsimp only; omega⟩

theorem IsDay.dayNumber_next {d : CalendarDate} (h : d.IsDay) : d.next.dayNumber = d.dayNumber + 1 := by
  have h1 := h.one_le_month
  have h12 := h.month_le
  have hlast := h.day_le
  rw [dayNumber_eq, dayNumber_eq]
  unfold CalendarDate.next
  split_ifs with hday hmonth
  · simp only [marchYear, marchMonth]
    omega
  · by_cases h2 : d.month = 2
    · -- 1 March begins the next year from March
      have hfeb := yearStart_succ (d.year - 1)
      have hmarch : d.marchYear = d.year - 1 ∧ d.marchMonth = 11 := by
        simp only [marchYear, marchMonth]
        omega
      have hnext : marchYear ⟨d.year, d.month + 1, 1⟩ = d.year ∧ marchMonth ⟨d.year, d.month + 1, 1⟩ = 0 := by
        simp only [marchYear, marchMonth]
        omega
      rw [Int.sub_add_cancel] at hfeb
      rw [h2] at hday hlast
      rw [hmarch.1, hmarch.2, hnext.1, hnext.2]
      simp only [monthStart]
      omega
    · have hlength := daysInMonth_eq h1 h12 h2
      have hmarch : marchMonth ⟨d.year, d.month + 1, 1⟩ = d.marchMonth + 1 ∧
          marchYear ⟨d.year, d.month + 1, 1⟩ = d.marchYear := by
        simp only [marchMonth, marchYear]
        split_ifs <;> omega
      rw [hmarch.1, hmarch.2]
      simp only
      omega
  · have hlength := daysInMonth_eq h1 h12 (by omega)
    have hmarch : marchMonth ⟨d.year + 1, 1, 1⟩ = d.marchMonth + 1 ∧
        marchYear ⟨d.year + 1, 1, 1⟩ = d.marchYear := by
      simp only [marchMonth, marchYear]
      omega
    rw [hmarch.1, hmarch.2]
    simp only
    omega

/-- **Days follow each other as in the calendar.** -/
theorem ofDayNumber_succ (n : Int) : ofDayNumber (n + 1) = (ofDayNumber n).next := by
  have h := isDay_ofDayNumber n
  rw [← ofDayNumber_dayNumber h.next, h.dayNumber_next, dayNumber_ofDayNumber]

/-- an earlier date -/
def Before (a b : CalendarDate) : Prop :=
  a.year < b.year ∨ a.year = b.year ∧ (a.month < b.month ∨ a.month = b.month ∧ a.day < b.day)

theorem before_next (d : CalendarDate) : d.Before d.next := by
  unfold CalendarDate.next Before
  split_ifs
  · exact .inr ⟨rfl, .inr ⟨rfl, Nat.lt_succ_self _⟩⟩
  · exact .inr ⟨rfl, .inl (Nat.lt_succ_self _)⟩
  · exact .inl (Int.lt_succ_self _)

theorem Before.trans {a b c : CalendarDate} (hab : a.Before b) (hbc : b.Before c) : a.Before c := by
  unfold Before at *
  omega

theorem Before.irrefl (d : CalendarDate) : ¬ d.Before d := by
  unfold Before
  omega

theorem before_ofDayNumber {m n : Int} (h : m < n) : (ofDayNumber m).Before (ofDayNumber n) := by
  have hnext : ∀ k, (ofDayNumber k).Before (ofDayNumber (k + 1)) := by
    intro k
    rw [ofDayNumber_succ]
    exact before_next _
  obtain ⟨k, rfl⟩ : ∃ k : Nat, n = m + 1 + k := ⟨(n - m - 1).toNat, by omega⟩
  clear h
  induction k with
  | zero =>
    rw [Int.natCast_zero, add_zero]
    exact hnext m
  | succ k ih =>
    rw [Int.natCast_succ, ← add_assoc]
    exact ih.trans (hnext _)

/-- **Days in order are dates in order.** -/
theorem before_ofDayNumber_iff {m n : Int} : (ofDayNumber m).Before (ofDayNumber n) ↔ m < n := by
  refine ⟨fun h => ?_, before_ofDayNumber⟩
  rcases lt_trichotomy m n with hlt | rfl | hgt
  · exact hlt
  · exact absurd h (Before.irrefl _)
  · exact absurd (h.trans (before_ofDayNumber hgt)) (Before.irrefl _)

theorem ofDayNumber_inj {m n : Int} : ofDayNumber m = ofDayNumber n ↔ m = n :=
  (Function.LeftInverse.injective dayNumber_ofDayNumber).eq_iff

theorem ofDayNumber_first : ofDayNumber firstDay = ⟨firstYear, 1, 1⟩ := by
  rw [← dayNumber_first]
  exact ofDayNumber_dayNumber ⟨by decide, by decide, by decide, by decide⟩

theorem ofDayNumber_last : ofDayNumber lastDay = ⟨lastYear, 12, 31⟩ := by
  rw [← dayNumber_last]
  exact ofDayNumber_dayNumber ⟨by decide, by decide, by decide, by decide⟩

/-- the days that instants can have are dates in the years that dates can have -/
theorem isValid_ofDayNumber {n : Int} (hfirst : firstDay ≤ n) (hlast : n ≤ lastDay) :
    (ofDayNumber n).isValid = true := by
  obtain ⟨h1, h12, hday, hlength⟩ := isDay_ofDayNumber n
  have hlow : firstYear ≤ (ofDayNumber n).year := by
    have h := mt before_ofDayNumber_iff.1 (Int.not_lt.2 hfirst)
    rw [ofDayNumber_first, Before] at h
    dsimp only at h
    omega
  have hup : (ofDayNumber n).year ≤ lastYear := by
    have h := mt before_ofDayNumber_iff.1 (Int.not_lt.2 hlast)
    rw [ofDayNumber_last, Before] at h
    dsimp only at h
    omega
  simp only [isValid, Bool.and_eq_true, decide_eq_true_eq]
  exact ⟨⟨⟨⟨⟨hlow, hup⟩, h1⟩, h12⟩, hday⟩, hlength⟩

end ValueSchema.CalendarDate
