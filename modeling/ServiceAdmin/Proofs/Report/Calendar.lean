import ServiceAdmin.Report.Timestamp

/-!
# The Gregorian calendar

A date is known by the months and years before it: the calendar gives the length of each month, and
what a day is counted as is the sum of the lengths before it.  The date of a count is the one day of
the calendar that is counted so (`exists_ofDays_eq`).
-/

namespace ServiceAdmin.Report

def IsLeap (year : Nat) : Prop := year % 4 = 0 ∧ (year % 100 ≠ 0 ∨ year % 400 = 0)

instance (year : Nat) : Decidable (IsLeap year) := inferInstanceAs (Decidable (_ ∧ _))

def daysOfMonth (year month : Nat) : Nat :=
  match month with
  | 2 => if IsLeap year then 29 else 28
  | 4 | 6 | 9 | 11 => 30
  | _ => 31

/-- The days of the year before a month; January is the first one. -/
def daysBeforeMonth (year : Nat) : Nat → Nat
  | 0 | 1 => 0
  | month + 2 => daysBeforeMonth year (month + 1) + daysOfMonth year (month + 1)

def daysOfYear (year : Nat) : Nat := daysBeforeMonth year 13

/-- The days of the years before a year, from the year 0. -/
def daysBeforeYear : Nat → Nat
  | 0 => 0
  | year + 1 => daysBeforeYear year + daysOfYear year

/-- A day counted from the first of January 1970. -/
def dayNumber (year month day : Nat) : Int :=
  daysBeforeYear year + daysBeforeMonth year month + (day - 1 : Nat) - daysBeforeYear 1970

/-! ## Sums of lengths -/

theorem daysOfYear_eq (year : Nat) : daysOfYear year = if IsLeap year then 366 else 365 := by
  simp only [daysOfYear, daysBeforeMonth, daysOfMonth]
  split <;> rfl

/-- There is a leap day every four years, but for the centuries that no 400 years divide. -/
theorem daysBeforeYear_eq (year : Nat) :
    daysBeforeYear year + (year + 99) / 100 = 365 * year + (year + 3) / 4 + (year + 399) / 400 := by
  induction year with
  | zero => rfl
  | succ year ih =>
    have hleap : IsLeap year ↔ year % 4 = 0 ∧ (year % 100 ≠ 0 ∨ year % 400 = 0) := Iff.rfl
    rw [daysBeforeYear, daysOfYear_eq]
    split
    · next h =>
      rw [hleap] at h
      omega
    · next h =>
      rw [hleap] at h
      by_cases hfour : year % 4 = 0
      · have hcentury : year % 100 = 0 ∧ 0 < year % 400 := by omega
        omega
      · have hbetween : 0 < year % 4 := by omega
        clear h
        omega

/-- From March on the months have 30 and 31 days by turns, but for two months of 31 days in the
middle and at the end of each half of a year. -/
theorem daysBeforeMonth_add_three (year : Nat) {month : Nat} (h : month ≤ 10) :
    daysBeforeMonth year (month + 3) =
      (if IsLeap year then 60 else 59) + (153 * month + 2) / 5 := by
  match month with
  | 0 | 1 | 2 | 3 | 4 | 5 | 6 | 7 | 8 | 9 | 10 =>
    simp only [daysBeforeMonth, daysOfMonth]
    split <;> rfl
  | _ + 11 => omega

theorem daysBeforeMonth_add_le (year : Nat) {month later : Nat} (hmonth : 1 ≤ month)
    (h : month < later) :
    daysBeforeMonth year month + daysOfMonth year month ≤ daysBeforeMonth year later := by
  obtain ⟨before, rfl⟩ := Nat.exists_eq_add_of_le' hmonth
  induction h with
  | refl => exact Nat.le_refl _
  | @step later hlater ih =>
    obtain ⟨last, rfl⟩ := Nat.exists_eq_add_of_le' (Nat.le_trans (Nat.le_add_left 1 _) hlater)
    exact Nat.le_trans ih (Nat.le_add_right _ _)

theorem daysBeforeYear_add_le {year later : Nat} (h : year < later) :
    daysBeforeYear year + daysOfYear year ≤ daysBeforeYear later := by
  induction h with
  | refl => exact Nat.le_refl _
  | step _ ih => exact Nat.le_trans ih (Nat.le_add_right _ _)

/-! ## Years that begin with March -/

/-- The day of the year that begins with the March of `year`. -/
def ofMarch (year : Int) (dayOfYear : Nat) : Date :=
  let marchMonth := (5 * dayOfYear + 2) / 153
  let month := if marchMonth < 10 then marchMonth + 3 else marchMonth - 9
  { year := year + if month ≤ 2 then 1 else 0
    month := month
    day := dayOfYear - (153 * marchMonth + 2) / 5 + 1 }

/-- The days up to the March of a year, from the first of March of the year 0. -/
def daysBeforeMarch (year : Int) : Int := 365 * year + year / 4 - year / 100 + year / 400

/-- The year, month and day are a date of the calendar, which is counted so. -/
structure IsDateOf (days : Int) (year month day : Nat) : Prop where
  month_mem : 1 ≤ month ∧ month ≤ 12
  day_mem : 1 ≤ day ∧ day ≤ daysOfMonth year month
  number : dayNumber year month day = days

theorem daysBeforeYear_1970 : daysBeforeYear 1970 = 719528 := by
  have := daysBeforeYear_eq 1970
  omega

/-- The year before begins with March 306 days before the year. -/
theorem daysBeforeMarch_sub_one (year : Nat) :
    daysBeforeMarch (year - 1) = daysBeforeYear year - 366 := by
  have := daysBeforeYear_eq year
  rw [daysBeforeMarch]
  omega

theorem daysBeforeMarch_eq (year : Nat) :
    daysBeforeMarch year = daysBeforeYear year + ((if IsLeap year then 60 else 59 : Nat) - 60) := by
  have hnext := daysBeforeMarch_sub_one (year + 1)
  have hyear : ((year + 1 : Nat) : Int) - 1 = year := by omega
  rw [hyear, daysBeforeYear, daysOfYear_eq] at hnext
  rw [hnext]
  split <;> omega

theorem isDateOf_spring (year : Nat) {month rest : Nat} (hmonth : month ≤ 9)
    (hrest : rest < (153 * (month + 1) + 2) / 5 - (153 * month + 2) / 5) :
    IsDateOf (daysBeforeMarch year + ((153 * month + 2) / 5 + rest : Nat) - 719468) year
      (month + 3) (rest + 1) := by
  have hbefore := daysBeforeMonth_add_three year (by omega : month ≤ 10)
  have hnext := daysBeforeMonth_add_three year (by omega : month + 1 ≤ 10)
  have hlength : daysBeforeMonth year (month + 1 + 3) =
    daysBeforeMonth year (month + 3) + daysOfMonth year (month + 3) := rfl
  refine ⟨by omega, by omega, ?_⟩
  rw [dayNumber, daysBeforeYear_1970, hbefore, daysBeforeMarch_eq]
  omega

theorem isDateOf_winter {year month rest : Nat} (hmonth : month ≤ 1)
    (hrest : rest < daysOfMonth year (month + 1)) :
    IsDateOf (daysBeforeMarch (year - 1) + (306 + 31 * month + rest : Nat) - 719468) year
      (month + 1) (rest + 1) := by
  have hbefore : daysBeforeMonth year (month + 1) = 31 * month := by
    obtain rfl | rfl : month = 0 ∨ month = 1 := by omega
    all_goals rfl
  refine ⟨by omega, by omega, ?_⟩
  rw [dayNumber, daysBeforeYear_1970, hbefore, daysBeforeMarch_sub_one]
  omega

theorem exists_ofMarch_eq {year : Int} {day : Nat}
    (hday : daysBeforeMarch year + day < daysBeforeMarch (year + 1))
    (hyear : 0 ≤ year ∨ year = -1 ∧ 306 ≤ day) :
    ∃ y m d : Nat, ofMarch year day = ⟨y, m, d⟩ ∧
      IsDateOf (daysBeforeMarch year + day - 719468) y m d := by
  have hle : day ≤ 365 := by
    unfold daysBeforeMarch at hday
    omega
  obtain ⟨hmonth, hfirst, hlast⟩ : (5 * day + 2) / 153 ≤ 11 ∧
      (153 * ((5 * day + 2) / 153) + 2) / 5 ≤ day ∧
      day < (153 * ((5 * day + 2) / 153 + 1) + 2) / 5 := by
    omega
  rw [ofMarch]
  generalize (5 * day + 2) / 153 = month at hmonth hfirst hlast ⊢
  by_cases hspring : month < 10
  · obtain ⟨y, rfl⟩ : ∃ y : Nat, year = y := Int.eq_ofNat_of_zero_le (by omega)
    refine ⟨y, month + 3, day - (153 * month + 2) / 5 + 1, ?_, ?_⟩
    · rw [if_pos hspring, if_neg (by omega), Int.add_zero]
    · have hrest : day - (153 * month + 2) / 5 <
          (153 * (month + 1) + 2) / 5 - (153 * month + 2) / 5 := by
        omega
      have hdate := isDateOf_spring y (by omega) hrest
      rwa [Nat.add_sub_cancel' hfirst] at hdate
  · obtain ⟨y, hy⟩ : ∃ y : Nat, year + 1 = y := Int.eq_ofNat_of_zero_le (by omega)
    obtain rfl : year = y - 1 := by omega
    have hfebruary : day < 366 + (if IsLeap y then 60 else 59) - 60 := by
      rw [hy, daysBeforeMarch_sub_one, daysBeforeMarch_eq] at hday
      omega
    refine ⟨y, month - 10 + 1, day - (153 * month + 2) / 5 + 1, ?_, ?_⟩
    · rw [if_neg hspring, if_pos (by omega), Int.sub_add_cancel]
      congr 1
      omega
    · have hbefore : 306 + 31 * (month - 10) = (153 * month + 2) / 5 := by omega
      have hrest : day - (153 * month + 2) / 5 < daysOfMonth y (month - 10 + 1) := by
        obtain rfl | rfl : month = 10 ∨ month = 11 := by omega
        · show _ < 31
          omega
        · show _ < if IsLeap y then 29 else 28
          split at hfebruary <;> split <;> omega
      have hdate := isDateOf_winter (by omega : month - 10 ≤ 1) hrest
      rwa [hbefore, Nat.add_sub_cancel' hfirst] at hdate

/-! ## Dates of counted days -/

/-- A day of the cycle of 400 years by its century, the span of four years in it, and the days of
the span before it. -/
structure IsInSpan (day century span rest : Nat) : Prop where
  century_le : century ≤ 3
  span_le : span ≤ 24
  rest_le : rest ≤ 1460
  eq : day = 36524 * century + 1461 * span + rest
  /-- Only the last century ends with a leap day. -/
  last : rest = 1460 → span < 24 ∨ century = 3

theorem exists_isInSpan {day : Nat} (h : day < 146097) :
    ∃ century span rest, IsInSpan day century span rest := by
  obtain ⟨century, hcentury, hlo, hhi⟩ : ∃ century, century ≤ 3 ∧ 36524 * century ≤ day ∧
      (day < 36524 * (century + 1) ∨ century = 3) := by
    refine ⟨day / 36524 - day / 146096, ?_, ?_, ?_⟩ <;> omega
  refine ⟨century, (day - 36524 * century) / 1461, (day - 36524 * century) % 1461, ?_⟩
  constructor <;> omega

/-- The year of the cycle that a day is in. -/
def yearOfCycle (day : Nat) : Nat :=
  (day - day / 1460 + day / 36524 - day / 146096) / 365

/-- Only the last of four years may have a leap day. -/
theorem IsInSpan.yearOfCycle_eq {day century span rest : Nat}
    (h : IsInSpan day century span rest) :
    yearOfCycle day = 100 * century + 4 * span + min (rest / 365) 3 := by
  obtain ⟨hcentury, hspan, hrest, rfl, hlast⟩ := h
  have hspans : (36524 * century + 1461 * span + rest) / 1460 =
      25 * century + span + (24 * century + span + rest) / 1460 := by
    omega
  have hcenturies : (36524 * century + 1461 * span + rest) / 36524 =
      century + (36524 * century + 1461 * span + rest) / 146096 := by
    obtain rfl | rfl | rfl | rfl : century = 0 ∨ century = 1 ∨ century = 2 ∨ century = 3 := by
      omega
    all_goals omega
  have hyear : (rest - (24 * century + span + rest) / 1460) / 365 = min (rest / 365) 3 := by
    omega
  have hrest' : (24 * century + span + rest) / 1460 ≤ rest := by omega
  rw [yearOfCycle, hspans, hcenturies]
  generalize (24 * century + span + rest) / 1460 = passed at *
  generalize (36524 * century + 1461 * span + rest) / 146096 = whole at *
  have hsum : 36524 * century + 1461 * span + rest - (25 * century + span + passed) +
      (century + whole) - whole = 365 * (100 * century + 4 * span) + (rest - passed) := by
    omega
  rw [hsum, Nat.mul_add_div (by decide), hyear]

/-- A day is behind the days of the years before its own, and before those of the next. -/
theorem yearOfCycle_spec {day : Nat} (hday : day < 146097) :
    yearOfCycle day < 400 ∧
      daysBeforeMarch (yearOfCycle day) ≤ day ∧ day < daysBeforeMarch (yearOfCycle day + 1) := by
  obtain ⟨century, span, rest, h⟩ := exists_isInSpan hday
  rw [h.yearOfCycle_eq]
  unfold daysBeforeMarch
  obtain ⟨hcentury, hspan, hrest, rfl, hlast⟩ := h
  obtain ⟨hlt, hle, hge⟩ : min (rest / 365) 3 ≤ 3 ∧ 365 * min (rest / 365) 3 ≤ rest ∧
      (rest < 365 * (min (rest / 365) 3 + 1) ∨ min (rest / 365) 3 = 3) := by
    omega
  generalize min (rest / 365) 3 = ofSpan at hlt hle hge ⊢
  generalize hyear : 100 * century + 4 * span + ofSpan = year
  have hfours : (year : Int) / 4 = 25 * century + span := by omega
  have hcenturies : (year : Int) / 100 = century := by omega
  have hcycles : (year : Int) / 400 = 0 := by omega
  rw [hfours, hcenturies, hcycles]
  refine ⟨by omega, by omega, ?_⟩
  omega

theorem daysBeforeMarch_add_cycles (year cycle : Int) :
    daysBeforeMarch (year + cycle * 400) = daysBeforeMarch year + 146097 * cycle := by
  unfold daysBeforeMarch
  omega

/-- **Each day that is counted has its date.** -/
theorem exists_ofDays_eq {days : Int} (h : dayNumber 0 1 1 ≤ days) :
    ∃ year month day : Nat, Date.ofDays days = ⟨year, month, day⟩ ∧
      IsDateOf days year month day := by
  obtain ⟨day, hday⟩ : ∃ n : Nat, (days + 719468) % 146097 = n :=
    Int.eq_ofNat_of_zero_le (by omega)
  have hof : Date.ofDays days = ofMarch (yearOfCycle day + (days + 719468) / 146097 * 400)
      (day - (365 * yearOfCycle day + yearOfCycle day / 4 - yearOfCycle day / 100)) := by
    rw [Date.ofDays, hday]
    rfl
  have hdays : days = 146097 * ((days + 719468) / 146097) + day - 719468 := by omega
  obtain ⟨hyear, hle, hlt⟩ := yearOfCycle_spec (by omega : day < 146097)
  rw [dayNumber, daysBeforeYear_1970] at h
  rw [hof]
  generalize yearOfCycle day = year at hyear hle hlt ⊢
  generalize (days + 719468) / 146097 = cycle at hdays ⊢
  -- the year 0 begins in the last year of a cycle
  have hfront : 0 ≤ year + cycle * 400 ∨
      year + cycle * 400 = -1 ∧ daysBeforeMarch year + 306 ≤ day := by
    by_cases hcycle : 0 ≤ cycle
    · omega
    · have hlast : year = 399 := by
        unfold daysBeforeMarch at hlt
        omega
      have hstart : daysBeforeMarch (399 : Nat) = 145731 := rfl
      have hzero : (daysBeforeYear 0 : Int) + daysBeforeMonth 0 1 = 0 := rfl
      subst hlast
      omega
  have hbefore := daysBeforeMarch_add_cycles year cycle
  have hnext := daysBeforeMarch_add_cycles (year + 1) cycle
  have hshift : (year : Int) + 1 + cycle * 400 = year + cycle * 400 + 1 := by omega
  rw [hshift] at hnext
  have hnat : daysBeforeMarch year = (365 * year + year / 4 - year / 100 : Nat) := by
    unfold daysBeforeMarch
    omega
  rw [hnat] at hle hbefore hfront
  generalize 365 * year + year / 4 - year / 100 = first at hle hbefore hfront ⊢
  have hday' : daysBeforeMarch (year + cycle * 400) + (day - first : Nat) <
      daysBeforeMarch (year + cycle * 400 + 1) := by
    omega
  obtain ⟨y, m, d, hdate, hcounted⟩ := exists_ofMarch_eq hday' (by omega)
  refine ⟨y, m, d, hdate, ?_⟩
  have hsum : daysBeforeMarch (year + cycle * 400) + (day - first : Nat) - 719468 = days := by
    omega
  rwa [hsum] at hcounted

end ServiceAdmin.Report
