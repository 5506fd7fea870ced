import ServiceAdmin.Proofs.Number.Digits
import ServiceAdmin.Proofs.Report.Calendar

/-!
# Timestamps and the instants that they tell

A moment is a second of the calendar.  A timestamp is read as the moment that its digits write, and
texts of moments are ordered as the moments are (`isStamp_lt_iff`).  What is shown of a count of
milliseconds tells the second that the count is in, also of a count before 1970
(`timestamps_tell`); local time tells the second that is ahead of it by the offset of the zone
(`exists_isLocalTime`).
-/

namespace ServiceAdmin.Report

open Number (IsDigitsOf isDigitsOf_padded padded)

/-- A second of the calendar, in a year of four digits. -/
@[ext]
structure Moment where
  year : Nat
  month : Nat
  day : Nat
  hour : Nat
  minute : Nat
  second : Nat
  year_lt : year < 10000
  month_mem : 1 ≤ month ∧ month ≤ 12
  day_mem : 1 ≤ day ∧ day ≤ daysOfMonth year month
  hour_lt : hour < 24
  minute_lt : minute < 60
  second_lt : second < 60

namespace Moment

def dayNumber (t : Moment) : Int := Report.dayNumber t.year t.month t.day

/-- Seconds since the start of 1970. -/
def seconds (t : Moment) : Int :=
  86400 * t.dayNumber + (3600 * t.hour + 60 * t.minute + t.second : Nat)

/-- Days of a week that begins with Monday; 1970 began with a Thursday. -/
def weekday (t : Moment) : Nat := ((t.dayNumber + 3) % 7).toNat

/-- The time of day, as both kinds of texts write it. -/
def IsClock (t : Moment) (text : String) : Prop :=
  ∃ h m s, IsDigitsOf 2 t.hour h ∧ IsDigitsOf 2 t.minute m ∧ IsDigitsOf 2 t.second s ∧
    text = h ++ ":" ++ m ++ ":" ++ s

/-- The text is read as the moment by RFC 3339. -/
def IsStamp (t : Moment) (text : String) : Prop :=
  ∃ y m d clock, IsDigitsOf 4 t.year y ∧ IsDigitsOf 2 t.month m ∧ IsDigitsOf 2 t.day d ∧
    t.IsClock clock ∧ text = y ++ "-" ++ m ++ "-" ++ d ++ "T" ++ clock ++ "Z"

def weekdayNames : List String := ["Mon", "Tue", "Wed", "Thu", "Fri", "Sat", "Sun"]

def monthNames : List String :=
  ["Jan", "Feb", "Mar", "Apr", "May", "Jun", "Jul", "Aug", "Sep", "Oct", "Nov", "Dec"]

/-- The text shows the moment to a human reader, with the offset of local time. -/
def IsLocalTime (t : Moment) (offset text : String) : Prop :=
  ∃ weekday d month clock y, weekdayNames[t.weekday]? = some weekday ∧ IsDigitsOf 2 t.day d ∧
    monthNames[t.month - 1]? = some month ∧ t.IsClock clock ∧ IsDigitsOf 4 t.year y ∧
    text = weekday ++ " " ++ d ++ " " ++ month ++ " " ++ clock ++ " " ++ offset ++ " " ++ y

/-! ## The order of moments -/

/-- Earlier in the first field that differs. -/
def Before (t u : Moment) : Prop :=
  t.year < u.year ∨ t.year = u.year ∧
    (t.month < u.month ∨ t.month = u.month ∧
      (t.day < u.day ∨ t.day = u.day ∧
        (t.hour < u.hour ∨ t.hour = u.hour ∧
          (t.minute < u.minute ∨ t.minute = u.minute ∧ t.second < u.second))))

variable {t u : Moment}

theorem daysBeforeMonth_add_day_le (t : Moment) :
    daysBeforeMonth t.year t.month + t.day ≤ daysOfYear t.year := by
  obtain ⟨hone, hmonth⟩ := t.month_mem
  have hyear := daysBeforeMonth_add_le t.year hone (by omega : t.month < 13)
  have hday := t.day_mem.2
  rw [daysOfYear]
  omega

theorem day_lt (t : Moment) : t.day < 100 := by
  have hle : daysOfMonth t.year t.month ≤ 31 := by
    unfold daysOfMonth
    split
    · split <;> decide
    all_goals decide
  have hday := t.day_mem.2
  omega

theorem dayNumber_lt (h : t.year < u.year ∨ t.year = u.year ∧
    (t.month < u.month ∨ t.month = u.month ∧ t.day < u.day)) : t.dayNumber < u.dayNumber := by
  have htday := t.day_mem
  have huday := u.day_mem
  unfold dayNumber Report.dayNumber
  rcases h with hyear | ⟨hyear, hmonth | ⟨hmonth, hday⟩⟩
  · have hbefore := daysBeforeYear_add_le hyear
    have := t.daysBeforeMonth_add_day_le
    omega
  · have hbefore := daysBeforeMonth_add_le t.year t.month_mem.1 hmonth
    rw [← hyear]
    omega
  · rw [hyear, hmonth]
    omega

theorem seconds_lt_of_dayNumber_lt (h : t.dayNumber < u.dayNumber) : t.seconds < u.seconds := by
  have hhour := t.hour_lt
  have hminute := t.minute_lt
  have hsecond := t.second_lt
  unfold seconds
  omega

theorem seconds_lt_of_dayNumber_eq (hday : t.dayNumber = u.dayNumber)
    (h : t.hour < u.hour ∨ t.hour = u.hour ∧
      (t.minute < u.minute ∨ t.minute = u.minute ∧ t.second < u.second)) :
    t.seconds < u.seconds := by
  have hminute := t.minute_lt
  have hsecond := t.second_lt
  unfold seconds
  omega

theorem seconds_lt_of_before (h : Before t u) : t.seconds < u.seconds := by
  by_cases hdate : t.year = u.year ∧ t.month = u.month ∧ t.day = u.day
  · obtain ⟨hyear, hmonth, hday⟩ := hdate
    have hsame : t.dayNumber = u.dayNumber := by rw [dayNumber, dayNumber, hyear, hmonth, hday]
    have hclock : t.hour < u.hour ∨ t.hour = u.hour ∧
        (t.minute < u.minute ∨ t.minute = u.minute ∧ t.second < u.second) := by
      simpa only [Before, hyear, hmonth, hday, Nat.lt_irrefl, false_or, true_and] using h
    exact seconds_lt_of_dayNumber_eq hsame hclock
  · exact seconds_lt_of_dayNumber_lt (dayNumber_lt (by unfold Before at h; omega))

theorem eq_of_not_before (htu : ¬ Before t u) (hut : ¬ Before u t) : t = u := by
  unfold Before at htu hut
  ext <;> omega

/-- Moments are in the order of their seconds. -/
theorem before_iff : Before t u ↔ t.seconds < u.seconds := by
  refine ⟨seconds_lt_of_before, fun hlt => ?_⟩
  by_cases hut : Before u t
  · have := seconds_lt_of_before hut
    omega
  · by_cases htu : Before t u
    · exact htu
    · rw [eq_of_not_before htu hut] at hlt
      omega

/-! ## The order of texts -/

theorem isClock_lt_iff {x y : String} (hx : t.IsClock x) (hy : u.IsClock y) (rest : List Char) :
    x.toList ++ rest < y.toList ++ rest ↔
      t.hour < u.hour ∨ t.hour = u.hour ∧
        (t.minute < u.minute ∨ t.minute = u.minute ∧ t.second < u.second) := by
  obtain ⟨h, m, s, hh, hm, hs, rfl⟩ := hx
  obtain ⟨h', m', s', hh', hm', hs', rfl⟩ := hy
  have hcolon : ":".toList = [':'] := rfl
  simp only [String.toList_append, List.append_assoc, hcolon, List.cons_append,
    List.nil_append]
  rw [hh.append_lt_append_iff hh', List.cons_lt_cons_self, hm.append_lt_append_iff hm',
    List.cons_lt_cons_self, hs.append_lt_append_iff hs']
  have hrest : ¬ rest < rest := List.lt_irrefl rest
  simp only [hrest, and_false, or_false]

/-- Texts are ordered as the moments that they are read as. -/
theorem isStamp_lt_iff {x y : String} (hx : t.IsStamp x) (hy : u.IsStamp y) :
    x < y ↔ t.seconds < u.seconds := by
  rw [← before_iff]
  obtain ⟨year, month, day, clock, hyear, hmonth, hday, hclock, rfl⟩ := hx
  obtain ⟨year', month', day', clock', hyear', hmonth', hday', hclock', rfl⟩ := hy
  have hhyphen : "-".toList = ['-'] := rfl
  have hletter : "T".toList = ['T'] := rfl
  rw [String.lt_iff]
  simp only [String.toList_append, List.append_assoc, hhyphen, hletter,
    List.cons_append, List.nil_append]
  rw [hyear.append_lt_append_iff hyear', List.cons_lt_cons_self,
    hmonth.append_lt_append_iff hmonth', List.cons_lt_cons_self, hday.append_lt_append_iff hday',
    List.cons_lt_cons_self, isClock_lt_iff hclock hclock']
  rfl

/-- A text is read as one moment. -/
theorem eq_of_isStamp {x : String} (ht : t.IsStamp x) (hu : u.IsStamp x) : t = u := by
  refine eq_of_not_before ?_ ?_
  · rw [before_iff, ← isStamp_lt_iff ht hu]
    exact String.lt_irrefl x
  · rw [before_iff, ← isStamp_lt_iff hu ht]
    exact String.lt_irrefl x

end Moment

/-! ## What is shown of a count -/

/-- The count is of a year from 0 to 9999. -/
def HasFourDigitYear (millis : Int) : Prop :=
  86400000 * dayNumber 0 1 1 ≤ millis ∧ millis < 86400000 * dayNumber 10000 1 1

/-- The second is of a year from 0 to 9999. -/
def IsInCalendar (seconds : Int) : Prop :=
  86400 * dayNumber 0 1 1 ≤ seconds ∧ seconds < 86400 * dayNumber 10000 1 1

theorem dayNumber_start : dayNumber 0 1 1 = -719528 := by
  rw [dayNumber, daysBeforeYear_1970]
  rfl

theorem dayNumber_10000 : dayNumber 10000 1 1 = 2932897 := by
  have hyears := daysBeforeYear_eq 10000
  have hmonths : daysBeforeMonth 10000 1 = 0 := rfl
  rw [dayNumber, daysBeforeYear_1970, hmonths]
  omega

theorem year_lt_of_dayNumber_lt {year month day : Nat}
    (h : dayNumber year month day < dayNumber 10000 1 1) : year < 10000 := by
  by_contra hle
  have hyears : daysBeforeYear 10000 ≤ daysBeforeYear year := by
    rcases Nat.lt_or_eq_of_le (Nat.not_lt.1 hle) with hlt | rfl
    · exact Nat.le_trans (Nat.le_add_right _ _) (daysBeforeYear_add_le hlt)
    · exact Nat.le_refl _
  have hmonths : daysBeforeMonth 10000 1 = 0 := rfl
  unfold dayNumber at h
  omega

theorem isDigitsOf_padded_two {n : Nat} (h : n < 100) : IsDigitsOf 2 n (padded 2 n) :=
  isDigitsOf_padded ((Nat.length_toDigits_le_iff (by decide) (by decide)).2 h)

theorem isDigitsOf_yearText {year : Nat} (h : year < 10000) :
    IsDigitsOf 4 year (yearText year) := by
  rw [yearText, if_neg (by omega), if_neg (by omega), Int.toNat_natCast]
  exact isDigitsOf_padded ((Nat.length_toDigits_le_iff (by decide) (by decide)).2 h)

/-- The names of the days come round from any one of them. -/
theorem weekdayNames_getElem? (days : Int) :
    Moment.weekdayNames[((days + 3) % 7).toNat]? = some (weekdays.getD (days % 7).toNat "") := by
  obtain h | h | h | h | h | h | h : days % 7 = 0 ∨ days % 7 = 1 ∨ days % 7 = 2 ∨ days % 7 = 3 ∨
      days % 7 = 4 ∨ days % 7 = 5 ∨ days % 7 = 6 := by
    omega
  all_goals
    rw [Int.add_emod, h]
    rfl

theorem monthNames_getElem? {month : Nat} (h : 1 ≤ month ∧ month ≤ 12) :
    Moment.monthNames[month - 1]? = some (months.getD (month - 1) "") := by
  have hnames : Moment.monthNames = months := rfl
  have hlt : month - 1 < months.length := by
    show month - 1 < 12
    omega
  rw [hnames, List.getD_eq_getElem?_getD, List.getElem?_eq_getElem hlt, Option.getD_some]

theorem fdiv_eq (millis : Int) : millis.fdiv 1000 = millis / 1000 :=
  Int.fdiv_eq_ediv_of_nonneg _ (by decide)

theorem HasFourDigitYear.isInCalendar {millis : Int} (h : HasFourDigitYear millis) :
    IsInCalendar (millis / 1000) := by
  obtain ⟨hfrom, hto⟩ := h
  exact ⟨by omega, by omega⟩

/-- The moment of a date and of the seconds of a day. -/
theorem exists_moment {seconds : Int} (h : IsInCalendar seconds) :
    ∃ t : Moment, t.seconds = seconds ∧
      Instant.ofSeconds seconds =
        ⟨⟨t.year, t.month, t.day⟩, t.dayNumber, t.hour, t.minute, t.second⟩ := by
  obtain ⟨hfrom, hto⟩ := h
  obtain ⟨ofDay, hofDay⟩ : ∃ n : Nat, seconds % 86400 = n :=
    Int.eq_ofNat_of_zero_le (by omega)
  have hstart : dayNumber 0 1 1 ≤ seconds / 86400 := by omega
  have hend : seconds / 86400 < dayNumber 10000 1 1 := by omega
  obtain ⟨year, month, day, hdate, hmonth, hday, hnumber⟩ := exists_ofDays_eq hstart
  rw [← hnumber] at hend
  refine ⟨⟨year, month, day, ofDay / 3600, ofDay / 60 % 60, ofDay % 60,
    year_lt_of_dayNumber_lt hend, hmonth, hday, by omega, by omega, by omega⟩, ?_, ?_⟩
  · have hclock : 3600 * (ofDay / 3600) + 60 * (ofDay / 60 % 60) + ofDay % 60 = ofDay := by omega
    show 86400 * dayNumber year month day +
      ((3600 * (ofDay / 3600) + 60 * (ofDay / 60 % 60) + ofDay % 60 : Nat) : Int) = _
    rw [hclock, hnumber, ← hofDay]
    omega
  · rw [Instant.ofSeconds, hofDay, hdate, Moment.dayNumber, hnumber]
    rfl

section Texts

variable {millis : Int} {t : Moment}

theorem isClock_clockText {instant : Instant} (hhour : instant.hour = t.hour)
    (hminute : instant.minute = t.minute) (hsecond : instant.second = t.second) :
    t.IsClock (clockText instant) := by
  refine ⟨_, _, _, isDigitsOf_padded_two ?_, isDigitsOf_padded_two ?_, isDigitsOf_padded_two ?_, ?_⟩
  · exact Nat.lt_trans t.hour_lt (by decide)
  · exact Nat.lt_trans t.minute_lt (by decide)
  · exact Nat.lt_trans t.second_lt (by decide)
  · rw [clockText, hhour, hminute, hsecond]

theorem le_of_hasFourDigitYear (h : HasFourDigitYear millis) :
    firstMillis ≤ millis ∧ millis ≤ lastMillis := by
  obtain ⟨hfrom, hto⟩ := h
  rw [dayNumber_start] at hfrom
  rw [dayNumber_10000] at hto
  unfold firstMillis lastMillis
  omega

theorem isStamp_rfc3339 (h : HasFourDigitYear millis)
    (ht : Instant.ofSeconds (millis / 1000) =
      ⟨⟨t.year, t.month, t.day⟩, t.dayNumber, t.hour, t.minute, t.second⟩) :
    t.IsStamp (rfc3339 millis) := by
  rw [rfc3339, if_pos (le_of_hasFourDigitYear h), ht]
  exact ⟨_, _, _, _, isDigitsOf_yearText t.year_lt,
    isDigitsOf_padded_two (Nat.lt_of_le_of_lt t.month_mem.2 (by decide)),
    isDigitsOf_padded_two t.day_lt, isClock_clockText rfl rfl rfl, rfl⟩

theorem isLocalTime_localTime (zone : Zone) (h : firstMillis ≤ millis ∧ millis ≤ lastMillis)
    (ht : Instant.ofSeconds (millis / 1000 + zone (millis / 1000)) =
      ⟨⟨t.year, t.month, t.day⟩, t.dayNumber, t.hour, t.minute, t.second⟩) :
    t.IsLocalTime (offsetText (zone (millis / 1000))) (localTime zone millis) := by
  rw [localTime, if_pos h]
  dsimp only
  rw [ht]
  exact ⟨_, _, _, _, _, weekdayNames_getElem? t.dayNumber, isDigitsOf_padded_two t.day_lt,
    monthNames_getElem? t.month_mem, isClock_clockText rfl rfl rfl, isDigitsOf_yearText t.year_lt,
    rfl⟩

end Texts

/-- **Local time is ahead of UTC by the offset of the zone.** -/
theorem exists_isLocalTime (zone : Zone) {millis : Int}
    (h : firstMillis ≤ millis ∧ millis ≤ lastMillis)
    (hzone : IsInCalendar (millis / 1000 + zone (millis / 1000))) :
    ∃ t : Moment, t.seconds = millis / 1000 + zone (millis / 1000) ∧
      t.IsLocalTime (offsetText (zone (millis / 1000))) (localTime zone millis) := by
  obtain ⟨t, hseconds, ht⟩ := exists_moment hzone
  exact ⟨t, hseconds, isLocalTime_localTime zone h ht⟩

/-- **Timestamps tell the second that they were made from.** -/
theorem timestamps_tell {millis : Int} (h : HasFourDigitYear millis) :
    ∃ t : Moment, t.seconds = millis.fdiv 1000 ∧
      (∀ u : Moment, u.IsStamp (rfc3339 millis) ↔ u = t) ∧
      t.IsLocalTime "+00:00" (localTime Zone.utc millis) ∧
      ∀ millis', HasFourDigitYear millis' →
        (rfc3339 millis < rfc3339 millis' ↔ millis.fdiv 1000 < millis'.fdiv 1000) := by
  obtain ⟨t, hseconds, ht⟩ := exists_moment h.isInCalendar
  have hstamp := isStamp_rfc3339 h ht
  have hlocal := isLocalTime_localTime Zone.utc (le_of_hasFourDigitYear h)
    (by rw [Zone.utc, Int.add_zero, ht])
  have hoffset : offsetText (Zone.utc (millis / 1000)) = "+00:00" := by
    rw [Zone.utc]
    decide
  rw [hoffset] at hlocal
  refine ⟨t, hseconds.trans (fdiv_eq millis).symm,
    fun u => ⟨fun hu => Moment.eq_of_isStamp hu hstamp, ?_⟩, hlocal, ?_⟩
  · rintro rfl
    exact hstamp
  · intro millis' h'
    obtain ⟨t', hseconds', ht'⟩ := exists_moment h'.isInCalendar
    rw [Moment.isStamp_lt_iff hstamp (isStamp_rfc3339 h' ht'), hseconds, hseconds', fdiv_eq,
      fdiv_eq]

/-- A millisecond before a day that would be a leap day if no century were left out. -/
theorem timestamps_tell_february :
    HasFourDigitYear (-2203891200001) ∧ ∃ t : Moment, t.seconds = -2203891201 ∧
      (∀ u : Moment, u.IsStamp "1900-02-28T23:59:59Z" ↔ u = t) ∧
      t.IsLocalTime "+00:00" "Wed 28 Feb 23:59:59 +00:00 1900" := by
  have h : HasFourDigitYear (-2203891200001) := by
    rw [HasFourDigitYear, dayNumber_start, dayNumber_10000]
    decide
  have hstamp : rfc3339 (-2203891200001) = "1900-02-28T23:59:59Z" := by decide +kernel
  have hlocal : localTime Zone.utc (-2203891200001) = "Wed 28 Feb 23:59:59 +00:00 1900" := by
    decide +kernel
  obtain ⟨t, hseconds, hread, hshown, -⟩ := timestamps_tell h
  rw [hstamp] at hread
  rw [hlocal] at hshown
  exact ⟨h, t, hseconds, hread, hshown⟩

end ServiceAdmin.Report
