import ServiceAdmin.Proofs.Text.Ascii
import ServiceAdmin.Report.View

/-!
# Texts on one line

Numbers, sizes and times have no line feeds, and neither has a text in lower case that had none
before, so that what a report shows of an application is as unbroken as the texts that it tells.
-/

namespace ServiceAdmin.Report

open Number (padded Binary64)

/-- The text has no line feed. -/
def IsOneLine (s : String) : Prop := '\n' ∉ s.toList

instance (s : String) : Decidable (IsOneLine s) := inferInstanceAs (Decidable (_ ∉ _))

theorem IsOneLine.append {s t : String} (hs : IsOneLine s) (ht : IsOneLine t) :
    IsOneLine (s ++ t) := by
  rw [IsOneLine, String.toList_append, List.mem_append]
  exact not_or.2 ⟨hs, ht⟩

theorem isOneLine_intercalate {sep : String} (hsep : IsOneLine sep) {texts : List String}
    (h : ∀ s ∈ texts, IsOneLine s) : IsOneLine (sep.intercalate texts) := by
  induction texts with
  | nil => exact List.not_mem_nil
  | cons s texts ih =>
    obtain ⟨hs, hrest⟩ := List.forall_mem_cons.1 h
    by_cases hnil : texts = []
    · rw [hnil, String.intercalate_singleton]
      exact hs
    · rw [String.intercalate_cons_of_ne_nil hnil]
      exact (hs.append hsep).append (ih hrest)

/-- A text from a list that may have been left at its end. -/
theorem isOneLine_getD {texts : List String} (h : ∀ s ∈ texts, IsOneLine s) (i : Nat) :
    IsOneLine (texts.getD i "") := by
  rw [List.getD_eq_getElem?_getD]
  cases hi : texts[i]? with
  | none => decide
  | some s => exact h s (List.mem_of_getElem? hi)

/-! ## Numbers -/

theorem notMem_toDigits (n : Nat) : '\n' ∉ Nat.toDigits 10 n := fun h =>
  Bool.false_ne_true (Nat.isDigit_of_mem_toDigits (by decide) (by decide) h)

theorem isOneLine_nat (n : Nat) : IsOneLine (toString n) := by
  rw [IsOneLine, Nat.toString_eq_ofList_toDigits, String.toList_ofList]
  exact notMem_toDigits n

theorem isOneLine_int : ∀ i : Int, IsOneLine (toString i)
  | .ofNat n => isOneLine_nat n
  | .negSucc n => (by decide : IsOneLine "-").append (isOneLine_nat (n + 1))

theorem isOneLine_padded (width n : Nat) : IsOneLine (padded width n) := by
  rw [IsOneLine, padded, String.toList_ofList, List.mem_append]
  refine not_or.2 ⟨fun h => ?_, notMem_toDigits n⟩
  exact absurd (List.eq_of_mem_replicate h) (by decide)

theorem isOneLine_fixed (places : Nat) (x : Binary64) : IsOneLine (x.fixed places) := by
  have hsign : IsOneLine (if x.negative then "-" else "") := by split <;> decide
  rw [Binary64.fixed]
  split
  · exact hsign.append (by decide)
  · exact ((hsign.append (isOneLine_nat _)).append (by decide)).append (isOneLine_padded _ _)

/-! ## Sizes and times -/

theorem isOneLine_scaleToUnit (size : Number.Magnitude) {units : List String}
    (h : ∀ unit ∈ units, IsOneLine unit) : IsOneLine (scaleToUnit size units).2 := by
  induction units generalizing size with
  | nil => exact List.not_mem_nil
  | cons unit greater ih =>
    cases greater with
    | nil => exact h unit List.mem_cons_self
    | cons next greater =>
      rw [scaleToUnit.eq_3 _ _ _ (List.cons_ne_nil _ _)]
      split
      · exact h unit List.mem_cons_self
      · exact ih _ fun other hother => h other (List.mem_cons_of_mem unit hother)

theorem isOneLine_byteSize (bytes : Nat) : IsOneLine (byteSize bytes) := by
  have hunit : IsOneLine (scaleToUnit (Number.Magnitude.ofNat bytes) units).2 :=
    isOneLine_scaleToUnit _ (by decide)
  rw [byteSize]
  generalize scaleToUnit (Number.Magnitude.ofNat bytes) units = scaled at hunit ⊢
  obtain ⟨size, unit⟩ := scaled
  refine (IsOneLine.append ?_ (by decide)).append hunit
  split
  · split
    · exact isOneLine_nat _
    · decide
  · exact isOneLine_fixed 2 _

theorem isOneLine_clockText (t : Instant) : IsOneLine (clockText t) :=
  ((((isOneLine_padded _ _).append (by decide)).append (isOneLine_padded _ _)).append
    (by decide)).append (isOneLine_padded _ _)

theorem isOneLine_yearText (year : Int) : IsOneLine (yearText year) := by
  rw [yearText]
  split
  · exact IsOneLine.append (by decide) (isOneLine_padded _ _)
  · split
    · exact IsOneLine.append (by decide) (isOneLine_padded _ _)
    · exact isOneLine_padded _ _

theorem isOneLine_rfc3339 (millis : Int) : IsOneLine (rfc3339 millis) := by
  rw [rfc3339]
  split
  · have hyear := isOneLine_yearText (Instant.ofSeconds (millis / 1000)).date.year
    refine IsOneLine.append (IsOneLine.append (IsOneLine.append ?_ (by decide))
      (isOneLine_clockText _)) (by decide)
    exact (((hyear.append (by decide)).append (isOneLine_padded _ _)).append (by decide)).append
      (isOneLine_padded _ _)
  · exact isOneLine_int millis

theorem isOneLine_offsetText (offset : Int) : IsOneLine (offsetText offset) := by
  have hsign : IsOneLine (if offset < 0 then "-" else "+") := by
    split <;> decide
  refine (((hsign.append (isOneLine_padded _ _)).append (by decide)).append
    (isOneLine_padded _ _)).append ?_
  split
  · decide
  · exact IsOneLine.append (by decide) (isOneLine_padded _ _)

theorem isOneLine_localTime (zone : Zone) (millis : Int) : IsOneLine (localTime zone millis) := by
  rw [localTime]
  split
  · have hweekday (i : Nat) : IsOneLine (weekdays.getD i "") := isOneLine_getD (by decide) i
    have hmonth (i : Nat) : IsOneLine (months.getD i "") := isOneLine_getD (by decide) i
    refine IsOneLine.append (IsOneLine.append (IsOneLine.append (IsOneLine.append
      (IsOneLine.append (IsOneLine.append ?_ (by decide)) (isOneLine_clockText _)) (by decide))
      (isOneLine_offsetText _)) (by decide)) (isOneLine_yearText _)
    exact (((hweekday _).append (by decide)).append (isOneLine_padded _ _)).append
      (by decide) |>.append (hmonth _)
  · exact isOneLine_int millis

/-! ## Lower case -/

theorem lowerOf_ne {n : Nat} (hn : n ≠ 10) {runs : List Text.CaseRun}
    (h : ∀ r ∈ runs, 10 < r.image) : Text.lowerOf n runs ≠ 10 := by
  induction runs with
  | nil => exact hn
  | cons r runs ih =>
    obtain ⟨hr, hrest⟩ := List.forall_mem_cons.1 h
    rw [Text.lowerOf]
    split
    · omega
    · exact ih hrest

theorem ofNat_ne_lineFeed {n : Nat} (hn : n ≠ 10) : Char.ofNat n ≠ '\n' := by
  intro h
  have hcode : (Char.ofNat n).toNat = 10 := congrArg Char.toNat h
  rcases Text.toNat_ofNat_cases n with heq | heq <;> omega

theorem lineFeed_notMem_lowerAfter {before s : List Char} (h : '\n' ∉ s) :
    '\n' ∉ Text.lowerAfter before s := by
  induction s generalizing before with
  | nil => exact List.not_mem_nil
  | cons c s ih =>
    obtain ⟨hc, hs⟩ := not_or.1 (mt List.mem_cons.2 h)
    rw [Text.lowerAfter, List.mem_append]
    refine not_or.2 ⟨?_, ih hs⟩
    split
    · decide
    split
    · split <;> decide
    · -- no character is mapped to a line feed
      have hcode : c.toNat ≠ 10 := fun hten =>
        hc (by rw [← Char.ofNat_toNat c, hten])
      have hruns : ∀ r ∈ Text.lowerRuns, 10 < r.image := by decide +kernel
      exact fun hmem => ofNat_ne_lineFeed (lowerOf_ne hcode hruns) (List.mem_singleton.1 hmem).symm

theorem isOneLine_lowercase {s : String} (h : IsOneLine s) : IsOneLine (Text.lowercase s) := by
  rw [IsOneLine, Text.lowercase, String.toList_ofList]
  exact lineFeed_notMem_lowerAfter h

end ServiceAdmin.Report
