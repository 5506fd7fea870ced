import ServiceAdmin.Proofs.Diagnostics.Preview

/-!
# Previews are excerpts

A preview shows the line of a text, or of its front with three dots behind it if the text is cut
(`exists_isShown`).  So it is one line without blanks around it, which is never empty, is hardly
longer than the limit, and is the whole line of a short text (`preview_isExcerpt`).
-/

namespace ServiceAdmin.Diagnostics

open Text (isBlank IsTrimmed)
open Text.Utf8 (size)

/-- The text is cut: what is written of its front leaves no room for the character behind it. -/
def IsCut (limit : Nat) (s : List Char) : Prop :=
  ∃ front c rest, s = front ++ c :: rest ∧ limit ≤ size (joined false front)

/-- What may be shown of a text that is not blank. -/
structure IsExcerpt (limit : Nat) (text shown : String) : Prop where
  nonempty : shown ≠ ""
  oneLine : ∀ c ∈ shown.toList, c ≠ '\n' ∧ c ≠ '\r' ∧ c ≠ '\t'
  trimmed : IsTrimmed shown.toList
  bounded : shown.utf8ByteSize ≤ limit + 6
  marked : IsCut limit text.toList → ['.', '.', '.'] <:+ shown.toList
  whole : ¬ IsCut limit text.toList → shown.toList = Text.trimChars (joined false text.toList)
  lossless : size (joined false text.toList) < limit →
    shown.toList = Text.trimChars (joined false text.toList)

/-! ## Octets -/

theorem size_cons (c : Char) (s : List Char) : size (c :: s) = c.utf8Size + size s := rfl

theorem size_append (s t : List Char) : size (s ++ t) = size s + size t := by
  induction s with
  | nil => exact (Nat.zero_add _).symm
  | cons c s ih =>
    rw [List.cons_append, size_cons, size_cons, ih]
    omega

theorem size_le_of_infix {s t : List Char} (h : s <:+: t) : size s ≤ size t := by
  obtain ⟨a, b, rfl⟩ := h
  rw [size_append, size_append]
  omega

theorem utf8ByteSize_ofList (s : List Char) : (String.ofList s).utf8ByteSize = size s := by
  induction s with
  | nil => rfl
  | cons c s ih =>
    rw [← List.singleton_append, String.ofList_append, String.utf8ByteSize_append, ih,
      List.singleton_append, size_cons, ← String.singleton_eq_ofList, String.utf8ByteSize_singleton]

/-! ## Lines -/

theorem not_isLineBreak_of_mem_joined {spaced : Bool} {s : List Char} {c : Char}
    (h : c ∈ joined spaced s) : isLineBreak c = false := by
  induction s generalizing spaced with
  | nil => cases h
  | cons d s ih =>
    rw [joined] at h
    split at h
    · split at h
      · exact ih h
      · rcases List.mem_cons.1 h with rfl | h
        · decide
        · exact ih h
    · next hd =>
      rcases List.mem_cons.1 h with rfl | h
      · exact Bool.eq_false_iff.2 hd
      · exact ih h

theorem mem_joined {spaced : Bool} {s : List Char} {c : Char} (hc : isLineBreak c = false)
    (h : c ∈ s) : c ∈ joined spaced s := by
  induction s generalizing spaced with
  | nil => cases h
  | cons d s ih =>
    rw [joined]
    rcases List.mem_cons.1 h with rfl | h
    · rw [if_neg (Bool.eq_false_iff.1 hc)]
      exact List.mem_cons_self
    · split
      · split
        · exact ih h
        · exact List.mem_cons_of_mem _ (ih h)
      · exact List.mem_cons_of_mem _ (ih h)

theorem isPrefix_joined (spaced : Bool) (s t : List Char) :
    joined spaced s <+: joined spaced (s ++ t) := by
  induction s generalizing spaced with
  | nil => exact List.nil_prefix
  | cons c s ih =>
    rw [List.cons_append, joined, joined]
    split
    · split
      · exact ih true
      · exact List.cons_prefix_cons.2 ⟨rfl, ih true⟩
    · exact List.cons_prefix_cons.2 ⟨rfl, ih _⟩

/-! ## The front that is shown -/

/-- What is shown of a text that is a front and the rest, behind `n` octets. -/
structure IsShown (limit n : Nat) (spaced : Bool) (front rest shown : List Char) : Prop where
  eq : shown = joined spaced front ++ if rest = [] then [] else ['.', '.', '.']
  bounded : n + size (joined spaced front) < limit + 4
  cut : rest ≠ [] → limit ≤ n + size (joined spaced front)
  /-- There was room for each character of the front. -/
  roomy : ∀ a c, a ++ [c] <+: front → n + size (joined spaced a) < limit

/-- A character in front that writes `word`. -/
theorem IsShown.cons {limit n : Nat} {spaced spaced' : Bool} {front rest shown word : List Char}
    {c : Char} (h : IsShown limit (n + size word) spaced' front rest shown) (hn : n < limit)
    (hword : ∀ t, joined spaced (c :: t) = word ++ joined spaced' t) :
    IsShown limit n spaced (c :: front) rest (word ++ shown) := by
  have hsize (t : List Char) :
      n + size (joined spaced (c :: t)) = n + size word + size (joined spaced' t) := by
    rw [hword, size_append, Nat.add_assoc]
  refine ⟨?_, hsize front ▸ h.bounded, hsize front ▸ h.cut, ?_⟩
  · rw [h.eq, hword, List.append_assoc]
  · intro a d hfront
    cases a with
    | nil => exact hn
    | cons e a =>
      rw [List.cons_append, List.cons_prefix_cons] at hfront
      rw [hfront.1, hsize]
      exact h.roomy a d hfront.2

theorem exists_isShown {limit n : Nat} (hn : n < limit + 4) (spaced : Bool) (s : List Char) :
    ∃ front rest, s = front ++ rest ∧
      IsShown limit n spaced front rest (previewFrom limit n spaced s) := by
  have hnil (a : List Char) (c : Char) : ¬ a ++ [c] <+: [] := by simp
  induction s generalizing n spaced with
  | nil => exact ⟨[], [], rfl, rfl, hn, fun h => absurd rfl h, fun a c h => absurd h (hnil a c)⟩
  | cons c s ih =>
    by_cases hlimit : limit ≤ n
    · refine ⟨[], c :: s, rfl, ?_, hn, fun _ => hlimit, fun a d h => absurd h (hnil a d)⟩
      rw [previewFrom, if_pos hlimit, if_neg (List.cons_ne_nil c s)]
      rfl
    have hstep (spaced' : Bool) (word : List Char) (hsize : size word ≤ 4)
        (hfrom : previewFrom limit n spaced (c :: s) =
          word ++ previewFrom limit (n + size word) spaced' s)
        (hword : ∀ t, joined spaced (c :: t) = word ++ joined spaced' t) :
        ∃ front rest, c :: s = front ++ rest ∧
          IsShown limit n spaced front rest (previewFrom limit n spaced (c :: s)) := by
      obtain ⟨front, rest, rfl, hshown⟩ := ih (n := n + size word) (by omega) spaced'
      exact ⟨c :: front, rest, rfl, hfrom ▸ hshown.cons (Nat.not_le.1 hlimit) hword⟩
    by_cases hbreak : isLineBreak c = true
    · cases spaced with
      | true =>
        refine hstep true [] (by decide) ?_ fun t => ?_
        · rw [previewFrom, if_neg hlimit, if_pos hbreak, if_pos rfl]
          rfl
        · rw [joined, if_pos hbreak, if_pos rfl, List.nil_append]
      | false =>
        refine hstep true [' '] (by decide) ?_ fun t => ?_
        · rw [previewFrom, if_neg hlimit, if_pos hbreak, if_neg Bool.false_ne_true]
          rfl
        · rw [joined, if_pos hbreak, if_neg Bool.false_ne_true, List.singleton_append]
    · refine hstep (c = ' ') [c] c.utf8Size_le_four ?_ fun t => ?_
      · rw [previewFrom, if_neg hlimit, if_neg hbreak]
        rfl
      · rw [joined, if_neg hbreak, List.singleton_append]

/-- Something is left behind the front just if the text is cut. -/
theorem IsShown.isCut_iff {limit : Nat} {front rest shown : List Char}
    (h : IsShown limit 0 false front rest shown) : IsCut limit (front ++ rest) ↔ rest ≠ [] := by
  constructor
  · rintro ⟨a, c, b, heq, hlimit⟩ rfl
    have := h.roomy a c ⟨b, by simpa using heq.symm⟩
    omega
  · intro hrest
    have hlimit := h.cut hrest
    rw [Nat.zero_add] at hlimit
    obtain ⟨c, rest, rfl⟩ := List.exists_cons_of_ne_nil hrest
    exact ⟨front, c, rest, rfl, hlimit⟩

theorem IsShown.not_isLineBreak {limit n : Nat} {spaced : Bool} {front rest shown : List Char}
    (h : IsShown limit n spaced front rest shown) {c : Char} (hc : c ∈ shown) :
    isLineBreak c = false := by
  rw [h.eq] at hc
  rcases List.mem_append.1 hc with hc | hc
  · exact not_isLineBreak_of_mem_joined hc
  · split at hc
    · cases hc
    · have hdots : ∀ d ∈ ['.', '.', '.'], isLineBreak d = false := by decide
      exact hdots c hc

theorem IsShown.size_le {limit n : Nat} {spaced : Bool} {front rest shown : List Char}
    (h : IsShown limit n spaced front rest shown) : n + size shown ≤ limit + 6 := by
  have hdots : size (if rest = [] then [] else ['.', '.', '.']) ≤ 3 := by
    split <;> decide
  have := h.bounded
  rw [h.eq, size_append]
  omega

/-! ## Trimming what is shown -/

theorem trimChars_dots (s : List Char) :
    Text.trimChars (s ++ ['.', '.', '.']) = s.dropWhile isBlank ++ ['.', '.', '.'] := by
  rw [Text.trimChars, Text.trimStartChars, Text.dropWhile_append_cons (by decide),
    Text.trimEndChars_append_cons (by decide)]
  rfl

/-- A text that is not blank writes something that is not blank. -/
theorem trimChars_joined_ne_nil {s : List Char} (h : s.all isBlank = false) (spaced : Bool) :
    Text.trimChars (joined spaced s) ≠ [] := by
  obtain ⟨c, hc, hblank⟩ := List.all_eq_false.1 h
  have hbreak : isLineBreak c = false := by
    refine Bool.eq_false_iff.2 fun hbreak => hblank ?_
    simp only [isLineBreak, Bool.or_eq_true, decide_eq_true_eq] at hbreak
    rcases hbreak with (rfl | rfl) | rfl <;> decide
  intro hnil
  exact hblank (List.all_eq_true.1 (Text.trimChars_eq_nil_iff.1 hnil) c (mem_joined hbreak hc))

/-- **A preview is an excerpt**: one short line, which is all of a text that is short. -/
theorem preview_isExcerpt (text : String) (limit : Nat) :
    if Text.isAllBlank text then preview text limit = "<empty>"
    else IsExcerpt limit text (preview text limit) := by
  split
  · next hblank => rw [preview, if_pos hblank]
  next hblank =>
  obtain ⟨front, rest, htext, hshown⟩ :=
    exists_isShown (by omega : 0 < limit + 4) false text.toList
  have hcut : IsCut limit text.toList ↔ rest ≠ [] := htext ▸ hshown.isCut_iff
  have hpreview : (preview text limit).toList =
      Text.trimChars (previewFrom limit 0 false text.toList) := by
    rw [preview, if_neg hblank, String.toList_ofList]
  have hmarked (h : IsCut limit text.toList) :
      (preview text limit).toList = (joined false front).dropWhile isBlank ++ ['.', '.', '.'] := by
    rw [hpreview, hshown.eq, if_neg (hcut.1 h), trimChars_dots]
  have hwhole (h : ¬ IsCut limit text.toList) :
      (preview text limit).toList = Text.trimChars (joined false text.toList) := by
    have hrest : rest = [] := not_not.1 (mt hcut.2 h)
    rw [hpreview, hshown.eq, htext, if_pos hrest, hrest, List.append_nil, List.append_nil]
  exact {
    nonempty := by
      rw [ne_eq, ← String.toList_eq_nil_iff]
      by_cases h : IsCut limit text.toList
      · rw [hmarked h]
        simp
      · rw [hwhole h]
        exact trimChars_joined_ne_nil (Bool.eq_false_iff.2 hblank) false
    oneLine := by
      intro c hc
      rw [hpreview] at hc
      have hline := hshown.not_isLineBreak ((Text.isInfix_trimChars _).mem hc)
      simpa [isLineBreak, and_assoc] using hline
    trimmed := by
      rw [hpreview]
      exact Text.isTrimmed_trimChars _
    bounded := by
      have hsize :=
        size_le_of_infix (Text.isInfix_trimChars (previewFrom limit 0 false text.toList))
      have := hshown.size_le
      rw [← hpreview, ← utf8ByteSize_ofList, String.ofList_toList] at hsize
      omega
    marked := by
      intro h
      rw [hmarked h]
      exact List.suffix_append _ _
    whole := hwhole
    lossless := by
      intro hsize
      refine hwhole fun h => ?_
      have hfront := size_le_of_infix (htext ▸ isPrefix_joined false front rest).isInfix
      have := hshown.cut (hcut.1 h)
      omega }

end ServiceAdmin.Diagnostics
