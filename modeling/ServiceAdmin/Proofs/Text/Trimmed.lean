import Mathlib.Data.List.TakeWhile
import ServiceAdmin.Proofs.Text.Runs
import ServiceAdmin.Text.Blank

/-!
# Blanks around a text

Blanks that are put around a text are trimmed away again, and a text without blanks at its ends is
left as it is.
-/

namespace ServiceAdmin.Text

variable {a b s : List Char}

/-- The text has no blank at its ends. -/
structure IsTrimmed (s : List Char) : Prop where
  front : ∀ c ∈ s.head?, isBlank c = false
  back : ∀ c ∈ s.getLast?, isBlank c = false

theorem trimEndChars_append (hb : ∀ c ∈ b, isBlank c = true) (s : List Char) :
    trimEndChars (s ++ b) = trimEndChars s := by
  rw [trimEndChars, trimEndChars, List.reverse_append,
    List.dropWhile_append_of_pos fun c hc => hb c (List.mem_reverse.1 hc)]

theorem trimEndChars_append_cons {c : Char} (hc : isBlank c = false) (a s : List Char) :
    trimEndChars (a ++ c :: s) = a ++ c :: trimEndChars s := by
  rw [trimEndChars, List.reverse_append, List.reverse_cons, List.append_assoc,
    List.singleton_append, dropWhile_append_cons hc, List.reverse_append, List.reverse_cons,
    List.reverse_reverse, trimEndChars, List.append_assoc, List.singleton_append]

/-- Blanks at both ends make no difference. -/
theorem trimChars_append (ha : ∀ c ∈ a, isBlank c = true) (hb : ∀ c ∈ b, isBlank c = true)
    (s : List Char) : trimChars (a ++ (s ++ b)) = trimChars s := by
  rw [trimChars, trimChars, trimStartChars, trimStartChars, List.dropWhile_append_of_pos ha]
  by_cases hs : s.all isBlank = true
  · have hall : ∀ c ∈ s ++ b, isBlank c = true := by
      intro c hc
      rcases List.mem_append.1 hc with hc | hc
      · exact List.all_eq_true.1 hs c hc
      · exact hb c hc
    rw [dropWhile_of_forall hall, dropWhile_of_forall (List.all_eq_true.1 hs)]
  · rw [dropWhile_append (Bool.eq_false_iff.2 hs), trimEndChars_append hb]

theorem trimChars_of_isTrimmed (h : IsTrimmed s) : trimChars s = s := by
  rw [trimChars, trimStartChars, dropWhile_of_head h.front, trimEndChars,
    dropWhile_of_head (by simpa using h.back), List.reverse_reverse]

/-- A text is recovered from between blanks. -/
theorem trimChars_padded (ha : ∀ c ∈ a, isBlank c = true) (hb : ∀ c ∈ b, isBlank c = true)
    (h : IsTrimmed s) : trimChars (a ++ (s ++ b)) = s := by
  rw [trimChars_append ha hb, trimChars_of_isTrimmed h]

theorem isPrefix_trimEndChars (s : List Char) : trimEndChars s <+: s := by
  rw [trimEndChars, ← List.reverse_suffix, List.reverse_reverse]
  exact List.dropWhile_suffix _

theorem isInfix_trimChars (s : List Char) : trimChars s <:+: s :=
  (isPrefix_trimEndChars _).isInfix.trans (List.dropWhile_suffix _).isInfix

theorem isTrimmed_trimChars (s : List Char) : IsTrimmed (trimChars s) where
  front := by
    intro c hc
    -- what is left at the front is there before the back is trimmed
    obtain ⟨rest, hrest⟩ := isPrefix_trimEndChars (trimStartChars s)
    have hhead : c ∈ (s.dropWhile isBlank).head? := by
      rw [← trimStartChars, ← hrest, List.head?_append, ← trimChars, Option.mem_def.1 hc]
      rfl
    exact of_mem_head?_dropWhile hhead
  back := by
    intro c hc
    rw [trimChars, trimEndChars, List.getLast?_reverse] at hc
    exact of_mem_head?_dropWhile hc

/-- Nothing is left of blanks, and something of every other text. -/
theorem trimChars_eq_nil_iff : trimChars s = [] ↔ s.all isBlank = true := by
  rw [List.all_eq_true]
  constructor
  · intro h c hc
    rw [trimChars, trimEndChars, List.reverse_eq_nil_iff, List.dropWhile_eq_nil_iff] at h
    rw [← List.takeWhile_append_dropWhile (p := isBlank) (l := s)] at hc
    rcases List.mem_append.1 hc with hc | hc
    · exact List.mem_takeWhile_imp hc
    · exact h c (List.mem_reverse.2 hc)
  · intro h
    rw [trimChars, trimStartChars, dropWhile_of_forall h]
    rfl

end ServiceAdmin.Text
