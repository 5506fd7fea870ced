import ServiceAdmin.Text.Blank

/-!
# Words in texts

A word occurs in a text as consecutive characters (`contains_iff`).  A word without the character
that stands between two texts occurs in one of the two (`infix_append_cons_iff`).
-/

namespace ServiceAdmin.Text

theorem occursIn_iff {word s : List Char} : occursIn word s = true ↔ word <:+: s := by
  induction s with
  | nil => rw [occursIn, List.isEmpty_iff, List.infix_nil]
  | cons c s ih =>
    rw [occursIn, Bool.or_eq_true, List.isPrefixOf_iff_prefix, ih, List.infix_cons_iff]

theorem contains_iff {text word : String} :
    contains text word = true ↔ word.toList <:+: text.toList := occursIn_iff

/-- **A word that does not have the character between two texts is in one of them.** -/
theorem infix_append_cons_iff {word a b : List Char} {c : Char} (hc : c ∉ word) :
    word <:+: a ++ c :: b ↔ word <:+: a ∨ word <:+: b := by
  constructor
  · intro h
    rcases List.infix_append_iff.1 h with h | h | ⟨front, back, rfl, hfront, hback⟩
    · exact .inl h
    · rcases List.infix_cons_iff.1 h with h | h
      · rcases List.prefix_cons_iff.1 h with rfl | ⟨rest, rfl, -⟩
        · exact .inl List.nil_infix
        · exact absurd List.mem_cons_self hc
      · exact .inr h
    · -- the word goes over the character, or ends before it
      rcases List.prefix_cons_iff.1 hback with rfl | ⟨rest, rfl, -⟩
      · rw [List.append_nil]
        exact .inl hfront.isInfix
      · exact absurd (List.mem_append_right front List.mem_cons_self) hc
  · rintro (h | h)
    · exact List.infix_append_of_infix_left h
    · exact List.infix_append_of_infix_right (List.infix_cons h)

/-- A word that does not begin with a character is not found there. -/
theorem infix_cons_iff_of_head {word s : List Char} {c : Char} (hne : word ≠ [])
    (hc : word.head? ≠ some c) : word <:+: c :: s ↔ word <:+: s := by
  rw [List.infix_cons_iff]
  refine or_iff_right fun h => ?_
  rcases List.prefix_cons_iff.1 h with rfl | ⟨rest, rfl, -⟩
  · exact hne rfl
  · exact hc rfl

end ServiceAdmin.Text
