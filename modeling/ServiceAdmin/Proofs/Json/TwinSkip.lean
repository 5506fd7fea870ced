import ServiceAdmin.Json.Record
import ServiceAdmin.Proofs.Json.TwinNumber
import ServiceAdmin.Proofs.Json.TwinString

/-!
# Passing over values of twins

Passing over a value leaves twins (`alike_skipValue`), so a token in a value that nobody asks for
makes no difference.
-/

namespace ServiceAdmin.Json

variable {k : Slot} {s s₁ s₂ r : List Char} {c : Char}

/-! ## Keys and scalars -/

theorem alike_colon (h : Twin k s₁ s₂) : Alike k (Twin k) (colon s₁) (colon s₂) := by
  rcases h.front with ⟨h₁, h₂⟩ | ⟨c, r₁, r₂, h₁, h₂, hfront⟩
  · unfold colon
    rw [h₁, h₂]
    exact .error_eq rfl
  rw [colon_of_cons h₁, colon_of_cons h₂]
  split
  · next hc => exact hfront.tail (hc ▸ by decide)
  · exact .error_eq (hfront.failOn _)

theorem alike_skipKey (h : Twin k s₁ s₂) : Alike k (Twin k) (skipKey s₁) (skipKey s₂) := by
  rcases h.front with ⟨h₁, h₂⟩ | ⟨c, r₁, r₂, h₁, h₂, hfront⟩
  · unfold skipKey
    rw [h₁, h₂]
    exact .error_eq rfl
  rw [skipKey_of_cons h₁, skipKey_of_cons h₂]
  split
  · next hc => exact (alike_skipTextTail (hfront.tail (hc ▸ by decide))).bind fun _ _ => alike_colon
  · exact .error_eq (hfront.failOn _)

theorem alike_skipToValue (frame : Bracket) (h : Twin k s₁ s₂) :
    Alike k (Twin k) (skipToValue frame s₁) (skipToValue frame s₂) := by
  cases frame with
  | list => exact h
  | object => exact alike_skipKey h

theorem alike_skipWord {w : List Char} (hw : 'b' ∉ w) (h : Twin k s₁ s₂) :
    Alike k (Twin k) ((word w s₁).map (·.2)) ((word w s₂).map (·.2)) :=
  (alike_word hw h).map fun _ _ htaken => htaken.2

theorem alike_skipScalar (h : Twin k (c :: s₁) (c :: s₂)) :
    Alike k (Twin k) (skipScalar c s₁) (skipScalar c s₂) := by
  unfold skipScalar
  split
  · next hc => exact alike_skipWord (by decide) (h.tail (hc ▸ by decide))
  split
  · next hc => exact alike_skipWord (by decide) (h.tail (hc ▸ by decide))
  split
  · next hc => exact alike_skipWord (by decide) (h.tail (hc ▸ by decide))
  split
  · next hc => exact alike_skipUnsigned (h.tail (hc ▸ by decide))
  split
  · exact alike_skipUnsigned h
  split
  · next hc => exact alike_skipTextTail (h.tail (hc ▸ by decide))
  · exact .error_eq (h.failOn _)

/-! ## Values -/

theorem close_ne_b (frame : Bracket) : frame.close ≠ 'b' := by cases frame <;> decide

/-- Lists and objects are passed over alike, by induction on the length of the first text. -/
theorem alike_skipping (k : Slot) (n : Nat) :
    (∀ stack s₁ s₂, s₁.length < n → Twin k s₁ s₂ →
      Alike k (Twin k) (skipValue stack s₁) (skipValue stack s₂)) ∧
    (∀ frame stack s₁ s₂, s₁.length < n → Twin k s₁ s₂ →
      Alike k (Twin k) (skipOpened frame stack s₁) (skipOpened frame stack s₂)) ∧
    (∀ stack s₁ s₂, s₁.length < n → Twin k s₁ s₂ →
      Alike k (Twin k) (skipRest stack s₁) (skipRest stack s₂)) := by
  induction n with
  | zero => simp
  | succ n ih =>
    obtain ⟨value, opened, rest⟩ := ih
    have value' : ∀ stack s₁ s₂, s₁.length < n + 1 → Twin k s₁ s₂ →
        Alike k (Twin k) (skipValue stack s₁) (skipValue stack s₂) := by
      intro stack s₁ s₂ hn h
      have hlength := length_skipBlanks s₁
      rcases h.front with ⟨h₁, h₂⟩ | ⟨c, r₁, r₂, h₁, h₂, hfront⟩
      · rw [skipValue_of_nil stack h₁, skipValue_of_nil stack h₂]
        exact .error_eq rfl
      rw [h₁, List.length_cons] at hlength
      rw [skipValue_of_cons stack h₁, skipValue_of_cons stack h₂]
      split
      · next hc => exact opened _ _ _ _ (by omega) (hfront.tail (hc ▸ by decide))
      split
      · next hc => exact opened _ _ _ _ (by omega) (hfront.tail (hc ▸ by decide))
      refine (alike_skipScalar hfront).bind_of_ok fun t₁ t₂ hscalar ht => rest _ _ _ ?_ ht
      have := length_of_skipScalar hscalar
      omega
    refine ⟨value', ?_, ?_⟩
    · intro frame stack s₁ s₂ hn h
      have hlength := length_skipBlanks s₁
      rcases h.front with ⟨h₁, h₂⟩ | ⟨c, r₁, r₂, h₁, h₂, hfront⟩
      · rw [skipOpened_of_nil stack frame h₁, skipOpened_of_nil stack frame h₂]
        exact .error_eq rfl
      rw [h₁, List.length_cons] at hlength
      rw [skipOpened_of_cons stack frame h₁, skipOpened_of_cons stack frame h₂]
      split
      · next hc => exact rest _ _ _ (by omega) (hfront.tail (hc ▸ close_ne_b frame))
      refine (alike_skipToValue frame hfront).bind_of_ok fun t₁ t₂ hkey ht => value' _ _ _ ?_ ht
      have := length_of_skipToValue hkey
      rw [List.length_cons] at this
      omega
    · intro stack s₁ s₂ hn h
      have hlength := length_skipBlanks s₁
      cases stack with
      | nil =>
        rw [skipRest, skipRest]
        exact h
      | cons frame stack =>
        rcases h.front with ⟨h₁, h₂⟩ | ⟨c, r₁, r₂, h₁, h₂, hfront⟩
        · rw [skipRest_of_nil stack frame h₁, skipRest_of_nil stack frame h₂]
          exact .error_eq rfl
        rw [h₁, List.length_cons] at hlength
        rw [skipRest_of_cons stack frame h₁, skipRest_of_cons stack frame h₂]
        split
        · next hc =>
          refine (alike_skipToValue frame (hfront.tail (hc ▸ by decide))).bind_of_ok
            fun t₁ t₂ hkey ht => value _ _ _ ?_ ht
          have := length_of_skipToValue hkey
          omega
        split
        · next hc => exact rest _ _ _ (by omega) (hfront.tail (hc ▸ close_ne_b frame))
        · exact .error_eq (hfront.failOn _)

theorem alike_skipValue (stack : List Bracket) (h : Twin k s₁ s₂) :
    Alike k (Twin k) (skipValue stack s₁) (skipValue stack s₂) :=
  (alike_skipping k (s₁.length + 1)).1 _ _ _ (Nat.lt_succ_self _) h

end ServiceAdmin.Json
