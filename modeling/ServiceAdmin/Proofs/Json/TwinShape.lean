import ServiceAdmin.Proofs.Json.TwinSkip

/-!
# Shapes that are discreet

A shape is discreet if it reads twins alike: it takes a value off both and leaves twins, or it fails
on both, for the same reason unless that reason quotes a string.  Which values it takes does not
matter, since no shape asks later on for a value that is read.
-/

namespace ServiceAdmin.Json

variable {α β : Type} {k : Slot} {s s₁ s₂ r : List Char} {c : Char}

/-- Twins are left behind values. -/
def Leaves (k : Slot) (x : α × List Char) (y : β × List Char) : Prop := Twin k x.2 y.2

theorem Taken.leaves {R : α → β → Prop} {x : α × List Char} {y : β × List Char}
    (h : Taken k R x y) : Leaves k x y := h.2

/-- The shape reads twins alike, whatever the values are. -/
def Shape.Discreet (shape : Shape α) : Prop :=
  ∀ ⦃k s₁ s₂⦄, Twin k s₁ s₂ → Alike k (Leaves k) (shape.read s₁) (shape.read s₂)

/-! ## Values of another kind -/

theorem like_meetWord {w : List Char} (hw : 'b' ∉ w) (h : Twin k s₁ s₂) (wanted : String)
    (found : Found) : (meetWord wanted w found s₁).Like k (meetWord wanted w found s₂) := by
  unfold meetWord
  rcases (alike_word hw h).cases with ⟨e, f, h₁, h₂, hlike⟩ | ⟨x, y, h₁, h₂, htaken⟩ <;> rw [h₁, h₂]
  · exact hlike
  · exact .inl (htaken.2.failAt _)

theorem like_mismatch (h : Twin k s₁ s₂) (wanted : String) :
    (mismatch wanted s₁).Like k (mismatch wanted s₂) := by
  cases s₁ with
  | nil =>
    rw [h.nil_left]
    exact .inl rfl
  | cons c s₁ =>
    obtain ⟨s₂, rfl, -, -⟩ := h.cons_left
    unfold mismatch
    dsimp only
    split
    · next hc => exact like_meetWord (by decide) (h.tail (hc ▸ by decide)) _ _
    split
    · next hc => exact like_meetWord (by decide) (h.tail (hc ▸ by decide)) _ _
    split
    · next hc => exact like_meetWord (by decide) (h.tail (hc ▸ by decide)) _ _
    split
    · rcases (alike_numeral h).cases with ⟨e, f, h₁, h₂, hlike⟩ | ⟨x, y, h₁, h₂, htaken⟩ <;>
        rw [h₁, h₂]
      · exact hlike
      · obtain ⟨n, r₁, r₂, rfl, rfl, h⟩ := htaken.exists_eq
        exact .inl (h.failAt _)
    split
    · next hc =>
      rcases (alike_text (h.tail (hc ▸ by decide))).cases with
        ⟨e, f, h₁, h₂, hlike⟩ | ⟨x, y, h₁, h₂, htaken⟩ <;> rw [h₁, h₂]
      · exact hlike
      · exact .quoted htaken.1 htaken.2 wanted
    split
    · exact .inl (h.failAt _)
    split
    · exact .inl (h.failAt _)
    · exact .inl (h.failOn _)

/-- A string that is not wanted is quoted. -/
theorem mismatch_text (wanted : String) {w : List Char} (hw : ∀ c ∈ w, IsLiteral c)
    (s : List Char) :
    mismatch wanted ('"' :: (w ++ '"' :: s)) =
      failAt s (.wrongType (.string (String.ofList w)) wanted) := by
  unfold mismatch
  dsimp only
  rw [if_neg (by decide), if_neg (by decide), if_neg (by decide), if_neg (by decide), if_pos rfl,
    text_append hw]

/-! ## Scalars -/

namespace Shape

/-- A shape that is told by its first character is discreet behind it. -/
theorem discreet_ofFront {front : Char → Reader α}
    (hfront : ∀ k c s₁ s₂, Twin k (c :: s₁) (c :: s₂) →
      Alike k (Leaves k) (front c s₁) (front c s₂))
    (hlength : ∀ c s r a, front c s = .ok (a, r) → r.length ≤ s.length) :
    (ofFront front hlength).Discreet := by
  intro k s₁ s₂ h
  show Alike k (Leaves k) (readFront front s₁) (readFront front s₂)
  unfold readFront
  rcases h.front with ⟨h₁, h₂⟩ | ⟨c, r₁, r₂, h₁, h₂, hat⟩ <;> rw [h₁, h₂]
  · exact .error_eq rfl
  · exact hfront k c r₁ r₂ hat

theorem discreet_textual (wanted : String) : (textual wanted).Discreet := by
  refine discreet_ofFront (fun k c s₁ s₂ h => ?_) _
  split
  · next hc =>
    exact (alike_text (h.tail (hc ▸ by decide))).imp fun _ _ => Taken.leaves
  · exact like_mismatch h wanted

theorem discreet_string : string.Discreet := discreet_textual "a string"

theorem discreet_boolean : boolean.Discreet := by
  refine discreet_ofFront (fun k c s₁ s₂ h => ?_) _
  split
  · next hc =>
    exact (alike_word (by decide) (h.tail (hc ▸ by decide))).map fun _ _ => Taken.leaves
  split
  · next hc =>
    exact (alike_word (by decide) (h.tail (hc ▸ by decide))).map fun _ _ => Taken.leaves
  · exact like_mismatch h _

theorem discreet_number (wanted : String) (accept : Numeral → Except Cause α) :
    (number wanted accept).Discreet := by
  refine discreet_ofFront (fun k c s₁ s₂ h => ?_) _
  split
  · rcases (alike_numeral h).cases with ⟨e, f, h₁, h₂, hlike⟩ | ⟨x, y, h₁, h₂, htaken⟩ <;>
      rw [h₁, h₂]
    · exact hlike
    obtain ⟨n, r₁, r₂, rfl, rfl, h⟩ := htaken.exists_eq
    dsimp only
    split
    · exact h
    · exact .error_eq (h.failAt _)
  · exact like_mismatch h wanted

theorem Discreet.map {shape : Shape α} (h : shape.Discreet) (f : α → β) : (map f shape).Discreet :=
  fun _ _ _ htwin => Alike.map (h htwin) fun _ _ h => h

theorem discreet_natural32 : natural32.Discreet := (discreet_number _ _).map _

theorem discreet_natural64 : natural64.Discreet := (discreet_number _ _).map _

theorem discreet_integer64 : integer64.Discreet := discreet_number _ _

theorem discreet_floating : floating.Discreet := discreet_number _ _

end Shape

/-! ## Lists -/

theorem alike_nextElement (first : Bool) (h : Twin k s₁ s₂) :
    Alike k (Taken k Eq) (nextElement first s₁) (nextElement first s₂) := by
  rcases h.front with ⟨h₁, h₂⟩ | ⟨c, r₁, r₂, h₁, h₂, hfront⟩
  · unfold nextElement
    rw [h₁, h₂]
    exact .error_eq rfl
  rw [nextElement_of_cons first h₁, nextElement_of_cons first h₂]
  split
  · exact ⟨rfl, hfront⟩
  split
  · exact ⟨rfl, hfront⟩
  split
  · next hc =>
    unfold elementBehindComma
    rcases (hfront.tail (hc ▸ by decide)).front with ⟨h₁, h₂⟩ | ⟨d, t₁, t₂, h₁, h₂, hfront⟩ <;>
      rw [h₁, h₂]
    · exact .error_eq rfl
    dsimp only
    split
    · exact .error_eq (hfront.failOn _)
    · exact ⟨rfl, hfront⟩
  · exact .error_eq (hfront.failOn _)

theorem taken_closeList (h : Twin k s₁ s₂) : Taken k Eq (closeList s₁) (closeList s₂) := by
  rcases h.front with ⟨h₁, h₂⟩ | ⟨c, r₁, r₂, h₁, h₂, hfront⟩
  · unfold closeList
    rw [h₁, h₂]
    exact taken_refl (fun _ => rfl) _
  rw [closeList_of_cons h₁, closeList_of_cons h₂]
  split
  · next hc => exact ⟨rfl, hfront.tail (hc ▸ by decide)⟩
  split
  · next hc =>
    rcases (hfront.tail (hc ▸ by decide)).front with ⟨h₁, h₂⟩ | ⟨d, t₁, t₂, h₁, h₂, hfront⟩ <;>
      rw [h₁, h₂]
    · exact taken_refl (fun _ => rfl) _
    · exact ⟨congrArg some (hfront.failOn _), hfront⟩
  · exact ⟨congrArg some (hfront.failOn _), hfront⟩

/-- Both contents are whole, or have the same fault. -/
def SameFault : Except Cause α → Except Cause β → Prop
  | .ok _, .ok _ => True
  | .error e, .error f => e = f
  | _, _ => False

theorem alike_finish {x : Except Cause α} {y : Except Cause β} {u v : Option Failure × List Char}
    (hfault : SameFault x y) (h : Taken k Eq u v) :
    Alike k (Leaves k) (finish x u) (finish y v) := by
  obtain ⟨fault, r₁, r₂, rfl, rfl, hrest⟩ := h.exists_eq
  cases x with
  | error e =>
    cases y with
    | error f =>
      cases hfault
      exact .error_eq (hrest.failAt _)
    | ok b => exact hfault.elim
  | ok a =>
    cases y with
    | error f => exact hfault.elim
    | ok b =>
      cases fault with
      | none => exact hrest
      | some failure => exact .error_eq rfl

namespace Shape

theorem alike_elements {item : Shape α} (hitem : item.Discreet) (first : Bool) (h : Twin k s₁ s₂) :
    Alike k (Leaves k) (elements item first s₁) (elements item first s₂) := by
  induction hn : s₁.length using Nat.strongRecOn generalizing first s₁ s₂ with
  | ind n ih =>
    rw [elements_eq, elements_eq]
    refine (alike_nextElement first h).bind_of_ok ?_
    rintro ⟨more, r₁⟩ ⟨_, r₂⟩ hnext ⟨rfl, h⟩
    dsimp only at h ⊢
    split
    · refine (hitem h).bind_of_ok ?_
      rintro ⟨a, t₁⟩ ⟨b, t₂⟩ hread h
      have hle := length_of_nextElement hnext
      have hlt := item.shorter hread
      exact Alike.map (ih t₁.length (by omega) false h rfl) fun _ _ h => h
    · exact h

theorem discreet_list {item : Shape α} (h : item.Discreet) : (list item).Discreet := by
  refine discreet_ofFront (fun k c s₁ s₂ htwin => ?_) _
  split
  · next hc =>
    rcases (alike_elements h true (htwin.tail (hc ▸ by decide))).cases with
      ⟨e, f, h₁, h₂, hlike⟩ | ⟨x, y, h₁, h₂, htaken⟩ <;> rw [h₁, h₂]
    · exact hlike
    · exact alike_finish trivial (taken_closeList htaken)
  · exact like_mismatch htwin _

end Shape

end ServiceAdmin.Json
