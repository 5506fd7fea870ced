import ServiceAdmin.Json.Decode
import ServiceAdmin.Proofs.Json.TwinRecord

/-!
# Decoding twins

A discreet shape decodes both of two twins or none, and the failures have the same message unless
they quote a string that holds the token (`decode_twin`).
-/

namespace ServiceAdmin.Json

open Text (forall_ascii toNat_lt_of_isAlphanum)
open Text.Utf8 (size)

variable {α : Type} {k : Slot} {s₁ s₂ : List Char}

/-! ## Places -/

/-- What a place in a text depends on: the octets of a character, and whether it ends a line. -/
def extent (c : Char) : Nat × Bool := (c.utf8Size, c = '\n')

theorem position_congr {s t : List Char} (h : s.map extent = t.map extent)
    (line column consumed : Nat) :
    position line column consumed s = position line column consumed t := by
  induction s generalizing t line column consumed with
  | nil => rw [List.map_eq_nil_iff.1 h.symm]
  | cons c s ih =>
    cases t with
    | nil => cases h
    | cons d t =>
      obtain ⟨hcd, h⟩ := List.cons.inj h
      obtain ⟨hsize, hline⟩ := Prod.mk.inj hcd
      rw [position, position, hsize, ih h, ih h]
      simp only [decide_eq_decide.1 hline]

theorem map_extent_eq_replicate {token : List Char} (h : ∀ c ∈ token, c.isAlphanum = true) :
    token.map extent = List.replicate token.length (1, false) := by
  refine List.map_eq_replicate_iff.2 fun c hc => ?_
  exact forall_ascii (P := fun c => c.isAlphanum = true → extent c = (1, false)) (by decide)
    (toNat_lt_of_isAlphanum (h c hc)) (h c hc)

theorem Slot.map_extent (k : Slot) : k.firstText.map extent = k.secondText.map extent := by
  rw [firstText, secondText, shown, shown]
  simp only [List.map_append,
    map_extent_eq_replicate fun c hc => k.chars c (List.mem_append_left _ hc),
    map_extent_eq_replicate fun c hc => k.chars c (List.mem_append_right _ hc), k.length_eq]

theorem Twin.map_extent (h : Twin k s₁ s₂) : s₁.map extent = s₂.map extent := by
  rcases h with rfl | ⟨front, -, rfl, rfl⟩
  · rfl
  · rw [List.map_append, List.map_append, k.map_extent]

/-- The same failure is told in the same words. -/
theorem Failure.message_twin (failure : Failure) (h : Twin k s₁ s₂) :
    failure.message s₁ = failure.message s₂ := by
  rw [message, message, h.size_eq, position_congr h.map_extent]

/-! ## Decoding -/

/-- A text is decoded like its twin. -/
theorem alike_decode {shape : Shape α} (hshape : shape.Discreet) (h : Twin k s₁ s₂) :
    Alike k (fun _ _ => True) (decode shape s₁) (decode shape s₂) := by
  unfold decode
  rcases (hshape h).cases with ⟨e, f, h₁, h₂, hlike⟩ | ⟨x, y, h₁, h₂, h⟩ <;> rw [h₁, h₂]
  · exact hlike
  dsimp only
  rcases h.front with ⟨h₁, h₂⟩ | ⟨c, r₁, r₂, h₁, h₂, hfront⟩ <;> rw [h₁, h₂]
  · trivial
  · exact .error_eq (hfront.failOn _)

/-- The failures of twins have the same message, or they quote strings that differ by their
tokens. -/
theorem decode_twin {shape : Shape α} (hshape : shape.Discreet) (h : Twin k s₁ s₂) {e f : Failure}
    (he : decode shape s₁ = .error e) (hf : decode shape s₂ = .error f) :
    e.message s₁ = f.message s₂ ∨
      ∃ a wanted, e.cause = .wrongType (.string a) wanted ∧ k.first <:+: a.toList := by
  have halike := alike_decode hshape h
  rw [he, hf] at halike
  rcases halike with rfl | ⟨a, b, wanted, left, hab, rfl, rfl⟩
  · exact .inl (e.message_twin h)
  rcases hab with heq | ⟨u, v, ha, -⟩
  · rw [String.toList_inj.1 heq]
    exact .inl (Failure.message_twin _ h)
  · refine .inr ⟨a, wanted, rfl, u ++ Slot.wordTail, v, ?_⟩
    rw [ha]
    simp only [List.append_assoc]

theorem decode_of_readMembers_error {layout : Layout α} {s : List Char} {e : Failure}
    (h : layout.readMembers true [] layout.blank s = .error e) :
    decode (.record layout) ('\x7b' :: s) = .error e := by
  have hfront : skipBlanks ('\x7b' :: s) = '\x7b' :: s := rfl
  have hread : (Shape.record layout).read ('\x7b' :: s) = .error e := by
    unfold Shape.record Shape.ofFront
    dsimp only
    rw [Shape.readFront, hfront]
    dsimp only
    rw [if_neg (by decide), if_pos rfl, h]
  rw [decode, hread]

end ServiceAdmin.Json
