import ServiceAdmin.Json.Number
import ServiceAdmin.Proofs.Json.Reading
import ServiceAdmin.Proofs.Json.Twin

/-!
# Numbers of twins

No number has the letter `b`, so the numbers at the front of twins are the same.
-/

namespace ServiceAdmin.Json

open ServiceAdmin.Number (digit? Magnitude)

variable {k : Slot} {s₁ s₂ : List Char}

theorem isDigit_b : isDigit 'b' = false := by decide

theorem ne_b_of_digit? {c : Char} {d : Nat} (h : digit? c = some d) : c ≠ 'b' := by
  rintro rfl
  have hdigit : isDigit 'b' = true := by rw [isDigit, h]; rfl
  rw [isDigit_b] at hdigit
  cases hdigit

theorem ne_b_of_isDigit {c : Char} (h : isDigit c = true) : c ≠ 'b' := by
  rintro rfl
  rw [isDigit_b] at h
  cases h

/-! ## Digits -/

theorem taken_significand (v n : Nat) (h : Twin k s₁ s₂) :
    Taken k Eq (significand v n s₁) (significand v n s₂) := by
  induction s₁ generalizing v n s₂ with
  | nil =>
    rw [h.nil_left]
    exact taken_refl (fun _ => rfl) _
  | cons c s₁ ih =>
    obtain ⟨s₂, rfl, -, htail⟩ := h.cons_left
    rw [significand, significand]
    split
    · next hd =>
      split
      · exact ⟨rfl, h⟩
      · exact ih _ _ (htail (ne_b_of_digit? hd))
    · exact ⟨rfl, h⟩

theorem taken_exponentDigits (v : Nat) (h : Twin k s₁ s₂) :
    Taken k Eq (exponentDigits v s₁) (exponentDigits v s₂) := by
  induction s₁ generalizing v s₂ with
  | nil =>
    rw [h.nil_left]
    exact taken_refl (fun _ => rfl) _
  | cons c s₁ ih =>
    obtain ⟨s₂, rfl, -, htail⟩ := h.cons_left
    rw [exponentDigits, exponentDigits]
    split
    · next hd =>
      replace htail := htail (ne_b_of_digit? hd)
      split
      · exact ⟨rfl, htail⟩
      · exact ih _ htail
    · exact ⟨rfl, h⟩

theorem taken_exponentSign (h : Twin k s₁ s₂) :
    Taken k Eq (exponentSign s₁) (exponentSign s₂) := by
  cases s₁ with
  | nil =>
    rw [h.nil_left]
    exact taken_refl (fun _ => rfl) _
  | cons c s₁ =>
    obtain ⟨s₂, rfl, -, htail⟩ := h.cons_left
    rw [exponentSign_cons, exponentSign_cons]
    split
    · next hc => exact ⟨rfl, htail (hc ▸ by decide)⟩
    split
    · next hc => exact ⟨rfl, htail (hc ▸ by decide)⟩
    · exact ⟨rfl, h⟩

theorem skipDigits_twin (h : Twin k s₁ s₂) : Twin k (skipDigits s₁) (skipDigits s₂) :=
  h.dropWhile isDigit_b

/-! ## Numbers that are read -/

section Reading

variable (negative : Bool) (m : Nat)

theorem alike_scaled (e : Int) (h : Twin k s₁ s₂) :
    Alike k (Taken k Eq) (scaled negative m e s₁) (scaled negative m e s₂) := by
  unfold scaled
  split
  · exact .error_eq (h.failAt _)
  · exact ⟨rfl, h⟩

theorem alike_exponent (e : Int) (h : Twin k s₁ s₂) :
    Alike k (Taken k Eq) (exponent negative m e s₁) (exponent negative m e s₂) := by
  obtain ⟨below, r₁, r₂, h₁, h₂, hrest⟩ := (taken_exponentSign h).exists_eq
  unfold exponent
  rw [h₁, h₂]
  cases r₁ with
  | nil =>
    rw [hrest.nil_left]
    exact .error_eq rfl
  | cons c r₁ =>
    obtain ⟨r₂, rfl, -, htail⟩ := hrest.cons_left
    dsimp only
    split
    · exact .error_eq (hrest.failOn _)
    · next d hd =>
      obtain ⟨value, t₁, t₂, h₁, h₂, hend⟩ :=
        (taken_exponentDigits d (htail (ne_b_of_digit? hd))).exists_eq
      rw [h₁, h₂]
      cases value with
      | some n => exact alike_scaled negative m _ hend
      | none =>
        dsimp only
        split
        · exact .error_eq (hend.failAt _)
        · exact ⟨rfl, skipDigits_twin hend⟩

theorem exponent?_cons (e : Int) (c : Char) (s : List Char) :
    exponent? negative m e (c :: s) =
      if c = 'e' ∨ c = 'E' then exponent negative m e s else scaled negative m e (c :: s) := by
  unfold exponent?
  split
  · next heq => cases heq; rfl
  · next heq => cases heq; rfl
  · next he hE =>
    rw [if_neg]
    rintro (rfl | rfl)
    · exact he s rfl
    · exact hE s rfl

theorem alike_exponent? (e : Int) (h : Twin k s₁ s₂) :
    Alike k (Taken k Eq) (exponent? negative m e s₁) (exponent? negative m e s₂) := by
  cases s₁ with
  | nil =>
    rw [h.nil_left]
    exact .refl (taken_refl fun _ => rfl) _
  | cons c s₁ =>
    obtain ⟨s₂, rfl, -, htail⟩ := h.cons_left
    rw [exponent?_cons, exponent?_cons]
    split
    · next hc => exact alike_exponent negative m e (htail (by rcases hc with rfl | rfl <;> decide))
    · exact alike_scaled negative m e h

theorem alike_fraction (e : Int) (h : Twin k s₁ s₂) :
    Alike k (Taken k Eq) (fraction negative m e s₁) (fraction negative m e s₂) := by
  obtain ⟨⟨m', count⟩, r₁, r₂, h₁, h₂, hrest⟩ := (taken_significand m 0 h).exists_eq
  unfold fraction
  rw [h₁, h₂]
  cases r₁ with
  | nil =>
    rw [hrest.nil_left]
    exact .refl (taken_refl fun _ => rfl) _
  | cons c r₁ =>
    obtain ⟨r₂, rfl, -, htail⟩ := hrest.cons_left
    dsimp only
    split
    · next hc => exact alike_exponent? negative m' _ (skipDigits_twin (htail (ne_b_of_isDigit hc)))
    split
    · exact .error_eq (hrest.failOn _)
    · exact alike_exponent? negative m' _ hrest

/-- A number that ends behind its whole digits. -/
def whole (negative : Bool) (m e : Nat) : Reader Numeral := fun s =>
  if e ≠ 0 then scaled negative m e s
  else if negative then
    if m = 0 ∨ Nat.pow 2 63 < m then .ok (.floating ⟨true, Magnitude.ofNat m⟩, s)
    else .ok (.whole (-(m : Int)), s)
  else .ok (.whole m, s)

theorem afterDigits_cons (e : Nat) (c : Char) (s : List Char) :
    afterDigits negative m e (c :: s) =
      if c = '.' then fraction negative m e s
      else if c = 'e' ∨ c = 'E' then exponent negative m e s
      else whole negative m e (c :: s) := by
  unfold afterDigits
  split
  · next heq => cases heq; rfl
  · next heq => cases heq; rfl
  · next heq => cases heq; rfl
  · next hpoint he hE =>
    have hexponent : ¬ (c = 'e' ∨ c = 'E') := by
      rintro (rfl | rfl)
      · exact he s rfl
      · exact hE s rfl
    exact ((if_neg fun hc : c = '.' => hpoint s (hc ▸ rfl)).trans (if_neg hexponent)).symm

theorem alike_afterDigits (e : Nat) (h : Twin k s₁ s₂) :
    Alike k (Taken k Eq) (afterDigits negative m e s₁) (afterDigits negative m e s₂) := by
  cases s₁ with
  | nil =>
    rw [h.nil_left]
    exact .refl (taken_refl fun _ => rfl) _
  | cons c s₁ =>
    obtain ⟨s₂, rfl, -, htail⟩ := h.cons_left
    rw [afterDigits_cons, afterDigits_cons]
    split
    · next hc => exact alike_fraction negative m e (htail (hc ▸ by decide))
    split
    · next hc => exact alike_exponent negative m e (htail (by rcases hc with rfl | rfl <;> decide))
    · unfold whole
      split
      · exact alike_scaled negative m e h
      split
      · split <;> exact ⟨rfl, h⟩
      · exact ⟨rfl, h⟩

theorem alike_unsigned (h : Twin k s₁ s₂) :
    Alike k (Taken k Eq) (unsigned negative s₁) (unsigned negative s₂) := by
  cases s₁ with
  | nil =>
    rw [h.nil_left]
    exact .error_eq rfl
  | cons c s₁ =>
    obtain ⟨s₂, rfl, -, htail⟩ := h.cons_left
    unfold unsigned
    dsimp only
    split
    · exact .error_eq (h.failOn _)
    · next hd =>
      replace htail := htail (ne_b_of_digit? hd)
      cases s₁ with
      | nil =>
        rw [htail.nil_left]
        exact .refl (taken_refl fun _ => rfl) _
      | cons d s₁ =>
        obtain ⟨s₂, rfl, -, -⟩ := htail.cons_left
        dsimp only
        split
        · exact .error_eq (htail.failOn _)
        · exact alike_afterDigits negative 0 0 htail
    · next d _ hd =>
      obtain ⟨⟨m, count⟩, r₁, r₂, h₁, h₂, hrest⟩ :=
        (taken_significand d 0 (htail (ne_b_of_digit? hd))).exists_eq
      rw [h₁, h₂]
      dsimp only
      rw [hrest.takeWhile isDigit_b]
      exact alike_afterDigits negative m _ (skipDigits_twin hrest)

end Reading

theorem numeral_cons (c : Char) (s : List Char) :
    numeral (c :: s) = if c = '-' then unsigned true s else unsigned false (c :: s) := by
  unfold numeral
  split
  · next heq => cases heq; rfl
  · next hminus => rw [if_neg fun hc : c = '-' => hminus s (hc ▸ rfl)]

/-- The numbers at the front of twins are the same. -/
theorem alike_numeral (h : Twin k s₁ s₂) : Alike k (Taken k Eq) (numeral s₁) (numeral s₂) := by
  cases s₁ with
  | nil =>
    rw [h.nil_left]
    exact .refl (taken_refl fun _ => rfl) _
  | cons c s₁ =>
    obtain ⟨s₂, rfl, -, htail⟩ := h.cons_left
    rw [numeral_cons, numeral_cons]
    split
    · next hc => exact alike_unsigned true (htail (hc ▸ by decide))
    · exact alike_unsigned false h

/-! ## Numbers that are passed over -/

theorem alike_skipExponent (h : Twin k s₁ s₂) :
    Alike k (Twin k) (skipExponent s₁) (skipExponent s₂) := by
  have hsign := (taken_exponentSign h).2
  unfold skipExponent
  generalize (exponentSign s₁).2 = r₁ at hsign ⊢
  generalize (exponentSign s₂).2 = r₂ at hsign ⊢
  cases r₁ with
  | nil =>
    rw [hsign.nil_left]
    exact .error_eq rfl
  | cons c r₁ =>
    obtain ⟨r₂, rfl, -, htail⟩ := hsign.cons_left
    dsimp only
    split
    · next hc => exact skipDigits_twin (htail (ne_b_of_isDigit hc))
    · exact .error_eq (hsign.failOn _)

theorem alike_skipExponent? (h : Twin k s₁ s₂) :
    Alike k (Twin k) (skipExponent? s₁) (skipExponent? s₂) := by
  cases s₁ with
  | nil =>
    rw [h.nil_left]
    exact .refl .same _
  | cons c s₁ =>
    obtain ⟨s₂, rfl, -, htail⟩ := h.cons_left
    rw [skipExponent?, skipExponent?]
    split
    · next hc => exact alike_skipExponent (htail (by rcases hc with rfl | rfl <;> decide))
    · exact h

theorem alike_skipAfterDigits (h : Twin k s₁ s₂) :
    Alike k (Twin k) (skipAfterDigits s₁) (skipAfterDigits s₂) := by
  cases s₁ with
  | nil =>
    rw [h.nil_left]
    exact .refl .same _
  | cons c s₁ =>
    obtain ⟨s₂, rfl, -, htail⟩ := h.cons_left
    rw [skipAfterDigits_cons, skipAfterDigits_cons]
    split
    · next hc =>
      replace htail := htail (hc ▸ by decide)
      cases s₁ with
      | nil =>
        rw [htail.nil_left]
        exact .error_eq rfl
      | cons d s₁ =>
        obtain ⟨s₂, rfl, -, htail'⟩ := htail.cons_left
        dsimp only
        split
        · next hd => exact alike_skipExponent? (skipDigits_twin (htail' (ne_b_of_isDigit hd)))
        · exact .error_eq (htail.failOn _)
    · exact alike_skipExponent? h

theorem alike_skipUnsigned (h : Twin k s₁ s₂) :
    Alike k (Twin k) (skipUnsigned s₁) (skipUnsigned s₂) := by
  cases s₁ with
  | nil =>
    rw [h.nil_left]
    exact .error_eq rfl
  | cons c s₁ =>
    obtain ⟨s₂, rfl, -, htail⟩ := h.cons_left
    unfold skipUnsigned
    dsimp only
    split
    · next hc =>
      replace htail := htail (hc ▸ by decide)
      cases s₁ with
      | nil =>
        rw [htail.nil_left]
        exact .refl .same _
      | cons d s₁ =>
        obtain ⟨s₂, rfl, -, -⟩ := htail.cons_left
        dsimp only
        split
        · exact .error_eq (htail.failOn _)
        · exact alike_skipAfterDigits htail
    split
    · next hc => exact alike_skipAfterDigits (skipDigits_twin (htail (ne_b_of_isDigit hc)))
    · exact .error_eq (h.failOn _)

end ServiceAdmin.Json
