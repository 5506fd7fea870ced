import ServiceAdmin.Number.Decimal

/-!
# Numerals

The texts that are read as a whole number are its decimal numerals: ASCII digits, as many leading
zeros as there may be, and a plus sign or none (`readNat_eq_ok_iff`).
-/

namespace ServiceAdmin.Number

/-- The text is a decimal numeral of `n`, which is not beyond the limit. -/
def IsNumeralOf (limit n : Nat) (s : List Char) : Prop :=
  ∃ digits, (s = digits ∨ s = '+' :: digits) ∧ digits ≠ [] ∧ (∀ c ∈ digits, c.isDigit = true) ∧
    Nat.ofDigitChars 10 digits 0 = n ∧ n ≤ limit

theorem toNat_of_isDigit {c : Char} (h : c.isDigit = true) : 48 ≤ c.toNat ∧ c.toNat ≤ 57 := by
  simp only [Char.isDigit, Bool.and_eq_true, decide_eq_true_eq] at h
  exact ⟨UInt32.le_iff_toNat_le.1 h.1, UInt32.le_iff_toNat_le.1 h.2⟩

theorem digit?_of_isDigit {c : Char} (h : c.isDigit = true) :
    digit? c = some (c.toNat - '0'.toNat) := by
  simp only [Char.isDigit, Bool.and_eq_true, decide_eq_true_eq] at h
  have hle : '0' ≤ c ∧ c ≤ '9' := h
  simp [digit?, hle]

theorem isDigit_of_digit? {c : Char} {d : Nat} (h : digit? c = some d) :
    c.isDigit = true ∧ d = c.toNat - '0'.toNat := by
  unfold digit? at h
  split at h
  · next hc =>
    simp only [Bool.and_eq_true, decide_eq_true_eq] at hc
    cases h
    refine ⟨?_, rfl⟩
    rw [Char.isDigit, Bool.and_eq_true]
    exact ⟨decide_eq_true hc.1, decide_eq_true hc.2⟩
  · cases h

theorem le_ofDigitChars (digits : List Char) (acc : Nat) :
    acc ≤ Nat.ofDigitChars 10 digits acc := by
  rw [Nat.ofDigitChars_eq_ofDigitChars_zero]
  have hmul := Nat.le_mul_of_pos_left acc (Nat.pow_pos (n := digits.length) (by decide : 0 < 10))
  omega

/-- Digits are read as the number that they write, if it is not beyond the limit. -/
theorem readDigits_eq_ok_iff {limit acc n : Nat} {beyond : IntFault} {s : List Char}
    (hacc : acc ≤ limit) : readDigits limit beyond acc s = .ok n ↔
      (∀ c ∈ s, c.isDigit = true) ∧ Nat.ofDigitChars 10 s acc = n ∧ n ≤ limit := by
  induction s generalizing acc with
  | nil =>
    rw [readDigits, Nat.ofDigitChars_nil]
    constructor
    · intro h
      cases h
      exact ⟨by simp, rfl, hacc⟩
    · rintro ⟨-, rfl, -⟩
      rfl
  | cons c s ih =>
    rw [readDigits, Nat.ofDigitChars_cons]
    constructor
    · intro h
      split at h
      · cases h
      · next d hd =>
        obtain ⟨hc, rfl⟩ := isDigit_of_digit? hd
        split at h
        · cases h
        · next hle =>
          obtain ⟨hs, hn⟩ := (ih (Nat.not_lt.1 hle)).1 h
          exact ⟨List.forall_mem_cons.2 ⟨hc, hs⟩, hn⟩
    · rintro ⟨hs, hn, hlimit⟩
      obtain ⟨hc, hs⟩ := List.forall_mem_cons.1 hs
      have hle : 10 * acc + (c.toNat - '0'.toNat) ≤ limit :=
        Nat.le_trans (le_ofDigitChars s _) (hn ▸ hlimit)
      rw [digit?_of_isDigit hc]
      dsimp only
      rw [if_neg (Nat.not_lt.2 hle)]
      exact (ih hle).2 ⟨hs, hn, hlimit⟩

theorem readNat_plus {limit : Nat} {digits : List Char} (h : digits ≠ []) :
    readNat limit ('+' :: digits) = readDigits limit .tooLarge 0 digits := by
  cases digits with
  | nil => exact absurd rfl h
  | cons c digits => rfl

theorem readNat_of_ne_plus {limit : Nat} {c : Char} (hc : c ≠ '+') (s : List Char) :
    readNat limit (c :: s) = readDigits limit .tooLarge 0 (c :: s) := by
  unfold readNat
  split
  · next heq => cases heq
  · next heq => exact absurd (List.cons.inj heq).1 hc
  · next heq => exact absurd (List.cons.inj heq).1 hc
  · rfl

/-- **The texts that are read as a number are its numerals.** -/
theorem readNat_eq_ok_iff {limit n : Nat} {s : List Char} :
    readNat limit s = .ok n ↔ IsNumeralOf limit n s := by
  constructor
  · intro h
    cases s with
    | nil => cases h
    | cons c s =>
      by_cases hc : c = '+'
      · subst hc
        cases s with
        | nil => cases h
        | cons d s =>
          rw [readNat_plus (List.cons_ne_nil d s)] at h
          exact ⟨d :: s, .inr rfl, List.cons_ne_nil d s,
            (readDigits_eq_ok_iff (Nat.zero_le limit)).1 h⟩
      · rw [readNat_of_ne_plus hc] at h
        exact ⟨c :: s, .inl rfl, List.cons_ne_nil c s,
          (readDigits_eq_ok_iff (Nat.zero_le limit)).1 h⟩
  · rintro ⟨digits, rfl | rfl, hne, hdigits⟩
    · obtain ⟨c, rest, rfl⟩ := List.exists_cons_of_ne_nil hne
      have hc : c ≠ '+' := by
        rintro rfl
        exact absurd (hdigits.1 '+' List.mem_cons_self) (by decide)
      rw [readNat_of_ne_plus hc]
      exact (readDigits_eq_ok_iff (Nat.zero_le limit)).2 hdigits
    · rw [readNat_plus hne]
      exact (readDigits_eq_ok_iff (Nat.zero_le limit)).2 hdigits

theorem IsNumeralOf.unique {limit n n' : Nat} {s : List Char} (h : IsNumeralOf limit n s)
    (h' : IsNumeralOf limit n' s) : n = n' :=
  Except.ok.inj ((readNat_eq_ok_iff.2 h).symm.trans (readNat_eq_ok_iff.2 h'))

theorem toOption_readNat_eq_some_iff {limit n : Nat} {s : List Char} :
    (readNat limit s).toOption = some n ↔ IsNumeralOf limit n s := by
  rw [← readNat_eq_ok_iff]
  cases readNat limit s <;> simp [Except.toOption]

instance (limit n : Nat) (s : List Char) : Decidable (IsNumeralOf limit n s) :=
  decidable_of_iff _ toOption_readNat_eq_some_iff

example : IsNumeralOf max32 7 "+007".toList := by decide

end ServiceAdmin.Number
