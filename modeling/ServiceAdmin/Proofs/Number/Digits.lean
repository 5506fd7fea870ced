import Mathlib.Data.Nat.Digits.Defs
import ServiceAdmin.Proofs.Number.Numeral

/-!
# Digits of a fixed width

Padded numbers have one digit for each place (`isDigitsOf_padded`).  Texts that begin with as many
digits are ordered as the numbers that the digits write, and behind equal numbers as what follows
(`append_lt_append_iff`).
-/

namespace ServiceAdmin.Number

/-- The text is `width` decimal digits, which write `n`. -/
structure IsDigitsOf (width n : Nat) (s : String) : Prop where
  length : s.toList.length = width
  digits : ∀ c ∈ s.toList, c.isDigit = true
  value : Nat.ofDigitChars 10 s.toList 0 = n

theorem isDigitsOf_padded {width n : Nat} (h : (Nat.toDigits 10 n).length ≤ width) :
    IsDigitsOf width n (padded width n) where
  length := by
    rw [padded, String.toList_ofList, List.length_append, List.length_replicate]
    omega
  digits := by
    intro c hc
    rw [padded, String.toList_ofList, List.mem_append] at hc
    rcases hc with hc | hc
    · rw [List.eq_of_mem_replicate hc]
      rfl
    · exact Nat.isDigit_of_mem_toDigits (by decide) (by decide) hc
  value := by
    rw [padded, String.toList_ofList, Nat.ofDigitChars_append, Nat.ofDigitChars_replicate_zero,
      Nat.mul_zero, Nat.ofDigitChars_ten_toDigits]

/-! ## The order of digits -/

theorem ofDigitChars_cons_zero (c : Char) (s : List Char) :
    Nat.ofDigitChars 10 (c :: s) 0 =
      10 ^ s.length * (c.toNat - 48) + Nat.ofDigitChars 10 s 0 := by
  rw [Nat.ofDigitChars_cons, Nat.ofDigitChars_eq_ofDigitChars_zero, Nat.mul_zero, Nat.zero_add]
  rfl

theorem ofDigitChars_lt {s : List Char} (h : ∀ c ∈ s, c.isDigit = true) :
    Nat.ofDigitChars 10 s 0 < 10 ^ s.length := by
  induction s with
  | nil => decide
  | cons c s ih =>
    obtain ⟨hc, hs⟩ := List.forall_mem_cons.1 h
    have hrest := ih hs
    have hdigit : c.toNat - 48 ≤ 9 := by
      have := toNat_of_isDigit hc
      omega
    have hfront := Nat.mul_le_mul_left (10 ^ s.length) hdigit
    rw [ofDigitChars_cons_zero, List.length_cons, Nat.pow_succ]
    omega

/-- Numbers with a first and a second place are ordered by the first place first. -/
theorem places_lt_iff {b m n x y : Nat} (hx : x < b) (hy : y < b) :
    b * m + x < b * n + y ↔ m < n ∨ m = n ∧ x < y := by
  rcases Nat.lt_trichotomy m n with hlt | rfl | hgt
  · have := Nat.mul_le_mul_left b hlt
    rw [Nat.mul_succ] at this
    omega
  · omega
  · have := Nat.mul_le_mul_left b hgt
    rw [Nat.mul_succ] at this
    omega

theorem places_eq_iff {b m n x y : Nat} (hx : x < b) (hy : y < b) :
    b * m + x = b * n + y ↔ m = n ∧ x = y := by
  have hlt := places_lt_iff (m := m) (n := n) hx hy
  have hgt := places_lt_iff (m := n) (n := m) hy hx
  constructor
  · intro heq
    omega
  · rintro ⟨rfl, rfl⟩
    rfl

theorem append_lt_append_iff {a b : List Char} (hlength : a.length = b.length)
    (ha : ∀ c ∈ a, c.isDigit = true) (hb : ∀ c ∈ b, c.isDigit = true) (s t : List Char) :
    a ++ s < b ++ t ↔ Nat.ofDigitChars 10 a 0 < Nat.ofDigitChars 10 b 0 ∨
      Nat.ofDigitChars 10 a 0 = Nat.ofDigitChars 10 b 0 ∧ s < t := by
  induction a generalizing b with
  | nil =>
    obtain rfl := List.length_eq_zero_iff.1 hlength.symm
    simp
  | cons c a ih =>
    cases b with
    | nil => cases hlength
    | cons d b =>
      obtain ⟨hc, ha⟩ := List.forall_mem_cons.1 ha
      obtain ⟨hd, hb⟩ := List.forall_mem_cons.1 hb
      have hrest := Nat.succ.inj hlength
      have hc := toNat_of_isDigit hc
      have hd := toNat_of_isDigit hd
      have hlt : c < d ↔ c.toNat < d.toNat := UInt32.lt_iff_toNat_lt
      have heq : c = d ↔ c.toNat = d.toNat := Char.toNat_inj.symm
      have hboundb := ofDigitChars_lt hb
      have hbounda := ofDigitChars_lt ha
      rw [hrest] at hbounda
      rw [List.cons_append, List.cons_append, List.cons_lt_cons_iff, ih hrest ha hb, hlt, heq,
        ofDigitChars_cons_zero, ofDigitChars_cons_zero, hrest, places_lt_iff hbounda hboundb,
        places_eq_iff hbounda hboundb]
      by_cases hst : s < t
      · simp only [hst, and_true]
        omega
      · simp only [hst, and_false, or_false]
        omega

theorem IsDigitsOf.append_lt_append_iff {width m n : Nat} {a b : String}
    (ha : IsDigitsOf width m a) (hb : IsDigitsOf width n b) (s t : List Char) :
    a.toList ++ s < b.toList ++ t ↔ m < n ∨ m = n ∧ s < t := by
  rw [Number.append_lt_append_iff (ha.length.trans hb.length.symm) ha.digits hb.digits, ha.value,
    hb.value]

end ServiceAdmin.Number
