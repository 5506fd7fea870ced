import ServiceAdmin.Text.Base64

/-!
# Reading Base64

A group of four signs stands for the bits of up to three octets.  The reader is strict: signs are
filled up only at the end, and no bit is set that belongs to no octet.  It reads the octets that
were written (`decode?_encode`).
-/

namespace ServiceAdmin.Text.Base64

/-- The bits that a sign stands for. -/
def value? (c : Char) : Option Nat :=
  if 'A' ≤ c ∧ c ≤ 'Z' then some (c.toNat - 'A'.toNat)
  else if 'a' ≤ c ∧ c ≤ 'z' then some (c.toNat - 'a'.toNat + 26)
  else if '0' ≤ c ∧ c ≤ '9' then some (c.toNat - '0'.toNat + 52)
  else if c = '+' then some 62
  else if c = '/' then some 63
  else none

/-- The octets that a text writes. -/
def decode? : List Char → Option (List UInt8)
  | [] => some []
  | a :: b :: c :: d :: rest => do
    let x ← value? a
    let y ← value? b
    let first := UInt8.ofNat (4 * x + y / 16)
    if c = '=' then
      if d = '=' ∧ rest = [] ∧ y % 16 = 0 then some [first] else none
    else
      let z ← value? c
      let second := UInt8.ofNat (y % 16 * 16 + z / 4)
      if d = '=' then
        if rest = [] ∧ z % 4 = 0 then some [first, second] else none
      else
        let w ← value? d
        let octets ← decode? rest
        some (first :: second :: UInt8.ofNat (z % 4 * 64 + w) :: octets)
  | _ => none

/-- Every sign of the alphabet is read as its bits. -/
theorem value?_sign {bits : Nat} (h : bits < 64) : value? (sign bits) = some bits := by
  have hall : ∀ n : Fin 64, value? (sign n) = some n.val := by decide +kernel
  exact hall ⟨bits, h⟩

/-! ## Groups of signs -/

section Groups

variable {a b c d : Char} {x y z w : Nat}

theorem ne_equals_of_value? (h : value? c = some z) : c ≠ '=' := by
  rintro rfl
  cases h

theorem decode?_one (ha : value? a = some x) (hb : value? b = some y) (hbits : y % 16 = 0) :
    decode? [a, b, '=', '='] = some [UInt8.ofNat (4 * x + y / 16)] := by
  simp [decode?, ha, hb, hbits]

theorem decode?_two (ha : value? a = some x) (hb : value? b = some y) (hc : value? c = some z)
    (hbits : z % 4 = 0) :
    decode? [a, b, c, '='] =
      some [UInt8.ofNat (4 * x + y / 16), UInt8.ofNat (y % 16 * 16 + z / 4)] := by
  simp [decode?, ha, hb, hc, hbits, ne_equals_of_value? hc]

theorem decode?_three (ha : value? a = some x) (hb : value? b = some y) (hc : value? c = some z)
    (hd : value? d = some w) {rest : List Char} {octets : List UInt8}
    (hrest : decode? rest = some octets) :
    decode? (a :: b :: c :: d :: rest) =
      some (UInt8.ofNat (4 * x + y / 16) :: UInt8.ofNat (y % 16 * 16 + z / 4) ::
        UInt8.ofNat (z % 4 * 64 + w) :: octets) := by
  simp [decode?, ha, hb, hc, hd, hrest, ne_equals_of_value? hc, ne_equals_of_value? hd]

end Groups

/-! ## Octets -/

section Octets

variable {n : Nat} (a b c : UInt8)

theorem ofNat_eq {a : UInt8} (h : n = a.toNat) : UInt8.ofNat n = a := by
  rw [h, UInt8.ofNat_toNat]

/-- The first octet of a group, with the bits of the second sign that belong to the next octet. -/
theorem first_octet (hn : n < 16) :
    UInt8.ofNat (4 * (a.toNat / 4) + (a.toNat % 4 * 16 + n) / 16) = a :=
  ofNat_eq (by omega)

theorem second_octet (hn : n < 4) : UInt8.ofNat
    ((a.toNat % 4 * 16 + b.toNat / 16) % 16 * 16 + (b.toNat % 16 * 4 + n) / 4) = b := by
  have hb := b.toNat_lt
  exact ofNat_eq (by omega)

theorem third_octet : UInt8.ofNat
    ((b.toNat % 16 * 4 + c.toNat / 64) % 4 * 64 + c.toNat % 64) = c := by
  have hc := c.toNat_lt
  exact ofNat_eq (by omega)

end Octets

/-- **What was written is read back.** -/
theorem decode?_encode (octets : List UInt8) : decode? (encode octets) = some octets := by
  fun_induction encode octets with
  | case1 => rfl
  | case2 a =>
    have ha := a.toNat_lt
    rw [decode?_one (value?_sign (by omega)) (value?_sign (by omega)) (by omega)]
    exact congrArg (some [·]) (first_octet a (Nat.zero_lt_succ 15))
  | case3 a b =>
    have ha := a.toNat_lt
    have hb := b.toNat_lt
    rw [decode?_two (value?_sign (by omega)) (value?_sign (by omega)) (value?_sign (by omega))
      (by omega), first_octet a (by omega)]
    exact congrArg (some [a, ·]) (second_octet a b (Nat.zero_lt_succ 3))
  | case4 a b c rest ih =>
    have ha := a.toNat_lt
    have hb := b.toNat_lt
    have hc := c.toNat_lt
    rw [decode?_three (value?_sign (by omega)) (value?_sign (by omega)) (value?_sign (by omega))
      (value?_sign (by omega)) ih, first_octet a (by omega), second_octet a b (by omega),
      third_octet]

end ServiceAdmin.Text.Base64
