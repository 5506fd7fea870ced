import ServiceAdmin.Proofs.Json.Recognized
import ServiceAdmin.Proofs.Number.Numeral

/-!
# Whole numbers

What is read as a whole number without a sign is its decimal digits without leading zeros, up to
the limit of 64 bits (`recognizes_natural64`).  A number with a sign, a fraction or an exponent is
none, whatever its value is.
-/

namespace ServiceAdmin.Json

open ServiceAdmin.Number (digit? digit?_of_isDigit isDigit_of_digit? le_ofDigitChars max64)

variable {s t r ds : List Char} {c : Char} {n : Int} {m d : Nat}

/-- The text is the whole digits of the number, which fits in 64 bits. -/
structure IsNaturalOf (n : Nat) (t : List Char) : Prop where
  whole : IsWhole t
  value : Nat.ofDigitChars 10 t 0 = n
  le : n ≤ max64

/-! ## Digits -/

theorem digit?_eq_some (h : isDigit c = true) : digit? c = some (c.toNat - '0'.toNat) := by
  obtain ⟨d, hd⟩ := Option.isSome_iff_exists.1 h
  rw [hd, (isDigit_of_digit? hd).2]

theorem digit?_eq_none (h : isDigit c = false) : digit? c = none := by
  rwa [isDigit, Option.isSome_eq_false_iff, Option.isNone_iff_eq_none] at h

/-- The digits of a number within 64 bits are all read. -/
theorem significand_append (hds : ∀ c ∈ ds, isDigit c = true)
    (hs : ∀ c ∈ s.head?, isDigit c = false) {value : Nat}
    (hle : Nat.ofDigitChars 10 ds value ≤ max64) (count : Nat) :
    significand value count (ds ++ s) =
      ((Nat.ofDigitChars 10 ds value, count + ds.length), s) := by
  induction ds generalizing value count with
  | nil =>
    cases s with
    | nil => rfl
    | cons c s =>
      rw [List.nil_append, significand, digit?_eq_none (hs c rfl)]
      rfl
  | cons c ds ih =>
    obtain ⟨hc, hds⟩ := List.forall_mem_cons.1 hds
    rw [Nat.ofDigitChars_cons] at hle ⊢
    have hfits := Nat.le_trans (le_ofDigitChars ds _) hle
    rw [List.cons_append, significand, digit?_eq_some hc]
    dsimp only
    rw [if_neg (Nat.not_lt.2 hfits), ih hds hle, List.length_cons]
    congr 2
    omega

/-- What is read is some digits, and their value. -/
theorem exists_of_significand {value count k : Nat} (h : significand value count s = ((m, k), r))
    (hvalue : value ≤ max64) :
    ∃ ds, (∀ c ∈ ds, isDigit c = true) ∧ Nat.ofDigitChars 10 ds value = m ∧ m ≤ max64 ∧
      s = ds ++ r := by
  induction s generalizing value count with
  | nil =>
    cases h
    exact ⟨[], by simp, rfl, hvalue, rfl⟩
  | cons c s ih =>
    rw [significand] at h
    split at h
    · next d hd =>
      split at h
      · cases h
        exact ⟨[], by simp, rfl, hvalue, rfl⟩
      · next hfits =>
        obtain ⟨ds, hds, hm, hle, rfl⟩ := ih h (Nat.not_lt.1 hfits)
        have hc : isDigit c = true := by
          rw [isDigit, hd]
          rfl
        rw [(isDigit_of_digit? hd).2] at hm
        exact ⟨c :: ds, List.forall_mem_cons.2 ⟨hc, hds⟩, hm, hle, rfl⟩
    · cases h
      exact ⟨[], by simp, rfl, hvalue, rfl⟩

/-! ## Numbers with a fraction or an exponent -/

theorem scaled_ne_whole (negative : Bool) (m : Nat) (e : Int) (s : List Char) :
    scaled negative m e s ≠ .ok (.whole n, r) := by
  intro h
  unfold scaled at h
  split at h <;> cases h

theorem exponent_ne_whole (negative : Bool) (m : Nat) (e : Int) (s : List Char) :
    exponent negative m e s ≠ .ok (.whole n, r) := by
  intro h
  unfold exponent at h
  split at h
  · cases h
  split at h
  · cases h
  split at h
  · exact scaled_ne_whole _ _ _ _ h
  · split at h <;> cases h

theorem exponent?_ne_whole (negative : Bool) (m : Nat) (e : Int) (s : List Char) :
    exponent? negative m e s ≠ .ok (.whole n, r) := by
  unfold exponent?
  split
  · exact exponent_ne_whole _ _ _ _
  · exact exponent_ne_whole _ _ _ _
  · exact scaled_ne_whole _ _ _ _

theorem fraction_ne_whole (negative : Bool) (m : Nat) (e : Int) (s : List Char) :
    fraction negative m e s ≠ .ok (.whole n, r) := by
  unfold fraction
  split
  · split
    · exact exponent?_ne_whole _ _ _ _
    · split
      · exact nofun
      · exact exponent?_ne_whole _ _ _ _
  · split
    · exact nofun
    · exact exponent?_ne_whole _ _ _ _

/-- A number that is whole ends with its digits; with a sign it is below zero. -/
theorem of_afterDigits {negative : Bool} {e : Nat}
    (h : afterDigits negative m e s = .ok (.whole n, r)) :
    e = 0 ∧ r = s ∧ (if negative then n < 0 else n = m) := by
  unfold afterDigits at h
  split at h
  · exact absurd h (fraction_ne_whole _ _ _ _)
  · exact absurd h (exponent_ne_whole _ _ _ _)
  · exact absurd h (exponent_ne_whole _ _ _ _)
  split at h
  · exact absurd h (scaled_ne_whole _ _ _ _)
  next he =>
    split at h
    · next hnegative =>
      split at h
      · cases h
      · cases h
        rw [if_pos hnegative]
        exact ⟨by omega, rfl, by omega⟩
    · next hnegative =>
      cases h
      rw [if_neg hnegative]
      exact ⟨by omega, rfl, rfl⟩

theorem afterDigits_of_ends (hs : Ends s) (m : Nat) :
    afterDigits false m 0 s = .ok (.whole m, s) := by
  have hhead := hs.not_number
  unfold afterDigits
  split
  · exact absurd rfl (hhead '.' rfl).2.1
  · exact absurd rfl (hhead 'e' rfl).2.2.1
  · exact absurd rfl (hhead 'E' rfl).2.2.2
  · rfl

/-! ## Whole numbers -/

theorem numeral_of_ne_minus (hc : c ≠ '-') (s : List Char) :
    numeral (c :: s) = unsigned false (c :: s) := by
  unfold numeral
  split
  · next heq => exact absurd (List.cons.inj heq).1 hc
  · rfl

theorem unsigned_zero_cons (negative : Bool) (c : Char) (s : List Char) :
    unsigned negative ('0' :: c :: s) =
      if isDigit c then .error (failOn (c :: s) .invalidNumber)
      else afterDigits negative 0 0 (c :: s) := rfl

theorem unsigned_zero (negative : Bool) (hs : ∀ c ∈ s.head?, isDigit c = false) :
    unsigned negative ('0' :: s) = afterDigits negative 0 0 s := by
  cases s with
  | nil => rfl
  | cons c s => rw [unsigned_zero_cons, hs c rfl, if_neg Bool.false_ne_true]

theorem toNat_of_isDigit (hc : isDigit c = true) : 48 ≤ c.toNat ∧ c.toNat ≤ 57 :=
  Number.toNat_of_isDigit (isDigit_of_digit? (digit?_eq_some hc)).1

theorem value_ne_zero (hc : isDigit c = true) (hzero : c ≠ '0') : c.toNat - '0'.toNat ≠ 0 := by
  obtain ⟨hle, -⟩ := toNat_of_isDigit hc
  have hne : c.toNat ≠ 48 := fun h => hzero (Char.toNat_inj.1 h)
  have h0 : '0'.toNat = 48 := rfl
  omega

theorem value_le (hc : isDigit c = true) : c.toNat - '0'.toNat ≤ max64 := by
  obtain ⟨-, hle⟩ := toNat_of_isDigit hc
  exact Nat.le_trans (Nat.sub_le _ _) (Nat.le_trans hle (by decide))

theorem unsigned_digits (negative : Bool) (hc : isDigit c = true) (hzero : c ≠ '0')
    (s : List Char) :
    unsigned negative (c :: s) =
      let ((m, _), r) := significand (c.toNat - '0'.toNat) 0 s
      afterDigits negative m (r.takeWhile isDigit).length (skipDigits r) := by
  unfold unsigned
  dsimp only
  rw [digit?_eq_some hc]
  split
  · next heq => cases heq
  · next heq => exact absurd (Option.some.inj heq) (value_ne_zero hc hzero)
  · next heq =>
    cases heq
    rfl

/-- The digits of a number are read up to whatever ends the number. -/
theorem numeral_append {n : Nat} (h : IsNaturalOf n t) (hs : Ends s) :
    numeral (t ++ s) = .ok (.whole n, s) := by
  obtain ⟨hwhole, rfl, hle⟩ := h
  have hhead : ∀ c ∈ s.head?, isDigit c = false := fun c hc => (hs.not_number c hc).1
  cases hwhole with
  | zero =>
    rw [List.singleton_append, numeral_of_ne_minus (by decide), unsigned_zero _ hhead,
      afterDigits_of_ends hs]
    rfl
  | @digits c ds hzero hds =>
    obtain ⟨hc, hds⟩ := List.forall_mem_cons.1 hds.2
    have hminus : c ≠ '-' := by
      rintro rfl
      cases hc
    rw [Nat.ofDigitChars_cons, Nat.mul_zero, Nat.zero_add] at hle ⊢
    rw [List.cons_append, numeral_of_ne_minus hminus, unsigned_digits _ hc hzero,
      significand_append hds hhead hle]
    dsimp only
    have hrun : s.takeWhile isDigit = [] :=
      Text.takeWhile_append_of_head (u := []) (by simp) hhead
    rw [hrun, skipDigits, Text.dropWhile_of_head hhead]
    exact afterDigits_of_ends hs _

/-- What is read as a whole number is its digits; with a sign it is below zero. -/
theorem exists_of_unsigned {negative : Bool} (h : unsigned negative s = .ok (.whole n, r)) :
    ∃ m t, IsNaturalOf m t ∧ s = t ++ r ∧ (if negative then n < 0 else n = m) := by
  cases s with
  | nil => cases h
  | cons c s =>
    cases hc : isDigit c with
    | false =>
      unfold unsigned at h
      dsimp only at h
      rw [digit?_eq_none hc] at h
      cases h
    | true =>
      by_cases hzero : c = '0'
      · subst hzero
        have hhead : ∀ c ∈ s.head?, isDigit c = false := by
          intro d hd
          cases s with
          | nil => cases hd
          | cons e s =>
            cases hd
            by_contra hdigit
            rw [unsigned_zero_cons, if_pos (Bool.not_eq_false _ ▸ hdigit)] at h
            cases h
        rw [unsigned_zero negative hhead] at h
        obtain ⟨-, rfl, hn⟩ := of_afterDigits h
        exact ⟨0, ['0'], ⟨.zero, rfl, Nat.zero_le _⟩, rfl, hn⟩
      · rw [unsigned_digits negative hc hzero] at h
        generalize hread : significand (c.toNat - '0'.toNat) 0 s = read at h
        obtain ⟨⟨m, k⟩, u⟩ := read
        dsimp only at h
        obtain ⟨hlength, rfl, hn⟩ := of_afterDigits h
        have hrest : skipDigits u = u := by
          have happend := List.takeWhile_append_dropWhile (p := isDigit) (l := u)
          rwa [List.length_eq_zero_iff.1 hlength, List.nil_append] at happend
        have hsmall : c.toNat - '0'.toNat ≤ max64 := value_le hc
        obtain ⟨ds, hds, hm, hle, rfl⟩ := exists_of_significand hread hsmall
        have hvalue : Nat.ofDigitChars 10 (c :: ds) 0 = m := by
          rwa [Nat.ofDigitChars_cons, Nat.mul_zero, Nat.zero_add]
        have hdigits : IsDigits (c :: ds) :=
          ⟨List.cons_ne_nil c ds, List.forall_mem_cons.2 ⟨hc, hds⟩⟩
        rw [hrest]
        exact ⟨m, c :: ds, ⟨.digits hzero hdigits, hvalue, hle⟩, rfl, hn⟩

theorem exists_of_numeral (h : numeral s = .ok (.whole n, r)) (hn : 0 ≤ n) :
    ∃ m t, IsNaturalOf m t ∧ s = t ++ r ∧ n = m := by
  unfold numeral at h
  split at h
  · obtain ⟨m, t, -, -, hbelow⟩ := exists_of_unsigned h
    rw [if_pos rfl] at hbelow
    omega
  · obtain ⟨m, t, ht, hs, hm⟩ := exists_of_unsigned h
    rw [if_neg Bool.false_ne_true] at hm
    exact ⟨m, t, ht, hs, hm⟩

theorem IsNaturalOf.exists_eq {n : Nat} (h : IsNaturalOf n t) :
    ∃ c u, t = c :: u ∧ isDigit c = true ∧ Fronted (c :: u) := by
  obtain ⟨c, u, rfl, hc⟩ := h.whole.exists_eq
  obtain ⟨hblank, hne⟩ := ne_of_isDigit hc
  simp only [List.mem_cons, List.not_mem_nil, or_false, not_or] at hne
  exact ⟨c, u, rfl, hc, fronted_cons ⟨hblank, hne.2.1, hne.2.2.2.1⟩ u⟩

/-- A number is read as a numeral that is accepted. -/
theorem exists_of_read_number {α : Type} {wanted : String} {accept : Numeral → Except Cause α}
    {a : α} (h : (Shape.number wanted accept).read s = .ok (a, r)) :
    ∃ b u x, Blank b ∧ s = b ++ u ∧ numeral u = .ok (x, r) ∧ accept x = .ok a := by
  obtain ⟨b, c, u, hb, hs, hfront⟩ := exists_of_readFront h
  split at hfront
  · split at hfront
    · cases hfront
    · next x v hx =>
      split at hfront
      · next ha =>
        cases hfront
        exact ⟨b, c :: u, x, hb, hs, hx, ha⟩
      · cases hfront
  · cases hfront

/-- **What is read as a whole number without a sign is its digits.** -/
theorem recognizes_natural64 : Shape.natural64.Recognizes IsNaturalOf where
  reads := by
    intro n t h
    obtain ⟨c, u, rfl, hc, hfront⟩ := h.exists_eq
    have hinteger : (Shape.integer "u64" 0 max64).Reads n (c :: u) := by
      unfold Shape.integer Shape.number
      refine Shape.reads_ofFront hfront fun s hs => ?_
      have hread := numeral_append h hs
      have hle : (n : Int) ≤ max64 := Int.ofNat_le.2 h.le
      rw [List.cons_append] at hread
      rw [hc, Bool.or_true, if_pos rfl, hread]
      dsimp only
      rw [if_pos ⟨Int.natCast_nonneg n, hle⟩]
    exact hinteger.map Int.toNat
  exists_of_read := by
    intro s n r h
    obtain ⟨⟨i, r'⟩, hinteger, heq⟩ := exists_of_map h
    cases heq
    obtain ⟨b, u, x, hb, rfl, hx, haccept⟩ := exists_of_read_number hinteger
    cases x with
    | floating x => cases haccept
    | whole i =>
      dsimp only at haccept
      split at haccept
      · next hi =>
        cases haccept
        obtain ⟨m, t, ht, rfl, rfl⟩ := exists_of_numeral hx hi.1
        exact ⟨b, t, hb, ht, rfl⟩
      · cases haccept

end ServiceAdmin.Json
