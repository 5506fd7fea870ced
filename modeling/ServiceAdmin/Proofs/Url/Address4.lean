import Mathlib.Data.List.Induction
import Mathlib.Data.Nat.Digits.Defs
import ServiceAdmin.Proofs.Text.Pieces
import ServiceAdmin.Url.Address

/-!
# Addresses of four octets that are read again

Digits are read as the number that they write (`digitsValue?_toDigits`).  An address of version 4
has four octets (`lt_of_address4?`), and its text is read as that address (`address4?_text`).
-/

namespace ServiceAdmin.Url

/-! ## Digits -/

theorem forall_mem_toDigits {b : Nat} (hb : 1 < b) {P : Char → Prop}
    (h : ∀ d < b, P (Nat.digitChar d)) (n : Nat) : ∀ c ∈ Nat.toDigits b n, P c := by
  induction n using Nat.strongRecOn with
  | ind n ih =>
    rw [Nat.toDigits_eq_if hb]
    split
    · next hn =>
      intro c hc
      rw [List.mem_singleton.1 hc]
      exact h n hn
    · next hn =>
      intro c hc
      rcases List.mem_append.1 hc with hc | hc
      · exact ih (n / b) (Nat.div_lt_self (by omega) hb) c hc
      · rw [List.mem_singleton.1 hc]
        exact h _ (Nat.mod_lt _ (by omega))

theorem toDigits_ne_nil (b n : Nat) : Nat.toDigits b n ≠ [] :=
  List.ne_nil_of_length_pos Nat.length_toDigits_pos

/-- The step of `digitsValue?`. -/
theorem digitsValue?_append (base : Nat) (s : List Char) (c : Char) :
    digitsValue? base (s ++ [c]) = (digitsValue? base s).bind fun n =>
      (hexValue? c).bind fun d => if d < base then some (n * base + d) else none := by
  rw [digitsValue?, List.foldlM_append]
  refine congrArg (digitsValue? base s).bind (funext fun n => ?_)
  simp

theorem digitsValue?_toDigits {b : Nat} (hb : 1 < b) (hle : b ≤ 16) (n : Nat) :
    digitsValue? b (Nat.toDigits b n) = some n := by
  have hvalue : ∀ d < 16, hexValue? (Nat.digitChar d) = some d := by decide
  have hdigit {d : Nat} (hd : d < b) (m : Nat) :
      ((hexValue? (Nat.digitChar d)).bind fun d => if d < b then some (m * b + d) else none) =
        some (m * b + d) := by
    rw [hvalue d (by omega)]
    exact if_pos hd
  induction n using Nat.strongRecOn with
  | ind n ih =>
    rw [Nat.toDigits_eq_if hb]
    split
    · next hn =>
      rw [← List.nil_append [Nat.digitChar n], digitsValue?_append]
      show ((hexValue? (Nat.digitChar n)).bind _) = _
      rw [hdigit hn, Nat.zero_mul, Nat.zero_add]
    · next hn =>
      rw [digitsValue?_append, ih (n / b) (Nat.div_lt_self (by omega) hb), Option.bind_some,
        hdigit (Nat.mod_lt _ (by omega)), Nat.div_add_mod']

theorem lt_of_digitsValue? {base n : Nat} {s : List Char} (h : digitsValue? base s = some n) :
    n < base ^ s.length := by
  induction s using List.reverseRecOn generalizing n with
  | nil =>
    cases h
    exact Nat.one_pos
  | append_singleton s c ih =>
    rw [digitsValue?_append] at h
    obtain ⟨m, hm, h⟩ := Option.bind_eq_some_iff.1 h
    obtain ⟨d, -, h⟩ := Option.bind_eq_some_iff.1 h
    split at h
    · next hd =>
      cases h
      rw [List.length_append, List.length_singleton, Nat.pow_succ]
      calc m * base + d < m * base + base := by omega
        _ = (m + 1) * base := (Nat.succ_mul m base).symm
        _ ≤ base ^ s.length * base := Nat.mul_le_mul_right base (ih hm)
    · cases h

/-! ## Octets -/

/-- What the four octets of an address have in common. -/
theorem octet_facts {k : Nat} (h : k < 256) :
    addressNumber? (Nat.toDigits 10 k) = some k ∧ '.' ∉ Nat.toDigits 10 k := by
  have key : ∀ k < 256, addressNumber? (Nat.toDigits 10 k) = some k ∧ '.' ∉ Nat.toDigits 10 k := by
    decide +kernel
  exact key k h

theorem isDigit_of_mem_toDigits (n : Nat) : ∀ c ∈ Nat.toDigits 10 n, c.isDigit = true :=
  fun _ hc => Nat.isDigit_of_mem_toDigits (by decide) (by decide) hc

/-- The four octets of an address. -/
def octets (n : Nat) : List Nat :=
  [n / 0x1000000 % 256, n / 0x10000 % 256, n / 0x100 % 256, n % 256]

theorem toList_address4Text (n : Nat) :
    (address4Text n).toList = ['.'].intercalate ((octets n).map (Nat.toDigits 10)) := by
  rw [address4Text, String.toList_intercalate, List.map_map]
  refine congrArg (List.intercalate ['.']) (List.map_congr_left fun k _ => ?_)
  exact Nat.toList_repr

theorem hostLabels_of_last {host last : List Char} {labels : List (List Char)}
    (h : Text.pieces '.' host = labels ++ [last]) (hlast : last ≠ []) :
    hostLabels host = labels ++ [last] := by
  rw [hostLabels, h]
  split
  · next heq =>
    rw [List.reverse_append, List.reverse_singleton, List.singleton_append, List.cons.injEq] at heq
    exact absurd heq.1 hlast
  · rfl

theorem hostLabels_address4Text (n : Nat) :
    hostLabels (address4Text n).toList = (octets n).map (Nat.toDigits 10) := by
  have hpieces : Text.pieces '.' (address4Text n).toList = (octets n).map (Nat.toDigits 10) := by
    rw [toList_address4Text]
    refine Text.pieces_intercalate (List.cons_ne_nil _ _) fun label hlabel => ?_
    obtain ⟨k, hk, rfl⟩ := List.mem_map.1 hlabel
    refine (octet_facts ?_).2
    simp only [octets, List.mem_cons, List.not_mem_nil, or_false] at hk
    omega
  have hlast : (octets n).map (Nat.toDigits 10) =
      (octets n).dropLast.map (Nat.toDigits 10) ++ [Nat.toDigits 10 (n % 256)] := rfl
  rw [hlast] at hpieces ⊢
  exact hostLabels_of_last hpieces (toDigits_ne_nil _ _)

theorem endsInNumber_address4Text (n : Nat) : endsInNumber (address4Text n).toList = true := by
  have hlast : (hostLabels (address4Text n).toList).getLast? =
      some (Nat.toDigits 10 (n % 256)) := by
    rw [hostLabels_address4Text]
    rfl
  have hall : (Nat.toDigits 10 (n % 256)).all Char.isDigit = true :=
    List.all_eq_true.2 (isDigit_of_mem_toDigits _)
  have hne : (Nat.toDigits 10 (n % 256)).isEmpty = false :=
    List.isEmpty_eq_false_iff.2 (toDigits_ne_nil _ _)
  rw [endsInNumber, hlast]
  simp only [hall, hne]
  rfl

/-- **The text of an address of version 4 is read as that address.** -/
theorem address4?_text {n : Nat} (h : n < 0x100000000) :
    address4? (address4Text n).toList = some n := by
  have hnumbers : ((octets n).map (Nat.toDigits 10)).mapM addressNumber? = some (octets n) := by
    have ha := (octet_facts (show n / 0x1000000 % 256 < 256 by omega)).1
    have hb := (octet_facts (show n / 0x10000 % 256 < 256 by omega)).1
    have hc := (octet_facts (show n / 0x100 % 256 < 256 by omega)).1
    have hd := (octet_facts (show n % 256 < 256 by omega)).1
    simp only [octets, List.map_cons, List.map_nil, List.mapM_cons, List.mapM_nil, ha, hb, hc, hd]
    rfl
  have hfew : ¬ 4 < ((octets n).map (Nat.toDigits 10)).length := Nat.lt_irrefl 4
  rw [address4?, hostLabels_address4Text]
  simp only [if_neg hfew, hnumbers, Option.bind_eq_bind, Option.bind_some]
  have hfirsts : (octets n).reverse =
      n % 256 :: [n / 0x1000000 % 256, n / 0x10000 % 256, n / 0x100 % 256].reverse := rfl
  rw [hfirsts]
  dsimp only
  rw [List.reverse_reverse]
  generalize hfront : [n / 0x1000000 % 256, n / 0x10000 % 256, n / 0x100 % 256] = front
  have hpow : Nat.pow 256 (4 - front.length) = 256 := by
    rw [← hfront]
    rfl
  have hany : front.any (fun x => decide (255 < x)) = false := by
    rw [← hfront]
    refine List.any_eq_false.2 fun k hk => ?_
    simp only [List.mem_cons, List.not_mem_nil, or_false] at hk
    simp only [decide_eq_true_eq]
    omega
  have hlast : decide (256 ≤ n % 256) = false := decide_eq_false (by omega)
  rw [hpow, hany, hlast, ← hfront]
  show some ((((0 * 256 + n / 0x1000000 % 256) * 256 + n / 0x10000 % 256) * 256 +
    n / 0x100 % 256) * 256 + n % 256) = some n
  congr 1
  omega

theorem foldl_octets_lt {firsts : List Nat} (h : ∀ k ∈ firsts, k < 256) (high : Nat) :
    firsts.foldl (fun n x => n * 256 + x) high < (high + 1) * Nat.pow 256 firsts.length := by
  induction firsts generalizing high with
  | nil => simp
  | cons k firsts ih =>
    have hk := h k List.mem_cons_self
    have hrest := ih (fun j hj => h j (List.mem_cons_of_mem _ hj)) (high * 256 + k)
    calc firsts.foldl (fun n x => n * 256 + x) (high * 256 + k)
        < (high * 256 + k + 1) * Nat.pow 256 firsts.length := hrest
      _ ≤ ((high + 1) * 256) * Nat.pow 256 firsts.length :=
        Nat.mul_le_mul_right _ (by omega)
      _ = (high + 1) * Nat.pow 256 (firsts.length + 1) := by
        rw [Nat.mul_assoc, Nat.mul_comm 256]
        rfl

/-- An address of version 4 fits into four octets. -/
theorem lt_of_address4? {host : List Char} {n : Nat} (h : address4? host = some n) :
    n < 0x100000000 := by
  rw [address4?] at h
  dsimp only at h
  split at h
  · cases h
  next hfew =>
  obtain ⟨numbers, hnumbers, h⟩ := Option.bind_eq_some_iff.1 h
  have hlength := Text.length_of_mapM hnumbers
  split at h
  · cases h
  next last firsts hreverse =>
  have hnumbers' : numbers.length = firsts.length + 1 := by
    rw [← List.length_reverse, hreverse, List.length_cons]
  split at h
  · cases h
  next hsmall =>
  cases h
  simp only [Bool.or_eq_true, not_or, decide_eq_true_eq, Bool.not_eq_true, List.any_eq_false,
    Nat.not_le, Nat.not_lt] at hsmall
  obtain ⟨hfirsts, hlast⟩ := hsmall
  have hhigh := foldl_octets_lt (fun k hk => Nat.lt_succ_of_le (hfirsts k hk)) 0
  -- the last number fills the octets that the `count` numbers before it leave
  generalize firsts.reverse.foldl (fun n x => n * 256 + x) 0 = high at hhigh ⊢
  have hcount : firsts.reverse.length ≤ 3 := by
    rw [List.length_reverse]
    omega
  generalize firsts.reverse.length = count at hhigh hlast hcount ⊢
  calc high * Nat.pow 256 (4 - count) + last
      < (high + 1) * Nat.pow 256 (4 - count) := by
        rw [Nat.succ_mul]
        omega
    _ ≤ Nat.pow 256 count * Nat.pow 256 (4 - count) := Nat.mul_le_mul_right _ (by omega)
    _ = 0x100000000 := by
        show 256 ^ count * 256 ^ (4 - count) = 0x100000000
        rw [← Nat.pow_add, Nat.add_sub_cancel' (by omega)]

theorem forall_mem_address4Text {P : Char → Prop} (hdigit : ∀ d < 10, P (Nat.digitChar d))
    (hdot : P '.') (n : Nat) : ∀ c ∈ (address4Text n).toList, P c := by
  intro c hc
  rw [toList_address4Text] at hc
  rcases Text.mem_intercalate hc with hc | ⟨label, hlabel, hc⟩
  · rw [List.mem_singleton.1 hc]
    exact hdot
  · obtain ⟨k, -, rfl⟩ := List.mem_map.1 hlabel
    exact forall_mem_toDigits (by decide) hdigit k c hc

end ServiceAdmin.Url
