import ServiceAdmin.Proofs.Text.Ascii
import ServiceAdmin.Text.Punycode

/-!
# The characters of Punycode

Punycode is made of the ASCII characters of the text that it writes, of hyphens and of digits
(`mem_encode`, `mem_of_decode?`).
-/

namespace ServiceAdmin.Text.Punycode

/-! ## Digits -/

theorem isAlphanum_digitChar {d : Nat} (h : d < 36) : (digitChar d).isAlphanum = true := by
  have key : ∀ d < 36, (digitChar d).isAlphanum = true := by decide
  exact key d h

theorem isAlphanum_of_digitValue? {c : Char} (h : (digitValue? c).isSome = true) :
    c.isAlphanum = true := by
  have key : c.toNat < 128 → c.isAlphanum = true := fun hc => forall_ascii
    (P := fun c => (digitValue? c).isSome = true → c.isAlphanum = true) (by decide) hc h
  have hle {d : Char} (hcd : c ≤ d) (hd : d.toNat < 128) : c.toNat < 128 :=
    Nat.lt_of_le_of_lt hcd hd
  unfold digitValue? at h
  split at h
  · next hc => exact key (hle (of_decide_eq_true (Bool.and_eq_true_iff.1 hc).2) (by decide))
  split at h
  · next hc => exact key (hle (of_decide_eq_true (Bool.and_eq_true_iff.1 hc).2) (by decide))
  split at h
  · next hc => exact key (hle (of_decide_eq_true (Bool.and_eq_true_iff.1 hc).2) (by decide))
  · cases h

theorem threshold_le (k bias : Nat) : threshold k bias ≤ 26 := by
  unfold threshold
  omega

/-! ## Writing -/

theorem exists_of_mem_writeNumber (q k bias : Nat) :
    ∀ c ∈ writeNumber q k bias, ∃ d < 36, c = digitChar d := by
  induction q, k using writeNumber.induct bias with
  | case1 q k t h =>
    rw [writeNumber, if_pos h]
    intro c hc
    have hle : t ≤ 26 := threshold_le k bias
    exact ⟨q, by omega, List.mem_singleton.1 hc⟩
  | case2 q k t h ih =>
    rw [writeNumber, if_neg h]
    intro c hc
    rcases List.mem_cons.1 hc with rfl | hc
    · have hle : t ≤ 26 := threshold_le k bias
      have hmod : (q - t) % (36 - t) < 36 - t := Nat.mod_lt _ (by omega)
      exact ⟨t + (q - t) % (36 - t), by omega, rfl⟩
    · exact ih c hc

theorem exists_of_mem_writePass (n : Nat) (text : List Nat) (st : State) :
    ∀ c ∈ (writePass n st text).2, ∃ d < 36, c = digitChar d := by
  induction text generalizing st with
  | nil => simp [writePass]
  | cons m text ih =>
    rw [writePass]
    split
    · exact ih _
    split
    · intro c hc
      rcases List.mem_append.1 hc with hc | hc
      · exact exists_of_mem_writeNumber _ _ _ c hc
      · exact ih _ c hc
    · exact ih _

theorem exists_of_mem_writeOthers (text ms : List Nat) (n : Nat) (st : State) :
    ∀ c ∈ writeOthers text n st ms, ∃ d < 36, c = digitChar d := by
  induction ms generalizing n st with
  | nil => simp [writeOthers]
  | cons m ms ih =>
    intro c hc
    rw [writeOthers] at hc
    rcases List.mem_append.1 hc with hc | hc
    · exact exists_of_mem_writePass _ _ _ c hc
    · exact ih _ _ c hc

theorem mem_encode {s : List Char} {c : Char} (h : c ∈ encode s) :
    (c ∈ s ∧ c.toNat < 0x80) ∨ c = '-' ∨ ∃ d < 36, c = digitChar d := by
  have hascii : c ∈ s.filter (fun c => c.toNat < 0x80) → c ∈ s ∧ c.toNat < 0x80 := fun hc =>
    (List.mem_filter.1 hc).imp_right of_decide_eq_true
  unfold encode at h
  dsimp only at h
  rcases List.mem_append.1 h with h | h
  · split at h
    · cases h
    · rcases List.mem_append.1 h with h | h
      · exact .inl (hascii h)
      · exact .inr (.inl (List.mem_singleton.1 h))
  · exact .inr (.inr (exists_of_mem_writeOthers _ _ _ _ c h))

/-! ## Reading -/

theorem mem_of_readNumber? {bias i w k j : Nat} {s r : List Char}
    (h : readNumber? bias i w k s = some (j, r)) {c : Char} (hc : c ∈ s) :
    c.isAlphanum = true ∨ c ∈ r := by
  induction s generalizing i w k with
  | nil => cases hc
  | cons d s ih =>
    simp only [readNumber?, Option.bind_eq_bind, Option.bind_eq_some_iff] at h
    obtain ⟨n, hn, h⟩ := h
    have hd : d.isAlphanum = true := isAlphanum_of_digitValue? (by rw [hn]; rfl)
    split at h
    · cases h
      rcases List.mem_cons.1 hc with rfl | hc
      · exact .inl hd
      · exact .inr hc
    · rcases List.mem_cons.1 hc with rfl | hc
      · exact .inl hd
      · exact ih h hc

theorem mem_insertAt {c d : Char} {s : List Char} (h : c ∈ s) (i : Nat) : c ∈ insertAt d i s := by
  induction s generalizing i with
  | nil => cases h
  | cons e s ih =>
    cases i with
    | zero => exact List.mem_cons_of_mem _ h
    | succ i =>
      rw [insertAt]
      rcases List.mem_cons.1 h with rfl | h
      · exact List.mem_cons_self
      · exact List.mem_cons_of_mem _ (ih h i)

/-- The characters that are there stay, and what is read is made of digits. -/
theorem mem_of_readOthers? {n i bias : Nat} {text s t : List Char}
    (h : readOthers? n i bias text s = some t) :
    (∀ c ∈ text, c ∈ t) ∧ ∀ c ∈ s, c.isAlphanum = true := by
  induction n, i, bias, text, s using readOthers?.induct with
  | case1 n i bias text =>
    rw [readOthers?] at h
    cases h
    exact ⟨fun c hc => hc, by simp⟩
  | case2 n i bias text c rest hread =>
    rw [readOthers?] at h
    split at h
    · cases h
    · next heq => rw [hread] at heq; cases heq
  | case3 n i bias text c rest j r hread count m hscalar ih =>
    rw [readOthers?] at h
    split at h
    · cases h
    next heq =>
    rw [hread] at heq
    cases heq
    rw [if_pos hscalar] at h
    obtain ⟨htext, hr⟩ := ih h
    exact ⟨fun d hd => htext d (mem_insertAt hd _),
      fun d hd => (mem_of_readNumber? hread hd).elim id (hr d)⟩
  | case4 n i bias text c rest j r hread count m hscalar =>
    rw [readOthers?] at h
    split at h
    · cases h
    next heq =>
    rw [hread] at heq
    cases heq
    rw [if_neg hscalar] at h
    cases h

theorem mem_splitLast {s : List Char} {c : Char} (h : c ∈ s) :
    c ∈ (splitLast s).1 ∨ c = '-' ∨ c ∈ (splitLast s).2 := by
  unfold splitLast
  dsimp only
  generalize hdigits : s.reverse.takeWhile (· ≠ '-') = digits
  have hsplit := List.takeWhile_append_dropWhile (p := fun c => c ≠ '-') (l := s.reverse)
  rw [hdigits] at hsplit
  split
  · exact .inr (.inr h)
  · cases hrest : s.reverse.dropWhile (· ≠ '-') with
    | nil =>
      rw [hrest, List.append_nil] at hsplit
      rw [hsplit, List.reverse_reverse]
      exact .inr (.inr h)
    | cons d before =>
      have hd : d = '-' := by
        have hhead := List.head?_dropWhile_not (fun c => c ≠ '-') s.reverse
        rw [hrest] at hhead
        simpa using hhead
      rw [hrest] at hsplit
      have hs : s = before.reverse ++ d :: digits.reverse := by
        have hreverse := congrArg List.reverse hsplit
        simpa using hreverse.symm
      have htake : s.take (s.length - digits.reverse.length - 1) = before.reverse := by
        rw [hs]
        refine List.take_left' ?_
        simp only [List.length_append, List.length_cons]
        omega
      rw [htake]
      rw [hs] at h
      rcases List.mem_append.1 h with h | h
      · exact .inl h
      rcases List.mem_cons.1 h with rfl | h
      · exact .inr (.inl hd)
      · exact .inr (.inr h)

theorem mem_of_decode? {s t : List Char} (h : decode? s = some t) {c : Char} (hc : c ∈ s) :
    c ∈ t ∨ c = '-' ∨ c.isAlphanum = true := by
  unfold decode? at h
  dsimp only at h
  split at h
  · obtain ⟨htext, hdigits⟩ := mem_of_readOthers? h
    rcases mem_splitLast hc with hc | hc | hc
    · exact .inl (htext c hc)
    · exact .inr (.inl hc)
    · exact .inr (.inr (hdigits c hc))
  · cases h

end ServiceAdmin.Text.Punycode
