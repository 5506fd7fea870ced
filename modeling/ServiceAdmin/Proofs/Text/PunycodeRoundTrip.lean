import ServiceAdmin.Proofs.Text.Punycode
import ServiceAdmin.Proofs.Text.Runs

/-!
# Punycode is read as it was written

A number of variable length is read back, whatever stands behind it (`readNumber?_writeNumber`).
The reader inserts the characters in the order in which the writer handles them: first by their code
points, then by their places.  While the writer passes over the text for the code point `m`, the
reader has those characters that it passed and that are at most `m`, and of the others those below
`m` (`known`).  So the reader has the whole text at the end (`decode?_encode`).
-/

namespace ServiceAdmin.Text.Punycode

/-! ## Numbers -/

theorem digitValue?_digitChar {d : Nat} (h : d < 36) : digitValue? (digitChar d) = some d := by
  have key : ∀ d < 36, digitValue? (digitChar d) = some d := by decide
  exact key d h

/-- The digit `t + r` and the number `m` behind it stand for `q`. -/
theorem digit_add_mul {q t m : Nat} (ht : t ≤ q) (i w : Nat) :
    i + (t + (q - t) % m) * w + (q - t) / m * (w * m) = i + q * w := by
  have hsum : t + (q - t) % m + m * ((q - t) / m) = q := by
    have hdiv := Nat.mod_add_div (q - t) m
    omega
  have hswap : (q - t) / m * (w * m) = m * ((q - t) / m) * w := by
    rw [Nat.mul_comm m, Nat.mul_assoc, Nat.mul_comm m]
  rw [hswap, Nat.add_assoc, ← Nat.add_mul, hsum]

/-- **A number is read as it was written.** -/
theorem readNumber?_writeNumber (q k bias i w : Nat) (rest : List Char) :
    readNumber? bias i w k (writeNumber q k bias ++ rest) = some (i + q * w, rest) := by
  induction q, k using writeNumber.induct bias generalizing i w with
  | case1 q k t hlt =>
    have hle : t ≤ 26 := threshold_le k bias
    rw [writeNumber, if_pos hlt, List.singleton_append, readNumber?,
      digitValue?_digitChar (by omega)]
    show (if q < t then _ else _) = _
    rw [if_pos hlt]
  | case2 q k t hge ih =>
    have hle : t ≤ 26 := threshold_le k bias
    have hmod : (q - t) % (36 - t) < 36 - t := Nat.mod_lt _ (by omega)
    have hlt : t + (q - t) % (36 - t) < 36 := by omega
    have hdigit : ¬ t + (q - t) % (36 - t) < t := by omega
    rw [writeNumber, if_neg hge, List.cons_append, readNumber?, digitValue?_digitChar hlt]
    show (if t + (q - t) % (36 - t) < t then _ else _) = _
    rw [if_neg hdigit, ih]
    exact congrArg (fun n => some (n, rest)) (digit_add_mul (by omega) i w)

theorem readOthers?_of_readNumber? {n i bias j : Nat} {text s r : List Char}
    (h : readNumber? bias i 1 36 s = some (j, r)) :
    readOthers? n i bias text s =
      if isScalar (n + j / (text.length + 1)) then
        readOthers? (n + j / (text.length + 1)) (j % (text.length + 1) + 1)
          (adapt (j - i) (text.length + 1) (i = 0))
          (insertAt (Char.ofNat (n + j / (text.length + 1))) (j % (text.length + 1)) text) r
      else none := by
  cases s with
  | nil => cases h
  | cons c s =>
    rw [readOthers?]
    split
    · next hnone => cases h.symm.trans hnone
    · next hsome =>
      cases h.symm.trans hsome
      rfl

/-! ## The characters that are read -/

/-- What the reader has while the writer handles the code point `m`, has passed `pre`, and has
`rest` before it. -/
def known (m : Nat) (pre rest : List Char) : List Char :=
  pre.filter (·.toNat ≤ m) ++ rest.filter (·.toNat < m)

/-- How many of the passed characters the reader has. -/
def passed (m : Nat) (pre : List Char) : Nat := (pre.filter (·.toNat ≤ m)).length

theorem passed_le_length_known (m : Nat) (pre rest : List Char) :
    passed m pre ≤ (known m pre rest).length := by
  rw [known, passed, List.length_append]
  exact Nat.le_add_right _ _

theorem insertAt_append (c : Char) (s t : List Char) :
    insertAt c s.length (s ++ t) = s ++ c :: t := by
  induction s with
  | nil => cases t <;> rfl
  | cons d s ih => rw [List.length_cons, List.cons_append, insertAt, ih, List.cons_append]

theorem length_insertAt (c : Char) (i : Nat) (s : List Char) :
    (insertAt c i s).length = s.length + 1 := by
  induction s generalizing i with
  | nil => cases i <;> rfl
  | cons d s ih =>
    cases i with
    | zero => rfl
    | succ i => rw [insertAt, List.length_cons, ih, List.length_cons]

variable {m : Nat} {pre rest : List Char} {c : Char}

theorem known_of_lt (h : c.toNat < m) : known m (pre ++ [c]) rest = known m pre (c :: rest) := by
  have hle : c.toNat ≤ m := Nat.le_of_lt h
  simp [known, h, hle]

theorem known_of_gt (h : m < c.toNat) : known m (pre ++ [c]) rest = known m pre (c :: rest) := by
  have hle : ¬ c.toNat ≤ m := by omega
  have hlt : ¬ c.toNat < m := by omega
  simp [known, hle, hlt]

/-- The character that is handled is inserted behind those that are passed. -/
theorem known_of_eq (h : c.toNat = m) :
    insertAt c (passed m pre) (known m pre (c :: rest)) = known m (pre ++ [c]) rest := by
  have hle : c.toNat ≤ m := Nat.le_of_eq h
  have hlt : ¬ c.toNat < m := by omega
  rw [known, passed, List.filter_cons_of_neg (by simpa using hlt), insertAt_append]
  simp [known, hle]

theorem passed_of_le (h : c.toNat ≤ m) : passed m (pre ++ [c]) = passed m pre + 1 := by
  simp [passed, h]

theorem passed_of_gt (h : m < c.toNat) : passed m (pre ++ [c]) = passed m pre := by
  have hle : ¬ c.toNat ≤ m := by omega
  simp [passed, hle]

/-! ## One pass of the writer -/

/-- Writer and reader agree: the reader, at the code point `n` and the place `i`, is as many steps
behind the writer as the writer has counted. -/
structure Agrees (m : Nat) (pre rest : List Char) (st : State) (n i : Nat) : Prop where
  le : n ≤ m
  first : st.first = decide (i = 0)
  handled : st.handled = (known m pre rest).length
  delta : i + st.delta = (m - n) * (st.handled + 1) + passed m pre

theorem isScalar_toNat (c : Char) : isScalar c.toNat = true := by
  have hvalid := c.valid
  simp only [UInt32.isValidChar, Nat.isValidChar] at hvalid
  simp only [isScalar, Bool.or_eq_true, Bool.and_eq_true, decide_eq_true_eq]
  exact hvalid

/-- The number that is written for a character tells its code point and its place. -/
theorem Agrees.div_mod {st : State} {n i : Nat} (h : Agrees m pre rest st n i) :
    n + (i + st.delta) / (st.handled + 1) = m ∧
      (i + st.delta) % (st.handled + 1) = passed m pre := by
  have hlt : passed m pre < st.handled + 1 := by
    rw [h.handled]
    exact Nat.lt_succ_of_le (passed_le_length_known m pre rest)
  have hle := h.le
  rw [h.delta, Nat.mul_comm, Nat.mul_add_div (Nat.succ_pos _), Nat.mul_add_mod,
    Nat.div_eq_of_lt hlt, Nat.mod_eq_of_lt hlt]
  exact ⟨by omega, rfl⟩

/-- **The reader follows a pass of the writer.** -/
theorem exists_agrees_writePass {st : State} {n i : Nat} (h : Agrees m pre rest st n i) :
    ∃ n' i', Agrees m (pre ++ rest) [] (writePass m st (rest.map Char.toNat)).1 n' i' ∧
      ∀ tail, readOthers? n i st.bias (known m pre rest)
          ((writePass m st (rest.map Char.toNat)).2 ++ tail) =
        readOthers? n' i' (writePass m st (rest.map Char.toNat)).1.bias (known m (pre ++ rest) [])
          tail := by
  induction rest generalizing pre st n i with
  | nil =>
    rw [List.append_nil]
    exact ⟨n, i, h, fun _ => rfl⟩
  | cons c rest ih =>
    have hpre : pre ++ c :: rest = pre ++ [c] ++ rest := by simp
    rw [List.map_cons, writePass, hpre]
    rcases Nat.lt_trichotomy c.toNat m with hlt | heq | hgt
    · -- the reader has the character already, and its place counts
      rw [if_pos hlt, ← known_of_lt hlt]
      have hdelta := h.delta
      refine ih ⟨h.le, h.first, ?_, ?_⟩
      · rw [known_of_lt hlt]
        exact h.handled
      · rw [passed_of_le (Nat.le_of_lt hlt)]
        show i + (st.delta + 1) = (m - n) * (st.handled + 1) + (passed m pre + 1)
        omega
    · -- the character is written, and the reader inserts it
      obtain ⟨hcode, hplace⟩ := h.div_mod
      have hcount : (known m pre (c :: rest)).length = st.handled := h.handled.symm
      have hagrees : Agrees m (pre ++ [c]) rest
          ⟨0, adapt st.delta (st.handled + 1) st.first, st.handled + 1, false⟩ m
          (passed m pre + 1) := by
        refine ⟨Nat.le_refl m, rfl, ?_, ?_⟩
        · rw [← known_of_eq heq, length_insertAt, hcount]
        · rw [passed_of_le (Nat.le_of_eq heq), Nat.sub_self, Nat.zero_mul, Nat.zero_add]
          rfl
      obtain ⟨n', i', hafter, hread⟩ := ih hagrees
      have hscalar : isScalar m = true := heq ▸ isScalar_toNat c
      have hchar : Char.ofNat m = c := by rw [← heq, Char.ofNat_toNat]
      rw [if_neg (by omega), if_pos heq]
      refine ⟨n', i', hafter, fun tail => ?_⟩
      show readOthers? n i st.bias _ (writeNumber st.delta 36 st.bias ++ _ ++ tail) = _
      rw [List.append_assoc, readOthers?_of_readNumber? (readNumber?_writeNumber _ _ _ _ _ _),
        Nat.mul_one, hcount, hcode, hplace, if_pos hscalar, hchar, known_of_eq heq,
        Nat.add_sub_cancel_left, ← h.first]
      exact hread tail
    · -- the character comes later
      rw [if_neg (by omega), if_neg (by omega), ← known_of_gt hgt]
      refine ih ⟨h.le, h.first, ?_, ?_⟩
      · rw [known_of_gt hgt]
        exact h.handled
      · rw [passed_of_gt hgt]
        exact h.delta

/-! ## The whole text -/

theorem filter_lt_congr {s : List Char} {m n : Nat} (hle : n ≤ m)
    (h : ∀ c ∈ s, n ≤ c.toNat → m ≤ c.toNat) :
    s.filter (·.toNat < m) = s.filter (·.toNat < n) := by
  refine List.filter_congr fun c hc => ?_
  have hup := h c hc
  simp only [decide_eq_decide]
  omega

/-- **The reader has the whole text when the writer has handled all code points.** -/
theorem readOthers?_writeOthers {s : List Char} {ms : List Nat} (hsorted : ms.Pairwise (· < ·))
    {n₀ : Nat} (hge : ∀ m ∈ ms, n₀ ≤ m) (hmem : ∀ c ∈ s, n₀ ≤ c.toNat → c.toNat ∈ ms)
    {st : State} {n i : Nat} (hle : n ≤ n₀) (hfirst : st.first = decide (i = 0))
    (hhandled : st.handled = (s.filter (·.toNat < n₀)).length)
    (hdelta : i + st.delta = (n₀ - n) * (st.handled + 1)) :
    readOthers? n i st.bias (s.filter (·.toNat < n₀))
      (writeOthers (s.map Char.toNat) n₀ st ms) = some s := by
  induction ms generalizing n₀ st n i with
  | nil =>
    have hall : ∀ c ∈ s, decide (c.toNat < n₀) = true := fun c hc =>
      decide_eq_true (Nat.lt_of_not_le fun hlarge => List.not_mem_nil (hmem c hc hlarge))
    rw [writeOthers, readOthers?, List.filter_eq_self.2 hall]
  | cons m ms ih =>
    obtain ⟨hlater, hsorted⟩ := List.pairwise_cons.1 hsorted
    have hm := hge m List.mem_cons_self
    -- no character is between the code points `n₀` and `m`
    have hbetween : ∀ c ∈ s, n₀ ≤ c.toNat → m ≤ c.toNat := by
      intro c hc hlarge
      rcases List.mem_cons.1 (hmem c hc hlarge) with heq | hc
      · omega
      · exact Nat.le_of_lt (hlater _ hc)
    have hknown : known m [] s = s.filter (·.toNat < n₀) := filter_lt_congr hm hbetween
    have hagrees : Agrees m [] s
        { st with delta := st.delta + (m - n₀) * (st.handled + 1) } n i := by
      refine ⟨by omega, hfirst, by rw [hknown]; exact hhandled, ?_⟩
      show i + (st.delta + (m - n₀) * (st.handled + 1)) = (m - n) * (st.handled + 1) + 0
      rw [← Nat.add_assoc, hdelta, ← Nat.add_mul, Nat.add_zero]
      congr 1
      omega
    obtain ⟨n', i', hafter, hread⟩ := exists_agrees_writePass hagrees
    rw [writeOthers, ← hknown]
    generalize writePass m _ (s.map Char.toNat) = pass at hafter hread ⊢
    obtain ⟨st', out⟩ := pass
    -- behind the pass the reader has all characters up to `m`
    have hpast : known m s [] = s.filter (·.toNat < m + 1) := by
      simp only [known, List.filter_nil, List.append_nil, Nat.lt_succ_iff]
    have hlength : passed m s = (known m s []).length := by simp [known, passed]
    refine (hread _).trans ?_
    rw [List.nil_append] at hafter ⊢
    rw [hpast]
    show readOthers? n' i' { st' with delta := st'.delta + 1 }.bias _ _ = _
    refine ih hsorted (fun k hk => hlater k hk) ?_ (Nat.le_succ_of_le hafter.le) hafter.first ?_ ?_
    · intro c hc hlarge
      have hne : c.toNat ≠ m := by omega
      exact (List.mem_cons.1 (hmem c hc (by omega))).resolve_left hne
    · rw [← hpast]
      exact hafter.handled
    · have hcount := hafter.delta
      have hn := hafter.le
      rw [hlength, ← hafter.handled] at hcount
      have hstep : m + 1 - n' = m - n' + 1 := by omega
      rw [hstep, Nat.add_mul, Nat.one_mul]
      dsimp only at hcount ⊢
      omega

/-! ## The code points in order -/

/-- Without repetitions an ordered list is strictly ordered. -/
theorem exists_eraseRepsBy_loop {n : Nat} {ns : List Nat} (h : (n :: ns).Pairwise (· ≤ ·))
    (acc : List Nat) :
    ∃ ms, List.eraseRepsBy.loop (· == ·) n ns acc = acc.reverse ++ ms ∧
      ms.Pairwise (· < ·) ∧ ∀ k, k ∈ ms ↔ k ∈ n :: ns := by
  induction ns generalizing n acc with
  | nil =>
    refine ⟨[n], ?_, List.pairwise_singleton _ _, fun _ => Iff.rfl⟩
    rw [List.eraseRepsBy.loop, List.reverse_cons]
  | cons m ns ih =>
    obtain ⟨hfirst, hrest⟩ := List.pairwise_cons.1 h
    by_cases hnm : n = m
    · subst hnm
      obtain ⟨ms, hloop, hms, hmem⟩ := ih hrest acc
      refine ⟨ms, ?_, hms, fun k => ?_⟩
      · rw [List.eraseRepsBy.loop, beq_self_eq_true]
        exact hloop
      · rw [hmem, List.mem_cons, List.mem_cons, List.mem_cons, or_self_left]
    · obtain ⟨ms, hloop, hms, hmem⟩ := ih hrest (n :: acc)
      have hlt : n < m := Nat.lt_of_le_of_ne (hfirst m List.mem_cons_self) hnm
      refine ⟨n :: ms, ?_, List.pairwise_cons.2 ⟨fun k hk => ?_, hms⟩, fun k => ?_⟩
      · rw [List.eraseRepsBy.loop, beq_false_of_ne hnm]
        show List.eraseRepsBy.loop _ m ns (n :: acc) = _
        rw [hloop, List.reverse_cons, List.append_assoc]
        rfl
      · rcases List.mem_cons.1 ((hmem k).1 hk) with rfl | hk
        · exact hlt
        · exact Nat.lt_of_lt_of_le hlt (List.rel_of_pairwise_cons hrest hk)
      · rw [List.mem_cons, hmem, List.mem_cons (b := n)]

theorem distinct_spec (ns : List Nat) :
    (distinct ns).Pairwise (· < ·) ∧ ∀ n, n ∈ distinct ns ↔ n ∈ ns := by
  have hsorted : (ns.mergeSort (· ≤ ·)).Pairwise (· ≤ ·) := by
    refine (List.pairwise_mergeSort ?_ ?_ ns).imp of_decide_eq_true
    · intro a b c hab hbc
      exact decide_eq_true (Nat.le_trans (of_decide_eq_true hab) (of_decide_eq_true hbc))
    · intro a b
      simpa using Nat.le_total a b
  have hmem (n : Nat) : n ∈ ns.mergeSort (· ≤ ·) ↔ n ∈ ns := List.mem_mergeSort
  rw [distinct]
  generalize ns.mergeSort (· ≤ ·) = sorted at hsorted hmem
  cases sorted with
  | nil => exact ⟨.nil, hmem⟩
  | cons m sorted =>
    obtain ⟨ms, hloop, hms, hsame⟩ := exists_eraseRepsBy_loop hsorted []
    have hms' : (m :: sorted).eraseReps = ms := hloop
    rw [hms']
    exact ⟨hms, fun n => (hsame n).trans (hmem n)⟩

/-! ## The front -/

theorem splitLast_of_notMem {s : List Char} (h : '-' ∉ s) : splitLast s = ([], s) := by
  have hall : s.reverse.takeWhile (· ≠ '-') = s.reverse := by
    refine takeWhile_of_forall fun c hc => decide_eq_true ?_
    rintro rfl
    exact h (List.mem_reverse.1 hc)
  simp only [splitLast, hall, List.reverse_reverse, Nat.sub_self, Nat.zero_sub, List.take_zero]

theorem splitLast_append {ascii digits : List Char} (hne : ascii ≠ []) (h : '-' ∉ digits) :
    splitLast (ascii ++ ['-'] ++ digits) = (ascii, digits) := by
  have hdigits : (ascii ++ ['-'] ++ digits).reverse.takeWhile (· ≠ '-') = digits.reverse := by
    rw [List.reverse_append, List.reverse_append, List.reverse_singleton, List.singleton_append,
      List.takeWhile_append_of_pos]
    · simp
    · intro c hc
      refine decide_eq_true ?_
      rintro rfl
      exact h (List.mem_reverse.1 hc)
  have htake : (ascii ++ ['-'] ++ digits).take
      ((ascii ++ ['-'] ++ digits).length - digits.length - 1) = ascii := by
    have hlength : (ascii ++ ['-'] ++ digits).length - digits.length - 1 = ascii.length := by
      simp
      omega
    rw [hlength, List.append_assoc, List.take_left]
  simp only [splitLast, hdigits, List.reverse_reverse, htake]

theorem decode?_front {ascii digits : List Char} (hascii : ∀ c ∈ ascii, c.toNat < 0x80)
    (h : '-' ∉ digits) :
    decode? ((if ascii.isEmpty then [] else ascii ++ ['-']) ++ digits) =
      readOthers? 0x80 0 72 ascii digits := by
  have hsplit : splitLast ((if ascii.isEmpty then [] else ascii ++ ['-']) ++ digits) =
      (ascii, digits) := by
    by_cases hne : ascii = []
    · subst hne
      exact splitLast_of_notMem h
    · rw [if_neg (mt List.isEmpty_iff.1 hne)]
      exact splitLast_append hne h
  have hall : (ascii.all fun c => c.toNat < 0x80) = true :=
    List.all_eq_true.2 fun c hc => decide_eq_true (hascii c hc)
  simp only [decode?, hsplit]
  rw [if_pos hall]

/-- **Punycode is read as it was written.** -/
theorem decode?_encode (s : List Char) : decode? (encode s) = some s := by
  obtain ⟨hsorted, hmem⟩ := distinct_spec ((s.filter fun c => 0x80 ≤ c.toNat).map Char.toNat)
  simp only [encode]
  generalize distinct ((s.filter fun c => 0x80 ≤ c.toNat).map Char.toNat) = others at hsorted hmem ⊢
  have hge : ∀ m ∈ others, 0x80 ≤ m := by
    intro m hm
    obtain ⟨c, hc, rfl⟩ := List.mem_map.1 ((hmem m).1 hm)
    exact of_decide_eq_true (List.mem_filter.1 hc).2
  have hothers : ∀ c ∈ s, 0x80 ≤ c.toNat → c.toNat ∈ others := fun c hc hle =>
    (hmem _).2 (List.mem_map_of_mem (List.mem_filter.2 ⟨hc, decide_eq_true hle⟩))
  have hhyphen (st : State) : '-' ∉ writeOthers (s.map Char.toNat) 0x80 st others := by
    intro h
    obtain ⟨d, hd, hdigit⟩ := exists_of_mem_writeOthers _ _ _ _ '-' h
    have hne : ∀ d < 36, '-' ≠ digitChar d := by decide
    exact hne d hd hdigit
  have hascii : ∀ c ∈ s.filter (fun c => c.toNat < 0x80), c.toNat < 0x80 := fun c hc =>
    of_decide_eq_true (List.mem_filter.1 hc).2
  have hread : ∀ st : State, st.delta = 0 → st.first = true →
      st.handled = (s.filter (fun c => c.toNat < 0x80)).length →
      readOthers? 0x80 0 st.bias (s.filter fun c => c.toNat < 0x80)
        (writeOthers (s.map Char.toNat) 0x80 st others) = some s := by
    intro st hdelta hfirst hhandled
    refine readOthers?_writeOthers hsorted hge hothers (Nat.le_refl _) hfirst hhandled ?_
    rw [hdelta, Nat.sub_self, Nat.zero_mul]
  rw [decode?_front hascii (hhyphen _)]
  exact hread ⟨0, 72, _, true⟩ rfl rfl rfl

end ServiceAdmin.Text.Punycode
