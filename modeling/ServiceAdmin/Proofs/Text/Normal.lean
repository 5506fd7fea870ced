import ServiceAdmin.Proofs.Text.Ascii
import ServiceAdmin.Text.Normal

/-!
# Texts that are normal

A text in ASCII has no marks, and nothing in it is decomposed or composed, so that it is its own
canonical composition (`normal_of_ascii`).  The composition of a text without capital letters of
ASCII has none either (`not_isCapital_of_mem_normal`).
-/

namespace ServiceAdmin.Text

/-! ## The tables -/

theorem le_whole : ∀ d ∈ decompositions, 0x80 ≤ d.whole := by decide +kernel

/-- Nothing is composed with an ASCII character behind it. -/
theorem le_of_mem_tail_parts :
    ∀ d ∈ decompositions, d.composed = true → ∀ n ∈ d.parts.tail, 0x80 ≤ n := by decide +kernel

theorem le_first_markClasses : ∀ m ∈ markClasses, 0x80 ≤ m.first := by decide +kernel

/-! ## ASCII -/

variable {c : Char}

theorem markClass_of_ascii (h : c.toNat < 0x80) : markClass c = 0 := by
  have hnone : markClasses.find? (fun m => m.first ≤ c.toNat && c.toNat ≤ m.last) = none := by
    refine List.find?_eq_none.2 fun m hm hholds => ?_
    have hle := le_first_markClasses m hm
    have hfirst := of_decide_eq_true (Bool.and_eq_true_iff.1 hholds).1
    omega
  rw [markClass, hnone]
  rfl

theorem decompose_of_ascii (h : c.toNat < 0x80) (depth : Nat) : decompose depth c = [c] := by
  cases depth with
  | zero => rfl
  | succ depth =>
    have hsyllable : ¬ (0xAC00 ≤ c.toNat && c.toNat ≤ 0xD7A3) = true := by
      simp only [Bool.and_eq_true, decide_eq_true_eq]
      omega
    have hnone : decompositions.find? (·.whole = c.toNat) = none := by
      refine List.find?_eq_none.2 fun d hd hwhole => ?_
      have hle := le_whole d hd
      have heq := of_decide_eq_true hwhole
      omega
    rw [decompose, if_neg hsyllable, hnone]

theorem composePair?_of_ascii (a : Char) (h : c.toNat < 0x80) : composePair? a c = none := by
  have hvowel : ¬ (0x1100 ≤ a.toNat && a.toNat < 0x1113 && 0x1161 ≤ c.toNat &&
      c.toNat < 0x1176) = true := by
    simp only [Bool.and_eq_true, decide_eq_true_eq]
    omega
  have hlast : ¬ (0xAC00 ≤ a.toNat && a.toNat ≤ 0xD7A3 && (a.toNat - 0xAC00) % 28 = 0 &&
      0x11A7 < c.toNat && c.toNat < 0x11C3) = true := by
    simp only [Bool.and_eq_true, decide_eq_true_eq]
    omega
  have hnone : decompositions.find? (fun d => d.composed && d.parts = [a.toNat, c.toNat]) =
      none := by
    refine List.find?_eq_none.2 fun d hd hpair => ?_
    obtain ⟨hcomposed, hparts⟩ := Bool.and_eq_true_iff.1 hpair
    have hle := le_of_mem_tail_parts d hd hcomposed c.toNat (by
      rw [of_decide_eq_true hparts]
      exact List.mem_singleton.2 rfl)
    omega
  simp only [composePair?, if_neg hvowel, if_neg hlast, hnone, Option.map_none]

theorem insertMark_of_ascii (h : c.toNat < 0x80) (before : List Char) :
    insertMark c before = c :: before := by
  cases before with
  | nil => rfl
  | cons d before =>
    rw [insertMark, markClass_of_ascii h]
    rfl

theorem foldl_insertMark_of_ascii {s : List Char} (h : ∀ c ∈ s, c.toNat < 0x80)
    (before : List Char) :
    s.foldl (fun before c => insertMark c before) before = s.reverse ++ before := by
  induction s generalizing before with
  | nil => rfl
  | cons c s ih =>
    obtain ⟨hc, hs⟩ := List.forall_mem_cons.1 h
    rw [List.foldl_cons, insertMark_of_ascii hc, ih hs, List.reverse_cons, List.append_assoc]
    rfl

theorem composeFrom_of_ascii {s : List Char} (h : ∀ c ∈ s, c.toNat < 0x80) (starter : Char) :
    composeFrom starter [] s = starter :: s := by
  induction s generalizing starter with
  | nil => rfl
  | cons c s ih =>
    obtain ⟨hc, hs⟩ := List.forall_mem_cons.1 h
    simp only [composeFrom, composePair?_of_ascii starter hc, markClass_of_ascii hc, ih hs]
    rfl

/-- **A text in ASCII is normal.** -/
theorem normal_of_ascii {s : List Char} (h : ∀ c ∈ s, c.toNat < 0x80) : normal s = s := by
  have hparts : s.flatMap (decompose decompositionDepth) = s := by
    rw [List.flatMap_def, List.map_congr_left fun c hc => decompose_of_ascii (h c hc) _,
      ← List.flatMap_def, List.flatMap_singleton']
  simp only [normal]
  rw [hparts, foldl_insertMark_of_ascii h, List.append_nil, List.reverse_reverse]
  cases s with
  | nil => rfl
  | cons c s =>
    obtain ⟨hc, hs⟩ := List.forall_mem_cons.1 h
    rw [compose, if_pos (markClass_of_ascii hc), composeFrom_of_ascii hs]

/-! ## Capital letters -/

/-- A capital letter of ASCII. -/
def IsCapital (c : Char) : Prop := 0x41 ≤ c.toNat ∧ c.toNat ≤ 0x5A

instance (c : Char) : Decidable (IsCapital c) := inferInstanceAs (Decidable (_ ∧ _))

theorem not_isCapital_ofNat {n : Nat} (h : n < 0x41 ∨ 0x5A < n) : ¬ IsCapital (Char.ofNat n) := by
  rintro ⟨hfirst, hlast⟩
  rcases toNat_ofNat_cases n with hcode | hcode <;> omega

/-- No character is decomposed into a capital letter. -/
theorem le_part : ∀ d ∈ decompositions, ∀ n ∈ d.parts, n < 0x41 ∨ 0x5A < n := by decide +kernel

theorem not_isCapital_ofNat_add {n : Nat} (h : 0x5A < n) (k : Nat) :
    ¬ IsCapital (Char.ofNat (n + k)) :=
  not_isCapital_ofNat (.inr (Nat.lt_add_right k h))

theorem not_isCapital_of_mem_hangulLetters (c : Char) :
    ∀ d ∈ hangulLetters c, ¬ IsCapital d := by
  have hsmall (n k : Nat) (hn : 0x5A < n) : ¬ IsCapital (Char.ofNat (n + k)) :=
    not_isCapital_ofNat_add hn k
  simp only [hangulLetters]
  split
  · simp only [List.forall_mem_cons]
    exact ⟨hsmall _ _ (by decide), hsmall _ _ (by decide), fun _ h => nomatch h⟩
  · simp only [List.forall_mem_append, List.forall_mem_cons]
    exact ⟨⟨hsmall _ _ (by decide), hsmall _ _ (by decide), fun _ h => nomatch h⟩,
      hsmall _ _ (by decide), fun _ h => nomatch h⟩

theorem not_isCapital_of_mem_decompose (depth : Nat) {c : Char} (h : ¬ IsCapital c) :
    ∀ d ∈ decompose depth c, ¬ IsCapital d := by
  induction depth generalizing c with
  | zero => exact fun d hd => List.mem_singleton.1 hd ▸ h
  | succ depth ih =>
    rw [decompose]
    split
    · exact not_isCapital_of_mem_hangulLetters c
    split
    · next entry hentry =>
      intro d hd
      obtain ⟨part, hpart, hd⟩ := List.mem_flatMap.1 hd
      obtain ⟨n, hn, rfl⟩ := List.mem_map.1 hpart
      exact ih (not_isCapital_ofNat (le_part entry (List.mem_of_find?_eq_some hentry) n hn)) d hd
    · exact fun d hd => List.mem_singleton.1 hd ▸ h

theorem not_isCapital_of_composePair? {a b whole : Char} (h : composePair? a b = some whole) :
    ¬ IsCapital whole := by
  simp only [composePair?] at h
  split at h
  · obtain rfl := Option.some.inj h
    rw [Nat.add_assoc]
    exact not_isCapital_ofNat_add (by decide) _
  split at h
  · next hlast =>
    obtain rfl := Option.some.inj h
    simp only [Bool.and_eq_true, decide_eq_true_eq] at hlast
    exact not_isCapital_ofNat_add (Nat.lt_of_lt_of_le (by decide) hlast.1.1.1.1) _
  · obtain ⟨d, hd, rfl⟩ := Option.map_eq_some_iff.1 h
    have hle := le_whole d (List.mem_of_find?_eq_some hd)
    exact not_isCapital_ofNat (by omega)

theorem mem_insertMark {c d : Char} {before : List Char} :
    d ∈ insertMark c before → d = c ∨ d ∈ before := by
  induction before with
  | nil => exact fun h => .inl (List.mem_singleton.1 h)
  | cons e before ih =>
    intro h
    rw [insertMark] at h
    split at h
    · rcases List.mem_cons.1 h with rfl | h
      · exact .inr List.mem_cons_self
      · exact (ih h).imp_right (List.mem_cons_of_mem e)
    · exact List.mem_cons.1 h

theorem mem_foldl_insertMark {d : Char} {s before : List Char}
    (h : d ∈ s.foldl (fun before c => insertMark c before) before) : d ∈ s ∨ d ∈ before := by
  induction s generalizing before with
  | nil => exact .inr h
  | cons c s ih =>
    rcases ih h with h | h
    · exact .inl (List.mem_cons_of_mem c h)
    · rcases mem_insertMark h with rfl | h
      · exact .inl List.mem_cons_self
      · exact .inr h

theorem not_isCapital_of_mem_composeFrom {starter : Char} {marks s : List Char}
    (hstarter : ¬ IsCapital starter) (hmarks : ∀ c ∈ marks, ¬ IsCapital c)
    (hs : ∀ c ∈ s, ¬ IsCapital c) : ∀ c ∈ composeFrom starter marks s, ¬ IsCapital c := by
  induction s generalizing starter marks with
  | nil =>
    rw [composeFrom]
    exact List.forall_mem_cons.2 ⟨hstarter, fun c hc => hmarks c (List.mem_reverse.1 hc)⟩
  | cons c s ih =>
    obtain ⟨hc, hs⟩ := List.forall_mem_cons.1 hs
    simp only [composeFrom]
    split
    · next whole hwhole =>
      obtain ⟨-, hwhole⟩ := Option.ite_none_right_eq_some.1 hwhole
      exact ih (not_isCapital_of_composePair? hwhole) hmarks hs
    split
    · refine List.forall_mem_append.2 ⟨?_, ih hc (fun _ h => nomatch h) hs⟩
      exact List.forall_mem_cons.2 ⟨hstarter, fun d hd => hmarks d (List.mem_reverse.1 hd)⟩
    · exact ih hstarter (List.forall_mem_cons.2 ⟨hc, hmarks⟩) hs

theorem not_isCapital_of_mem_compose {s : List Char} (h : ∀ c ∈ s, ¬ IsCapital c) :
    ∀ c ∈ compose s, ¬ IsCapital c := by
  induction s with
  | nil => exact h
  | cons c s ih =>
    obtain ⟨hc, hs⟩ := List.forall_mem_cons.1 h
    rw [compose]
    split
    · exact not_isCapital_of_mem_composeFrom hc (fun _ h => nomatch h) hs
    · exact List.forall_mem_cons.2 ⟨hc, ih hs⟩

/-- **No capital letter comes from composing others.** -/
theorem not_isCapital_of_mem_normal {s : List Char} (h : ∀ c ∈ s, ¬ IsCapital c) :
    ∀ c ∈ normal s, ¬ IsCapital c := by
  refine not_isCapital_of_mem_compose fun c hc => ?_
  rcases mem_foldl_insertMark (List.mem_reverse.1 hc) with hc | hc
  · obtain ⟨d, hd, hc⟩ := List.mem_flatMap.1 hc
    exact not_isCapital_of_mem_decompose _ (h d hd) c hc
  · cases hc

end ServiceAdmin.Text
