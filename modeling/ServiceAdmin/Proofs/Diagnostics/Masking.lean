import ServiceAdmin.Diagnostics.Redaction
import ServiceAdmin.Proofs.Text.Ascii
import ServiceAdmin.Proofs.Text.Runs

/-!
# Masking piece by piece

Masking goes through a text from the left, so a text may be masked in two pieces if no place that
begins in the first piece sees anything of the second (`maskFrom_append`).  The sections behind it
say when that is so for authorization headers, for bearer tokens and for secret members.
-/

namespace ServiceAdmin.Diagnostics

open Text (isBlank isWordChar forall_ascii toNat_lt_of_toLower)

/-! ## Letters -/

/-- What is to be shown of the characters that are letters of an ASCII word is shown of ASCII and of
the two letters that fold into it. -/
theorem isLetter_induction {P : Char → Prop} {word : List Char} (hword : ∀ w ∈ word, w.toNat < 128)
    (hascii : ∀ n < 128, ∀ w ∈ word, isLetter w (Char.ofNat n) = true → P (Char.ofNat n))
    (hlongS : P '\u017F') (hkelvin : P '\u212A') {w c : Char} (hw : w ∈ word)
    (h : isLetter w c = true) : P c := by
  by_cases hc : c.toNat < 128
  · exact forall_ascii (P := fun c => ∀ w ∈ word, isLetter w c = true → P c) hascii hc w hw h
  · simp only [isLetter, Bool.or_eq_true, Bool.and_eq_true, decide_eq_true_eq] at h
    rcases h with (h | ⟨_, rfl⟩) | ⟨_, rfl⟩
    · exact absurd (toNat_lt_of_toLower (h ▸ hword w hw)) hc
    · exact hlongS
    · exact hkelvin

abbrev authorizationWord : List Char := "authorization:".toList

abbrev bearerWord : List Char := "bearer".toList

theorem not_isBlank_of_isLetter {word : List Char} (hword : word = authorizationWord ∨
    word = bearerWord) {w c : Char} (hw : w ∈ word) (h : isLetter w c = true) :
    isBlank c = false := by
  rcases hword with rfl | rfl <;>
    exact isLetter_induction (P := fun c => isBlank c = false) (by decide +kernel)
      (by decide +kernel) (by decide +kernel) (by decide +kernel) hw h

/-! ## Words -/

theorem afterWord?_append {word s r : List Char} (h : afterWord? word s = some r) (x : List Char) :
    afterWord? word (s ++ x) = some (r ++ x) := by
  induction word generalizing s with
  | nil =>
    cases h
    rfl
  | cons w ws ih =>
    cases s with
    | nil => cases h
    | cons c s =>
      rw [afterWord?] at h
      split at h
      · next hc =>
        rw [List.cons_append, afterWord?, if_pos hc]
        exact ih h
      · cases h

/-- A word does not go beyond a character that is none of its letters. -/
theorem afterWord?_append_cons {word : List Char} {c : Char}
    (hc : ∀ w ∈ word, isLetter w c = false) (s x : List Char) :
    afterWord? word (s ++ c :: x) = (afterWord? word s).map (· ++ c :: x) := by
  induction word generalizing s with
  | nil => rfl
  | cons w ws ih =>
    cases s with
    | nil => simp [afterWord?, hc w List.mem_cons_self]
    | cons d s =>
      rw [List.cons_append, afterWord?, afterWord?]
      split
      · exact ih (fun v hv => hc v (List.mem_cons_of_mem _ hv)) s
      · rfl

theorem exists_append_of_afterWord? {word s r : List Char} (h : afterWord? word s = some r) :
    ∃ t, s = t ++ r ∧ afterWord? word t = some [] ∧ t.length = word.length ∧
      ∀ c ∈ t, ∃ w ∈ word, isLetter w c = true := by
  induction word generalizing s with
  | nil =>
    cases h
    exact ⟨[], rfl, rfl, rfl, by simp⟩
  | cons w ws ih =>
    cases s with
    | nil => cases h
    | cons c s =>
      rw [afterWord?] at h
      split at h
      · next hc =>
        obtain ⟨t, rfl, ht, hlength, hletters⟩ := ih h
        refine ⟨c :: t, rfl, ?_, by simp [hlength], ?_⟩
        · rw [afterWord?, if_pos hc]
          exact ht
        · intro d hd
          rcases List.mem_cons.1 hd with rfl | hd
          · exact ⟨w, List.mem_cons_self, hc⟩
          · obtain ⟨v, hv, hvd⟩ := hletters d hd
            exact ⟨v, List.mem_cons_of_mem _ hv, hvd⟩
      · cases h

/-! ## Masking -/

/-- The character before what stands behind `s`. -/
def lastOr (before : Option Char) (s : List Char) : Option Char := s.getLast?.or before

@[simp] theorem lastOr_nil (before : Option Char) : lastOr before [] = before := rfl

@[simp] theorem lastOr_cons (before : Option Char) (c : Char) (s : List Char) :
    lastOr before (c :: s) = lastOr (some c) s := by
  rw [lastOr, lastOr, List.getLast?_cons]
  cases s.getLast? <;> rfl

theorem lastOr_append (before : Option Char) (s t : List Char) :
    lastOr before (s ++ t) = lastOr (lastOr before s) t := by
  induction s generalizing before with
  | nil => rfl
  | cons c s ih => simp [ih]

/-- A pattern whose places lie in the text; the part that is kept is not empty. -/
structure Pattern.Lawful (p : Pattern) : Prop where
  pos : ∀ {before s kept masked}, p before s = some (kept, masked) → 0 < kept
  le : ∀ {before s kept masked}, p before s = some (kept, masked) → kept + masked ≤ s.length

/-- No place that begins in `s` sees that `x` stands behind it. -/
def Closed (p : Pattern) (before : Option Char) (s x : List Char) : Prop :=
  ∀ front r, s = front ++ r → r ≠ [] → p (lastOr before front) (r ++ x) = p (lastOr before front) r

theorem closed_nil {p : Pattern} {before : Option Char} {x : List Char} : Closed p before [] x := by
  intro front r h hr
  exact absurd (List.append_eq_nil_iff.1 h.symm).2 hr

theorem Closed.drop {p : Pattern} {before : Option Char} {s t x : List Char}
    (h : Closed p before (s ++ t) x) : Closed p (lastOr before s) t x := by
  rintro front r rfl hr
  rw [← lastOr_append]
  exact h (s ++ front) r (List.append_assoc ..).symm hr

section Masking

variable {p : Pattern}

theorem maskFrom_skip (before : Option Char) (d s : List Char) :
    maskFrom p before d.length (d ++ s) = maskFrom p (lastOr before d) 0 s := by
  induction d generalizing before with
  | nil => rfl
  | cons c d ih =>
    rw [List.length_cons, List.cons_append, maskFrom, ih, lastOr_cons]

theorem maskFrom_of_none {before : Option Char} {c : Char} {s : List Char}
    (h : p before (c :: s) = none) :
    maskFrom p before 0 (c :: s) = c :: maskFrom p (some c) 0 s := by
  rw [maskFrom, h]

/-- A place is kept in its first part and masked in its second. -/
theorem maskFrom_of_place {before : Option Char} {kept hidden s : List Char} (hkept : kept ≠ [])
    (h : p before (kept ++ hidden ++ s) = some (kept.length, hidden.length)) :
    maskFrom p before 0 (kept ++ hidden ++ s) =
      kept ++ mask ++ maskFrom p (lastOr before (kept ++ hidden)) 0 s := by
  cases kept with
  | nil => exact absurd rfl hkept
  | cons c kept =>
    have hskip : (c :: kept).length + hidden.length - 1 = (kept ++ hidden).length := by
      simp only [List.length_cons, List.length_append]
      omega
    have htake : (c :: (kept ++ (hidden ++ s))).take (c :: kept).length = c :: kept := by
      rw [← List.cons_append, List.take_left]
    simp only [List.cons_append, List.append_assoc] at h ⊢
    rw [maskFrom, h]
    dsimp only
    rw [hskip, htake, ← List.append_assoc kept, maskFrom_skip, lastOr_cons]
    simp

/-- What a place splits a text into. -/
theorem Pattern.Lawful.split (hp : p.Lawful) {before : Option Char} {s : List Char} {k m : Nat}
    (h : p before s = some (k, m)) :
    ∃ kept hidden r, s = kept ++ hidden ++ r ∧ kept ≠ [] ∧ k = kept.length ∧
      m = hidden.length := by
  have hpos := hp.pos h
  have hle := hp.le h
  refine ⟨s.take k, (s.drop k).take m, (s.drop k).drop m, ?_, ?_, ?_, ?_⟩
  · rw [List.append_assoc, List.take_append_drop, List.take_append_drop]
  · exact List.ne_nil_of_length_pos (by rw [List.length_take]; omega)
  · rw [List.length_take]
    omega
  · rw [List.length_take, List.length_drop]
    omega

/-- The recursion of masking, place by place. -/
theorem Pattern.Lawful.maskFrom_induction (hp : p.Lawful)
    {P : Option Char → List Char → List Char → Prop} (hnil : ∀ b, P b [] [])
    (hplain : ∀ b c s, p b (c :: s) = none → P (some c) s (maskFrom p (some c) 0 s) →
      P b (c :: s) (c :: maskFrom p (some c) 0 s))
    (hplace : ∀ b kept hidden s, kept ≠ [] →
      p b (kept ++ hidden ++ s) = some (kept.length, hidden.length) →
        P (lastOr b (kept ++ hidden)) s (maskFrom p (lastOr b (kept ++ hidden)) 0 s) →
          P b (kept ++ hidden ++ s) (kept ++ mask ++ maskFrom p (lastOr b (kept ++ hidden)) 0 s))
    (b : Option Char) (s : List Char) : P b s (maskFrom p b 0 s) := by
  generalize hn : s.length = n
  induction n using Nat.strongRecOn generalizing b s with
  | ind n ih =>
    cases s with
    | nil => exact hnil b
    | cons c s =>
      cases hpattern : p b (c :: s) with
      | none =>
        rw [maskFrom_of_none hpattern]
        exact hplain b c s hpattern (ih s.length (by simp [← hn]) _ _ rfl)
      | some place =>
        obtain ⟨kept, hidden, r, hs, hkept, hk, hm⟩ := hp.split hpattern
        have hlength : r.length < n := by
          have hpos := List.length_pos_iff.2 hkept
          rw [← hn, hs, List.length_append, List.length_append]
          omega
        obtain rfl : place = (kept.length, hidden.length) := Prod.ext hk hm
        rw [hs] at hpattern ⊢
        rw [maskFrom_of_place hkept hpattern]
        exact hplace b kept hidden r hkept hpattern (ih r.length hlength _ _ rfl)

/-- Masking in two pieces. -/
theorem maskFrom_append (hp : p.Lawful) {before : Option Char} {s x : List Char}
    (h : Closed p before s x) :
    maskFrom p before 0 (s ++ x) = maskFrom p before 0 s ++ maskFrom p (lastOr before s) 0 x := by
  refine hp.maskFrom_induction (P := fun before s t => Closed p before s x →
    maskFrom p before 0 (s ++ x) = t ++ maskFrom p (lastOr before s) 0 x) (fun _ _ => rfl)
    (fun before c s hnone ih h => ?_) (fun before kept hidden s hkept hplace ih h => ?_) before s h
  · have hsame : p before (c :: (s ++ x)) = p before (c :: s) := h [] _ rfl (List.cons_ne_nil _ _)
    rw [List.cons_append, maskFrom_of_none (hsame.trans hnone), lastOr_cons, List.cons_append]
    exact congrArg _ (ih (h.drop (s := [c])))
  · have hsame : p before (kept ++ hidden ++ s ++ x) = p before (kept ++ hidden ++ s) :=
      h [] _ rfl (by simp [hkept])
    rw [hplace, List.append_assoc] at hsame
    rw [List.append_assoc _ s x, maskFrom_of_place hkept hsame, lastOr_append before _ s, ih h.drop]
    simp

/-- A text where no place begins is left as it is. -/
theorem maskFrom_of_no_place {before : Option Char} {s x : List Char}
    (h : ∀ front r, s = front ++ r → r ≠ [] → p (lastOr before front) (r ++ x) = none) :
    maskFrom p before 0 (s ++ x) = s ++ maskFrom p (lastOr before s) 0 x := by
  induction s generalizing before with
  | nil => rfl
  | cons c s ih =>
    have hhead : p before (c :: (s ++ x)) = none := h [] (c :: s) rfl (List.cons_ne_nil _ _)
    rw [List.cons_append, maskFrom_of_none hhead, lastOr_cons]
    refine congrArg _ (ih ?_)
    rintro front r rfl hr
    have hbehind := h (c :: front) r rfl hr
    rwa [lastOr_cons] at hbehind

/-- Behind the last mask stands what stood behind the last place. -/
theorem maskFrom_tail (hp : p.Lawful) {P : List Char → Prop}
    (hP : ∀ before kept hidden r, p before (kept ++ hidden ++ r) =
      some (kept.length, hidden.length) → P r) (before : Option Char) (s : List Char) :
    maskFrom p before 0 s = s ∨
      ∃ front shown t, s = front ++ t ∧ maskFrom p before 0 s = shown ++ mask ++ t ∧ P t := by
  refine hp.maskFrom_induction (P := fun _ s t => t = s ∨ ∃ front shown r, s = front ++ r ∧
    t = shown ++ mask ++ r ∧ P r) (fun _ => .inl rfl) (fun before c s _ ih => ?_)
    (fun before kept hidden s _ hplace ih => .inr ?_) before s
  · rcases ih with h | ⟨front, shown, t, rfl, h, ht⟩
    · exact .inl (congrArg _ h)
    · exact .inr ⟨c :: front, c :: shown, t, rfl, congrArg _ h, ht⟩
  · rcases ih with h | ⟨front, shown, t, rfl, h, ht⟩
    · exact ⟨kept ++ hidden, kept, s, rfl, by rw [h], hP _ _ _ _ hplace⟩
    · refine ⟨kept ++ hidden ++ front, kept ++ mask ++ shown, t, ?_, ?_, ht⟩
      · simp
      · rw [h]
        simp

/-- For a pattern that does not look back, masking does not either. -/
theorem maskFrom_before (h : ∀ b₁ b₂ s, p b₁ s = p b₂ s) (b₁ b₂ : Option Char) (s : List Char) :
    maskFrom p b₁ 0 s = maskFrom p b₂ 0 s := by
  cases s with
  | nil => rfl
  | cons c s => rw [maskFrom, maskFrom, h b₁ b₂]

end Masking

end ServiceAdmin.Diagnostics
