import ServiceAdmin.Proofs.Json.Reading
import ServiceAdmin.Proofs.Json.Twin

/-!
# Strings of twins

Strings that are read from twins are the same or differ by their tokens, and they end before twins
(`alike_text`).
-/

namespace ServiceAdmin.Json

open Text (isWordChar forall_ascii)
open Text.Utf8 (size)

variable {k : Slot} {s₁ s₂ : List Char}

/-! ## Words -/

theorem alike_word {w : List Char} (hw : 'b' ∉ w) (h : Twin k s₁ s₂) :
    Alike k (Taken k Eq) (word w s₁) (word w s₂) := by
  induction w generalizing s₁ s₂ with
  | nil => exact ⟨rfl, h⟩
  | cons a w ih =>
    obtain ⟨ha, hw⟩ := not_or.1 (mt List.mem_cons.2 hw)
    cases s₁ with
    | nil => rw [h.nil_left]; exact .inl rfl
    | cons c s₁ =>
      obtain ⟨s₂, rfl, -, htail⟩ := h.cons_left
      rw [word, word]
      split
      · next hc => exact ih hw (htail (hc ▸ Ne.symm ha))
      · exact .inl (h.failOn _)

/-! ## Escapes -/

theorem hexDigit?_of_not_isWordChar {c : Char} (h : isWordChar c = false) : hexDigit? c = none := by
  cases hdigit : hexDigit? c with
  | none => rfl
  | some d =>
    have hascii : c.toNat < 128 := by
      simp only [hexDigit?, Char.le_def, UInt32.le_iff_toNat_le, Bool.and_eq_true,
        decide_eq_true_eq] at hdigit
      have hval : c.toNat = c.val.toNat := rfl
      have h9 : '9'.val.toNat = 57 := rfl
      have hf : 'f'.val.toNat = 102 := rfl
      have hF : 'F'.val.toNat = 70 := rfl
      split at hdigit
      · omega
      split at hdigit
      · omega
      split at hdigit
      · omega
      · cases hdigit
    have hword : isWordChar c = true :=
      forall_ascii (P := fun c => (hexDigit? c).isSome = true → isWordChar c = true)
        (by decide) hascii (by rw [hdigit]; rfl)
    rw [h] at hword
    cases hword

theorem hexValue?_eq_none {a b c d : Char} {s : List Char}
    (h : hexDigit? a = none ∨ hexDigit? b = none ∨ hexDigit? c = none ∨ hexDigit? d = none) :
    hexValue? (a :: b :: c :: d :: s) = none := by
  rcases h with h | h | h | h <;> simp [hexValue?, h]

theorem hexValue?_append (a b c d : Char) (s : List Char) :
    hexValue? (a :: b :: c :: d :: s) = (hexValue? [a, b, c, d]).map fun v => (v.1, s) := by
  simp only [hexValue?]
  cases hexDigit? a <;> cases hexDigit? b <;> cases hexDigit? c <;> cases hexDigit? d <;> rfl

/-- Four hexadecimal digits do not reach from before the slot into it. -/
theorem hexValue?_twin (h : Twin k s₁ s₂) :
    (hexValue? s₁ = none ∧ hexValue? s₂ = none) ∨
      ∃ n r₁ r₂, hexValue? s₁ = some (n, r₁) ∧ hexValue? s₂ = some (n, r₂) ∧ Twin k r₁ r₂ := by
  rcases h with rfl | ⟨front, hfront, rfl, rfl⟩
  · cases hvalue : hexValue? s₁ with
    | none => exact .inl ⟨rfl, rfl⟩
    | some found => exact .inr ⟨found.1, found.2, found.2, rfl, rfl, .same _⟩
  · have hnone {c : Char} (hc : c ∈ front.getLast?) : hexDigit? c = none :=
      hexDigit?_of_not_isWordChar (hfront c hc)
    match front with
    | [] => exact .inl ⟨rfl, rfl⟩
    | [a] => exact .inl ⟨hexValue?_eq_none (.inl (hnone rfl)), hexValue?_eq_none (.inl (hnone rfl))⟩
    | [a, b] =>
      exact .inl ⟨hexValue?_eq_none (.inr (.inl (hnone rfl))),
        hexValue?_eq_none (.inr (.inl (hnone rfl)))⟩
    | [a, b, c] =>
      exact .inl ⟨hexValue?_eq_none (.inr (.inr (.inl (hnone rfl)))),
        hexValue?_eq_none (.inr (.inr (.inl (hnone rfl))))⟩
    | a :: b :: c :: d :: front =>
      have htail : Twin k (front ++ k.firstText) (front ++ k.secondText) := by
        refine .inr ⟨front, fun e he => hfront e ?_, rfl, rfl⟩
        show e ∈ ([a, b, c, d] ++ front).getLast?
        rw [List.getLast?_append, he]
        rfl
      have hvalue := hexValue?_append a b c d
      cases hdigits : hexValue? [a, b, c, d] with
      | none =>
        rw [hdigits] at hvalue
        exact .inl ⟨hvalue _, hvalue _⟩
      | some found =>
        rw [hdigits] at hvalue
        exact .inr ⟨found.1, _, _, hvalue _, hvalue _, htail⟩

theorem alike_hexUnit (h : Twin k s₁ s₂) : Alike k (Taken k Eq) (hexUnit s₁) (hexUnit s₂) := by
  unfold hexUnit
  rcases hexValue?_twin h with ⟨h₁, h₂⟩ | ⟨n, r₁, r₂, h₁, h₂, htail⟩
  · rw [h₁, h₂, h.size_eq]
    exact .refl (taken_refl fun _ => rfl) _
  · rw [h₁, h₂]
    exact ⟨rfl, htail⟩

theorem alike_lowSurrogate (unit : Nat) (h : Twin k s₁ s₂) :
    Alike k (Taken k Eq) (lowSurrogate unit s₁) (lowSurrogate unit s₂) := by
  cases s₁ with
  | nil =>
    rw [h.nil_left]
    exact .error_eq rfl
  | cons c s₁ =>
    obtain ⟨s₂, rfl, -, htail⟩ := h.cons_left
    unfold lowSurrogate
    dsimp only
    by_cases hc : c = '\\'
    · rw [if_pos hc, if_pos hc]
      replace htail := htail (hc ▸ by decide)
      cases s₁ with
      | nil =>
        rw [htail.nil_left]
        exact .error_eq rfl
      | cons d s₁ =>
        obtain ⟨s₂, rfl, -, htail'⟩ := htail.cons_left
        dsimp only
        split
        · next hd =>
          refine (alike_hexUnit (htail' (hd ▸ by decide))).bind ?_
          rintro ⟨low, r₁⟩ ⟨_, r₂⟩ ⟨rfl, h⟩
          dsimp only at h ⊢
          split
          · exact .error_eq (h.failAt _)
          · exact ⟨rfl, h⟩
        · exact .error_eq (htail.failOn _)
    · rw [if_neg hc, if_neg hc]
      exact .error_eq (h.failOn _)

theorem alike_unicodeEscape (h : Twin k s₁ s₂) :
    Alike k (Taken k Eq) (unicodeEscape s₁) (unicodeEscape s₂) := by
  rw [unicodeEscape_eq, unicodeEscape_eq]
  refine (alike_hexUnit h).bind ?_
  rintro ⟨unit, r₁⟩ ⟨_, r₂⟩ ⟨rfl, h⟩
  dsimp only at h ⊢
  split
  · exact .error_eq (h.failAt _)
  split
  · exact ⟨rfl, h⟩
  · exact alike_lowSurrogate unit h

/-- An escape that does not begin at the slot. -/
theorem alike_escape {c : Char} (h : Twin k s₁ s₂) :
    Alike k (Taken k Eq) (escape (c :: s₁)) (escape (c :: s₂)) := by
  rw [escape, escape]
  split
  · exact ⟨rfl, h⟩
  split
  · exact alike_unicodeEscape h
  · exact .error_eq (failOn_cons h.size_eq c _)

theorem alike_skipEscape {c : Char} (h : Twin k s₁ s₂) :
    Alike k (Taken k Eq) (skipEscape (c :: s₁)) (skipEscape (c :: s₂)) := by
  rw [skipEscape, skipEscape]
  split
  · exact ⟨rfl, h⟩
  split
  · exact (alike_hexUnit h).map fun _ _ htaken => ⟨rfl, htaken.2⟩
  · exact .error_eq (failOn_cons h.size_eq c _)

/-! ## Strings -/

theorem isLiteral_of_mem {token : List Char} (h : ∀ c ∈ token, c.isAlphanum = true) :
    ∀ c ∈ Slot.wordTail ++ token, IsLiteral c := by
  have hword : ∀ c ∈ Slot.wordTail, c ≠ '"' ∧ c ≠ '\\' ∧ ¬ c.toNat < 0x20 := by decide
  intro c hc
  rcases List.mem_append.1 hc with hc | hc
  · exact ⟨(hword c hc).1, (hword c hc).2.1, (hword c hc).2.2⟩
  · exact isLiteral_of_isAlphanum (h c hc)

theorem Slot.firstText_eq (k : Slot) :
    k.firstText = 'b' :: (Slot.wordTail ++ k.first ++ k.behind) := rfl

theorem Slot.secondText_eq (k : Slot) :
    k.secondText = 'b' :: (Slot.wordTail ++ k.second ++ k.behind) := rfl

theorem escape_b (s : List Char) : escape ('b' :: s) = .ok ('\x08', s) := rfl

theorem skipEscape_b (s : List Char) : skipEscape ('b' :: s) = .ok ((), s) := rfl

/-- A string that holds the token, behind the first letter of the slot or the escape that it is
part of. -/
theorem textTail_wordTail {token : List Char} (h : ∀ c ∈ token, c.isAlphanum = true)
    (s : List Char) :
    textTail (Slot.wordTail ++ token ++ s) =
      (textTail s).map fun (t, r) => (Slot.wordTail ++ token ++ t, r) :=
  textTail_append (isLiteral_of_mem h) s

theorem Indistinct.cons {a b : List Char} (h : Indistinct k a b) (c : Char) :
    Indistinct k (c :: a) (c :: b) := by
  rcases h with rfl | ⟨u, v, rfl, rfl⟩
  · exact .inl rfl
  · exact .inr ⟨c :: u, v, rfl, rfl⟩

/-- Strings that go on behind the slot end at the same place. -/
theorem alike_textTail_wordTail (k : Slot) :
    Alike k (Taken k (Indistinct k)) (textTail (Slot.wordTail ++ k.first ++ k.behind))
      (textTail (Slot.wordTail ++ k.second ++ k.behind)) := by
  rw [textTail_wordTail fun c hc => k.chars c (List.mem_append_left _ hc),
    textTail_wordTail fun c hc => k.chars c (List.mem_append_right _ hc)]
  have hsame : Alike k Eq (textTail k.behind) (textTail k.behind) := .refl (fun _ => rfl) _
  refine hsame.map ?_
  rintro ⟨t, r⟩ _ rfl
  exact ⟨.inr ⟨[], t, rfl, rfl⟩, .same r⟩

theorem alike_textTail (h : Twin k s₁ s₂) :
    Alike k (Taken k (Indistinct k)) (textTail s₁) (textTail s₂) := by
  have hcons {c : Char} {x y : Except Failure (List Char × List Char)}
      (h : Alike k (Taken k (Indistinct k)) x y) :
      Alike k (Taken k (Indistinct k)) (x.map fun (t, r) => (c :: t, r))
        (y.map fun (t, r) => (c :: t, r)) :=
    h.map fun _ _ htaken => ⟨htaken.1.cons c, htaken.2⟩
  have hrefl (s : List Char) : Alike k (Taken k (Indistinct k)) (textTail s) (textTail s) :=
    .refl (taken_refl fun _ => .inl rfl) _
  -- An escape takes several characters at once, so the induction is on the length.
  induction hn : s₁.length using Nat.strongRecOn generalizing s₁ s₂ with
  | ind n ih =>
    rcases h.elim with rfl | ⟨rfl, rfl⟩ | ⟨c, r₁, r₂, rfl, rfl, htail⟩
    · exact hrefl _
    · rw [k.firstText_eq, k.secondText_eq, textTail_cons (by decide) (by decide),
        textTail_cons (by decide) (by decide), if_neg (by decide), if_neg (by decide)]
      exact hcons (alike_textTail_wordTail k)
    · by_cases hquote : c = '"'
      · subst hquote
        rw [textTail, textTail]
        exact ⟨.inl rfl, htail⟩
      by_cases hmark : c = '\\'
      · subst hmark
        rcases htail.elim with rfl | ⟨rfl, rfl⟩ | ⟨d, t₁, t₂, rfl, rfl, htail'⟩
        · exact hrefl _
        · -- A backslash stands before the slot and takes its first letter for an escape.
          rw [k.firstText_eq, k.secondText_eq, textTail_escape, textTail_escape, escape_b, escape_b]
          exact hcons (alike_textTail_wordTail k)
        · rw [textTail_escape, textTail_escape]
          refine (alike_escape htail').bind_of_ok ?_
          rintro ⟨e, u₁⟩ ⟨_, u₂⟩ hescape ⟨rfl, hrest⟩
          have hlength := length_of_escape hescape
          refine hcons (ih _ ?_ hrest rfl)
          simp only [List.length_cons] at hn hlength
          omega
      · rw [textTail_cons hquote hmark, textTail_cons hquote hmark]
        split
        · exact .error_eq (htail.failAt _)
        · exact hcons (ih r₁.length (by simp [← hn]) htail rfl)

theorem alike_skipTextTail (h : Twin k s₁ s₂) :
    Alike k (Twin k) (skipTextTail s₁) (skipTextTail s₂) := by
  have hrefl (s : List Char) : Alike k (Twin k) (skipTextTail s) (skipTextTail s) := .refl .same _
  have hslot : Alike k (Twin k) (skipTextTail (Slot.wordTail ++ k.first ++ k.behind))
      (skipTextTail (Slot.wordTail ++ k.second ++ k.behind)) := by
    rw [skipTextTail_append (isLiteral_of_mem fun c hc => k.chars c (List.mem_append_left _ hc)),
      skipTextTail_append (isLiteral_of_mem fun c hc => k.chars c (List.mem_append_right _ hc))]
    exact hrefl _
  induction hn : s₁.length using Nat.strongRecOn generalizing s₁ s₂ with
  | ind n ih =>
    rcases h.elim with rfl | ⟨rfl, rfl⟩ | ⟨c, r₁, r₂, rfl, rfl, htail⟩
    · exact hrefl _
    · rw [k.firstText_eq, k.secondText_eq, skipTextTail_cons (by decide) (by decide),
        skipTextTail_cons (by decide) (by decide), if_neg (by decide), if_neg (by decide)]
      exact hslot
    · by_cases hquote : c = '"'
      · subst hquote
        rw [skipTextTail, skipTextTail]
        exact htail
      by_cases hmark : c = '\\'
      · subst hmark
        rcases htail.elim with rfl | ⟨rfl, rfl⟩ | ⟨d, t₁, t₂, rfl, rfl, htail'⟩
        · exact hrefl _
        · rw [k.firstText_eq, k.secondText_eq, skipTextTail_escape, skipTextTail_escape,
            skipEscape_b, skipEscape_b]
          exact hslot
        · rw [skipTextTail_escape, skipTextTail_escape]
          refine (alike_skipEscape htail').bind_of_ok ?_
          rintro ⟨e, u₁⟩ ⟨_, u₂⟩ hescape ⟨-, hrest⟩
          have hlength := length_of_skipEscape hescape
          refine ih _ ?_ hrest rfl
          simp only [List.length_cons] at hn hlength
          omega
      · rw [skipTextTail_cons hquote hmark, skipTextTail_cons hquote hmark]
        split
        · exact .error_eq (h.failAt _)
        · exact ih r₁.length (by simp [← hn]) htail rfl

/-- Strings that are read from twins are the same, or differ by their tokens. -/
theorem alike_text (h : Twin k s₁ s₂) :
    Alike k (Taken k fun a b => Indistinct k a.toList b.toList) (text s₁) (text s₂) := by
  refine (alike_textTail h).map ?_
  rintro ⟨t₁, r₁⟩ ⟨t₂, r₂⟩ ⟨ht, hr⟩
  refine ⟨?_, hr⟩
  dsimp only
  rwa [String.toList_ofList, String.toList_ofList]

end ServiceAdmin.Json
