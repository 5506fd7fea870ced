import ServiceAdmin.Json.Write
import ServiceAdmin.Proofs.Json.Grammar

/-!
# Strings in all their spellings

A string is read back from each of its texts (`text_of_isStringOf`), and what is written for it is
one of them (`isStringOf_writeString`).  A string that nobody reads is passed over to its closing
quote (`skipTextTail_of_forall`).
-/

namespace ServiceAdmin.Json

variable {c : Char} {w t : List Char} {n : Nat}

/-! ## Hexadecimal digits -/

theorem hexDigit?_of_isHexDigit {d : Nat} (h : IsHexDigit c d) : hexDigit? c = some d := by
  have hlower : ∀ d < 16, ∀ c ∈ "0123456789abcdef".toList[d]?, hexDigit? c = some d := by decide
  have hupper : ∀ d < 16, ∀ c ∈ "0123456789ABCDEF".toList[d]?, hexDigit? c = some d := by decide
  rcases h with h | h
  · exact hlower d (List.getElem?_eq_some_iff.1 h).1 c h
  · exact hupper d (List.getElem?_eq_some_iff.1 h).1 c h

theorem isHexDigit_digitChar {d : Nat} (h : d < 16) : IsHexDigit (Nat.digitChar d) d := by
  have hdigit : ∀ d < 16, "0123456789abcdef".toList[d]? = some (Nat.digitChar d) := by decide
  exact .inl (hdigit d h)

/-- The digits of a unit are read as its value. -/
theorem hexUnit_of_isUnitEscape (h : IsUnitEscape n w) :
    ∃ digits, w = '\\' :: 'u' :: digits ∧ ∀ s, hexUnit (digits ++ s) = .ok (n, s) := by
  cases h with
  | intro ha hb hc hd =>
    refine ⟨_, rfl, fun s => ?_⟩
    simp only [List.cons_append, List.nil_append, hexUnit, hexValue?, hexDigit?_of_isHexDigit ha,
      hexDigit?_of_isHexDigit hb, hexDigit?_of_isHexDigit hc, hexDigit?_of_isHexDigit hd]
    rfl

/-! ## Reading -/

/-- A letter behind a backslash stands for its character. -/
theorem simpleEscape?_of_mem {e : Char} (h : (e, c) ∈ escapes) : simpleEscape? e = some c := by
  have hall : ∀ p ∈ escapes, simpleEscape? p.1 = some p.2 := by decide
  exact hall _ h

theorem escape_u (s : List Char) : escape ('u' :: s) = unicodeEscape s := rfl

theorem skipEscape_u (s : List Char) :
    skipEscape ('u' :: s) = (hexUnit s).map fun (_, s) => ((), s) := rfl

/-- No character is a surrogate. -/
theorem toNat_lt_or_lt (c : Char) : c.toNat < 0xD800 ∨ 0xDFFF < c.toNat := by
  rcases c.valid with h | h
  · exact .inl h
  · exact .inr h.1

/-- A character is read from each of its spellings. -/
theorem textTail_of_spells (h : Spells c w) (s : List Char) :
    textTail (w ++ s) = (textTail s).map fun (t, r) => (c :: t, r) := by
  cases h with
  | literal hc => exact (textTail_cons hc.quote hc.mark s).trans (if_neg hc.control)
  | @letter e _ he =>
    have hescape : escape (e :: s) = .ok (c, s) := by rw [escape, simpleEscape?_of_mem he]
    rw [List.cons_append, textTail_escape, List.cons_append, List.nil_append, hescape]
    rfl
  | unit hu =>
    obtain ⟨digits, rfl, hread⟩ := hexUnit_of_isUnitEscape hu
    have hescape : escape ('u' :: (digits ++ s)) = .ok (c, s) := by
      rw [escape_u, unicodeEscape_eq, hread]
      have hsurrogate := toNat_lt_or_lt c
      simp only [Except.bind]
      rw [if_neg (by omega), if_pos (by omega), Char.ofNat_toNat]
    rw [List.cons_append, textTail_escape, List.cons_append, hescape]
    rfl
  | @pair _ high low _ _ hu hv h₁ h₂ h₃ h₄ hvalue =>
    obtain ⟨digits, rfl, hhigh⟩ := hexUnit_of_isUnitEscape hu
    obtain ⟨digits', rfl, hlow⟩ := hexUnit_of_isUnitEscape hv
    have hjoin : joinSurrogates high low = c := by
      rw [joinSurrogates, ← hvalue, Char.ofNat_toNat]
    have hescape : escape ('u' :: (digits ++ ('\\' :: 'u' :: (digits' ++ s)))) = .ok (c, s) := by
      rw [escape_u, unicodeEscape_eq, hhigh]
      simp only [Except.bind]
      rw [if_neg (by omega), if_neg (by omega), lowSurrogate]
      simp only [if_true, hlow, Except.bind]
      rw [if_neg (by omega), hjoin]
    simp only [List.cons_append, List.append_assoc]
    rw [textTail_escape, hescape]
    rfl

theorem textTail_of_forall₂ {cs : List Char} {pieces : List (List Char)}
    (h : List.Forall₂ Spells cs pieces) (s : List Char) :
    textTail (pieces.flatten ++ '"' :: s) = .ok (cs, s) := by
  induction h with
  | nil => exact textTail.eq_2 s
  | cons hc _ ih =>
    rw [List.flatten_cons, List.append_assoc, textTail_of_spells hc, ih]
    rfl

/-- **A string is read from each of its texts.** -/
theorem text_of_isStringOf {a : String} (h : IsStringOf a t) :
    ∃ u, t = '"' :: u ∧ ∀ s, text (u ++ s) = .ok (a, s) := by
  obtain ⟨pieces, hpieces, rfl⟩ := h
  refine ⟨_, rfl, fun s => ?_⟩
  rw [text, List.append_assoc, List.singleton_append, textTail_of_forall₂ hpieces]
  simp only [Except.map, String.ofList_toList]

/-! ## Passing over -/

theorem skipTextTail_of_isPiece (h : IsPiece w) (s : List Char) :
    skipTextTail (w ++ s) = skipTextTail s := by
  cases h with
  | literal hc => exact (skipTextTail_cons hc.quote hc.mark s).trans (if_neg hc.control)
  | @letter e _ he =>
    have hescape : skipEscape (e :: s) = .ok ((), s) := by rw [skipEscape, simpleEscape?_of_mem he]
    rw [List.cons_append, skipTextTail_escape, List.cons_append, List.nil_append, hescape]
    rfl
  | unit hu =>
    obtain ⟨digits, rfl, hread⟩ := hexUnit_of_isUnitEscape hu
    rw [List.cons_append, skipTextTail_escape, List.cons_append, skipEscape_u, hread]
    rfl

/-- A string that nobody reads ends at its closing quote. -/
theorem skipTextTail_of_forall {pieces : List (List Char)} (h : ∀ p ∈ pieces, IsPiece p)
    (s : List Char) : skipTextTail (pieces.flatten ++ '"' :: s) = .ok s := by
  induction pieces with
  | nil => exact skipTextTail.eq_2 s
  | cons p pieces ih =>
    obtain ⟨hp, h⟩ := List.forall_mem_cons.1 h
    rw [List.flatten_cons, List.append_assoc, skipTextTail_of_isPiece hp, ih h]

theorem exists_pieces_of_spells (h : Spells c w) :
    ∃ pieces : List (List Char), (∀ p ∈ pieces, IsPiece p) ∧ w = pieces.flatten := by
  cases h with
  | literal hc => exact ⟨[_], List.forall_mem_singleton.2 (.literal hc), (List.append_nil _).symm⟩
  | letter he => exact ⟨[_], List.forall_mem_singleton.2 (.letter he), (List.append_nil _).symm⟩
  | unit hu => exact ⟨[_], List.forall_mem_singleton.2 (.unit hu), (List.append_nil _).symm⟩
  | @pair _ _ _ u v hu hv =>
    refine ⟨[u, v], ?_, by simp⟩
    rw [List.forall_mem_cons, List.forall_mem_singleton]
    exact ⟨.unit hu, .unit hv⟩

theorem exists_pieces_of_forall₂ {cs : List Char} {spelled : List (List Char)}
    (h : List.Forall₂ Spells cs spelled) :
    ∃ pieces : List (List Char), (∀ p ∈ pieces, IsPiece p) ∧ spelled.flatten = pieces.flatten := by
  induction h with
  | nil => exact ⟨[], fun _ hp => absurd hp List.not_mem_nil, rfl⟩
  | cons hc _ ih =>
    obtain ⟨ps, hps, rfl⟩ := exists_pieces_of_spells hc
    obtain ⟨qs, hqs, heq⟩ := ih
    refine ⟨ps ++ qs, fun p hp => ?_, by rw [List.flatten_cons, heq, List.flatten_append]⟩
    exact (List.mem_append.1 hp).elim (hps p) (hqs p)

/-- A text of a string is one that may be passed over. -/
theorem isString_of_isStringOf {a : String} (h : IsStringOf a t) : IsString t := by
  obtain ⟨spelled, hspelled, rfl⟩ := h
  obtain ⟨pieces, hpieces, heq⟩ := exists_pieces_of_forall₂ hspelled
  exact ⟨pieces, hpieces, by rw [heq]⟩

/-! ## Writing -/

theorem spells_writeChar (c : Char) : Spells c (writeChar c) := by
  unfold writeChar
  split
  · next h => exact .letter (by subst h; decide)
  split
  · next h => exact .letter (by subst h; decide)
  split
  · next h => exact .letter (by subst h; decide)
  split
  · next h => exact .letter (by subst h; decide)
  split
  · next h => exact .letter (by subst h; decide)
  split
  · next h => exact .letter (by subst h; decide)
  split
  · next h => exact .letter (by subst h; decide)
  split
  · next h =>
    have hzero : IsHexDigit '0' 0 := .inl rfl
    have hunit := IsUnitEscape.intro hzero hzero
      (isHexDigit_digitChar (d := c.toNat / 16) (by omega))
      (isHexDigit_digitChar (d := c.toNat % 16) (by omega))
    have hvalue : ((0 * 16 + 0) * 16 + c.toNat / 16) * 16 + c.toNat % 16 = c.toNat := by omega
    rw [hvalue] at hunit
    exact .unit hunit
  · next hquote hmark _ _ _ _ _ hcontrol => exact .literal ⟨hquote, hmark, hcontrol⟩

/-- **What is written for a string is one of its texts.** -/
theorem isStringOf_writeString (a : String) : IsStringOf a (writeString a) := by
  refine ⟨a.toList.map writeChar, ?_, rfl⟩
  rw [List.forall₂_map_right_iff, List.forall₂_same]
  exact fun c _ => spells_writeChar c

end ServiceAdmin.Json
