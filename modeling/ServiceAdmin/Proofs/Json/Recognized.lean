import ServiceAdmin.Proofs.Json.Written

/-!
# Shapes that read nothing else

`shape.Recognizes written` says that the texts `written` of a value are all that the shape reads as
the value.  A whole text is then decoded as a value if and only if it is one of them with blanks
around it (`decodeText_eq_ok_iff`).  What is read as a string has one of the spellings of its
characters behind the other (`recognizes_string`).
-/

namespace ServiceAdmin.Json

open Text (forall_ascii toNat_ofNat_of_isValidChar)

variable {α β : Type} {a : α} {s r t w : List Char} {c : Char} {n : Nat}
  {written : α → List Char → Prop} {shape : Shape α}

/-- The shape reads the value from the texts that write it, and from nothing else. -/
structure Shape.Recognizes (shape : Shape α) (written : α → List Char → Prop) : Prop where
  reads : ∀ {a t}, written a t → shape.Reads a t
  exists_of_read : ∀ {s a r}, shape.read s = .ok (a, r) →
    ∃ b t, Blank b ∧ written a t ∧ s = b ++ (t ++ r)

/-! ## Results in sequence -/

section Results

variable {ε : Type} {x : Except ε α} {b : β}

theorem exists_of_bind {f : α → Except ε β} (h : x.bind f = .ok b) :
    ∃ a, x = .ok a ∧ f a = .ok b := by
  cases x with
  | error e => cases h
  | ok a => exact ⟨a, rfl, h⟩

theorem exists_of_map {f : α → β} (h : x.map f = .ok b) : ∃ a, x = .ok a ∧ f a = b := by
  cases x with
  | error e => cases h
  | ok a => exact ⟨a, rfl, Except.ok.inj h⟩

theorem mapError_eq_ok_iff {ε' : Type} {f : ε → ε'} {a : α} : x.mapError f = .ok a ↔ x = .ok a := by
  cases x with
  | error e => exact ⟨nofun, nofun⟩
  | ok b => rw [Except.mapError, Except.ok.injEq, Except.ok.injEq]

end Results

/-! ## Whole texts -/

theorem exists_blank (s : List Char) : ∃ b, Blank b ∧ s = b ++ skipBlanks s :=
  ⟨s.takeWhile isBlank, fun _ hc => List.mem_takeWhile_imp hc, List.takeWhile_append_dropWhile.symm⟩

theorem exists_of_readFront {front : Char → Reader α} (h : Shape.readFront front s = .ok (a, r)) :
    ∃ b c u, Blank b ∧ s = b ++ c :: u ∧ front c u = .ok (a, r) := by
  obtain ⟨b, hb, hs⟩ := exists_blank s
  unfold Shape.readFront at h
  split at h
  · cases h
  · next c u hu =>
    rw [hu] at hs
    exact ⟨b, c, u, hb, hs, h⟩

theorem Shape.Recognizes.map (h : shape.Recognizes written) (f : α → β) :
    (shape.map f).Recognizes fun b t => ∃ a, b = f a ∧ written a t where
  reads := by
    rintro _ t ⟨a, rfl, ht⟩
    exact (h.reads ht).map f
  exists_of_read hread := by
    obtain ⟨⟨a, r⟩, ha, heq⟩ := exists_of_map hread
    cases heq
    obtain ⟨b, t, hb, ht, hs⟩ := h.exists_of_read ha
    exact ⟨b, t, hb, ⟨a, rfl, ht⟩, hs⟩

theorem blank_of_skipBlanks (h : skipBlanks s = []) : Blank s := by
  obtain ⟨b, hb, hs⟩ := exists_blank s
  rw [h, List.append_nil] at hs
  exact hs ▸ hb

theorem exists_of_decode (h : decode shape s = .ok a) :
    ∃ r, shape.read s = .ok (a, r) ∧ Blank r := by
  unfold decode at h
  split at h
  · cases h
  · next a' r hread =>
    split at h
    · next hr =>
      cases h
      exact ⟨r, hread, blank_of_skipBlanks hr⟩
    · cases h

/-- **A text is decoded as a value if and only if it writes the value**, with blanks around it. -/
theorem decodeText_eq_ok_iff (h : shape.Recognizes written) {text : String} :
    decodeText shape text = .ok a ↔ IsDocument (written a) text := by
  constructor
  · intro hdecode
    obtain ⟨b', hread, hb'⟩ := exists_of_decode (mapError_eq_ok_iff.1 hdecode)
    obtain ⟨b, t, hb, ht, htext⟩ := h.exists_of_read hread
    exact ⟨b, t, b', hb, ht, hb', htext⟩
  · intro hdocument
    exact decodeText_of_isDocument (hdocument.mono fun _ => h.reads)

/-! ## Strings -/

theorem isHexDigit_of_hexDigit? {d : Nat} (h : hexDigit? c = some d) : IsHexDigit c d := by
  have hc : c.toNat < 128 := by
    unfold hexDigit? at h
    simp only [Bool.and_eq_true, decide_eq_true_eq, Char.le_def, UInt32.le_iff_toNat_le] at h
    have hval : c.toNat = c.val.toNat := rfl
    have h9 : '9'.val.toNat = 57 := rfl
    have hf : 'f'.val.toNat = 102 := rfl
    have hF : 'F'.val.toNat = 70 := rfl
    split at h
    · omega
    split at h
    · omega
    split at h
    · omega
    · cases h
  exact forall_ascii (P := fun c => ∀ d ∈ hexDigit? c, IsHexDigit c d) (by decide) hc d h

theorem lt_of_isUnitEscape (h : IsUnitEscape n w) : n < 0x10000 := by
  have hdigit {c : Char} {d : Nat} (h : IsHexDigit c d) : d < 16 := by
    rcases h with h | h
    · exact (List.getElem?_eq_some_iff.1 h).1
    · exact (List.getElem?_eq_some_iff.1 h).1
  cases h with
  | intro ha hb hc hd =>
    have hi := hdigit ha
    have hj := hdigit hb
    have hk := hdigit hc
    have hl := hdigit hd
    omega

/-- What is read as a unit of 16 bits is its escape. -/
theorem exists_of_hexUnit (h : hexUnit s = .ok (n, r)) :
    ∃ digits, IsUnitEscape n ('\\' :: 'u' :: digits) ∧ s = digits ++ r := by
  unfold hexUnit hexValue? at h
  split at h
  · next p hp =>
    cases h
    split at hp
    · next a b c d t =>
      simp only [Option.bind_eq_bind, Option.bind_eq_some_iff] at hp
      obtain ⟨i, ha, j, hb, k, hc, l, hd, heq⟩ := hp
      cases heq
      exact ⟨[a, b, c, d], .intro (isHexDigit_of_hexDigit? ha) (isHexDigit_of_hexDigit? hb)
        (isHexDigit_of_hexDigit? hc) (isHexDigit_of_hexDigit? hd), rfl⟩
    · cases hp
  · split at h <;> cases h

theorem exists_of_lowSurrogate {high : Nat} (h : lowSurrogate high s = .ok (c, r)) :
    ∃ low digits, IsUnitEscape low ('\\' :: 'u' :: digits) ∧ 0xDC00 ≤ low ∧ low < 0xE000 ∧
      c = joinSurrogates high low ∧ s = '\\' :: 'u' :: (digits ++ r) := by
  unfold lowSurrogate at h
  split at h
  · cases h
  split at h
  · next hmark =>
    split at h
    · cases h
    split at h
    · next hu =>
      obtain ⟨⟨low, u⟩, hlow, hjoined⟩ := exists_of_bind h
      obtain ⟨digits, hdigits, rfl⟩ := exists_of_hexUnit hlow
      dsimp only at hjoined
      split at hjoined
      · cases hjoined
      · simp only [Except.ok.injEq, Prod.mk.injEq] at hjoined
        obtain ⟨rfl, rfl⟩ := hjoined
        subst hmark hu
        exact ⟨low, digits, hdigits, by omega, by omega, rfl, rfl⟩
    · cases h
  · cases h

/-- What is read behind a backslash and a `u` spells the character. -/
theorem exists_of_unicodeEscape (h : unicodeEscape s = .ok (c, r)) :
    ∃ w, Spells c ('\\' :: 'u' :: w) ∧ s = w ++ r := by
  rw [unicodeEscape_eq] at h
  obtain ⟨⟨unit, u⟩, hunit, hrest⟩ := exists_of_bind h
  obtain ⟨digits, hdigits, rfl⟩ := exists_of_hexUnit hunit
  have hlt := lt_of_isUnitEscape hdigits
  dsimp only at hrest
  split at hrest
  · cases hrest
  split at hrest
  · cases hrest
    have hvalid : unit.isValidChar := by
      unfold Nat.isValidChar
      omega
    rw [← toNat_ofNat_of_isValidChar hvalid] at hdigits
    exact ⟨digits, .unit hdigits, rfl⟩
  · obtain ⟨low, digits', hdigits', hge, hlow, hc, hu⟩ := exists_of_lowSurrogate hrest
    have hvalid : (0x10000 + (unit - 0xD800) * 0x400 + (low - 0xDC00)).isValidChar := by
      unfold Nat.isValidChar
      omega
    have hvalue : c.toNat = 0x10000 + (unit - 0xD800) * 0x400 + (low - 0xDC00) := by
      rw [hc, joinSurrogates, toNat_ofNat_of_isValidChar hvalid]
    refine ⟨digits ++ '\\' :: 'u' :: digits', ?_, by simp [hu]⟩
    exact .pair hdigits hdigits' (by omega) (by omega) hge hlow hvalue

theorem mem_escapes_of_simpleEscape? {e : Char} (h : simpleEscape? e = some c) :
    (e, c) ∈ escapes := by
  unfold simpleEscape? at h
  split at h <;> cases h <;> decide

theorem exists_of_escape (h : escape s = .ok (c, r)) :
    ∃ w, Spells c ('\\' :: w) ∧ s = w ++ r := by
  unfold escape at h
  split at h
  · cases h
  split at h
  · next hsimple =>
    cases h
    exact ⟨[_], .letter (mem_escapes_of_simpleEscape? hsimple), rfl⟩
  split at h
  · next hu =>
    subst hu
    obtain ⟨w, hw, rfl⟩ := exists_of_unicodeEscape h
    exact ⟨'u' :: w, hw, rfl⟩
  · cases h

/-- What is read up to the closing quote spells the characters one after the other. -/
theorem exists_of_textTail {cs : List Char} (h : textTail s = .ok (cs, r)) :
    ∃ pieces, List.Forall₂ Spells cs pieces ∧ s = pieces.flatten ++ '"' :: r := by
  fun_induction textTail s generalizing cs r with
  | case1 => cases h
  | case2 s =>
    cases h
    exact ⟨[], .nil, rfl⟩
  | case3 => cases h
  | case4 s c u hescape ih =>
    obtain ⟨⟨cs', r'⟩, htail, heq⟩ := exists_of_map h
    cases heq
    obtain ⟨w, hw, rfl⟩ := exists_of_escape hescape
    obtain ⟨pieces, hpieces, rfl⟩ := ih htail
    exact ⟨('\\' :: w) :: pieces, .cons hw hpieces, by simp⟩
  | case5 => cases h
  | case6 c s hquote hmark hcontrol ih =>
    obtain ⟨⟨cs', r'⟩, htail, heq⟩ := exists_of_map h
    cases heq
    obtain ⟨pieces, hpieces, rfl⟩ := ih htail
    have hliteral : IsLiteral c := ⟨hquote, hmark, hcontrol⟩
    exact ⟨[c] :: pieces, .cons (.literal hliteral) hpieces, rfl⟩

theorem exists_of_text {x : String} (h : text s = .ok (x, r)) :
    ∃ u, IsStringOf x ('"' :: u) ∧ s = u ++ r := by
  obtain ⟨⟨cs, r'⟩, htail, heq⟩ := exists_of_map h
  cases heq
  obtain ⟨pieces, hpieces, rfl⟩ := exists_of_textTail htail
  refine ⟨pieces.flatten ++ ['"'], ⟨pieces, ?_, rfl⟩, by simp⟩
  rwa [String.toList_ofList]

/-- **What is read as a string is one of its texts.** -/
theorem recognizes_string : Shape.string.Recognizes IsStringOf where
  reads := Shape.reads_string
  exists_of_read h := by
    obtain ⟨b, c, u, hb, rfl, hfront⟩ := exists_of_readFront h
    split at hfront
    · next hquote =>
      obtain ⟨t, ht, rfl⟩ := exists_of_text hfront
      subst hquote
      exact ⟨b, _, hb, ht, rfl⟩
    · cases hfront

end ServiceAdmin.Json
