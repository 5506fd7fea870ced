import ServiceAdmin.Proofs.Text.Normal
import ServiceAdmin.Proofs.Text.PunycodeRoundTrip
import ServiceAdmin.Proofs.Url.Domain

/-!
# Labels that are read again

The ASCII form of a label is read as that label (`readLabel?_again`), so that a domain name is
accepted again unchanged (`ofText?_again`), and so is one whose first label is replaced by letters
(`ofText?_replace`).
-/

namespace ServiceAdmin.Url.Domain

open Text (IsCapital CharSet pieces forall_ascii)

/-! ## Sets beyond ASCII -/

theorem inside_eq_false {bounds : List Nat} {n : Nat} (h : ∀ b ∈ bounds, n < b) :
    CharSet.inside bounds n = false := by
  fun_induction CharSet.inside bounds n with
  | case1 => rfl
  | case2 lo => exact decide_eq_false (Nat.not_le.2 (h lo List.mem_cons_self))
  | case3 lo hi rest n ih =>
    simp only [List.forall_mem_cons] at h
    rw [decide_eq_false (Nat.not_le.2 h.1), ih h.2.2]
    rfl

/-- A set of characters beyond ASCII. -/
def IsBeyondAscii (s : CharSet) : Prop := ∀ b ∈ s.bounds, 0x80 ≤ b

instance (s : CharSet) : Decidable (IsBeyondAscii s) := inferInstanceAs (Decidable (∀ b ∈ _, _))

theorem IsBeyondAscii.holds_eq_false {s : CharSet} (h : IsBeyondAscii s) {c : Char}
    (hc : c.toNat < 0x80) : s.holds c = false :=
  inside_eq_false fun b hb => Nat.lt_of_lt_of_le hc (h b hb)

theorem ignored_isBeyondAscii : IsBeyondAscii ignored := by decide +kernel

theorem disallowed_isBeyondAscii : IsBeyondAscii disallowed := by decide +kernel

theorem nonspacing_isBeyondAscii : IsBeyondAscii nonspacing := by decide +kernel

theorem rightToLeft_isBeyondAscii : IsBeyondAscii rightToLeft := by decide +kernel

theorem arabicNumbers_isBeyondAscii : IsBeyondAscii arabicNumbers := by decide +kernel

theorem turns_of_ascii {c : Char} (hc : c.toNat < 0x80) : turns c = false := by
  rw [turns, rightToLeft_isBeyondAscii.holds_eq_false hc,
    arabicNumbers_isBeyondAscii.holds_eq_false hc]
  rfl

/-! ## Mapping -/

/-- In ASCII only the capital letters are mapped. -/
theorem mappings_eq : mappings = ⟨0x41, 0x5A, 1, [0x61]⟩ :: mappings.tail := rfl

theorem le_first_mappings : ∀ m ∈ mappings.tail, 0x80 ≤ m.first := by decide +kernel

/-- Nothing is mapped to a capital letter. -/
theorem image_mappings :
    ∀ m ∈ mappings, ∀ n ∈ m.image, n + (m.last - m.first) < 0x41 ∨ 0x5A < n := by
  decide +kernel

/-- An ASCII character that is not a capital letter. -/
structure IsSmall (c : Char) : Prop where
  ascii : c.toNat < 0x80
  not_isCapital : ¬ IsCapital c

theorem isCapital_of_image?_eq_none {c : Char} (h : image? c = none) : ¬ IsCapital c := by
  intro hcapital
  have hholds : (⟨0x41, 0x5A, 1, [0x61]⟩ : Mapping).holds c.toNat = true := by
    simp [Mapping.holds, hcapital.1, hcapital.2, Nat.mod_one]
  rw [image?, mappings_eq] at h
  simp only [List.find?_cons, hholds] at h
  cases h

theorem IsSmall.image?_eq_none {c : Char} (h : IsSmall c) : image? c = none := by
  have hnot : (⟨0x41, 0x5A, 1, [0x61]⟩ : Mapping).holds c.toNat = false := by
    refine Bool.eq_false_iff.2 fun hholds => ?_
    simp only [Mapping.holds, Bool.and_eq_true, decide_eq_true_eq] at hholds
    exact h.not_isCapital hholds.1
  have htail : mappings.tail.find? (·.holds c.toNat) = none := by
    refine List.find?_eq_none.2 fun m hm hholds => ?_
    simp only [Mapping.holds, Bool.and_eq_true, decide_eq_true_eq] at hholds
    have hfirst := le_first_mappings m hm
    have hascii := h.ascii
    omega
  rw [image?, mappings_eq]
  simp only [List.find?_cons, hnot, htail]
  rfl

theorem mapped?_of_small {s : List Char} (h : ∀ c ∈ s, IsSmall c) : mapped? s = some s := by
  induction s with
  | nil => rfl
  | cons c s ih =>
    obtain ⟨hc, hs⟩ := List.forall_mem_cons.1 h
    rw [mapped?, ih hs, Option.bind_eq_bind, Option.bind_some,
      ignored_isBeyondAscii.holds_eq_false hc.ascii, hc.image?_eq_none,
      disallowed_isBeyondAscii.holds_eq_false hc.ascii]
    rfl

theorem isPlain_of_small {s : List Char} (h : ∀ c ∈ s, IsSmall c) : isPlain s = true := by
  rw [isPlain, mapped?_of_small h, Text.normal_of_ascii fun c hc => (h c hc).ascii]
  simp

theorem not_isCapital_of_image? {c : Char} {image : List Char} (h : image? c = some image) :
    ∀ d ∈ image, ¬ IsCapital d := by
  obtain ⟨m, hm, rfl⟩ := Option.map_eq_some_iff.1 h
  intro d hd
  obtain ⟨n, hn, rfl⟩ := List.mem_map.1 hd
  have himage := image_mappings m (List.mem_of_find?_eq_some hm) n hn
  have hholds := List.find?_some hm
  simp only [Mapping.holds, Bool.and_eq_true, decide_eq_true_eq] at hholds
  exact Text.not_isCapital_ofNat (by omega)

/-- **Mapping leaves no capital letters.** -/
theorem not_isCapital_of_mem_mapped? {s t : List Char} (h : mapped? s = some t) :
    ∀ c ∈ t, ¬ IsCapital c := by
  induction s generalizing t with
  | nil =>
    cases h
    exact fun _ h => nomatch h
  | cons c s ih =>
    rw [mapped?] at h
    obtain ⟨rest, hrest, h⟩ := Option.bind_eq_some_iff.1 h
    split at h
    · cases h
      exact ih hrest
    split at h
    · next image himage =>
      cases h
      exact List.forall_mem_append.2 ⟨not_isCapital_of_image? himage, ih hrest⟩
    · next hnone =>
      split at h
      · cases h
      · cases h
        exact List.forall_mem_cons.2 ⟨isCapital_of_image?_eq_none hnone, ih hrest⟩

/-! ## Labels -/

variable {label text name : List Char}

theorem not_isCapital_encodedMark : ∀ c ∈ encodedMark, ¬ IsCapital c ∧ c ≠ '.' := by decide

theorem not_isCapital_digitChar {d : Nat} (h : d < 36) :
    ¬ IsCapital (Text.Punycode.digitChar d) ∧ Text.Punycode.digitChar d ≠ '.' := by
  have key : ∀ d < 36, ¬ IsCapital (Text.Punycode.digitChar d) ∧
      Text.Punycode.digitChar d ≠ '.' := by decide
  exact key d h

/-- **The ASCII form of a label is read as the label.** -/
theorem readLabel?_again (h : readLabel? label = some (text, name)) :
    readLabel? name = some (text, name) := by
  have hchars := isNameChar_of_readLabel? h
  have hread := h
  unfold readLabel? at h
  split at h
  · obtain ⟨read, -, h⟩ := Option.bind_eq_some_iff.1 h
    split at h
    · cases h
    · cases h
      exact hread
  split at h
  · cases h
  next hplain =>
  split at h
  · split at h
    · cases h
    · cases h
      exact hread
  next hascii =>
  split at h
  · next hvalid =>
    cases h
    have hname : isAscii (encodedMark ++ Text.Punycode.encode label) = true :=
      List.all_eq_true.2 fun c hc => decide_eq_true (hchars c hc).ascii
    have hmark : encodedMark.isPrefixOf (encodedMark ++ Text.Punycode.encode label) = true :=
      List.isPrefixOf_iff_prefix.2 (List.prefix_append _ _)
    have hdrop : (encodedMark ++ Text.Punycode.encode label).drop 4 = Text.Punycode.encode label :=
      rfl
    have hgood : (isAscii label || !isPlain label || !isValid label) = false := by
      simp only [Bool.not_eq_true, Bool.not_eq_false'] at hascii hplain
      rw [hascii, hplain, (Bool.and_eq_true_iff.1 hvalid).1]
      rfl
    rw [readLabel?, hname, hmark, hdrop, Text.Punycode.decode?_encode]
    simp only [Bool.and_self, if_true, Option.bind_eq_bind, Option.bind_some, hgood]
    rfl
  · cases h

/-- The ASCII form of a label has neither capital letters nor dots, if the label has none. -/
theorem not_isCapital_of_readLabel? (hlabel : ∀ c ∈ label, ¬ IsCapital c ∧ c ≠ '.')
    (h : readLabel? label = some (text, name)) : ∀ c ∈ name, ¬ IsCapital c ∧ c ≠ '.' := by
  unfold readLabel? at h
  split at h
  · obtain ⟨read, -, h⟩ := Option.bind_eq_some_iff.1 h
    split at h
    · cases h
    · cases h
      exact hlabel
  split at h
  · cases h
  split at h
  · split at h
    · cases h
    · cases h
      exact hlabel
  split at h
  · cases h
    refine List.forall_mem_append.2 ⟨not_isCapital_encodedMark, fun c hc => ?_⟩
    rcases Text.Punycode.mem_encode hc with ⟨hc, -⟩ | rfl | ⟨d, hd, rfl⟩
    · exact hlabel c hc
    · decide
    · exact not_isCapital_digitChar hd
  · cases h

/-! ## Names -/

/-- Labels, each with its ASCII form, that make a domain name. -/
structure IsName (labels : List (List Char × List Char)) : Prop where
  ne_nil : labels ≠ []
  read : ∀ l ∈ labels, readLabel? l.2 = some l
  chars : ∀ l ∈ labels, ∀ c ∈ l.2, ¬ IsCapital c ∧ c ≠ '.'
  fit : directionsFit (labels.map (·.1)) = true

/-- The domain name in ASCII. -/
def nameOf (labels : List (List Char × List Char)) : List Char :=
  ['.'].intercalate (labels.map (·.2))

variable {labels : List (List Char × List Char)}

theorem IsName.pieces_nameOf (h : IsName labels) :
    pieces '.' (nameOf labels) = labels.map (·.2) := by
  refine Text.pieces_intercalate (mt List.map_eq_nil_iff.1 h.ne_nil) fun name hname hdot => ?_
  obtain ⟨l, hl, rfl⟩ := List.mem_map.1 hname
  exact (h.chars l hl '.' hdot).2 rfl

theorem IsName.isNameChar (h : IsName labels) : ∀ c ∈ nameOf labels, IsNameChar c := by
  intro c hc
  rcases Text.mem_intercalate hc with hc | ⟨name, hname, hc⟩
  · rw [List.mem_singleton.1 hc]
    exact isNameChar_dot
  · obtain ⟨l, hl, rfl⟩ := List.mem_map.1 hname
    exact isNameChar_of_readLabel? (h.read l hl) c hc

theorem IsName.isSmall (h : IsName labels) : ∀ c ∈ nameOf labels, IsSmall c := by
  intro c hc
  refine ⟨(h.isNameChar c hc).ascii, ?_⟩
  rcases Text.mem_intercalate hc with hc | ⟨name, hname, hc⟩
  · rw [List.mem_singleton.1 hc]
    decide
  · obtain ⟨l, hl, rfl⟩ := List.mem_map.1 hname
    exact (h.chars l hl c hc).1

theorem IsSmall.toLower {c : Char} (h : IsSmall c) : c.toLower = c :=
  forall_ascii (P := fun c => ¬ IsCapital c → c.toLower = c) (by decide) h.ascii h.not_isCapital

theorem IsName.mapM_readLabel? (h : IsName labels) :
    (labels.map (·.2)).mapM readLabel? = some labels := by
  have hread := h.read
  clear h
  induction labels with
  | nil => rfl
  | cons l labels ih =>
    obtain ⟨hl, hlabels⟩ := List.forall_mem_cons.1 hread
    rw [List.map_cons, List.mapM_cons, hl, ih hlabels]
    rfl

/-- **A name that is made of labels is accepted as it is.** -/
theorem ofText?_nameOf (h : IsName labels) : ofText? (nameOf labels) = some (nameOf labels) := by
  have hsmall := h.isSmall
  have hascii : isAscii (nameOf labels) = true :=
    List.all_eq_true.2 fun c hc => decide_eq_true (hsmall c hc).ascii
  have hlower : (nameOf labels).map Char.toLower = nameOf labels :=
    (List.map_congr_left fun c hc => (hsmall c hc).toLower).trans (List.map_id _)
  have hallowed : (nameOf labels).any isForbidden = false :=
    List.any_eq_false.2 fun c hc => Bool.eq_false_iff.1 (h.isNameChar c hc).allowed
  unfold ofText?
  dsimp only
  rw [hlower, hallowed]
  split
  · rfl
  · rw [mapped?_of_small hsmall, Option.bind_eq_bind, Option.bind_some,
      Text.normal_of_ascii fun c hc => (hsmall c hc).ascii, h.pieces_nameOf, h.mapM_readLabel?,
      Option.bind_eq_bind, Option.bind_some, if_pos h.fit]
    rfl

theorem directionsFit_of_ascii {texts : List (List Char)}
    (h : ∀ text ∈ texts, ∀ c ∈ text, c.toNat < 0x80) : directionsFit texts = true := by
  have hnone : texts.any (·.any turns) = false :=
    List.any_eq_false.2 fun text htext => Bool.eq_false_iff.1 <|
      List.any_eq_false.2 fun c hc => Bool.eq_false_iff.1 (turns_of_ascii (h text htext c hc))
  rw [directionsFit, hnone]
  rfl

theorem readLabel?_of_small (hsmall : ∀ c ∈ label, IsSmall c)
    (hmark : encodedMark.isPrefixOf label = false) (hallowed : label.any isForbidden = false) :
    readLabel? label = some (label, label) := by
  have hascii : isAscii label = true :=
    List.all_eq_true.2 fun c hc => decide_eq_true (hsmall c hc).ascii
  rw [readLabel?, hmark, isPlain_of_small hsmall, hascii, hallowed]
  rfl

theorem not_isCapital_toLower (c : Char) : ¬ IsCapital c.toLower := by
  intro hcapital
  have hascii : c.toNat < 128 := by
    refine Text.toNat_lt_of_toLower ?_
    have hle := hcapital.2
    omega
  exact forall_ascii (P := fun c => ¬ IsCapital c.toLower) (by decide) hascii hcapital

/-- A name without Punycode is made of labels that are their own ASCII forms. -/
theorem isName_of_literal {s : List Char} (hsmall : ∀ c ∈ s, IsSmall c)
    (hmark : (pieces '.' s).any encodedMark.isPrefixOf = false)
    (hallowed : s.any isForbidden = false) :
    IsName ((pieces '.' s).map fun label => (label, label)) ∧
      nameOf ((pieces '.' s).map fun label => (label, label)) = s := by
  have hpiece {label : List Char} (hlabel : label ∈ pieces '.' s) :
      ∀ c ∈ label, IsSmall c ∧ c ≠ '.' := fun c hc =>
    (Text.mem_of_mem_pieces hlabel c hc).imp_left (hsmall c)
  have hread {label : List Char} (hlabel : label ∈ pieces '.' s) :
      readLabel? label = some (label, label) := by
    refine readLabel?_of_small (fun c hc => (hpiece hlabel c hc).1)
      (Bool.eq_false_iff.2 (List.any_eq_false.1 hmark label hlabel)) ?_
    exact List.any_eq_false.2 fun c hc =>
      List.any_eq_false.1 hallowed c (Text.mem_of_mem_pieces hlabel c hc).1
  refine ⟨⟨mt List.map_eq_nil_iff.1 (Text.pieces_ne_nil '.' s), ?_, ?_, ?_⟩, ?_⟩
  · intro l hl
    obtain ⟨label, hlabel, rfl⟩ := List.mem_map.1 hl
    exact hread hlabel
  · intro l hl
    obtain ⟨label, hlabel, rfl⟩ := List.mem_map.1 hl
    exact fun c hc => (hpiece hlabel c hc).imp_left IsSmall.not_isCapital
  · refine directionsFit_of_ascii fun text htext => ?_
    obtain ⟨l, hl, rfl⟩ := List.mem_map.1 htext
    obtain ⟨label, hlabel, rfl⟩ := List.mem_map.1 hl
    exact fun c hc => (hpiece hlabel c hc).1.ascii
  · rw [nameOf, List.map_map]
    exact (congrArg _ (List.map_id _)).trans (Text.intercalate_pieces '.' s)

/-- A name in Unicode is made of the labels that are read of it. -/
theorem isName_of_mapM {mapped : List Char} (hmapped : ∀ c ∈ mapped, ¬ IsCapital c)
    (h : (pieces '.' (Text.normal mapped)).mapM readLabel? = some labels)
    (hfit : directionsFit (labels.map (·.1)) = true) : IsName labels := by
  have hnormal := Text.not_isCapital_of_mem_normal hmapped
  refine ⟨?_, ?_, ?_, hfit⟩
  · rintro rfl
    exact Text.pieces_ne_nil '.' _ (List.length_eq_zero_iff.1 (Text.length_of_mapM h).symm)
  · intro l hl
    obtain ⟨label, -, hread⟩ := Text.exists_of_mem_mapM h hl
    exact readLabel?_again hread
  · intro l hl
    obtain ⟨label, hlabel, hread⟩ := Text.exists_of_mem_mapM h hl
    refine not_isCapital_of_readLabel? (fun c hc => ?_) hread
    exact (Text.mem_of_mem_pieces hlabel c hc).imp_left (hnormal c)

/-- **What is accepted is made of labels.** -/
theorem exists_isName_of_ofText? {s : List Char} (h : ofText? s = some name) :
    ∃ labels, IsName labels ∧ nameOf labels = name := by
  have hchars := isNameChar_of_ofText? h
  unfold ofText? at h
  dsimp only at h
  split at h
  · next hplain =>
    split at h
    · cases h
    next hallowed =>
    cases h
    have hsmall : ∀ c ∈ s.map Char.toLower, IsSmall c := by
      intro c hc
      refine ⟨(hchars c hc).ascii, ?_⟩
      obtain ⟨d, -, rfl⟩ := List.mem_map.1 hc
      exact not_isCapital_toLower d
    simp only [Bool.and_eq_true, Bool.not_eq_true'] at hplain
    exact ⟨_, isName_of_literal hsmall hplain.2 (Bool.eq_false_iff.2 hallowed)⟩
  · obtain ⟨mapped, hmapped, h⟩ := Option.bind_eq_some_iff.1 h
    obtain ⟨labels, hlabels, h⟩ := Option.bind_eq_some_iff.1 h
    split at h
    · next hfit =>
      cases h
      exact ⟨labels, isName_of_mapM (not_isCapital_of_mem_mapped? hmapped) hlabels hfit, rfl⟩
    · cases h

/-- **A domain name is accepted again unchanged.** -/
theorem ofText?_again {s : List Char} (h : ofText? s = some name) : ofText? name = some name := by
  obtain ⟨labels, hlabels, rfl⟩ := exists_isName_of_ofText? h
  exact ofText?_nameOf hlabels

/-! ## Another first label -/

/-- A label of words in small letters, with single hyphens between them. -/
inductive IsWords : List Char → Prop
  | single {c : Char} (letter : 'a' ≤ c ∧ c ≤ 'z') : IsWords [c]
  | letter {c : Char} {s : List Char} (letter : 'a' ≤ c ∧ c ≤ 'z') (rest : IsWords s) :
      IsWords (c :: s)
  | hyphen {c : Char} {s : List Char} (letter : 'a' ≤ c ∧ c ≤ 'z') (rest : IsWords s) :
      IsWords (c :: '-' :: s)

namespace IsWords

variable {p : List Char}

theorem head {c : Char} {s : List Char} (h : IsWords (c :: s)) : 'a' ≤ c ∧ c ≤ 'z' := by
  cases h <;> assumption

instance decidable : ∀ p, Decidable (IsWords p)
  | [] => isFalse nofun
  | [c] => decidable_of_iff ('a' ≤ c ∧ c ≤ 'z') ⟨.single, head⟩
  | c :: d :: s =>
    have := decidable (d :: s)
    have := decidable s
    decidable_of_iff (('a' ≤ c ∧ c ≤ 'z') ∧ (IsWords (d :: s) ∨ d = '-' ∧ IsWords s)) <| by
      constructor
      · rintro ⟨hc, hs | ⟨rfl, hs⟩⟩
        · exact .letter hc hs
        · exact .hyphen hc hs
      · rintro (_ | ⟨hc, hs⟩ | ⟨hc, hs⟩)
        · exact ⟨hc, .inl hs⟩
        · exact ⟨hc, .inr ⟨rfl, hs⟩⟩

theorem exists_eq_cons (h : IsWords p) : ∃ c s, p = c :: s := by
  cases h <;> exact ⟨_, _, rfl⟩

theorem getLast? (h : IsWords p) : ∀ c ∈ p.getLast?, 'a' ≤ c ∧ c ≤ 'z' := by
  induction h with
  | single letter =>
    rintro c ⟨⟩
    exact letter
  | letter _ rest ih =>
    obtain ⟨d, s, rfl⟩ := rest.exists_eq_cons
    exact ih
  | hyphen _ rest ih =>
    obtain ⟨d, s, rfl⟩ := rest.exists_eq_cons
    exact ih

theorem chars (h : IsWords p) : ∀ c ∈ p, ('a' ≤ c ∧ c ≤ 'z') ∨ c = '-' := by
  induction h with
  | single letter => exact List.forall_mem_singleton.2 (.inl letter)
  | letter letter _ ih => exact List.forall_mem_cons.2 ⟨.inl letter, ih⟩
  | hyphen letter _ ih =>
    exact List.forall_mem_cons.2 ⟨.inl letter, List.forall_mem_cons.2 ⟨.inr rfl, ih⟩⟩

/-- Two hyphens do not stand side by side. -/
theorem not_isPrefixOf (h : IsWords p) : encodedMark.isPrefixOf p = false := by
  refine Bool.eq_false_iff.2 fun hmark => ?_
  obtain ⟨s, rfl⟩ := List.isPrefixOf_iff_prefix.1 hmark
  have hhyphen (s : List Char) : ¬ IsWords ('-' :: s) := fun h => absurd h.head (by decide)
  cases h with
  | letter _ h =>
    cases h with
    | letter _ h => exact hhyphen _ h
    | hyphen _ h => exact hhyphen _ h

end IsWords

theorem letter_facts {c : Char} (h : 'a' ≤ c ∧ c ≤ 'z') :
    isLeftToRight c = true ∧ IsNameChar c ∧ ¬ IsCapital c ∧ c ≠ '.' :=
  forall_ascii (P := fun c => 'a' ≤ c ∧ c ≤ 'z' →
      isLeftToRight c = true ∧ IsNameChar c ∧ ¬ IsCapital c ∧ c ≠ '.')
    (by decide +kernel) (Nat.lt_of_le_of_lt h.2 (by decide)) h

variable {p : List Char}

theorem IsWords.char_facts (h : IsWords p) :
    ∀ c ∈ p, IsNameChar c ∧ ¬ IsCapital c ∧ c ≠ '.' := by
  intro c hc
  rcases h.chars c hc with hletter | rfl
  · exact (letter_facts hletter).2
  · decide

theorem IsWords.readLabel? (h : IsWords p) : readLabel? p = some (p, p) := by
  refine readLabel?_of_small (fun c hc => ?_) h.not_isPrefixOf ?_
  · exact ⟨(h.char_facts c hc).1.ascii, (h.char_facts c hc).2.1⟩
  · exact List.any_eq_false.2 fun c hc => Bool.eq_false_iff.1 (h.char_facts c hc).1.allowed

/-- Words run from left to right. -/
theorem IsWords.fits (h : IsWords p) : fits p = true := by
  have hascii : ∀ c ∈ p, c.toNat < 0x80 := fun c hc => (h.char_facts c hc).1.ascii
  have hlast := h.getLast?
  obtain ⟨c, rest, rfl⟩ := h.exists_eq_cons
  obtain ⟨hc, hrest⟩ := List.forall_mem_cons.1 hascii
  have hfirst : rightToLeft.holds c = false := rightToLeft_isBeyondAscii.holds_eq_false hc
  have hmarks : rest.reverse.dropWhile nonspacing.holds = rest.reverse :=
    Text.dropWhile_of_head fun d hd => nonspacing_isBeyondAscii.holds_eq_false
      (hrest d (List.mem_reverse.1 (List.mem_of_mem_head? hd)))
  have hrestfits : fitsLeftToRight rest = true := by
    rw [fitsLeftToRight, hmarks]
    split
    · rfl
    · next last inner hreverse =>
      have hrest' : rest = inner.reverse ++ [last] := by
        rw [← List.reverse_reverse rest, hreverse, List.reverse_cons]
      have hletter := hlast last (by rw [hrest', ← List.cons_append]; exact List.getLast?_concat)
      have hinner : inner.all (fun c => !turns c) = true := by
        refine List.all_eq_true.2 fun d hd => ?_
        have hmem : d ∈ rest := hrest' ▸ List.mem_append_left _ (List.mem_reverse.2 hd)
        rw [turns_of_ascii (hrest d hmem)]
        rfl
      rw [(letter_facts hletter).1, hinner]
      rfl
  rw [Domain.fits, hfirst, (letter_facts h.head).1, hrestfits]
  rfl

theorem IsName.replace {l : List Char × List Char} (h : IsName (l :: labels)) (hp : IsWords p) :
    IsName ((p, p) :: labels) := by
  refine ⟨List.cons_ne_nil _ _, ?_, ?_, ?_⟩
  · exact List.forall_mem_cons.2 ⟨hp.readLabel?, (List.forall_mem_cons.1 h.read).2⟩
  · exact List.forall_mem_cons.2 ⟨fun c hc => (hp.char_facts c hc).2,
      (List.forall_mem_cons.1 h.chars).2⟩
  · have hfit := h.fit
    have hturns : p.any turns = false := List.any_eq_false.2 fun c hc =>
      Bool.eq_false_iff.1 (turns_of_ascii (hp.char_facts c hc).1.ascii)
    simp only [directionsFit, List.map_cons, List.any_cons, List.all_cons, hturns, hp.fits,
      Bool.or_eq_true, Bool.and_eq_true, Bool.not_eq_true', Bool.or_eq_false_iff] at hfit ⊢
    rcases hfit with hnone | hall
    · exact .inl ⟨trivial, hnone.2⟩
    · exact .inr ⟨trivial, hall.2⟩

/-- **A domain name is accepted with words for its first label.** -/
theorem ofText?_replace {s front rest : List Char} (h : ofText? s = some (front ++ '.' :: rest))
    (hfront : '.' ∉ front) (hp : IsWords p) :
    ofText? (p ++ '.' :: rest) = some (p ++ '.' :: rest) := by
  obtain ⟨labels, hlabels, hname⟩ := exists_isName_of_ofText? h
  have hpieces := hlabels.pieces_nameOf
  rw [hname, Text.pieces_append_cons _ hfront] at hpieces
  obtain ⟨l, labels, rfl⟩ := List.exists_cons_of_ne_nil hlabels.ne_nil
  have hrest : pieces '.' rest = labels.map (·.2) := List.tail_eq_of_cons_eq hpieces
  have hreplaced : nameOf ((p, p) :: labels) = p ++ '.' :: rest := by
    have hp' : '.' ∉ p := fun hdot => (hp.char_facts '.' hdot).2.2 rfl
    rw [← Text.intercalate_pieces '.' (p ++ '.' :: rest), Text.pieces_append_cons _ hp', hrest]
    rfl
  rw [← hreplaced]
  exact ofText?_nameOf (hlabels.replace hp)

end ServiceAdmin.Url.Domain
