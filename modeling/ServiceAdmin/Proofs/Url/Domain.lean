import ServiceAdmin.Proofs.Text.Pieces
import ServiceAdmin.Proofs.Text.Punycode
import ServiceAdmin.Url.Domain
import ServiceAdmin.Url.Percent

/-!
# Domain names that are read again

A domain name is made of ASCII characters that a host may have (`isNameChar_of_ofText?`), so that
nothing in it is decoded when it is read again (`ofOctets?_percentDecode`).  A literal name is read
as itself (`ofText?_of_isLiteral`).
-/

namespace ServiceAdmin.Url.Domain

open Text (forall_ascii toNat_lt_of_isAlphanum)

/-! ## The characters of names -/

/-- An ASCII character that a host may have. -/
structure IsNameChar (c : Char) : Prop where
  ascii : c.toNat < 0x80
  allowed : isForbidden c = false

instance (c : Char) : Decidable (IsNameChar c) :=
  decidable_of_iff (c.toNat < 0x80 ∧ isForbidden c = false)
    ⟨fun h => ⟨h.1, h.2⟩, fun h => ⟨h.ascii, h.allowed⟩⟩

theorem isNameChar_dot : IsNameChar '.' := by decide

theorem isNameChar_hyphen : IsNameChar '-' := by decide

theorem isNameChar_of_isAlphanum {c : Char} (h : c.isAlphanum = true) : IsNameChar c := by
  have hascii := toNat_lt_of_isAlphanum h
  have hallowed := forall_ascii (P := fun c => c.isAlphanum = true → isForbidden c = false)
    (by decide) hascii h
  exact ⟨hascii, hallowed⟩

theorem isNameChar_of_any {s : List Char} (hascii : isAscii s = true)
    (hallowed : s.any isForbidden = false) : ∀ c ∈ s, IsNameChar c := fun c hc =>
  ⟨of_decide_eq_true (List.all_eq_true.1 hascii c hc),
    Bool.eq_false_iff.2 (List.any_eq_false.1 hallowed c hc)⟩

theorem isNameChar_encodedMark : ∀ c ∈ encodedMark, IsNameChar c := by
  intro c hc
  rcases List.mem_cons.1 hc with rfl | hc
  · exact isNameChar_of_isAlphanum (by decide)
  rcases List.mem_cons.1 hc with rfl | hc
  · exact isNameChar_of_isAlphanum (by decide)
  · rw [List.eq_of_mem_replicate (n := 2) hc]
    exact isNameChar_hyphen

theorem any_isForbidden_of_isValid {label : List Char} (h : isValid label = true) :
    label.any isForbidden = false :=
  Bool.not_eq_true' _ ▸ (Bool.and_eq_true_iff.1 h).2

/-- A label in its ASCII form has no character that is forbidden in what it stands for. -/
theorem isNameChar_of_readLabel? {label text name : List Char}
    (h : readLabel? label = some (text, name)) : ∀ c ∈ name, IsNameChar c := by
  unfold readLabel? at h
  split at h
  · next hmark =>
    -- the label is kept, so its characters are those of the mark and of Punycode
    obtain ⟨hascii, hmark⟩ := Bool.and_eq_true_iff.1 hmark
    obtain ⟨read, hread, h⟩ := Option.bind_eq_some_iff.1 h
    split at h
    · cases h
    next hgood =>
    cases h
    have hvalid : isValid text = true := by
      simp only [Bool.or_eq_true, not_or, Bool.not_eq_true, Bool.not_eq_false'] at hgood
      exact hgood.2
    intro c hc
    obtain ⟨rest, rfl⟩ := List.isPrefixOf_iff_prefix.1 hmark
    rcases List.mem_append.1 hc with hc | hc
    · exact isNameChar_encodedMark c hc
    rcases Text.Punycode.mem_of_decode? hread hc with htext | rfl | hdigit
    · exact ⟨of_decide_eq_true (List.all_eq_true.1 hascii c (List.mem_append_right _ hc)),
        Bool.eq_false_iff.2 (List.any_eq_false.1 (any_isForbidden_of_isValid hvalid) c htext)⟩
    · exact isNameChar_hyphen
    · exact isNameChar_of_isAlphanum hdigit
  split at h
  · cases h
  split at h
  · next hascii =>
    split at h
    · cases h
    next hallowed =>
    cases h
    exact isNameChar_of_any hascii (Bool.eq_false_iff.2 hallowed)
  split at h
  · next hvalid =>
    cases h
    have hallowed := any_isForbidden_of_isValid (Bool.and_eq_true_iff.1 hvalid).1
    intro c hc
    rcases List.mem_append.1 hc with hc | hc
    · exact isNameChar_encodedMark c hc
    rcases Text.Punycode.mem_encode hc with ⟨htext, hascii⟩ | rfl | ⟨d, hd, rfl⟩
    · exact ⟨hascii, Bool.eq_false_iff.2 (List.any_eq_false.1 hallowed c htext)⟩
    · exact isNameChar_hyphen
    · exact isNameChar_of_isAlphanum (Text.Punycode.isAlphanum_digitChar hd)
  · cases h

theorem isAscii_map_toLower {s : List Char} (h : isAscii s = true) :
    isAscii (s.map Char.toLower) = true := by
  refine List.all_eq_true.2 fun d hd => ?_
  obtain ⟨c, hc, rfl⟩ := List.mem_map.1 hd
  exact forall_ascii (P := fun c => decide (c.toLower.toNat < 0x80) = true) (by decide)
    (of_decide_eq_true (List.all_eq_true.1 h c hc))

/-- **A domain name has no character that no host has.** -/
theorem isNameChar_of_ofText? {s name : List Char} (h : ofText? s = some name) :
    ∀ c ∈ name, IsNameChar c := by
  unfold ofText? at h
  dsimp only at h
  split at h
  · next hplain =>
    split at h
    · cases h
    next hallowed =>
    cases h
    exact isNameChar_of_any (isAscii_map_toLower (Bool.and_eq_true_iff.1 hplain).1)
      (Bool.eq_false_iff.2 hallowed)
  · obtain ⟨mapped, -, h⟩ := Option.bind_eq_some_iff.1 h
    obtain ⟨labels, hlabels, h⟩ := Option.bind_eq_some_iff.1 h
    split at h
    · cases h
      intro c hc
      rcases Text.mem_intercalate hc with hc | ⟨label, hlabel, hc⟩
      · rw [List.mem_singleton.1 hc]
        exact isNameChar_dot
      · obtain ⟨⟨text, ascii⟩, hpair, rfl⟩ := List.mem_map.1 hlabel
        obtain ⟨piece, -, hread⟩ := Text.exists_of_mem_mapM hlabels hpair
        exact isNameChar_of_readLabel? hread c hc
    · cases h

/-! ## Literal names -/

/-- A name that is written as it is read: it has no capitals, and no label in Punycode. -/
def IsLiteral (name : List Char) : Prop :=
  name.map Char.toLower = name ∧ (Text.pieces '.' name).any encodedMark.isPrefixOf = false

instance (name : List Char) : Decidable (IsLiteral name) :=
  inferInstanceAs (Decidable (_ ∧ _))

/-- **A literal name is its own ASCII form.** -/
theorem ofText?_of_isLiteral {name : List Char} (hchars : ∀ c ∈ name, IsNameChar c)
    (h : IsLiteral name) : ofText? name = some name := by
  have hascii : isAscii name = true :=
    List.all_eq_true.2 fun c hc => decide_eq_true (hchars c hc).ascii
  have hallowed : name.any isForbidden = false :=
    List.any_eq_false.2 fun c hc => Bool.eq_false_iff.1 (hchars c hc).allowed
  unfold ofText?
  dsimp only
  rw [h.1, hascii, h.2, hallowed]
  rfl

/-! ## Octets -/

theorem percentDecode_of_notMem {s : List Char} (h : '%' ∉ s) :
    percentDecode s = s.flatMap String.utf8EncodeChar := by
  induction s with
  | nil => rfl
  | cons c s ih =>
    obtain ⟨hc, hs⟩ := not_or.1 (mt List.mem_cons.2 h)
    rw [percentDecode, ih hs, List.flatMap_cons]
    rintro a b rest rfl
    exact absurd rfl hc

/-- ASCII text is written in one octet for each character. -/
theorem decode?_flatMap {s : List Char} (h : ∀ c ∈ s, c.toNat < 0x80) :
    Text.Utf8.decode? (s.flatMap String.utf8EncodeChar) = .ok (String.ofList s) := by
  have hfrom (valid : Nat) :
      Text.Utf8.decodeFrom valid 0 (s.flatMap String.utf8EncodeChar) = .ok s := by
    induction s generalizing valid with
    | nil => rfl
    | cons c s ih =>
      have hc := h c List.mem_cons_self
      have hone : String.utf8EncodeChar c = [UInt8.ofNat c.toNat] ∧
          Text.Utf8.expected? (UInt8.ofNat c.toNat).toNat = some (c.toNat, []) :=
        forall_ascii (P := fun c => String.utf8EncodeChar c = [UInt8.ofNat c.toNat] ∧
          Text.Utf8.expected? (UInt8.ofNat c.toNat).toNat = some (c.toNat, [])) (by decide) hc
      have hfront (rest : List UInt8) :
          Text.Utf8.front (UInt8.ofNat c.toNat) rest = .char c 1 := by
        rw [Text.Utf8.front, hone.2]
        exact congrArg (Text.Utf8.Front.char · 1) (Char.ofNat_toNat c)
      rw [List.flatMap_cons, hone.1, List.singleton_append, Text.Utf8.decodeFrom, hfront]
      show (Text.Utf8.decodeFrom (valid + 1) 0 _).map (c :: ·) = _
      rw [ih (fun d hd => h d (List.mem_cons_of_mem _ hd))]
      rfl
  rw [Text.Utf8.decode?, hfrom]
  rfl

/-- **Nothing in a domain name is decoded.** -/
theorem ofOctets?_percentDecode {name : List Char} (h : ∀ c ∈ name, IsNameChar c) :
    ofOctets? (percentDecode name) = ofText? name := by
  have hpercent : '%' ∉ name := by
    intro hmem
    have hallowed := (h _ hmem).allowed
    exact absurd hallowed (by decide)
  rw [percentDecode_of_notMem hpercent, ofOctets?, decode?_flatMap fun c hc => (h c hc).ascii]
  exact congrArg ofText? String.toList_ofList

end ServiceAdmin.Url.Domain
