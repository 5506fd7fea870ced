import ServiceAdmin.Proofs.Url.Path

/-!
# Paths that are read again

The path behind a server is made of segments that are encoded and not dots
(`exists_hierarchicalPath`), and the text of such segments is read as these segments
(`hierarchicalPath_segments`).
-/

namespace ServiceAdmin.Url

/-- A character that may stand in a segment. -/
structure IsSegmentChar (c : Char) : Prop where
  ascii : c.toNat < 0x7F
  allowed : inPath c = false
  noSlash : isSlash true c = false

instance (c : Char) : Decidable (IsSegmentChar c) :=
  decidable_of_iff (c.toNat < 0x7F ∧ inPath c = false ∧ isSlash true c = false)
    ⟨fun h => ⟨h.1, h.2.1, h.2.2⟩, fun h => ⟨h.ascii, h.allowed, h.noSlash⟩⟩

/-- A segment as it stands in a path. -/
structure IsSegment (name : List Char) : Prop where
  chars : ∀ c ∈ name, IsSegmentChar c
  not_dots : ¬ IsDots (dots name)

theorem isSegment_nil : IsSegment [] := ⟨fun _ h => (List.not_mem_nil h).elim, by decide⟩

theorem IsSegment.percentEncode_eq {name : List Char} (h : IsSegment name) :
    percentEncode inPath name = name :=
  percentEncode_of_forall fun c hc => ⟨(h.chars c hc).ascii, (h.chars c hc).allowed⟩

/-! ## Segments that were read -/

theorem isSegmentChar_hexUpper {n : Nat} (h : n < 16) : IsSegmentChar (hexUpper n) := by
  have hall : ∀ n < 16, IsSegmentChar (hexUpper n) := by decide
  exact hall n h

theorem isSegmentChar_percentOctet (b : UInt8) : ∀ c ∈ percentOctet b, IsSegmentChar c := by
  have hb : b.toNat < 256 := b.toNat_lt
  refine List.forall_mem_cons.2 ⟨by decide, List.forall_mem_cons.2 ⟨?_, ?_⟩⟩
  · exact isSegmentChar_hexUpper (by omega)
  · exact List.forall_mem_singleton.2 (isSegmentChar_hexUpper (by omega))

/-- An encoded text has characters that need no encoding, and those of encoded octets. -/
theorem mem_of_mem_percentEncode {special : Char → Bool} {s : List Char} {c : Char}
    (h : c ∈ percentEncode special s) :
    (c ∈ s ∧ c.toNat < 0x7F ∧ special c = false) ∨ IsSegmentChar c := by
  obtain ⟨d, hd, hc⟩ := List.mem_flatMap.1 h
  split at hc
  · obtain ⟨b, -, hc⟩ := List.mem_flatMap.1 hc
    exact .inr (isSegmentChar_percentOctet b c hc)
  · next hplain =>
    simp only [Bool.or_eq_true, decide_eq_true_eq, not_or, Nat.not_le, Bool.not_eq_true] at hplain
    obtain rfl := List.mem_singleton.1 hc
    exact .inl ⟨hd, hplain⟩

theorem isSegmentChar_percentEncode {s : List Char} (hs : ∀ c ∈ s, isSlash true c = false) :
    ∀ c ∈ percentEncode inPath s, IsSegmentChar c := by
  intro c hc
  rcases mem_of_mem_percentEncode hc with ⟨hmem, hascii, hallowed⟩ | hchar
  · exact ⟨hascii, hallowed, hs c hmem⟩
  · exact hchar

theorem noSlash_of_mem_splitPath {wellKnown : Bool} {s name : List Char}
    (h : name ∈ splitPath wellKnown s) : ∀ c ∈ name, isSlash wellKnown c = false := by
  induction s generalizing name with
  | nil =>
    rw [List.mem_singleton.1 h]
    exact fun _ h => nomatch h
  | cons d s ih =>
    rw [splitPath] at h
    split at h
    · rcases List.mem_cons.1 h with rfl | h
      · exact fun _ h => nomatch h
      · exact ih h
    · next hd =>
      have hd' : isSlash wellKnown d = false := Bool.eq_false_iff.2 hd
      split at h
      · rw [List.mem_singleton.1 h]
        exact List.forall_mem_singleton.2 hd'
      · next q qs hsplit =>
        rw [hsplit] at ih
        rcases List.mem_cons.1 h with rfl | h
        · exact List.forall_mem_cons.2 ⟨hd', ih List.mem_cons_self⟩
        · exact ih (List.mem_cons_of_mem q h)

theorem mem_of_mem_dropLast {isFile : Bool} {name : List Char} {done : List (List Char)}
    (h : name ∈ dropLast isFile done) : name ∈ done := by
  cases done with
  | nil => exact h
  | cons other done =>
    rw [dropLast] at h
    split at h
    · exact h
    · exact List.mem_cons_of_mem other h

/-- What holds of encoded names that are no dots holds of what is left when dots are resolved. -/
theorem forall_mem_resolveDots {P : List Char → Prop} {isFile : Bool}
    {done names : List (List Char)} (hnil : P []) (hdone : ∀ name ∈ done, P name)
    (hnames : ∀ name ∈ names, ¬ IsDots (dots (percentEncode inPath name)) →
      P (percentEncode inPath name)) :
    ∀ name ∈ resolveDots isFile done names, P name := by
  induction names generalizing done with
  | nil => exact fun name h => hdone name (List.mem_reverse.1 h)
  | cons name names ih =>
    have hrest := fun other h => hnames other (List.mem_cons_of_mem name h)
    have hlast {done : List (List Char)} (hdone : ∀ name ∈ done, P name) :
        ∀ name ∈ ([] :: done).reverse, P name := fun other h =>
      List.forall_mem_cons.2 ⟨hnil, hdone⟩ other (List.mem_reverse.1 h)
    have hdropped : ∀ other ∈ dropLast isFile done, P other :=
      fun other h => hdone other (mem_of_mem_dropLast h)
    rw [resolveDots]
    dsimp only
    split
    · split
      · exact hlast hdropped
      · exact ih hdropped hrest
    split
    · split
      · exact hlast hdone
      · exact ih hdone hrest
    · next hup hself =>
      have hname := hnames name List.mem_cons_self (not_or.2 ⟨hself, hup⟩)
      exact ih (List.forall_mem_cons.2 ⟨hname, hdone⟩) hrest

/-- **What is left of a path when its dots are resolved are segments.** -/
theorem isSegment_resolveDots {names : List (List Char)}
    (hnames : ∀ name ∈ names, ∀ c ∈ name, isSlash true c = false) :
    ∀ name ∈ resolveDots false [] names, IsSegment name :=
  forall_mem_resolveDots isSegment_nil (fun _ h => nomatch h) fun name hname hdots =>
    ⟨isSegmentChar_percentEncode (hnames name hname), hdots⟩

theorem resolveDots_ne_nil {isFile : Bool} {done names : List (List Char)}
    (h : done ≠ [] ∨ names ≠ []) : resolveDots isFile done names ≠ [] := by
  induction names generalizing done with
  | nil => exact mt List.reverse_eq_nil_iff.1 (h.resolve_right fun h => h rfl)
  | cons name names ih =>
    have hlast (done : List (List Char)) : ([] :: done).reverse ≠ [] :=
      mt List.reverse_eq_nil_iff.1 (List.cons_ne_nil _ _)
    rw [resolveDots]
    dsimp only
    split
    · split
      · exact hlast _
      · next hne => exact ih (.inr (mt List.isEmpty_iff.2 hne))
    split
    · split
      · exact hlast _
      · next hne => exact ih (.inr (mt List.isEmpty_iff.2 hne))
    · exact ih (.inl (List.cons_ne_nil _ _))

/-- The path behind a server. -/
theorem exists_hierarchicalPath (s : List Char) :
    ∃ names, hierarchicalPath true s = pathOf names ∧ names ≠ [] ∧
      ∀ name ∈ names, IsSegment name := by
  have hresolved (s : List Char) : ∃ names, pathOf (resolveDots false [] (splitPath true s)) =
      pathOf names ∧ names ≠ [] ∧ ∀ name ∈ names, IsSegment name :=
    ⟨_, rfl, resolveDots_ne_nil (.inr (splitPath_ne_nil true s)),
      isSegment_resolveDots fun _ h => noSlash_of_mem_splitPath h⟩
  cases s with
  | nil => exact ⟨[[]], rfl, List.cons_ne_nil _ _, List.forall_mem_singleton.2 isSegment_nil⟩
  | cons c s =>
    rw [hierarchicalPath]
    split
    · exact hresolved s
    · exact hresolved (c :: s)

/-! ## Segments that are read again -/

theorem splitPath_of_noSlash {name : List Char} (h : ∀ c ∈ name, isSlash true c = false) :
    splitPath true name = [name] := by
  induction name with
  | nil => rfl
  | cons c name ih =>
    rw [splitPath, h c List.mem_cons_self, if_neg Bool.false_ne_true,
      ih fun d hd => h d (List.mem_cons_of_mem c hd)]

theorem splitPath_segments {name : List Char} {names : List (List Char)}
    (h : ∀ other ∈ name :: names, IsSegment other) :
    splitPath true (name ++ names.flatMap ('/' :: ·)) = name :: names := by
  have hname : splitPath true name = [name] :=
    splitPath_of_noSlash fun c hc => ((h name List.mem_cons_self).chars c hc).noSlash
  induction names generalizing name with
  | nil => rw [List.flatMap_nil, List.append_nil, hname]
  | cons other names ih =>
    have hother := fun third hthird => h third (List.mem_cons_of_mem name hthird)
    rw [List.flatMap_cons, List.cons_append, splitPath_append_slash, hname, ih hother
      (splitPath_of_noSlash fun c hc => ((hother other List.mem_cons_self).chars c hc).noSlash)]
    rfl

/-- **The text of segments is read as these segments.** -/
theorem hierarchicalPath_segments {names : List (List Char)} (hne : names ≠ [])
    (h : ∀ name ∈ names, IsSegment name) :
    hierarchicalPath true (names.flatMap ('/' :: ·)) = pathOf names := by
  obtain ⟨name, names, rfl⟩ := List.exists_cons_of_ne_nil hne
  rw [List.flatMap_cons, List.cons_append, hierarchicalPath, if_pos (by decide),
    splitPath_segments h, resolveDots_of_forall [] fun other hother =>
      ⟨(h other hother).percentEncode_eq, (h other hother).not_dots⟩]
  rfl

/-- The characters of a path. -/
theorem isPathChar_of_mem_flatMap {names : List (List Char)} (h : ∀ name ∈ names, IsSegment name) :
    ∀ c ∈ names.flatMap ('/' :: ·), c.toNat < 0x7F ∧ inPath c = false := by
  intro c hc
  obtain ⟨name, hname, hc⟩ := List.mem_flatMap.1 hc
  rcases List.mem_cons.1 hc with rfl | hc
  · decide
  · exact ⟨((h name hname).chars c hc).ascii, ((h name hname).chars c hc).allowed⟩

end ServiceAdmin.Url
