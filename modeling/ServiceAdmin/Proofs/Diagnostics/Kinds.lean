import ServiceAdmin.Proofs.Diagnostics.BearerToken
import ServiceAdmin.Proofs.Diagnostics.Kind

/-!
# The three kinds of credentials

Each of the three patterns is that of a kind: authorization headers, bearer tokens and secret
members.  Each kind is regular: within what leads to a value nothing begins that leads to another,
and it has no character that begins a mask and does not end on a character of one.
-/

namespace ServiceAdmin.Diagnostics

open Text (isBlank isWordChar)
open Kind

/-! ## Words -/

/-- What a word leaves to read ends with a character that is its last letter. -/
theorem exists_of_afterWord?_concat {word s r : List Char} {l : Char}
    (h : afterWord? (word ++ [l]) s = some r) :
    ∃ t c, s = t ++ c :: r ∧ isLetter l c = true ∧ t.length = word.length ∧
      (∀ d ∈ t, ∃ w ∈ word, isLetter w d = true) ∧
        ∀ x, afterWord? (word ++ [l]) (t ++ c :: x) = some x := by
  induction word generalizing s with
  | nil =>
    cases s with
    | nil => cases h
    | cons c s =>
      rw [List.nil_append, afterWord?] at h
      split at h
      · next hc =>
        cases h
        exact ⟨[], c, rfl, hc, rfl, by simp, fun x => if_pos hc⟩
      · cases h
  | cons w word ih =>
    cases s with
    | nil => cases h
    | cons d s =>
      rw [List.cons_append, afterWord?] at h
      split at h
      · next hd =>
        obtain ⟨t, c, rfl, hc, hlength, hletters, hx⟩ := ih h
        refine ⟨d :: t, c, rfl, hc, by simp [hlength], ?_, fun x => (if_pos hd).trans (hx x)⟩
        rw [List.forall_mem_cons]
        exact ⟨⟨w, List.mem_cons_self, hd⟩, fun e he => by
          obtain ⟨v, hv, hve⟩ := hletters e he
          exact ⟨v, List.mem_cons_of_mem _ hv, hve⟩⟩
      · cases h

/-- A word does not end before a character that is none of its letters. -/
theorem afterWord?_eq_none_of_length {word r : List Char} {c : Char}
    (hc : ∀ w ∈ word, isLetter w c = false) (hr : r.length < word.length)
    (word' x : List Char) : afterWord? (word ++ word') (r ++ c :: x) = none := by
  induction word generalizing r with
  | nil => cases hr
  | cons w word ih =>
    obtain ⟨hw, hword⟩ := List.forall_mem_cons.1 hc
    cases r with
    | nil => exact if_neg (Bool.eq_false_iff.1 hw)
    | cons d r =>
      rw [List.cons_append, List.cons_append, afterWord?]
      split
      · exact ih hword (Nat.lt_of_succ_lt_succ hr)
      · rfl

/-! ## Runs -/

section Run

variable {q : Char → Bool} {v v' hidden s t : List Char} {n : Nat}

theorem isSome_run? : (run? q v).isSome = v.head?.any q := by
  cases v with
  | nil => rfl
  | cons c v =>
    rw [run?, List.takeWhile_cons, List.head?_cons, Option.any_some]
    cases q c <;> rfl

theorem le_of_run? (h : run? q v = some n) : n ≤ v.length := by
  rw [(run?_eq_some h).1]
  exact (List.takeWhile_prefix q).length_le

/-- A mask in place of a run ends where the run did. -/
theorem length_takeWhile_mask (hq : ∀ c ∈ mask, q c = true)
    (h : ((hidden ++ s).takeWhile q).length = hidden.length) (ht : t.head? = s.head?) :
    ((mask ++ t).takeWhile q).length = mask.length := by
  have hhead := Text.head_of_length_takeWhile h
  rw [← ht] at hhead
  rw [Text.takeWhile_append_of_head hq hhead]

end Run

/-- The last character behind others is one of those that stand last. -/
theorem exists_getLast?_cons {P : Char → Prop} (t : List Char) {c : Char} {s : List Char}
    (h : ∀ d ∈ c :: s, P d) : ∃ d, (t ++ c :: s).getLast? = some d ∧ P d := by
  have hne : c :: s ≠ [] := List.cons_ne_nil c s
  refine ⟨(c :: s).getLast hne, ?_, h _ (List.getLast_mem hne)⟩
  rw [List.getLast?_append, List.getLast?_eq_some_getLast hne, Option.some_or]

/-! ## Authorization headers -/

/-- The value of an `authorization:` header. -/
def header : Kind where
  follows _ := true
  lead s := (afterWord? authorizationWord s).map skipBlanks
  size? := run? isHeaderChar
  ends c := isLetter ':' c || isBlank c

theorem authorizationPattern_eq : authorizationPattern = header.pattern := by
  funext before s
  show ((afterWord? authorizationWord s).bind fun rest => (run? isHeaderChar (skipBlanks rest)).bind
    fun n => some (s.length - (skipBlanks rest).length, n)) =
      ((afterWord? authorizationWord s).map skipBlanks).bind fun v =>
        (run? isHeaderChar v).map fun n => (s.length - v.length, n)
  cases afterWord? authorizationWord s with
  | none => rfl
  | some rest => rw [Option.map_some, Option.bind_some, Option.bind_some, Option.map_eq_bind]; rfl

/-- What is to be known of the colon of a header. -/
theorem colon_facts {c : Char} (h : isLetter ':' c = true) :
    (∀ w ∈ "authorization".toList, isLetter w c = false) ∧ c ≠ '[' :=
  isLetter_induction (P := fun c => (∀ w ∈ "authorization".toList, isLetter w c = false) ∧ c ≠ '[')
    (by decide) (by decide) (by decide) (by decide) (List.mem_singleton.2 rfl : ':' ∈ [':']) h

theorem ne_bracket_of_isLetter {c w : Char} (hw : w ∈ authorizationWord) (h : isLetter w c = true) :
    c ≠ '[' := by
  rintro rfl
  revert w
  decide

theorem ne_bracket_of_isBlank {c : Char} (h : isBlank c = true) : c ≠ '[' := by
  rintro rfl
  exact absurd h (by decide)

theorem skipBlanks_append {gap x : List Char} (hgap : ∀ c ∈ gap, isBlank c = true)
    (hx : ∀ c ∈ x.head?, isBlank c = false) : skipBlanks (gap ++ x) = x := by
  rw [skipBlanks, List.dropWhile_append_of_pos hgap, Text.dropWhile_of_head hx]

theorem head_skipBlanks (s : List Char) : ∀ c ∈ (skipBlanks s).head?, isBlank c = false :=
  fun _ hc => Text.of_mem_head?_dropWhile hc

theorem lead_header_of_ne {c : Char} (hc : isLetter 'a' c = false) (s : List Char) :
    header.lead (c :: s) = none := by
  have hnone : afterWord? authorizationWord (c :: s) = none := if_neg (Bool.eq_false_iff.1 hc)
  exact congrArg (Option.map skipBlanks) hnone

theorem header_split {s v : List Char} (h : header.lead s = some v) :
    ∃ kept, s = kept ++ v ∧ header.LeadsTo kept v := by
  obtain ⟨rest, hrest, rfl⟩ := Option.map_eq_some_iff.1 h
  have hsplit : afterWord? ("authorization".toList ++ [':']) s = some rest := hrest
  obtain ⟨t, c, rfl, hc, hlength, hletters, hword⟩ := exists_of_afterWord?_concat hsplit
  obtain ⟨hcolon, hbracket⟩ := colon_facts hc
  have hgap : ∀ d ∈ rest.takeWhile isBlank, isBlank d = true :=
    List.all_eq_true.1 List.all_takeWhile
  refine ⟨t ++ c :: rest.takeWhile isBlank, by simp [skipBlanks],
    { lead := ?lead, unmasked := ?unmasked, ends := ?ends, barren := ?barren }⟩
  case lead =>
    intro x hx
    have hhead : ∀ d ∈ x.head?, isBlank d = false := fun d hd =>
      (hx d hd).elim id (head_skipBlanks rest d)
    have hlead := congrArg (Option.map skipBlanks) (hword (rest.takeWhile isBlank ++ x))
    rw [Option.map_some, skipBlanks_append hgap hhead] at hlead
    rw [List.append_assoc, List.cons_append]
    exact hlead
  case unmasked =>
    rw [List.mem_append, List.mem_cons]
    rintro (hmem | rfl | hmem)
    · obtain ⟨w, hw, hl⟩ := hletters _ hmem
      exact ne_bracket_of_isLetter (List.mem_append_left _ hw) hl rfl
    · exact hbracket rfl
    · exact ne_bracket_of_isBlank (hgap _ hmem) rfl
  case ends =>
    refine exists_getLast?_cons (P := fun d => header.ends d = true) t ?_
    rw [List.forall_mem_cons]
    exact ⟨Bool.or_eq_true_iff.2 (.inl hc), fun d hd => Bool.or_eq_true_iff.2 (.inr (hgap d hd))⟩
  case barren =>
    intro x
    cases t with
    | nil => cases hlength
    | cons a t =>
      -- Within the name there is no room for another one before the colon.
      refine barren_append (fun front r hr _ => ?_) (barren_of_forall ?_)
      · have hshort : r.length < "authorization".toList.length := by
          rw [← hlength, hr, List.length_cons, List.length_append]
          omega
        exact congrArg (Option.map skipBlanks)
          (afterWord?_eq_none_of_length hcolon hshort [':'] _)
      · rw [List.forall_mem_cons]
        exact ⟨lead_header_of_ne (hcolon 'a' (by decide)), fun d hd => lead_header_of_ne
          (not_isLetter_of_delimiter (.inr (hgap d hd)) (.inl rfl) 'a' (by decide))⟩

theorem regular_header : header.Regular where
  split := header_split
  barren x := by
    have hne : ∀ c ∈ mask, c ≠ 'A' → isLetter 'a' c = false := by decide
    refine barren_append (s := ['[', 'R', 'E', 'D']) (barren_of_forall fun c hc y => ?_)
      (barren_cons rfl (barren_of_forall fun c hc y => ?_))
    · exact lead_header_of_ne (hne c (by revert c; decide) (by revert c; decide)) y
    · exact lead_header_of_ne (hne c (by revert c; decide) (by revert c; decide)) y
  ends := by decide
  size_le := le_of_run?
  size_head {v v'} hhead h := by
    rw [header, isSome_run?] at h ⊢
    rwa [hhead]
  size_mask {hidden s t n} h ht hn := by
    have hmask : run? isHeaderChar (mask ++ t) = some n := hn
    have hvalue : run? isHeaderChar (hidden ++ s) = some hidden.length := h
    rw [(run?_eq_some hmask).1]
    exact length_takeWhile_mask (by decide) (run?_eq_some hvalue).1.symm ht

/-! ## Bearer tokens -/

/-- The token behind the word `bearer`, with its padding. -/
def bearer : Kind where
  follows before := !before.any isWordChar
  lead s := (afterWord? bearerWord s).bind fun rest =>
    if (skipBlanks rest).length = rest.length then none else some (skipBlanks rest)
  size? v := (run? isTokenChar v).map fun n => n + ((v.drop n).takeWhile (· = '=')).length
  ends := isBlank

theorem bearerPattern_eq_pattern : bearerPattern = bearer.pattern := by
  funext before s
  rw [bearerPattern_eq, Kind.pattern]
  show _ = if !before.any isWordChar then
    ((afterWord? bearerWord s).bind fun rest =>
      if (skipBlanks rest).length = rest.length then none else some (skipBlanks rest)).bind fun v =>
        ((run? isTokenChar v).map _).map _ else none
  cases before.any isWordChar with
  | true => rfl
  | false =>
    cases afterWord? bearerWord s with
    | none => rfl
    | some rest =>
      simp only [Bool.false_eq_true, if_false, Bool.not_false, if_true, Option.bind_some]
      split
      · rfl
      · rw [Option.bind_some, Option.map_map]
        rfl

theorem lead_bearer_of_ne {c : Char} (hc : isLetter 'b' c = false) (s : List Char) :
    bearer.lead (c :: s) = none := by
  have hnone : afterWord? bearerWord (c :: s) = none := if_neg (Bool.eq_false_iff.1 hc)
  exact congrArg (Option.bind · _) hnone

/-- What is to be known of the letters behind the first of `bearer`. -/
theorem letter_facts {w c : Char} (hw : w ∈ bearerWord.tail) (h : isLetter w c = true) :
    isLetter 'b' c = false ∧ c ≠ '[' :=
  isLetter_induction (P := fun c => isLetter 'b' c = false ∧ c ≠ '[') (by decide) (by decide)
    (by decide) (by decide) hw h

theorem bearer_split {s v : List Char} (h : bearer.lead s = some v) :
    ∃ kept, s = kept ++ v ∧ bearer.LeadsTo kept v := by
  obtain ⟨rest, hrest, h⟩ := Option.bind_eq_some_iff.1 h
  split at h
  · cases h
  next hlength =>
  cases h
  cases s with
  | nil => cases hrest
  | cons b s =>
    have hb : isLetter 'b' b = true := by
      cases hb : isLetter 'b' b with
      | true => rfl
      | false => cases (if_neg (Bool.eq_false_iff.1 hb)).symm.trans hrest
    have htail : afterWord? bearerWord.tail s = some rest := (if_pos hb).symm.trans hrest
    obtain ⟨t, rfl, ht, -, hletters⟩ := exists_append_of_afterWord? htail
    have hgap : ∀ d ∈ rest.takeWhile isBlank, isBlank d = true :=
      List.all_eq_true.1 List.all_takeWhile
    have hne : rest.takeWhile isBlank ≠ [] := by
      intro hnil
      have hsplit := List.takeWhile_append_dropWhile (p := isBlank) (l := rest)
      rw [hnil, List.nil_append] at hsplit
      exact hlength (congrArg List.length hsplit)
    obtain ⟨g, gap, hcons⟩ := List.exists_cons_of_ne_nil hne
    have hword (x : List Char) : afterWord? bearerWord (b :: (t ++ x)) = some x :=
      (if_pos hb).trans (afterWord?_append ht x)
    refine ⟨b :: t ++ rest.takeWhile isBlank, by simp [skipBlanks],
      { lead := ?lead, unmasked := ?unmasked, ends := ?ends, barren := ?barren }⟩
    case lead =>
      intro x hx
      have hhead : ∀ d ∈ x.head?, isBlank d = false := fun d hd =>
        (hx d hd).elim id (head_skipBlanks rest d)
      have hlonger : x.length ≠ (rest.takeWhile isBlank ++ x).length := by
        rw [hcons, List.length_append, List.length_cons]
        omega
      show (afterWord? bearerWord _).bind _ = _
      rw [List.cons_append, List.cons_append, List.append_assoc, hword, Option.bind_some,
        skipBlanks_append hgap hhead, if_neg hlonger]
    case unmasked =>
      rw [List.cons_append, List.mem_cons, List.mem_append]
      rintro (rfl | hmem | hmem)
      · exact absurd hb (by decide)
      · obtain ⟨w, hw, hl⟩ := hletters _ hmem
        exact (letter_facts hw hl).2 rfl
      · exact ne_bracket_of_isBlank (hgap _ hmem) rfl
    case ends =>
      rw [hcons] at hgap ⊢
      exact exists_getLast?_cons (P := fun d => bearer.ends d = true) _ hgap
    case barren =>
      -- The first letter of the word is none of the others.
      refine fun x => barren_of_forall fun d hd => lead_bearer_of_ne ?_
      rcases List.mem_append.1 hd with hd | hd
      · obtain ⟨w, hw, hl⟩ := hletters d hd
        exact (letter_facts hw hl).1
      · exact not_isLetter_of_delimiter (.inr (hgap d hd)) (.inr rfl) 'b' (by decide)

/-- A token ends before a character that is none of a token, or in its padding. -/
theorem exists_of_bearer_size {hidden s : List Char}
    (h : bearer.size? (hidden ++ s) = some hidden.length) :
    (∃ c rest, hidden = c :: rest ∧ isTokenChar c = true) ∧
      ((∀ c ∈ s.head?, isTokenChar c = false) ∨ ∃ front, hidden = front ++ ['=']) := by
  obtain ⟨n, hrun, hn⟩ := Option.map_eq_some_iff.1 h
  obtain ⟨htoken, hpos⟩ := run?_eq_some hrun
  have hpadding : (hidden ++ s).drop n = (hidden ++ s).dropWhile isTokenChar := by
    rw [htoken, Text.drop_length_takeWhile]
  rw [hpadding] at hn
  constructor
  · cases hidden with
    | nil => exact absurd hn (by rw [List.length_nil]; omega)
    | cons c rest =>
      refine ⟨c, rest, rfl, ?_⟩
      have hsome := isSome_run? (q := isTokenChar) (v := c :: rest ++ s)
      rw [hrun] at hsome
      exact hsome.symm
  · rw [htoken] at hn
    refine (Text.cases_of_length_runs hn).imp_right ?_
    rintro ⟨front, c, hfront, hc⟩
    exact ⟨front, of_decide_eq_true hc ▸ hfront⟩

theorem size_bearer_mask (t : List Char) : bearer.size? (mask ++ t) = none := rfl

theorem regular_bearer : bearer.Regular where
  split := bearer_split
  barren x := by
    have hne : ∀ c ∈ mask, isLetter 'b' c = false := by decide
    exact barren_of_forall fun c hc => lead_bearer_of_ne (hne c hc)
  ends := by decide
  size_le {v n} h := by
    obtain ⟨i, hrun, rfl⟩ := Option.map_eq_some_iff.1 h
    have hle := le_of_run? hrun
    have hpadding := (List.takeWhile_prefix (fun c => decide (c = '=')) (l := v.drop i)).length_le
    rw [List.length_drop] at hpadding
    omega
  size_head {v v'} hhead h := by
    have hsome (v : List Char) : (bearer.size? v).isSome = v.head?.any isTokenChar := by
      rw [← isSome_run?]
      exact Option.isSome_map
    rw [hsome] at h ⊢
    rwa [hhead]
  size_mask {hidden s t n} _ _ hn := by
    cases (size_bearer_mask t).symm.trans hn

/-! ## Secret members -/

/-- The value of a secret member. -/
def memberValue? : List Char → Option (List Char)
  | '"' :: s => (afterSecretName? s).bind fun r => (afterMark? ':' r).bind (afterMark? '"')
  | _ => none

/-- The string of a secret member. -/
def member : Kind where
  follows _ := true
  lead := memberValue?
  size? v := some (v.takeWhile (· ≠ '"')).length
  ends c := c = '"'

theorem lead_member_of_ne {c : Char} (hc : c ≠ '"') (s : List Char) :
    member.lead (c :: s) = none := by
  show memberValue? (c :: s) = none
  rw [memberValue?]
  rintro s' heq
  exact hc (List.cons.inj heq).1

theorem memberPattern_eq : memberPattern = member.pattern := by
  funext before s
  show _ = (memberValue? s).bind fun v =>
    some (s.length - v.length, (v.takeWhile (· ≠ '"')).length)
  cases s with
  | nil => rfl
  | cons c s =>
    by_cases hc : c = '"'
    · subst hc
      rw [memberPattern_quote, memberValue?, Option.bind_assoc]
      refine congrArg _ (funext fun r => ?_)
      rw [Option.bind_assoc]
      refine congrArg _ (funext fun r => ?_)
      rw [Option.map_eq_bind]
      rfl
    · rw [memberPattern_of_ne hc]
      exact (congrArg (Option.bind · _) (lead_member_of_ne hc s)).symm

/-- The first letters of the names of secret members. -/
abbrev nameLetters : List Char := ['a', 'r', 's', 'p']

/-- What is to be known of the first letter of a name. -/
theorem nameLetter_facts {v w c : Char} (hv : v ∈ nameLetters) (hw : w ∈ nameLetters)
    (hvc : isLetter v c = true) (hwc : isLetter w c = true) : isBlank c = false ∧ v = w :=
  isLetter_induction (P := fun c => ∀ v ∈ nameLetters, ∀ w ∈ nameLetters, isLetter v c = true →
    isLetter w c = true → isBlank c = false ∧ v = w) (by decide) (by decide +kernel)
    (by decide) (by decide) hv hvc v hv w hw hvc hwc

theorem exists_of_mem_secretNames {name : List Char} (h : name ∈ secretNames) :
    ∃ w ∈ nameLetters, ∃ rest, name = w :: rest := by
  simp only [secretNames, List.mem_cons, List.not_mem_nil, or_false] at h
  rcases h with rfl | rfl | rfl | rfl
  · exact ⟨'a', by decide, _, rfl⟩
  · exact ⟨'r', by decide, _, rfl⟩
  · exact ⟨'s', by decide, _, rfl⟩
  · exact ⟨'p', by decide, _, rfl⟩

theorem isLetter_head_of_afterWord? {w : Char} {word s r : List Char}
    (h : afterWord? (w :: word) s = some r) : ∃ c ∈ s.head?, isLetter w c = true := by
  cases s with
  | nil => cases h
  | cons c s =>
    rw [afterWord?] at h
    split at h
    · next hc => exact ⟨c, rfl, hc⟩
    · cases h

/-- At most one of the names is at the front of a text. -/
theorem afterSecretName?_eq_some_iff {s r : List Char} : afterSecretName? s = some r ↔
    ∃ name ∈ secretNames, afterWord? (name ++ ['"']) s = some r := by
  refine ⟨List.exists_of_findSome?_eq_some, ?_⟩
  rintro ⟨name, hname, h⟩
  cases hfound : afterSecretName? s with
  | none => cases (List.findSome?_eq_none_iff.1 hfound name hname).symm.trans h
  | some r' =>
    obtain ⟨name', hname', h'⟩ := List.exists_of_findSome?_eq_some hfound
    have hsame : name' = name := by
      have hheads : ∀ name ∈ secretNames, ∀ name' ∈ secretNames, name.head? = name'.head? →
          name = name' := by decide
      obtain ⟨w, hw, rest, rfl⟩ := exists_of_mem_secretNames hname
      obtain ⟨w', hw', rest', rfl⟩ := exists_of_mem_secretNames hname'
      obtain ⟨c, hc, hl⟩ := isLetter_head_of_afterWord? h
      obtain ⟨c', hc', hl'⟩ := isLetter_head_of_afterWord? h'
      obtain rfl : c = c' := Option.some.inj (hc.symm.trans hc')
      exact hheads _ hname' _ hname (congrArg some (nameLetter_facts hw' hw hl' hl).2)
    rw [hsame] at h'
    exact h'.symm.trans h

theorem afterSecretName?_eq_none {s : List Char}
    (h : ∀ c ∈ s.head?, ∀ w ∈ nameLetters, isLetter w c = false) : afterSecretName? s = none := by
  refine List.findSome?_eq_none_iff.2 fun name hname => ?_
  obtain ⟨w, hw, rest, rfl⟩ := exists_of_mem_secretNames hname
  cases hword : afterWord? (w :: rest ++ ['"']) s with
  | none => rfl
  | some r =>
    obtain ⟨c, hc, hl⟩ := isLetter_head_of_afterWord? hword
    cases (h c hc w hw).symm.trans hl

theorem exists_of_afterMark? {mark : Char} {s r : List Char} (hmark : isBlank mark = false)
    (h : afterMark? mark s = some r) : ∃ gap, s = gap ++ mark :: r ∧
      (∀ c ∈ gap, isBlank c = true) ∧ ∀ x, afterMark? mark (gap ++ mark :: x) = some x := by
  have hgap : ∀ c ∈ s.takeWhile isBlank, isBlank c = true := List.all_eq_true.1 List.all_takeWhile
  have hbehind (x : List Char) : afterMark? mark (s.takeWhile isBlank ++ mark :: x) = some x := by
    have hskip : skipBlanks (s.takeWhile isBlank ++ mark :: x) = mark :: x := by
      refine skipBlanks_append hgap fun c hc => ?_
      cases hc
      exact hmark
    rw [afterMark?, hskip]
    exact if_pos rfl
  refine ⟨s.takeWhile isBlank, ?_, hgap, hbehind⟩
  rw [afterMark?] at h
  split at h
  · cases h
  · next c t hskip =>
    split at h
    · next hc =>
      cases h
      rw [← hc, ← hskip, skipBlanks, List.takeWhile_append_dropWhile]
    · cases h

/-- Behind a double quote there is no name if the next character begins none. -/
theorem lead_member_of_head {s : List Char} (c : Char)
    (h : ∀ d ∈ s.head?, isBlank d = true ∨ d = ':' ∨ d = '[') : member.lead (c :: s) = none := by
  by_cases hc : c = '"'
  · subst hc
    have hletter : ∀ d ∈ s.head?, ∀ w ∈ nameLetters, isLetter w d = false := by
      intro d hd w hw
      refine Bool.eq_false_iff.2 fun hl => ?_
      rcases h d hd with hblank | rfl | rfl
      · cases hblank.symm.trans (nameLetter_facts hw hw hl hl).1
      · exact absurd hl (by revert w; decide)
      · exact absurd hl (by revert w; decide)
    exact congrArg (Option.bind · _) (afterSecretName?_eq_none hletter)
  · exact lead_member_of_ne hc s

theorem member_split {s v : List Char} (h : member.lead s = some v) :
    ∃ kept, s = kept ++ v ∧ member.LeadsTo kept v := by
  obtain ⟨s, rfl⟩ : ∃ s', s = '"' :: s' := by
    cases s with
    | nil => cases h
    | cons c s =>
      by_cases hc : c = '"'
      · exact ⟨s, congrArg (· :: s) hc⟩
      · cases (lead_member_of_ne hc s).symm.trans h
  obtain ⟨r₁, h₁, h⟩ := Option.bind_eq_some_iff.1 h
  obtain ⟨r₂, h₂, h₃⟩ := Option.bind_eq_some_iff.1 h
  obtain ⟨name, hname, hword⟩ := afterSecretName?_eq_some_iff.1 h₁
  obtain ⟨t, q, rfl, hq, -, hletters, hbehind⟩ := exists_of_afterWord?_concat hword
  obtain ⟨gap₁, rfl, hgap₁, hcolon⟩ := exists_of_afterMark? (by decide) h₂
  obtain ⟨gap₂, rfl, hgap₂, hquote⟩ := exists_of_afterMark? (by decide) h₃
  refine ⟨'"' :: t ++ q :: gap₁ ++ ':' :: gap₂ ++ ['"'], by simp,
    { lead := ?lead, unmasked := ?unmasked, ends := ⟨'"', List.getLast?_concat, rfl⟩,
      barren := ?barren }⟩
  case lead =>
    intro x _
    have hsplit : '"' :: t ++ q :: gap₁ ++ ':' :: gap₂ ++ ['"'] ++ x =
        '"' :: (t ++ q :: (gap₁ ++ ':' :: (gap₂ ++ '"' :: x))) := by
      simp
    have hsecret : afterSecretName? (t ++ q :: (gap₁ ++ ':' :: (gap₂ ++ '"' :: x))) = _ :=
      afterSecretName?_eq_some_iff.2 ⟨name, hname, hbehind _⟩
    rw [hsplit]
    show (afterSecretName? _).bind _ = _
    rw [hsecret, Option.bind_some, hcolon, Option.bind_some, hquote]
  case unmasked =>
    have hnames : ∀ name ∈ secretNames, ∀ w ∈ name, isLetter w '[' = false := by decide
    simp only [List.mem_cons, List.mem_append, List.not_mem_nil, or_false]
    rintro ((((h | h) | h | h) | h | h) | h)
    · cases h
    · obtain ⟨w, hw, hl⟩ := hletters _ h
      cases (hnames name hname w hw).symm.trans hl
    · subst h
      exact absurd hq (by decide)
    · exact ne_bracket_of_isBlank (hgap₁ _ h) rfl
    · cases h
    · exact ne_bracket_of_isBlank (hgap₂ _ h) rfl
    · cases h
  case barren =>
    intro x
    have hnames : ∀ name ∈ secretNames, ∀ w ∈ name, isLetter w '"' = false := by decide
    have hblank {gap : List Char} (hgap : ∀ c ∈ gap, isBlank c = true) (x : List Char) :
        member.Barren gap x := by
      refine barren_of_forall fun d hd => lead_member_of_ne ?_
      rintro rfl
      exact absurd (hgap _ hd) (by decide)
    have hname : member.Barren t (q :: gap₁ ++ (':' :: gap₂ ++ (['"'] ++ (mask ++ x)))) := by
      refine barren_of_forall fun d hd => lead_member_of_ne ?_
      rintro rfl
      obtain ⟨w, hw, hl⟩ := hletters _ hd
      cases (hnames name hname w hw).symm.trans hl
    -- The other double quotes have no name behind them, but a colon, a blank or the mask.
    have hclosing : member.Barren (q :: gap₁) (':' :: gap₂ ++ (['"'] ++ (mask ++ x))) := by
      refine barren_cons (lead_member_of_head q fun d hd => ?_) (hblank hgap₁ _)
      cases gap₁ with
      | nil => exact .inr (.inl (Option.some.inj hd).symm)
      | cons g gap₁ =>
        cases hd
        exact .inl (hgap₁ _ List.mem_cons_self)
    have hcolon : member.Barren (':' :: gap₂) (['"'] ++ (mask ++ x)) :=
      barren_cons (lead_member_of_ne (by decide) _) (hblank hgap₂ _)
    have hopening : member.Barren ['"'] (mask ++ x) := by
      refine barren_cons (lead_member_of_head _ fun d hd => ?_) barren_nil
      exact .inr (.inr (Option.some.inj hd).symm)
    exact barren_append (barren_append (barren_append hname hclosing) hcolon) hopening

theorem regular_member : member.Regular where
  split := member_split
  barren x := by
    have hne : ∀ c ∈ mask, c ≠ '"' := by decide
    exact barren_of_forall fun c hc => lead_member_of_ne (hne c hc)
  ends := by decide
  size_le {v n} h := by
    cases h
    exact (List.takeWhile_prefix _).length_le
  size_head _ _ := rfl
  size_mask {hidden s t n} h ht hn := by
    cases hn
    exact length_takeWhile_mask (by decide) (Option.some.inj h) ht

end ServiceAdmin.Diagnostics
