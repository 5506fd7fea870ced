import ServiceAdmin.Json.Choice
import ServiceAdmin.Json.Decode
import ServiceAdmin.Json.Value
import ServiceAdmin.Proofs.Json.Passing

/-!
# Values that are read back

`shape.Reads a t` says that the shape reads the text `t` as the value `a` wherever a value may
stand.  Strings, lists and objects are read so from the texts that write them; what stands before
an item, nothing or a comma, is a case of `Leads`.
-/

namespace ServiceAdmin.Json

variable {α β : Type} {a : α} {b l s t : List Char} {c : Char} {first : Bool}

/-- The shape reads the text as the value, behind blanks and before anything that ends a value. -/
structure Shape.Reads (shape : Shape α) (a : α) (t : List Char) : Prop where
  front : Fronted t
  read : ∀ b s, Blank b → Ends s → shape.read (b ++ (t ++ s)) = .ok (a, s)

theorem blank_nil : Blank [] := fun _ h => by cases h

theorem ends_of_blank (hb : Blank b) : Ends b := by
  intro c hc
  exact .inl (hb c (List.mem_of_mem_head? hc))

namespace Shape

theorem Reads.read_of_ends {shape : Shape α} (h : shape.Reads a t) (hs : Ends s) :
    shape.read (t ++ s) = .ok (a, s) := h.read [] s blank_nil hs

theorem Reads.map {shape : Shape α} (h : shape.Reads a t) (f : α → β) :
    (shape.map f).Reads (f a) t := by
  refine ⟨h.front, fun b s hb hs => ?_⟩
  show (shape.read _).map _ = _
  rw [h.read b s hb hs]
  rfl

/-- A shape that is told by the first character is read from a text that begins with it. -/
theorem reads_ofFront {front : Char → Reader α}
    {h : ∀ c s r a, front c s = .ok (a, r) → r.length ≤ s.length} (ht : Fronted (c :: t))
    (hread : ∀ s, Ends s → front c (t ++ s) = .ok (a, s)) : (ofFront front h).Reads a (c :: t) := by
  refine ⟨ht, fun b s hb hs => ?_⟩
  show readFront front _ = _
  rw [readFront, ht.skipBlanks_append hb]
  exact hread s hs

end Shape

/-! ## Strings -/

theorem fronted_cons (hc : isBlank c = false ∧ c ≠ ']' ∧ c ≠ '\x7d') (t : List Char) :
    Fronted (c :: t) := ⟨c, t, rfl, hc⟩

theorem Shape.reads_textual {x : String} (wanted : String) (h : IsStringOf x t) :
    (Shape.textual wanted).Reads x t := by
  obtain ⟨u, rfl, htext⟩ := text_of_isStringOf h
  exact reads_ofFront (fronted_cons (by decide) u) fun s _ => (if_pos rfl).trans (htext s)

theorem Shape.reads_string {x : String} (h : IsStringOf x t) : Shape.string.Reads x t :=
  reads_textual _ h

/-- A choice is read from the text of its name. -/
theorem Shape.reads_choice {named : List (String × α)} {other : α} {name : String}
    (h : IsStringOf name t) :
    (Shape.choice named other).Reads (((named.find? (·.1 = name)).map (·.2)).getD other) t := by
  obtain ⟨u, rfl, htext⟩ := text_of_isStringOf h
  have hfront : Fronted ('"' :: u) := fronted_cons (by decide) u
  unfold Shape.choice
  refine Reads.map (a := name) (reads_ofFront hfront fun s _ => ?_) _
  exact (if_neg (by decide)).trans ((if_pos rfl).trans (htext s))

/-! ## Between items -/

/-- What stands before an item: nothing before the first, blanks and a comma before another. -/
inductive Leads : Bool → List Char → Prop
  | first : Leads true []
  | later {b : List Char} : Blank b → Leads false (b ++ [','])

theorem nextElement_of_leads (hl : Leads first l) (hb : Blank b) (ht : Fronted t) (s : List Char) :
    nextElement first (l ++ (b ++ (t ++ s))) = .ok (true, t ++ s) := by
  have hfront := ht.skipBlanks_append hb s
  obtain ⟨c, r, rfl, -, hc, -⟩ := ht
  cases hl with
  | first => rw [List.nil_append, nextElement_of_cons true hfront, if_neg hc, if_pos rfl]; rfl
  | later hb' =>
    rw [List.append_assoc, List.singleton_append,
      nextElement_of_cons false (skipBlanks_append_cons hb' (by decide) _), if_neg (by decide),
      if_neg Bool.false_ne_true, if_pos rfl, elementBehindComma, hfront]
    exact if_neg hc

theorem nextElement_close (first : Bool) (hb : Blank b) (s : List Char) :
    nextElement first (b ++ ']' :: s) = .ok (false, ']' :: s) := by
  rw [nextElement_of_cons first (skipBlanks_append_cons hb (by decide) s), if_pos rfl]

theorem nextKey_of_leads {name : String} (hl : Leads first l) (hb : Blank b)
    (ht : IsStringOf name t) (s : List Char) :
    nextKey first (l ++ (b ++ (t ++ s))) = .ok (some name, s) := by
  obtain ⟨u, rfl, htext⟩ := text_of_isStringOf ht
  have hkey : (text (u ++ s)).map (fun p => (some p.1, p.2)) = .ok (some name, s) := by
    rw [htext]
    rfl
  have hfront : skipBlanks (b ++ ('"' :: u ++ s)) = '"' :: (u ++ s) :=
    skipBlanks_append_cons hb (by decide) _
  cases hl with
  | first =>
    rw [List.nil_append, nextKey_of_cons true hfront, if_neg (by decide), if_pos rfl, if_pos rfl]
    exact hkey
  | later hb' =>
    rw [List.append_assoc, List.singleton_append,
      nextKey_of_cons false (skipBlanks_append_cons hb' (by decide) _), if_neg (by decide),
      if_neg Bool.false_ne_true, if_pos rfl, keyBehindComma, hfront]
    exact (if_pos rfl).trans hkey

theorem nextKey_close (first : Bool) (hb : Blank b) (s : List Char) :
    nextKey first (b ++ '\x7d' :: s) = .ok (none, '\x7d' :: s) := by
  rw [nextKey_of_cons first (skipBlanks_append_cons hb (by decide) s), if_pos rfl]

/-- The key of a member is read, and behind its colon stands the value. -/
theorem nextKey_of_joined {name : String} {key value : List Char} (hl : Leads first l)
    (hb : Blank b) (hkey : IsStringOf name key) (ht : Joined key value t) (s : List Char) :
    ∃ r b', nextKey first (l ++ (b ++ (t ++ s))) = .ok (some name, r) ∧ Blank b' ∧
      colon r = .ok (b' ++ (value ++ s)) := by
  obtain ⟨hb₁, hb₂⟩ := ht
  rename_i b₁ b₂
  refine ⟨b₁ ++ ':' :: (b₂ ++ (value ++ s)), b₂, ?_, hb₂, ?_⟩
  · rw [← nextKey_of_leads hl hb hkey]
    simp only [List.append_assoc, List.cons_append]
  · exact (colon_of_cons (skipBlanks_append_cons hb₁ (by decide) _)).trans (if_pos rfl)

/-! ## Lists -/

namespace Shape

variable {item : Shape α} {as : List α} {items : List (List Char)}

theorem elements_of_separated (h : Separated items t) (hitems : List.Forall₂ item.Reads as items)
    (hl : Leads first l) (s : List Char) :
    elements item first (l ++ (t ++ ']' :: s)) = .ok (as, ']' :: s) := by
  induction h generalizing first l as with
  | last hb hb' =>
    obtain ⟨a, as, ha, hnil, rfl⟩ := List.forall₂_cons_right_iff.1 hitems
    cases hnil
    simp only [List.append_assoc]
    rw [elements_eq, nextElement_of_leads hl hb ha.front]
    simp only [Except.bind, if_true]
    rw [ha.read_of_ends (ends_append hb' (.inr (.inl rfl)) s)]
    dsimp only
    rw [elements_eq, nextElement_close false hb']
    rfl
  | @cons b i b' r items hb hb' _ ih =>
    obtain ⟨a, as, ha, has, rfl⟩ := List.forall₂_cons_right_iff.1 hitems
    have hrest := ih has (Leads.later hb')
    simp only [List.append_assoc, List.cons_append, List.nil_append] at hrest ⊢
    rw [elements_eq, nextElement_of_leads hl hb ha.front]
    simp only [Except.bind, if_true]
    rw [ha.read_of_ends (ends_append hb' (.inl rfl) _)]
    dsimp only
    rw [hrest]
    rfl

/-- **A list is read from its elements.** -/
theorem reads_list (h : IsListOf item.Reads as t) : (Shape.list item).Reads as t := by
  obtain ⟨items, hitems, ht⟩ := h
  have hfront := ht.fronted (by decide)
  have hfinish (s : List Char) : finish (.ok as) (closeList (']' :: s)) = .ok (as, s) := by
    rw [closeList_of_cons (skipBlanks_cons (by decide) s), if_pos rfl]
    rfl
  cases ht with
  | empty hb =>
    refine reads_ofFront hfront fun s _ => (if_pos rfl).trans ?_
    cases hitems
    rw [List.append_assoc, List.singleton_append, elements_eq, nextElement_close true hb]
    exact hfinish s
  | items ht =>
    refine reads_ofFront hfront fun s _ => (if_pos rfl).trans ?_
    rw [List.append_assoc, List.singleton_append]
    have helements := elements_of_separated ht hitems .first s
    rw [List.nil_append] at helements
    rw [helements]
    exact hfinish s

end Shape

theorem IsListOf.mono {R S : α → List Char → Prop} {as : List α} (h : IsListOf R as t)
    (hRS : ∀ a i, R a i → S a i) : IsListOf S as t := by
  obtain ⟨items, hitems, ht⟩ := h
  exact ⟨items, hitems.imp fun a i => hRS a i, ht⟩

/-! ## Objects -/

theorem closeObject_close (s : List Char) : closeObject ('\x7d' :: s) = (none, s) := by
  rw [closeObject_of_cons (skipBlanks_cons (by decide) s), if_pos rfl]

namespace Shape

/-- The text writes a member of the name, and its value is read. -/
def ReadsMember (item : Shape α) (member : String × α) (t : List Char) : Prop :=
  ∃ value, IsMember (member.1, value) t ∧ item.Reads member.2 value

variable {item : Shape α} {as : List (String × α)} {items : List (List Char)}

theorem entries_eq (item : Shape α) (first : Bool) (s : List Char) :
    entries item first s = (nextKey first s).bind fun (key, r) =>
      match key with
      | none => .ok ([], r)
      | some key => (colon r).bind fun r => (item.read r).bind fun (a, r) =>
        (entries item false r).map fun (as, r) => ((key, a) :: as, r) := by
  rw [entries]
  split
  · next h => rw [h]; rfl
  · next h => rw [h]; rfl
  · next h =>
    rw [h]
    dsimp only [Except.bind]
    split
    · next h => rw [h]
    · next h =>
      rw [h]
      dsimp only
      split <;> next h => rw [h]

theorem entries_of_separated (h : Separated items t)
    (hitems : List.Forall₂ (ReadsMember item) as items) (hl : Leads first l) (s : List Char) :
    entries item first (l ++ (t ++ '\x7d' :: s)) = .ok (as, '\x7d' :: s) := by
  induction h generalizing first l as with
  | last hb hb' =>
    obtain ⟨⟨name, a⟩, as, ⟨value, ⟨key, hkey, ht⟩, ha⟩, hnil, rfl⟩ :=
      List.forall₂_cons_right_iff.1 hitems
    cases hnil
    obtain ⟨r, b'', hnext, hb'', hcolon⟩ := nextKey_of_joined hl hb hkey ht (_ ++ '\x7d' :: s)
    simp only [List.append_assoc]
    rw [entries_eq, hnext]
    simp only [Except.bind]
    rw [hcolon]
    dsimp only
    rw [ha.read _ _ hb'' (ends_append hb' (.inr (.inr rfl)) s)]
    dsimp only
    rw [entries_eq, nextKey_close false hb']
    rfl
  | @cons b i b' r items hb hb' _ ih =>
    obtain ⟨⟨name, a⟩, as, ⟨value, ⟨key, hkey, ht⟩, ha⟩, has, rfl⟩ :=
      List.forall₂_cons_right_iff.1 hitems
    have hrest := ih has (Leads.later hb')
    obtain ⟨u, b'', hnext, hb'', hcolon⟩ :=
      nextKey_of_joined hl hb hkey ht (b' ++ ',' :: (r ++ '\x7d' :: s))
    simp only [List.append_assoc, List.cons_append, List.nil_append] at hrest ⊢
    rw [entries_eq, hnext]
    simp only [Except.bind]
    rw [hcolon]
    dsimp only
    rw [ha.read _ _ hb'' (ends_append hb' (.inl rfl) _)]
    dsimp only
    rw [hrest]
    rfl

theorem reads_object (ht : Enclosed '\x7b' '\x7d' items t)
    (hitems : List.Forall₂ (ReadsMember item) as items) : (Shape.object item).Reads as t := by
  have hfront := ht.fronted (by decide)
  have hfinish (s : List Char) : finish (.ok as) (closeObject ('\x7d' :: s)) = .ok (as, s) := by
    rw [closeObject_close]
    rfl
  cases ht with
  | empty hb =>
    refine reads_ofFront hfront fun s _ => (if_pos rfl).trans ?_
    cases hitems
    rw [List.append_assoc, List.singleton_append, entries_eq, nextKey_close true hb]
    exact hfinish s
  | items ht =>
    refine reads_ofFront hfront fun s _ => (if_pos rfl).trans ?_
    rw [List.append_assoc, List.singleton_append]
    have hentries := entries_of_separated ht hitems .first s
    rw [List.nil_append] at hentries
    rw [hentries]
    exact hfinish s

/-! ## Values of any shape -/

/-- A value of any shape is read by the shape that its first character tells. -/
theorem reads_valueOf {lists objects shape : Shape Value} {v : Value}
    (hshape : ofFirst? lists objects c = some shape) (h : shape.Reads v (c :: t)) :
    (valueOf lists objects).Reads v (c :: t) := by
  refine ⟨h.front, fun b s hb hs => ?_⟩
  have hfront := h.front.skipBlanks_append hb s
  have hread := h.read_of_ends hs
  rw [List.cons_append] at hfront hread
  simp only [valueOf, List.cons_append, hfront, hshape, hread]

theorem reads_value_string {x : String} (h : IsStringOf x t) (depth : Nat) :
    (value depth).Reads (.string x) t := by
  have hstring := (reads_string h).map Value.string
  obtain ⟨u, rfl, -⟩ := text_of_isStringOf h
  cases depth with
  | zero => exact reads_valueOf rfl hstring
  | succ depth => exact reads_valueOf rfl hstring

theorem reads_value_object {depth : Nat} {vs : List (String × Value)}
    (ht : Enclosed '\x7b' '\x7d' items t)
    (hitems : List.Forall₂ (ReadsMember (value depth)) vs items) :
    (value (depth + 1)).Reads (.object vs) t := by
  have hobject := (reads_object ht hitems).map Value.object
  cases ht with
  | empty _ => exact reads_valueOf rfl hobject
  | items _ => exact reads_valueOf rfl hobject

end Shape

/-! ## Whole texts -/

/-- The whole of a text may have blanks around it. -/
theorem decode_of_reads {shape : Shape α} (h : shape.Reads a t) {b' : List Char} (hb : Blank b)
    (hb' : Blank b') : decode shape (b ++ (t ++ b')) = .ok a := by
  have hend : skipBlanks b' = [] := by
    have := skipBlanks_append hb' []
    rwa [List.append_nil] at this
  rw [decode, h.read b b' hb (ends_of_blank hb')]
  simp only [hend]

/-- The texts that are a value with nothing but blanks around it. -/
def IsDocument (written : List Char → Prop) (text : String) : Prop :=
  ∃ b t b', Blank b ∧ written t ∧ Blank b' ∧ text.toList = b ++ (t ++ b')

theorem decodeText_of_isDocument {shape : Shape α} {text : String}
    (h : IsDocument (shape.Reads a) text) : decodeText shape text = .ok a := by
  obtain ⟨b, t, b', hb, ht, hb', htext⟩ := h
  rw [decodeText, htext, decode_of_reads ht hb hb']
  rfl

theorem IsDocument.mono {P Q : List Char → Prop} {text : String} (h : IsDocument P text)
    (hPQ : ∀ t, P t → Q t) : IsDocument Q text := by
  obtain ⟨b, t, b', hb, ht, hb', htext⟩ := h
  exact ⟨b, t, b', hb, hPQ t ht, hb', htext⟩

/-! ## Texts without blanks -/

theorem separated_intercalate (item : List Char) (items : List (List Char)) :
    Separated (item :: items) ([','].intercalate (item :: items)) := by
  induction items generalizing item with
  | nil => simpa using Separated.last (t := item) blank_nil blank_nil
  | cons next items ih => simpa using Separated.cons (t := item) blank_nil blank_nil (ih next)

theorem enclosed_intercalate (opening closing : Char) (items : List (List Char)) :
    Enclosed opening closing items (opening :: ([','].intercalate items ++ [closing])) := by
  cases items with
  | nil => exact .empty blank_nil
  | cons item items => exact .items (separated_intercalate item items)

theorem isValue_of_isWhole (ht : IsWhole t) : IsValue t := by
  have h := IsNumber.intro (s := []) (by decide) ht .none .none
  rw [List.nil_append, List.nil_append, List.append_nil] at h
  exact .scalar (.number h)

theorem isValue_writeString (s : String) : IsValue (writeString s) :=
  .scalar (.string (isString_of_isStringOf (isStringOf_writeString s)))

/-- A list of elements that are given by their texts. -/
def plainList (items : List (List Char)) : List Char := '[' :: ([','].intercalate items ++ [']'])

/-- A member whose value is given by its text. -/
def plainMember (member : String × List Char) : List Char :=
  writeString member.1 ++ ':' :: member.2

/-- An object of such members. -/
def plainObject (members : List (String × List Char)) : List Char :=
  '\x7b' :: ([','].intercalate (members.map plainMember) ++ ['\x7d'])

theorem isListOf_plainList {written : α → List Char → Prop} {as : List α}
    {items : List (List Char)} (h : List.Forall₂ written as items) :
    IsListOf written as (plainList items) := ⟨items, h, enclosed_intercalate _ _ _⟩

theorem isMember_plainMember (member : String × List Char) :
    IsMember member (plainMember member) :=
  ⟨_, isStringOf_writeString member.1, .intro blank_nil blank_nil⟩

theorem isObjectOf_plainObject (members : List (String × List Char)) :
    IsObjectOf members (plainObject members) := by
  refine ⟨_, ?_, enclosed_intercalate _ _ _⟩
  rw [List.forall₂_map_right_iff, List.forall₂_same]
  exact fun member _ => isMember_plainMember member

theorem isValue_plainList {items : List (List Char)} (h : ∀ i ∈ items, IsValue i) :
    IsValue (plainList items) := .list (enclosed_intercalate _ _ _) h

theorem isValue_plainObject {members : List (String × List Char)} (h : ∀ m ∈ members, IsValue m.2) :
    IsValue (plainObject members) := by
  have hmembers : List.Forall₂ (fun m : List Char × List Char => Joined m.1 m.2)
      (members.map fun m => (writeString m.1, m.2)) (members.map plainMember) := by
    rw [List.forall₂_map_left_iff, List.forall₂_map_right_iff, List.forall₂_same]
    exact fun _ _ => .intro blank_nil blank_nil
  refine .object hmembers (enclosed_intercalate _ _ _) ?_ ?_
  · rw [List.forall_mem_map]
    exact fun m _ => isString_of_isStringOf (isStringOf_writeString m.1)
  · rw [List.forall_mem_map]
    exact h

/-! ## Objects that are written -/

/-- A member as it is written. -/
def writtenMember (member : String × String) : String × List Char :=
  (member.1, writeString member.2)

theorem writeMembers_eq : ∀ members : List (String × String),
    writeMembers members = [','].intercalate ((members.map writtenMember).map plainMember)
  | [] => rfl
  | [_] => by simp [writeMembers, plainMember, writtenMember]
  | m :: n :: members => by
    have hrest := writeMembers_eq (n :: members)
    rw [List.map_cons, List.map_cons] at hrest
    simp [writeMembers, plainMember, writtenMember, hrest]

theorem toList_writeObject (members : List (String × String)) :
    (writeObject members).toList = plainObject (members.map writtenMember) := by
  rw [writeObject, String.toList_ofList, writeMembers_eq]
  rfl

theorem readsMember_written (depth : Nat) (member : String × String) :
    (Shape.value depth).ReadsMember (member.1, .string member.2)
      (plainMember (writtenMember member)) :=
  ⟨_, isMember_plainMember (writtenMember member),
    Shape.reads_value_string (isStringOf_writeString member.2) depth⟩

/-- **An object of strings that is written is read back.** -/
theorem decodeText_writeObject (members : List (String × String)) (depth : Nat) :
    decodeText (.value (depth + 1)) (writeObject members) =
      .ok (.object (members.map fun member => (member.1, .string member.2))) := by
  have hitems : List.Forall₂ (Shape.value depth).ReadsMember
      (members.map fun member => (member.1, Value.string member.2))
      ((members.map writtenMember).map plainMember) := by
    rw [List.map_map, List.forall₂_map_left_iff, List.forall₂_map_right_iff, List.forall₂_same]
    exact fun member _ => readsMember_written depth member
  refine decodeText_of_isDocument ⟨[], _, [], blank_nil,
    Shape.reads_value_object (enclosed_intercalate _ _ _) hitems, blank_nil, ?_⟩
  rw [toList_writeObject, List.nil_append, List.append_nil]
  rfl

end ServiceAdmin.Json
