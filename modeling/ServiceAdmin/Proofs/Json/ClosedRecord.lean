import Mathlib.Data.List.Nodup
import ServiceAdmin.Proofs.Json.Recognized
import ServiceAdmin.Proofs.Json.WrittenRecord

/-!
# Records that read nothing else

A closed record whose members may all be left out is read from the objects of its members, in any
order and each at most once, and from the lists that give the values of its first members
(`Layout.IsFree.recognizes`).  `Upto` tells what a list or an object is from some place up to its
closing bracket, so that a reader is followed item by item.
-/

namespace ServiceAdmin.Json

variable {α β : Type} {a : α} {b l r s t u : List Char} {c : Char} {first : Bool}
  {written : α → List Char → Prop} {shape : Shape α}

/-- The texts of a record with these members: an object, or a list of their values in the order of
the names, where the last ones may be left out. -/
def IsMembersOf (names : List String) (members : List (String × List Char)) (t : List Char) :
    Prop :=
  IsObjectOf members t ∨
    ∃ items, Enclosed '[' ']' items t ∧ items.length ≤ names.length ∧ members = names.zip items

/-- The texts of a record of these fields and no others. -/
def IsClosedRecordOf (fields : List Field) (t : List Char) : Prop :=
  ∃ members, IsMembersOf (fields.map (·.name)) members t ∧
    (∀ m ∈ members, m.1 ∈ fields.map (·.name)) ∧ ∀ f ∈ fields, f.Given (valuesOf f.name members)

/-- The field of a value, which is left out if there is none. -/
def optionalField (name : String) (written : β → List Char → Prop) (v : Option β) : Field :=
  ⟨name, fun t => ∃ x, v = some x ∧ written x t, v = none⟩

/-! ## Shapes -/

/-- A text is read as the value everywhere if and only if it writes the value. -/
theorem Shape.Recognizes.reads_iff (h : shape.Recognizes written) :
    shape.Reads a t ↔ written a t := by
  constructor
  · intro hread
    obtain ⟨b, t', hb, ht', hs⟩ :=
      h.exists_of_read (hread.read [] [] blank_nil (ends_of_blank blank_nil))
    obtain ⟨c, u, rfl, hc, -⟩ := hread.front
    rw [List.nil_append, List.append_nil, List.append_nil] at hs
    cases b with
    | nil => exact hs ▸ ht'
    | cons d b =>
      cases (List.cons.inj hs).1
      rw [hb c List.mem_cons_self] at hc
      cases hc
  · exact h.reads

theorem Shape.Recognizes.exact (h : shape.Recognizes written) : shape.Recognizes shape.Reads where
  reads := id
  exists_of_read hread := by
    obtain ⟨b, t, hb, ht, hs⟩ := h.exists_of_read hread
    exact ⟨b, t, hb, h.reads ht, hs⟩

section Members

variable {field : Shape β} {writtenField : β → List Char → Prop} {name : String}
  {store : β → α → α} {change : α → α} (h : field.Recognizes writtenField)

include h

theorem Member.recognizes_free (name : String) (store : β → α → α) :
    (Member.free name field store).change.Recognizes
      (Member.free name field store).change.Reads := (h.map store).exact

theorem Member.exists_of_reads (hread : (Member.free name field store).change.Reads change t) :
    ∃ v, change = store v ∧ writtenField v t := (h.map store).reads_iff.1 hread

/-- The member that stores a value, if there is one, fits the field of its texts. -/
theorem Member.fits_optional {part : List String → α} {v : Option β}
    (hstore : ∀ x, v = some x → ∀ seen, store x (part seen) = part (name :: seen)) :
    (Member.free name field store).Fits part (optionalField name writtenField v) where
  name := rfl
  needed := nofun
  reads := by
    rintro t ⟨x, hx, ht⟩
    exact ⟨store x, (h.reads ht).map store, hstore x hx⟩

end Members

/-! ## Up to the closing bracket -/

/-- Items up to the closing bracket, from the opening one or from behind another item. -/
inductive Upto : Bool → List (List Char) → List Char → Prop
  | nil {first : Bool} {b : List Char} : Blank b → Upto first [] b
  | cons {first : Bool} {l b t r : List Char} {ts : List (List Char)} : Leads first l → Blank b →
      Upto false ts r → Upto first (t :: ts) (l ++ (b ++ (t ++ r)))

variable {items : List (List Char)}

theorem blank_append {b' : List Char} (hb : Blank b) (hb' : Blank b') : Blank (b ++ b') := by
  intro c hc
  exact (List.mem_append.1 hc).elim (hb c) (hb' c)

theorem Upto.append_blank (h : Upto first items t) (hb : Blank b) : Upto first items (t ++ b) := by
  induction h with
  | nil hb' => exact .nil (blank_append hb' hb)
  | cons hl hb' _ ih =>
    simp only [List.append_assoc]
    exact .cons hl hb' ih

theorem Upto.separated (h : Upto false items r) (hb : Blank b) (t : List Char) :
    Separated (t :: items) (b ++ (t ++ r)) := by
  generalize hfirst : false = first at h
  induction h generalizing b t with
  | nil hb' => exact .last hb hb'
  | @cons _ l b' t' r items hl hb' _ ih =>
    subst hfirst
    cases hl with
    | later hl =>
      have hrest := ih hb' t' rfl
      rw [List.append_assoc, List.singleton_append]
      exact .cons hb hl hrest

theorem Upto.enclosed (h : Upto true items t) (opening closing : Char) :
    Enclosed opening closing items (opening :: (t ++ [closing])) := by
  cases h with
  | nil hb => exact .empty hb
  | cons hl hb hrest =>
    cases hl with
    | first => exact .items (hrest.separated hb _)

theorem Separated.upto (h : Separated items t) : Upto true items t := by
  induction h with
  | last hb hb' => exact .cons .first hb (.nil hb')
  | cons hb hb' h ih =>
    refine .cons .first hb ?_
    cases ih with
    | nil _ => cases h
    | @cons _ _ _ t' _ _ hl hb'' hrest =>
      cases hl with
      | first =>
        have hmore := Upto.cons (t := t') (.later hb') hb'' hrest
        rwa [List.append_assoc, List.singleton_append] at hmore

theorem Enclosed.exists_upto {opening closing : Char} (h : Enclosed opening closing items t) :
    ∃ u, Upto true items u ∧ t = opening :: (u ++ [closing]) := by
  cases h with
  | empty hb => exact ⟨_, .nil hb, rfl⟩
  | items h => exact ⟨_, h.upto, rfl⟩

/-- Behind an item stands what ends it. -/
theorem Upto.ends (h : Upto false items r) (s : List Char) : Ends (r ++ ']' :: s) := by
  cases h with
  | nil hb => exact ends_append hb (.inr (.inl rfl)) s
  | cons hl _ _ =>
    cases hl with
    | later hb =>
      simp only [List.append_assoc, List.singleton_append]
      exact ends_append hb (.inl rfl) _

/-! ## Between items -/

theorem exists_of_key {name : Option String}
    (h : (text s).map (fun (k, r) => (some k, r)) = .ok (name, r)) :
    ∃ k t, name = some k ∧ IsStringOf k ('"' :: t) ∧ s = t ++ r := by
  obtain ⟨⟨k, r'⟩, htext, heq⟩ := exists_of_map h
  cases heq
  obtain ⟨t, ht, hs⟩ := exists_of_text htext
  exact ⟨k, t, rfl, ht, hs⟩

theorem exists_of_keyBehindComma {name : Option String}
    (h : keyBehindComma s = .ok (name, r)) :
    ∃ b k key, Blank b ∧ name = some k ∧ IsStringOf k key ∧ s = b ++ (key ++ r) := by
  unfold keyBehindComma at h
  obtain ⟨b, hb, hs⟩ := exists_blank s
  split at h
  · cases h
  next c u hu =>
  rw [hu] at hs
  split at h
  · next hquote =>
    obtain ⟨k, t, hk, ht, rfl⟩ := exists_of_key h
    subst hquote
    exact ⟨b, k, _, hb, hk, ht, hs⟩
  · split at h <;> cases h

/-- The key of the next member stands at its place, or the closing brace does. -/
theorem exists_of_nextKey {name : Option String} (h : nextKey first s = .ok (name, r)) :
    (name = none ∧ ∃ b u, Blank b ∧ s = b ++ r ∧ r = '\x7d' :: u) ∨
      ∃ l b k key, Leads first l ∧ Blank b ∧ name = some k ∧ IsStringOf k key ∧
        s = l ++ (b ++ (key ++ r)) := by
  obtain ⟨b, hb, hs⟩ := exists_blank s
  cases hskip : skipBlanks s with
  | nil =>
    unfold nextKey at h
    rw [hskip] at h
    cases h
  | cons c u =>
    rw [nextKey_of_cons first hskip] at h
    rw [hskip] at hs
    split at h
    · next hbrace =>
      cases h
      exact .inl ⟨rfl, b, u, hb, hs, hbrace ▸ rfl⟩
    cases first with
    | true =>
      rw [if_pos rfl] at h
      split at h
      · next hquote =>
        obtain ⟨k, t, hk, ht, rfl⟩ := exists_of_key h
        subst hquote
        exact .inr ⟨[], b, k, _, .first, hb, hk, ht, hs⟩
      · cases h
    | false =>
      rw [if_neg Bool.false_ne_true] at h
      split at h
      · next hcomma =>
        obtain ⟨b', k, key, hb', hk, hkey, rfl⟩ := exists_of_keyBehindComma h
        subst hcomma
        exact .inr ⟨b ++ [','], b', k, key, .later hb, hb', hk, hkey, by simpa using hs⟩
      · cases h

/-- The next element stands at its place, or the closing bracket does. -/
theorem exists_of_nextElement {more : Bool} (h : nextElement first s = .ok (more, r)) :
    (more = false ∧ ∃ b u, Blank b ∧ s = b ++ r ∧ r = ']' :: u) ∨
      (more = true ∧ ∃ l b, Leads first l ∧ Blank b ∧ s = l ++ (b ++ r)) := by
  obtain ⟨b, hb, hs⟩ := exists_blank s
  cases hskip : skipBlanks s with
  | nil =>
    unfold nextElement at h
    rw [hskip] at h
    cases h
  | cons c u =>
    rw [nextElement_of_cons first hskip] at h
    rw [hskip] at hs
    split at h
    · next hbracket =>
      cases h
      exact .inl ⟨rfl, b, u, hb, hs, hbracket ▸ rfl⟩
    cases first with
    | true =>
      rw [if_pos rfl] at h
      cases h
      exact .inr ⟨rfl, [], b, .first, hb, hs⟩
    | false =>
      rw [if_neg Bool.false_ne_true] at h
      split at h
      · next hcomma =>
        unfold elementBehindComma at h
        obtain ⟨b', hb', hu⟩ := exists_blank u
        split at h
        · cases h
        next d v hv =>
        split at h
        · cases h
        · cases h
          subst hcomma
          rw [← hv]
          exact .inr ⟨rfl, b ++ [','], b', .later hb, hb', by simpa [← hu] using hs⟩
      · cases h

theorem exists_of_colon (h : colon s = .ok r) : ∃ b, Blank b ∧ s = b ++ ':' :: r := by
  obtain ⟨b, hb, hs⟩ := exists_blank s
  unfold colon at h
  split at h
  · cases h
  · next u hu =>
    cases h
    exact ⟨b, hb, hu ▸ hs⟩
  · cases h

/-! ## Objects -/

namespace Layout

variable {layout : Layout α} {seen : List String} {x x' : α} {members : List (String × List Char)}

/-- A closed layout of members with different names, each of which may be left out. -/
structure IsFree (layout : Layout α) : Prop where
  closed : layout.closed = true
  free : ∀ m ∈ layout.members, m.required = false
  names : (layout.members.map (·.name)).Nodup
  exact : ∀ m ∈ layout.members, m.change.Recognizes m.change.Reads

/-- The text holds members up to the closing brace, and the record that takes them up is `x'`. -/
structure TakesFrom (layout : Layout α) (first : Bool) (seen : List String) (x : α)
    (members : List (String × List Char)) (t : List Char) (x' : α) : Prop where
  takes : ∃ seen', layout.Takes seen x members seen' x'
  known : ∀ m ∈ members, layout.member? m.1 ≠ none
  text : ∃ items, List.Forall₂ IsMember members items ∧ Upto first items t

theorem IsFree.complete (h : layout.IsFree) (seen : List String) (x : α) :
    layout.complete seen x = .ok x := by
  have hnone : layout.members.find? (fun m => m.required && !seen.contains m.name) = none := by
    rw [List.find?_eq_none]
    intro m hm
    simp [h.free m hm]
  rw [Layout.complete, hnone]

theorem TakesFrom.cons {name : String} {m : Member α} {change : α → α}
    {key value b₁ b₂ : List Char} (hm : layout.member? name = some m) (hseen : m.name ∉ seen)
    (hl : Leads first l) (hb : Blank b) (hkey : IsStringOf name key) (hb₁ : Blank b₁)
    (hb₂ : Blank b₂) (hvalue : m.change.Reads change value)
    (h : layout.TakesFrom false (m.name :: seen) (change x) members t x') :
    layout.TakesFrom first seen x ((name, value) :: members)
      (l ++ (b ++ (key ++ (b₁ ++ ':' :: (b₂ ++ value)) ++ t))) x' := by
  obtain ⟨⟨seen', htakes⟩, hknown, ⟨items, hitems, ht⟩⟩ := h
  have hmember : IsMember (name, value) (key ++ (b₁ ++ ':' :: (b₂ ++ value))) :=
    ⟨key, hkey, .intro hb₁ hb₂⟩
  refine ⟨⟨seen', .known hm hseen hvalue htakes⟩, ?_, ⟨_, .cons hmember hitems, .cons hl hb ht⟩⟩
  rw [List.forall_mem_cons]
  exact ⟨by rw [hm]; exact Option.some_ne_none m, hknown⟩

/-- What a closed record is read from is its members, one after the other. -/
theorem exists_of_readMembers (hlayout : layout.IsFree)
    (h : layout.readMembers first seen x s = .ok (.ok x', r)) :
    ∃ members t u, layout.TakesFrom first seen x members t x' ∧ s = t ++ r ∧ r = '\x7d' :: u := by
  fun_induction layout.readMembers first seen x s with
  | case1 => cases h
  | case2 first seen x s t hs =>
    rw [hlayout.complete] at h
    cases h
    obtain ⟨-, b, u, hb, hs, hr⟩ | ⟨_, _, _, _, _, _, hnone, _⟩ := exists_of_nextKey hs
    · exact ⟨[], b, u, ⟨⟨seen, .done⟩, by simp, [], .nil, .nil hb⟩, hs, hr⟩
    · cases hnone
  | case3 => cases h
  | case4 => cases h
  | case5 => cases h
  | case6 _ _ _ _ _ _ _ _ hopen => exact absurd hlayout.closed hopen
  | case7 => cases h
  | case8 => cases h
  | case9 => cases h
  | case10 first seen x s name t hs m hm hseen u hu change v hv ih =>
    obtain ⟨hnone, -⟩ | ⟨l, b, k, key, hl, hb, hname, hkey, rfl⟩ := exists_of_nextKey hs
    · cases hnone
    cases hname
    obtain ⟨b₁, hb₁, rfl⟩ := exists_of_colon hu
    have hmember := hlayout.exact m (List.mem_of_find?_eq_some hm)
    obtain ⟨b₂, value, hb₂, hvalue, rfl⟩ := hmember.exists_of_read hv
    obtain ⟨members, t, u, htakes, rfl, hr⟩ := ih h
    have hnew : m.name ∉ seen := by simpa using hseen
    exact ⟨_, _, u, htakes.cons hm hnew hl hb hkey hb₁ hb₂ hvalue, by simp, hr⟩

/-! ## Lists -/

section Elements

variable {ms : List (Member α)} {index : Nat} (hfree : ∀ m ∈ ms, m.required = false)

include hfree

/-- Behind the last element nothing is missing. -/
theorem readElements_bracket (layout : Layout α) (index : Nat) (x : α) (s : List Char) :
    layout.readElements index x ms (']' :: s) = .ok (.ok x, ']' :: s) := by
  induction ms generalizing index with
  | nil => rfl
  | cons m ms ih =>
    obtain ⟨hm, hfree⟩ := List.forall_mem_cons.1 hfree
    have hnext := nextElement_close (decide (index = 0)) blank_nil s
    rw [List.nil_append] at hnext
    rw [readElements, hnext]
    dsimp only
    rw [hm, if_neg Bool.false_ne_true, ih hfree]

/-- What is read as the elements of a list is values of the first members. -/
theorem exists_of_readElements (hexact : ∀ m ∈ ms, m.change.Recognizes m.change.Reads)
    (hms : ∀ m ∈ ms, layout.member? m.name = some m ∧ m.name ∉ seen)
    (hnames : (ms.map (·.name)).Nodup)
    (h : layout.readElements index x ms s = .ok (.ok x', r)) :
    ∃ items t seen', Upto (decide (index = 0)) items t ∧ items.length ≤ ms.length ∧
      layout.Takes seen x ((ms.map (·.name)).zip items) seen' x' ∧ s = t ++ r := by
  induction ms generalizing index x seen s with
  | nil =>
    cases h
    exact ⟨[], [], seen, .nil blank_nil, Nat.le_refl 0, .done, rfl⟩
  | cons m ms ih =>
    obtain ⟨hm, hfree⟩ := List.forall_mem_cons.1 hfree
    obtain ⟨hmember, hexact⟩ := List.forall_mem_cons.1 hexact
    obtain ⟨⟨hname, hseen⟩, hms⟩ := List.forall_mem_cons.1 hms
    rw [List.map_cons, List.nodup_cons] at hnames
    rw [readElements] at h
    split at h
    · cases h
    · next u hnext =>
      obtain ⟨-, b, v, hb, rfl, rfl⟩ | ⟨hmore, -⟩ := exists_of_nextElement hnext
      · rw [hm, if_neg Bool.false_ne_true, readElements_bracket hfree] at h
        cases h
        exact ⟨[], b, seen, .nil hb, Nat.zero_le _, .done, rfl⟩
      · cases hmore
    · next u hnext =>
      obtain ⟨hmore, -⟩ | ⟨-, l, b, hl, hb, rfl⟩ := exists_of_nextElement hnext
      · cases hmore
      split at h
      · cases h
      next change v hread =>
      obtain ⟨b', value, hb', hvalue, rfl⟩ := hmember.exists_of_read hread
      have hrest : ∀ n ∈ ms, layout.member? n.name = some n ∧ n.name ∉ m.name :: seen := by
        intro n hn
        obtain ⟨hknown, hnew⟩ := hms n hn
        have hne : n.name ≠ m.name := fun heq => hnames.1 (heq ▸ List.mem_map_of_mem hn)
        exact ⟨hknown, by simp [hne, hnew]⟩
      obtain ⟨items, t, seen', ht, hlength, htakes, rfl⟩ := ih hfree hexact hrest hnames.2 h
      refine ⟨value :: items, l ++ ((b ++ b') ++ (value ++ t)), seen',
        .cons hl (blank_append hb hb') ht, Nat.succ_le_succ hlength, ?_, by simp⟩
      exact .known hname hseen hvalue htakes

/-- The values of the first members are read as the elements of a list. -/
theorem readElements_of_takes (hms : ∀ m ∈ ms, layout.member? m.name = some m)
    (ht : Upto (decide (index = 0)) items t) (hlength : items.length ≤ ms.length)
    {seen' : List String}
    (htakes : layout.Takes seen x ((ms.map (·.name)).zip items) seen' x') (s : List Char) :
    ∃ b, Blank b ∧
      layout.readElements index x ms (t ++ ']' :: s) = .ok (.ok x', b ++ ']' :: s) := by
  induction ms generalizing index x seen items t with
  | nil =>
    obtain rfl := List.length_eq_zero_iff.1 (Nat.le_zero.1 hlength)
    cases ht with
    | nil hb =>
      cases htakes
      exact ⟨t, hb, rfl⟩
  | cons m ms ih =>
    obtain ⟨hm, hfree⟩ := List.forall_mem_cons.1 hfree
    obtain ⟨hname, hms⟩ := List.forall_mem_cons.1 hms
    cases ht with
    | nil hb =>
      cases htakes
      refine ⟨[], blank_nil, ?_⟩
      rw [readElements, nextElement_close _ hb]
      dsimp only
      rw [hm, if_neg Bool.false_ne_true, readElements_bracket hfree, List.nil_append]
    | @cons _ l b value r items hl hb hrest =>
      cases htakes with
      | unknown hnone _ _ =>
        rw [hname] at hnone
        cases hnone
      | known hm' hseen hvalue htakes =>
        obtain rfl := Option.some.inj (hname.symm.trans hm')
        have hlater : Upto (decide (index + 1 = 0)) items r := hrest
        obtain ⟨b', hb', hread⟩ := ih hfree hms hlater (Nat.le_of_succ_le_succ hlength) htakes
        refine ⟨b', hb', ?_⟩
        simp only [List.append_assoc]
        rw [readElements, nextElement_of_leads hl hb hvalue.front]
        dsimp only
        rw [hvalue.read_of_ends (hrest.ends s)]
        exact hread

end Elements

/-! ## Whole records -/

theorem IsFree.member?_of_mem (h : layout.IsFree) {m : Member α} (hm : m ∈ layout.members) :
    layout.member? m.name = some m := by
  cases hfound : layout.member? m.name with
  | none =>
    have hnot := List.find?_eq_none.1 hfound m hm
    simp at hnot
  | some m' =>
    have hname : m'.name = m.name := by simpa using List.find?_some hfound
    rw [List.inj_on_of_nodup_map h.names (List.mem_of_find?_eq_some hfound) hm hname]

/-- The text writes the record. -/
def Writes (layout : Layout α) (x : α) (t : List Char) : Prop :=
  ∃ members, IsMembersOf (layout.members.map (·.name)) members t ∧
    (∀ m ∈ members, m.1 ∈ layout.members.map (·.name)) ∧
    ∃ seen, layout.Takes [] layout.blank members seen x

theorem member?_ne_none_iff {name : String} :
    layout.member? name ≠ none ↔ name ∈ layout.members.map (·.name) := by
  rw [member?, Option.ne_none_iff_isSome, List.find?_isSome, List.mem_map]
  simp only [decide_eq_true_eq]

theorem exists_of_finish {content : Except Cause α} {closed : Option Failure × List Char}
    (h : finish content closed = .ok (a, r)) : content = .ok a ∧ closed = (none, r) := by
  unfold finish at h
  split at h <;> cases h
  exact ⟨rfl, rfl⟩

theorem IsFree.exists_of_object (h : layout.IsFree) {content : Except Cause α}
    (hmembers : layout.readMembers true [] layout.blank s = .ok (content, u))
    (hfinish : finish content (closeObject u) = .ok (x, r)) :
    ∃ t, layout.Writes x ('\x7b' :: t) ∧ s = t ++ r := by
  obtain ⟨rfl, hclose⟩ := exists_of_finish hfinish
  obtain ⟨members, t, u, ⟨⟨seen, htakes⟩, hknown, ⟨items, hitems, ht⟩⟩, rfl, rfl⟩ :=
    exists_of_readMembers h hmembers
  rw [closeObject_close] at hclose
  cases hclose
  exact ⟨t ++ ['\x7d'], ⟨members, .inl ⟨items, hitems, ht.enclosed _ _⟩,
    fun m hm => member?_ne_none_iff.1 (hknown m hm), seen, htakes⟩, by simp⟩

theorem exists_of_closeList (h : closeList s = (none, r)) : ∃ b, Blank b ∧ s = b ++ ']' :: r := by
  obtain ⟨b, hb, hs⟩ := exists_blank s
  cases hskip : skipBlanks s with
  | nil =>
    unfold closeList at h
    rw [hskip] at h
    cases h
  | cons c u =>
    rw [closeList_of_cons hskip] at h
    rw [hskip] at hs
    split at h
    · next hbracket =>
      cases h
      exact ⟨b, hb, hbracket ▸ hs⟩
    split at h
    · split at h <;> cases h
    · cases h

theorem IsFree.exists_of_list (h : layout.IsFree) {content : Except Cause α}
    (helements : layout.readElements 0 layout.blank layout.members s = .ok (content, u))
    (hfinish : finish content (closeList u) = .ok (x, r)) :
    ∃ t, layout.Writes x ('[' :: t) ∧ s = t ++ r := by
  obtain ⟨rfl, hclose⟩ := exists_of_finish hfinish
  have hms : ∀ m ∈ layout.members, layout.member? m.name = some m ∧ m.name ∉ [] :=
    fun m hm => ⟨h.member?_of_mem hm, List.not_mem_nil⟩
  obtain ⟨items, t, seen, ht, hlength, htakes, rfl⟩ :=
    exists_of_readElements h.free h.exact hms h.names helements
  obtain ⟨b, hb, rfl⟩ := exists_of_closeList hclose
  rw [← List.length_map (fun m : Member α => m.name)] at hlength
  exact ⟨t ++ b ++ [']'], ⟨_, .inr ⟨items, (ht.append_blank hb).enclosed _ _, hlength, rfl⟩,
    fun _ hm => (List.of_mem_zip hm).1, seen, htakes⟩, by simp⟩

/-- **A closed record is read from the texts of its members**, and from nothing else. -/
theorem IsFree.recognizes (h : layout.IsFree) :
    (Shape.record layout).Recognizes layout.Writes where
  reads := by
    rintro x t ⟨members, ht | ⟨items, ht, hlength, rfl⟩, hknown, seen, htakes⟩
    · exact reads_of_takes ht htakes
        (fun m hm hnone => absurd hnone (member?_ne_none_iff.2 (hknown m hm))) (h.complete seen x)
    · obtain ⟨u, hu, rfl⟩ := ht.exists_upto
      refine Shape.reads_ofFront (fronted_cons (by decide) _) fun s hs => (if_pos rfl).trans ?_
      rw [List.length_map] at hlength
      have hfirst : Upto (decide (0 = 0)) items u := hu
      obtain ⟨b, hb, hread⟩ := readElements_of_takes h.free (fun m hm => h.member?_of_mem hm)
        hfirst hlength htakes s
      rw [List.append_assoc, List.singleton_append, hread]
      dsimp only
      rw [closeList_of_cons (skipBlanks_append_cons hb (by decide) s), if_pos rfl]
      rfl
  exists_of_read := by
    intro s x r hread
    obtain ⟨b, c, u, hb, rfl, hfront⟩ := exists_of_readFront hread
    split at hfront
    · next hbracket =>
      split at hfront
      · cases hfront
      next content v helements =>
      obtain ⟨t, ht, rfl⟩ := h.exists_of_list helements hfront
      exact ⟨b, _, hb, ht, hbracket ▸ rfl⟩
    split at hfront
    · next hbrace =>
      split at hfront
      · cases hfront
      next content v hmembers =>
      obtain ⟨t, ht, rfl⟩ := h.exists_of_object hmembers hfront
      exact ⟨b, _, hb, ht, hbrace ▸ rfl⟩
    · cases hfront

/-! ## Fields of a record -/

section Fields

variable {name : String} {field : Shape β} {store : β → α → α} {g : α → β} {seen' : List String}
  {writtenField : β → List Char → Prop}
  (hmember : layout.member? name = some (.free name field store))
  (hkeep : ∀ m ∈ layout.members, m.name ≠ name → ∀ change t, m.change.Reads change t →
    ∀ x, g (change x) = g x)

include hmember hkeep

/-- A field that was seen is not given again. -/
theorem Takes.kept (htakes : layout.Takes seen x members seen' x') (hseen : name ∈ seen) :
    valuesOf name members = [] ∧ g x' = g x := by
  induction htakes with
  | done => exact ⟨rfl, rfl⟩
  | @unknown _ _ _ _ other value _ hnone _ _ ih =>
    have hne : other ≠ name := by
      rintro rfl
      rw [hmember] at hnone
      cases hnone
    rw [valuesOf_cons_of_ne hne]
    exact ih hseen
  | @known seen _ x _ other value _ m change hm hnew hvalue _ ih =>
    have hname : m.name = other := by simpa using List.find?_some hm
    have hne : m.name ≠ name := fun heq => hnew (heq ▸ hseen)
    obtain ⟨hvalues, hget⟩ := ih (List.mem_cons_of_mem _ hseen)
    rw [valuesOf_cons_of_ne (hname ▸ hne), hvalues, hget]
    exact ⟨rfl, hkeep m (List.mem_of_find?_eq_some hm) hne change value hvalue x⟩

/-- A record has in a field what its member says, or what it had before. -/
theorem Takes.given (hfield : field.Recognizes writtenField) (hstore : ∀ v x, g (store v x) = v)
    (htakes : layout.Takes seen x members seen' x') (hseen : name ∉ seen) :
    ∃ v, (optionalField name writtenField v).Given (valuesOf name members) ∧
      g x' = v.getD (g x) := by
  induction htakes with
  | done => exact ⟨none, .leftOut rfl, rfl⟩
  | @unknown _ _ _ _ other value _ hnone _ _ ih =>
    have hne : other ≠ name := by
      rintro rfl
      rw [hmember] at hnone
      cases hnone
    rw [valuesOf_cons_of_ne hne]
    exact ih hseen
  | @known seen _ x _ other value members m change hm hnew hvalue hrest ih =>
    have hname : m.name = other := by simpa using List.find?_some hm
    by_cases hne : m.name = name
    · obtain rfl : other = name := hname.symm.trans hne
      obtain rfl := Option.some.inj (hmember.symm.trans hm)
      obtain ⟨v, rfl, hv⟩ := Member.exists_of_reads hfield hvalue
      obtain ⟨hvalues, hget⟩ := hrest.kept hmember hkeep List.mem_cons_self
      refine ⟨some v, ?_, hget.trans (hstore v x)⟩
      rw [valuesOf_cons_self, hvalues]
      exact .once ⟨v, rfl, hv⟩
    · have hlater : name ∉ m.name :: seen := by simp [Ne.symm hne, hseen]
      obtain ⟨v, hgiven, hget⟩ := ih hlater
      refine ⟨v, ?_, ?_⟩
      · rwa [valuesOf_cons_of_ne (hname ▸ hne)]
      · rw [hget, hkeep m (List.mem_of_find?_eq_some hm) hne change value hvalue x]

end Fields

/-- A text of all fields writes the whole record. -/
theorem writes_of_isClosedRecordOf {fields : List Field} {x : α} (part : List String → α)
    (hfits : List.Forall₂ (Member.Fits part) layout.members fields)
    (hblank : part [] = layout.blank)
    (hfull : ∀ seen, (∀ f ∈ fields, f.name ∈ seen ∨ f.free) → part seen = x)
    (h : IsClosedRecordOf fields t) : layout.Writes x t := by
  obtain ⟨members, ht, hknown, hgiven⟩ := h
  have hnames : layout.members.map (·.name) = fields.map (·.name) := by
    rw [← List.forall₂_eq_eq_eq, List.forall₂_map_left_iff, List.forall₂_map_right_iff]
    exact hfits.imp fun _ _ hfit => hfit.name
  have hdue : Due fields [] members := fun f hf => .inr ⟨List.not_mem_nil, hgiven f hf⟩
  obtain ⟨seen, htakes, hseen⟩ :=
    takes_of_due hfits hdue fun m hm hunknown => absurd (hknown m hm) hunknown
  rw [hblank, hfull seen hseen] at htakes
  exact ⟨members, hnames ▸ ht, hnames ▸ hknown, seen, htakes⟩

end Layout

end ServiceAdmin.Json
