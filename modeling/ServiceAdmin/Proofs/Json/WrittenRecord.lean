import ServiceAdmin.Proofs.Json.Written

/-!
# Records that are read back

The members of a record are read in any order and among members of other names.  What the record is
when some members have been read is told by a function of their names, the parts of the record:
`Member.Fits` says that a member goes on from one part to the next, and `Layout.reads_record` that
a text of all fields is then read as the whole record.
-/

namespace ServiceAdmin.Json

variable {α β : Type} {t : List Char} {name : String}

/-! ## Values by name -/

section Values

variable {value : List Char} {members : List (String × List Char)}

theorem valuesOf_cons_self (name : String) (value : List Char)
    (members : List (String × List Char)) :
    valuesOf name ((name, value) :: members) = value :: valuesOf name members := by
  rw [valuesOf, List.filter_cons_of_pos (by simp)]
  rfl

theorem valuesOf_cons_of_ne {other : String} (h : other ≠ name) :
    valuesOf name ((other, value) :: members) = valuesOf name members := by
  rw [valuesOf, List.filter_cons_of_neg (by simpa using h)]
  rfl

end Values

namespace Layout

variable {layout : Layout α} {seen seen' : List String} {x x' : α}
  {members : List (String × List Char)}

/-! ## One member after the other -/

/-- How a record takes up the members of an object: it grows from `x` to `x'`, and the
members seen from `seen` to `seen'`. -/
inductive Takes (layout : Layout α) : List String → α → List (String × List Char) → List String →
    α → Prop
  | done {seen : List String} {x : α} : Takes layout seen x [] seen x
  | unknown {seen seen' : List String} {x x' : α} {name : String} {value : List Char}
      {members : List (String × List Char)} : layout.member? name = none → IsValue value →
      Takes layout seen x members seen' x' → Takes layout seen x ((name, value) :: members) seen' x'
  | known {seen seen' : List String} {x x' : α} {name : String} {value : List Char}
      {members : List (String × List Char)} {m : Member α} {change : α → α} :
      layout.member? name = some m → m.name ∉ seen → m.change.Reads change value →
      Takes layout (m.name :: seen) (change x) members seen' x' →
      Takes layout seen x ((name, value) :: members) seen' x'

/-- A member of another name is passed over. -/
theorem readMembers_unknown (hopen : layout.closed = false) {first : Bool} {b l value s : List Char}
    (hm : layout.member? name = none) (hvalue : IsValue value) (hl : Leads first l) (hb : Blank b)
    (ht : IsMember (name, value) t) (hs : Ends s) :
    layout.readMembers first seen x (l ++ (b ++ (t ++ s))) = layout.readMembers false seen x s := by
  obtain ⟨key, hkey, ht⟩ := ht
  obtain ⟨r, b', hnext, hb', hcolon⟩ := nextKey_of_joined hl hb hkey ht s
  have hskip : skipValue [] (b' ++ (value ++ s)) = .ok s :=
    (skipValue_of_isValue hvalue hb' hs []).trans (skipRest.eq_1 s)
  exact readMembers_of_unknown hnext hm hopen hcolon hskip

/-- A member that is known changes the record. -/
theorem readMembers_known {first : Bool} {b l value s : List Char} {m : Member α} {change : α → α}
    (hm : layout.member? name = some m) (hseen : m.name ∉ seen)
    (hvalue : m.change.Reads change value) (hl : Leads first l) (hb : Blank b)
    (ht : IsMember (name, value) t) (hs : Ends s) :
    layout.readMembers first seen x (l ++ (b ++ (t ++ s))) =
      layout.readMembers false (m.name :: seen) (change x) s := by
  obtain ⟨key, hkey, ht⟩ := ht
  obtain ⟨r, b', hnext, hb', hcolon⟩ := nextKey_of_joined hl hb hkey ht s
  have hseen : seen.contains m.name = false := by simpa using hseen
  rw [readMembers_eq, hnext]
  simp only [Except.bind, hm, hseen, hcolon, hvalue.read b' s hb' hs, Bool.false_eq_true, if_false]

theorem readMembers_close (layout : Layout α) (first : Bool) (seen : List String) (x : α)
    {b : List Char} (hb : Blank b) (s : List Char) :
    layout.readMembers first seen x (b ++ '\x7d' :: s) =
      .ok (layout.complete seen x, '\x7d' :: s) := by
  rw [readMembers_eq, nextKey_close first hb]
  rfl

theorem readMembers_of_takes {items : List (List Char)} (h : Separated items t)
    (hitems : List.Forall₂ IsMember members items) (htakes : layout.Takes seen x members seen' x')
    (hopen : ∀ m ∈ members, layout.member? m.1 = none → layout.closed = false) {first : Bool}
    {l : List Char} (hl : Leads first l) (s : List Char) :
    layout.readMembers first seen x (l ++ (t ++ '\x7d' :: s)) =
      .ok (layout.complete seen' x', '\x7d' :: s) := by
  induction h generalizing first l members seen x with
  | last hb hb' =>
    obtain ⟨member, members, hmember, hnil, rfl⟩ := List.forall₂_cons_right_iff.1 hitems
    cases hnil
    have hends := ends_append hb' (.inr (.inr rfl)) s
    simp only [List.append_assoc]
    cases htakes with
    | unknown hm hvalue hrest =>
      cases hrest
      rw [readMembers_unknown (hopen _ List.mem_cons_self hm) hm hvalue hl hb hmember hends,
        readMembers_close _ _ _ _ hb']
    | known hm hseen hvalue hrest =>
      cases hrest
      rw [readMembers_known hm hseen hvalue hl hb hmember hends, readMembers_close _ _ _ _ hb']
  | @cons b i b' r items hb hb' _ ih =>
    obtain ⟨member, members, hmember, hmembers, rfl⟩ := List.forall₂_cons_right_iff.1 hitems
    have hends := ends_append hb' (.inl rfl) (r ++ '\x7d' :: s)
    obtain ⟨hfirst, hothers⟩ := List.forall_mem_cons.1 hopen
    simp only [List.append_assoc, List.cons_append]
    cases htakes with
    | unknown hm hvalue hrest =>
      have hnext := ih hmembers hrest hothers (Leads.later hb')
      simp only [List.append_assoc, List.cons_append, List.nil_append] at hnext
      rw [readMembers_unknown (hfirst hm) hm hvalue hl hb hmember hends, hnext]
    | known hm hseen hvalue hrest =>
      have hnext := ih hmembers hrest hothers (Leads.later hb')
      simp only [List.append_assoc, List.cons_append, List.nil_append] at hnext
      rw [readMembers_known hm hseen hvalue hl hb hmember hends, hnext]

/-- A record is read from the members that it takes up; a closed one knows them all. -/
theorem reads_of_takes (ht : IsObjectOf members t)
    (htakes : layout.Takes [] layout.blank members seen' x')
    (hopen : ∀ m ∈ members, layout.member? m.1 = none → layout.closed = false)
    (hcomplete : layout.complete seen' x' = .ok x') : (Shape.record layout).Reads x' t := by
  obtain ⟨items, hitems, ht⟩ := ht
  have hfront := ht.fronted (by decide)
  have hfinish (s : List Char) :
      finish (layout.complete seen' x') (closeObject ('\x7d' :: s)) = .ok (x', s) := by
    rw [hcomplete, closeObject_close]
    rfl
  cases ht with
  | empty hb =>
    refine Shape.reads_ofFront hfront fun s _ => (if_neg (by decide)).trans ((if_pos rfl).trans ?_)
    cases hitems
    cases htakes
    rw [List.append_assoc, List.singleton_append, readMembers_close _ _ _ _ hb]
    exact hfinish s
  | items ht =>
    refine Shape.reads_ofFront hfront fun s _ => (if_neg (by decide)).trans ((if_pos rfl).trans ?_)
    have hmembers := readMembers_of_takes ht hitems htakes hopen .first s
    rw [List.nil_append] at hmembers
    rw [List.append_assoc, List.singleton_append, hmembers]
    exact hfinish s

end Layout

/-! ## From part to part -/

/-- The member reads the texts of the field, and goes on to the part that holds it too. -/
structure Member.Fits (part : List String → α) (m : Member α) (f : Field) : Prop where
  name : m.name = f.name
  needed : m.required = true → ¬ f.free
  reads : ∀ t, f.written t →
    ∃ change, m.change.Reads change t ∧ ∀ seen, change (part seen) = part (f.name :: seen)

section Fits

variable {part : List String → α} {shape : Shape β} {store : β → α → α} {v : β}
  {written : List Char → Prop} (hreads : ∀ t, written t → shape.Reads v t)
  (hstore : ∀ seen, store v (part seen) = part (name :: seen))

include hreads hstore

/-- The member that stores the value `v` fits the field of its texts. -/
theorem Member.fits_free (free : Prop) :
    (Member.free name shape store).Fits part ⟨name, written, free⟩ :=
  ⟨rfl, nofun, fun t ht => ⟨store v, (hreads t ht).map store, hstore⟩⟩

theorem Member.fits_needed : (Member.needed name shape store).Fits part ⟨name, written, False⟩ :=
  ⟨rfl, fun _ => id, fun t ht => ⟨store v, (hreads t ht).map store, hstore⟩⟩

end Fits

theorem exists_of_mem_left {γ : Type} {R : β → γ → Prop} {l : List β} {u : List γ}
    (h : List.Forall₂ R l u) {b : β} (hb : b ∈ l) : ∃ c ∈ u, R b c :=
  exists_of_mem_right h.flip hb

namespace Layout

variable {layout : Layout α} {fields : List Field} {part : List String → α} {seen : List String}
  {members : List (String × List Char)}

theorem member?_eq_none_iff (h : List.Forall₂ (Member.Fits part) layout.members fields) :
    layout.member? name = none ↔ name ∉ fields.map (·.name) := by
  rw [member?, List.find?_eq_none, List.mem_map]
  constructor
  · rintro hnone ⟨f, hf, rfl⟩
    obtain ⟨m, hm, hfits⟩ := exists_of_mem_right h hf
    exact hnone m hm (by simpa using hfits.name)
  · intro hname m hm heq
    obtain ⟨f, hf, hfits⟩ := exists_of_mem_left h hm
    exact hname ⟨f, hf, hfits.name.symm.trans (by simpa using heq)⟩

theorem exists_field_of_member? (h : List.Forall₂ (Member.Fits part) layout.members fields)
    {m : Member α} (hm : layout.member? name = some m) :
    m.name = name ∧ ∃ f ∈ fields, m.Fits part f := by
  obtain ⟨f, hf, hfits⟩ := exists_of_mem_left h (List.mem_of_find?_eq_some hm)
  exact ⟨by simpa using List.find?_some hm, f, hf, hfits⟩

/-- The fields that are still to be read: one that was seen does not come again. -/
def Due (fields : List Field) (seen : List String) (members : List (String × List Char)) : Prop :=
  ∀ f ∈ fields,
    (f.name ∈ seen ∧ valuesOf f.name members = []) ∨
    (f.name ∉ seen ∧ f.Given (valuesOf f.name members))

/-- A member of another name leaves the fields that are due. -/
theorem Due.unknown {value : List Char} (h : Due fields seen ((name, value) :: members))
    (hname : name ∉ fields.map (·.name)) : Due fields seen members := by
  intro f hf
  have hne : name ≠ f.name := fun h => hname (h ▸ List.mem_map_of_mem hf)
  have hfield := h f hf
  rwa [valuesOf_cons_of_ne hne] at hfield

/-- The member of a field is one of its texts, and is due no more. -/
theorem Due.known {value : List Char} {f : Field} (hf : f ∈ fields)
    (h : Due fields seen ((f.name, value) :: members)) :
    f.name ∉ seen ∧ f.written value ∧ Due fields (f.name :: seen) members := by
  have hfield := h f hf
  rw [valuesOf_cons_self] at hfield
  obtain ⟨-, hnil⟩ | ⟨hseen, hgiven⟩ := hfield
  · cases hnil
  generalize hrest : valuesOf f.name members = rest at hgiven
  cases hgiven with
  | once hwritten =>
    refine ⟨hseen, hwritten, fun g hg => ?_⟩
    by_cases hname : g.name = f.name
    · exact .inl ⟨hname ▸ List.mem_cons_self, hname ▸ hrest⟩
    have hfield := h g hg
    rw [valuesOf_cons_of_ne (Ne.symm hname)] at hfield
    obtain ⟨hseen, hnil⟩ | ⟨hseen, hgiven⟩ := hfield
    · exact .inl ⟨List.mem_cons_of_mem _ hseen, hnil⟩
    · exact .inr ⟨by simp [hname, hseen], hgiven⟩

/-- The members lead from part to part, up to one that lacks only fields that may be left out. -/
theorem takes_of_due (hfits : List.Forall₂ (Member.Fits part) layout.members fields)
    (hdue : Due fields seen members)
    (hother : ∀ m ∈ members, m.1 ∉ fields.map (·.name) → IsValue m.2) :
    ∃ seen', layout.Takes seen (part seen) members seen' (part seen') ∧
      ∀ f ∈ fields, f.name ∈ seen' ∨ f.free := by
  induction members generalizing seen with
  | nil =>
    refine ⟨seen, .done, fun f hf => ?_⟩
    obtain ⟨hseen, -⟩ | ⟨-, hgiven⟩ := hdue f hf
    · exact .inl hseen
    · cases hgiven with
      | leftOut hfree => exact .inr hfree
  | cons member members ih =>
    obtain ⟨name, value⟩ := member
    obtain ⟨hvalue, hrest⟩ := List.forall_mem_cons.1 hother
    cases hm : layout.member? name with
    | none =>
      have hname := (member?_eq_none_iff hfits).1 hm
      obtain ⟨seen', htakes, hfull⟩ := ih (hdue.unknown hname) hrest
      exact ⟨seen', .unknown hm (hvalue hname) htakes, hfull⟩
    | some m =>
      obtain ⟨rfl, f, hf, hfit⟩ := exists_field_of_member? hfits hm
      rw [hfit.name] at hdue
      obtain ⟨hseen, hwritten, hdue⟩ := hdue.known hf
      obtain ⟨change, hreads, hpart⟩ := hfit.reads value hwritten
      obtain ⟨seen', htakes, hfull⟩ := ih hdue hrest
      rw [← hpart, ← hfit.name] at htakes
      exact ⟨seen', .known hm (hfit.name ▸ hseen) hreads htakes, hfull⟩

/-- Nothing is missing once every field has been seen or may be left out. -/
theorem complete_of_fits (hfits : List.Forall₂ (Member.Fits part) layout.members fields)
    (hfull : ∀ f ∈ fields, f.name ∈ seen ∨ f.free) (x : α) : layout.complete seen x = .ok x := by
  have hnone : layout.members.find? (fun m => m.required && !seen.contains m.name) = none := by
    rw [List.find?_eq_none]
    intro m hm hmissing
    obtain ⟨f, hf, hfit⟩ := exists_of_mem_left hfits hm
    simp only [Bool.and_eq_true, Bool.not_eq_true', List.contains_eq_mem,
      decide_eq_false_iff_not] at hmissing
    rcases hfull f hf with hseen | hfree
    · exact hmissing.2 (hfit.name ▸ hseen)
    · exact hfit.needed hmissing.1 hfree
  rw [complete, hnone]

/-- **A record is read from every text of its fields.** -/
theorem reads_record {x : α} (part : List String → α) (hopen : layout.closed = false)
    (hfits : List.Forall₂ (Member.Fits part) layout.members fields)
    (hblank : part [] = layout.blank)
    (hfull : ∀ seen, (∀ f ∈ fields, f.name ∈ seen ∨ f.free) → part seen = x)
    (h : IsRecordOf fields t) : (Shape.record layout).Reads x t := by
  obtain ⟨members, ht, hgiven, hother⟩ := h
  have hdue : Due fields [] members := fun f hf => .inr ⟨List.not_mem_nil, hgiven f hf⟩
  obtain ⟨seen', htakes, hseen⟩ := takes_of_due hfits hdue hother
  have hpart := hfull seen' hseen
  rw [hblank, hpart] at htakes
  exact reads_of_takes ht htakes (fun _ _ _ => hopen) (complete_of_fits hfits hseen x)

/-- A record of one list, which may be left out if it is empty. -/
theorem reads_record_of_list {title name : String} {shape : Shape (List β)} {xs : List β}
    {written : List Char → Prop} (hreads : ∀ t, written t → shape.Reads xs t)
    (h : IsRecordOf [⟨name, written, xs = []⟩] t) :
    (Shape.record ⟨title, [], [.free name shape fun v _ => v], false⟩).Reads xs t := by
  refine reads_record (fun seen => if name ∈ seen then xs else []) rfl
    (.cons (Member.fits_free hreads (fun seen => ?_) _) .nil) rfl (fun seen hseen => ?_) h
  · exact (if_pos List.mem_cons_self).symm
  · rcases hseen _ List.mem_cons_self with hname | rfl
    · exact if_pos hname
    · exact ite_self _

end Layout

end ServiceAdmin.Json
