import ServiceAdmin.Json.Choice
import ServiceAdmin.Proofs.Json.TwinShape

/-!
# Records of twins

A record whose members are discreet is discreet itself (`discreet_record`).  Keys that differ by
their tokens hold a blank, so no member of a record with plain names has either of them for a name,
and the values behind them are passed over.
-/

namespace ServiceAdmin.Json

variable {α β : Type} {k : Slot} {s s₁ s₂ r : List Char} {c : Char}

/-! ## Keys -/

/-- The same key up to its token, or the end of the object. -/
def SameKey (k : Slot) : Option String → Option String → Prop
  | some a, some b => Indistinct k a.toList b.toList
  | none, none => True
  | _, _ => False

theorem alike_key (h : Twin k s₁ s₂) :
    Alike k (Taken k (SameKey k)) ((text s₁).map fun (k, r) => (some k, r))
      ((text s₂).map fun (k, r) => (some k, r)) :=
  (alike_text h).map fun _ _ h => h

theorem alike_nextKey (first : Bool) (h : Twin k s₁ s₂) :
    Alike k (Taken k (SameKey k)) (nextKey first s₁) (nextKey first s₂) := by
  rcases h.front with ⟨h₁, h₂⟩ | ⟨c, r₁, r₂, h₁, h₂, hfront⟩
  · unfold nextKey
    rw [h₁, h₂]
    exact .error_eq rfl
  rw [nextKey_of_cons first h₁, nextKey_of_cons first h₂]
  split
  · exact ⟨trivial, hfront⟩
  split
  · split
    · next hc => exact alike_key (hfront.tail (hc ▸ by decide))
    · exact .error_eq (hfront.failOn _)
  split
  · next hc =>
    unfold keyBehindComma
    rcases (hfront.tail (hc ▸ by decide)).front with ⟨h₁, h₂⟩ | ⟨d, t₁, t₂, h₁, h₂, hfront⟩ <;>
      rw [h₁, h₂]
    · exact .error_eq rfl
    dsimp only
    split
    · next hd => exact alike_key (hfront.tail (hd ▸ by decide))
    split
    · exact .error_eq (hfront.failOn _)
    · exact .error_eq (hfront.failOn _)
  · exact .error_eq (hfront.failOn _)

theorem taken_closeObject (h : Twin k s₁ s₂) : Taken k Eq (closeObject s₁) (closeObject s₂) := by
  rcases h.front with ⟨h₁, h₂⟩ | ⟨c, r₁, r₂, h₁, h₂, hfront⟩
  · unfold closeObject
    rw [h₁, h₂]
    exact taken_refl (fun _ => rfl) _
  rw [closeObject_of_cons h₁, closeObject_of_cons h₂]
  split
  · next hc => exact ⟨rfl, hfront.tail (hc ▸ by decide)⟩
  · exact ⟨congrArg some (hfront.failOn _), hfront⟩

/-! ## Members -/

/-- The member has a plain name and a discreet shape. -/
structure Member.Discreet (m : Member α) : Prop where
  plain : ' ' ∉ m.name.toList
  change : m.change.Discreet

/-- The record passes over members that it does not know, and those it knows are discreet. -/
structure Layout.Discreet (layout : Layout α) : Prop where
  opened : layout.closed = false
  members : ∀ m ∈ layout.members, m.Discreet

theorem Member.Discreet.free {name : String} {shape : Shape β} {store : β → α → α}
    (hname : ' ' ∉ name.toList) (h : shape.Discreet) : (Member.free name shape store).Discreet :=
  ⟨hname, h.map store⟩

theorem Member.Discreet.needed {name : String} {shape : Shape β} {store : β → α → α}
    (hname : ' ' ∉ name.toList) (h : shape.Discreet) : (Member.needed name shape store).Discreet :=
  ⟨hname, h.map store⟩

namespace Layout

variable {layout : Layout α}

theorem member?_eq_none (h : layout.Discreet) {name : String} (hname : ' ' ∈ name.toList) :
    layout.member? name = none := by
  refine List.find?_eq_none.2 fun m hm heq => ?_
  rw [decide_eq_true_eq] at heq
  exact (h.members m hm).plain (heq ▸ hname)

theorem member?_of_indistinct (h : layout.Discreet) {a b : String}
    (hab : Indistinct k a.toList b.toList) : layout.member? a = layout.member? b := by
  rcases hab with heq | ⟨u, v, ha, hb⟩
  · rw [String.toList_inj.1 heq]
  · have hblank (token : List Char) : ' ' ∈ u ++ (Slot.wordTail ++ token ++ v) := by
      simp [Slot.wordTail]
    rw [member?_eq_none h (ha ▸ hblank _), member?_eq_none h (hb ▸ hblank _)]

theorem sameFault_complete (seen : List String) (a b : α) :
    SameFault (layout.complete seen a) (layout.complete seen b) := by
  unfold complete
  split
  · exact rfl
  · trivial

/-- Of members that are read only their names matter later on. -/
theorem alike_readMembers (hlayout : layout.Discreet) (first : Bool) (seen : List String) (a b : α)
    (h : Twin k s₁ s₂) :
    Alike k (Taken k SameFault) (layout.readMembers first seen a s₁)
      (layout.readMembers first seen b s₂) := by
  induction hn : s₁.length using Nat.strongRecOn generalizing first seen a b s₁ s₂ with
  | ind n ih =>
    rw [readMembers_eq, readMembers_eq]
    refine (alike_nextKey first h).bind_of_ok ?_
    rintro ⟨key₁, r₁⟩ ⟨key₂, r₂⟩ hnext ⟨hkey, h⟩
    dsimp only at hkey h ⊢
    cases key₁ with
    | none =>
      cases key₂ with
      | some _ => exact hkey.elim
      | none => exact ⟨sameFault_complete seen a b, h⟩
    | some key₁ =>
      cases key₂ with
      | none => exact hkey.elim
      | some key₂ =>
        dsimp only
        -- Two keys lead to the same member, or both to none.
        rw [member?_of_indistinct hlayout hkey, hlayout.opened]
        have hlt := length_of_nextKey hnext
        split
        · refine (alike_colon h).bind_of_ok fun t₁ t₂ hcolon h => ?_
          refine (alike_skipValue [] h).bind_of_ok fun u₁ u₂ hvalue h => ?_
          have := length_of_colon hcolon
          have := length_of_skipValue hvalue
          exact ih u₁.length (by omega) false seen a b h rfl
        · next m hm =>
          split
          · exact ⟨rfl, h⟩
          refine (alike_colon h).bind_of_ok fun t₁ t₂ hcolon h => ?_
          have hm := (hlayout.members m (List.mem_of_find?_eq_some hm)).change
          refine (hm h).bind_of_ok ?_
          rintro ⟨f, u₁⟩ ⟨g, u₂⟩ hvalue h
          have := length_of_colon hcolon
          have := m.change.shorter hvalue
          exact ih u₁.length (by omega) false _ (f a) (g b) h rfl

theorem alike_readElements (layout : Layout α) {members : List (Member α)}
    (hmembers : ∀ m ∈ members, m.Discreet) (index : Nat) (a b : α) (h : Twin k s₁ s₂) :
    Alike k (Taken k SameFault) (layout.readElements index a members s₁)
      (layout.readElements index b members s₂) := by
  induction members generalizing index a b s₁ s₂ with
  | nil => exact ⟨trivial, h⟩
  | cons m members ih =>
    have hrest : ∀ m ∈ members, m.Discreet := fun m hm => hmembers m (List.mem_cons_of_mem _ hm)
    rw [readElements, readElements]
    rcases (alike_nextElement (index = 0) h).cases with
      ⟨e, f, h₁, h₂, hlike⟩ | ⟨x, y, h₁, h₂, htaken⟩ <;> rw [h₁, h₂]
    · exact hlike
    obtain ⟨more, r₁, r₂, rfl, rfl, h⟩ := htaken.exists_eq
    cases more with
    | false =>
      dsimp only
      split
      · exact ⟨rfl, h⟩
      · exact ih hrest _ _ _ h
    | true =>
      dsimp only
      rcases ((hmembers m List.mem_cons_self).change h).cases with
        ⟨e, f, h₁, h₂, hlike⟩ | ⟨x, y, h₁, h₂, h⟩ <;> rw [h₁, h₂]
      · exact hlike
      · exact ih hrest _ _ _ h

end Layout

theorem discreet_record {layout : Layout α} (h : layout.Discreet) :
    (Shape.record layout).Discreet := by
  refine Shape.discreet_ofFront (fun k c s₁ s₂ htwin => ?_) _
  split
  · next hc =>
    rcases (layout.alike_readElements h.members 0 layout.blank layout.blank
      (htwin.tail (hc ▸ by decide))).cases with
      ⟨e, f, h₁, h₂, hlike⟩ | ⟨x, y, h₁, h₂, hfault, hrest⟩ <;> rw [h₁, h₂]
    · exact hlike
    · exact alike_finish hfault (taken_closeList hrest)
  split
  · next hc =>
    rcases (Layout.alike_readMembers h true [] layout.blank layout.blank
      (htwin.tail (hc ▸ by decide))).cases with
      ⟨e, f, h₁, h₂, hlike⟩ | ⟨x, y, h₁, h₂, hfault, hrest⟩ <;> rw [h₁, h₂]
    · exact hlike
    · exact alike_finish hfault (taken_closeObject hrest)
  · exact like_mismatch htwin _

/-! ## Choices -/

theorem nothing_of_cons (h : skipBlanks s = c :: r) :
    nothing s =
      if c = 'n' then word ['u', 'l', 'l'] r else .error (mismatch "unit" (c :: r)) := by
  unfold nothing
  rw [h]
  split
  · next heq => cases heq
  · next heq => cases heq; rfl
  · next hnull => rw [if_neg fun hc : c = 'n' => hnull r (hc ▸ rfl)]

theorem alike_nothing (h : Twin k s₁ s₂) : Alike k (Taken k Eq) (nothing s₁) (nothing s₂) := by
  rcases h.front with ⟨h₁, h₂⟩ | ⟨c, r₁, r₂, h₁, h₂, hfront⟩
  · unfold nothing
    rw [h₁, h₂]
    exact .error_eq rfl
  rw [nothing_of_cons h₁, nothing_of_cons h₂]
  split
  · next hc => exact alike_word (by decide) (hfront.tail (hc ▸ by decide))
  · exact like_mismatch hfront _

/-- The brace that closes a choice. -/
def closeChoice (name : String) : Reader String := fun s =>
  match skipBlanks s with
  | [] => .error ⟨.endInObject, 0⟩
  | c :: r => if c = '\x7d' then .ok (name, r) else .error (failAt (c :: r) .expectedValue)

theorem choiceMember_eq (s : List Char) :
    choiceMember s = ((Shape.textual "variant identifier").read s).bind fun (name, s) =>
      (colon s).bind fun s => (nothing s).bind fun (_, s) => closeChoice name s := by
  refine congrArg (Except.bind _) (funext fun x => ?_)
  refine congrArg (Except.bind _) (funext fun s => ?_)
  refine congrArg (Except.bind _) (funext fun y => ?_)
  obtain ⟨⟨⟩, s⟩ := y
  dsimp only
  unfold closeChoice
  split
  · next heq => rw [heq]
  · next heq => rw [heq]; rfl
  · next hend hbrace =>
    cases heq : skipBlanks s with
    | nil => exact absurd heq hend
    | cons c r => exact (if_neg fun hc : c = '\x7d' => hbrace r (hc ▸ heq)).symm

theorem alike_closeChoice (a b : String) (h : Twin k s₁ s₂) :
    Alike k (Leaves k) (closeChoice a s₁) (closeChoice b s₂) := by
  unfold closeChoice
  rcases h.front with ⟨h₁, h₂⟩ | ⟨c, r₁, r₂, h₁, h₂, hfront⟩ <;> rw [h₁, h₂]
  · exact .error_eq rfl
  dsimp only
  split
  · next hc => exact hfront.tail (hc ▸ by decide)
  · exact .error_eq (hfront.failAt _)

theorem alike_choiceMember (h : Twin k s₁ s₂) :
    Alike k (Leaves k) (choiceMember s₁) (choiceMember s₂) := by
  rw [choiceMember_eq, choiceMember_eq]
  refine (Shape.discreet_textual _ h).bind ?_
  rintro ⟨name₁, r₁⟩ ⟨name₂, r₂⟩ h
  refine (alike_colon h).bind fun t₁ t₂ h => ?_
  exact (alike_nothing h).bind fun _ _ h => alike_closeChoice name₁ name₂ h.2

theorem discreet_choice (named : List (String × α)) (other : α) :
    (Shape.choice named other).Discreet := by
  unfold Shape.choice
  refine Shape.Discreet.map (Shape.discreet_ofFront (fun k c s₁ s₂ h => ?_) _) _
  split
  · next hc => exact alike_choiceMember (h.tail (hc ▸ by decide))
  split
  · next hc => exact (alike_text (h.tail (hc ▸ by decide))).imp fun _ _ => Taken.leaves
  · exact .error_eq (h.failOn _)

end ServiceAdmin.Json
