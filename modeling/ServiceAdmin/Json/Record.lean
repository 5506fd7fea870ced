import ServiceAdmin.Json.Shape

/-!
# Records

A record is written as an object, or as a list that holds its members in their order.  Members that
are left out keep the value they have in the blank record, unless they are required; a member that
is given twice is refused, and a member of another name is passed over unless the record is closed.
-/

namespace ServiceAdmin.Json

/-- A member of a record of type `α`: its shape holds the changes that it makes to a record. -/
structure Member (α : Type) where
  name : String
  required : Bool
  change : Shape (α → α)

/-- A member that may be left out. -/
def Member.free {α β : Type} (name : String) (shape : Shape β) (store : β → α → α) : Member α :=
  ⟨name, false, shape.map store⟩

/-- A member that must be given. -/
def Member.needed {α β : Type} (name : String) (shape : Shape β) (store : β → α → α) : Member α :=
  ⟨name, true, shape.map store⟩

/-- The members of a record and what it is called. -/
structure Layout (α : Type) where
  title : String
  blank : α
  members : List (Member α)
  /-- Whether members of other names are refused. -/
  closed : Bool

namespace Layout

variable {α : Type}

def wanted (layout : Layout α) : String := "struct " ++ layout.title

/-- What a list with too few elements falls short of. -/
def wantedElements (layout : Layout α) : String :=
  let n := layout.members.length
  s!"{layout.wanted} with {n} element" ++ if n = 1 then "" else "s"

def member? (layout : Layout α) (name : String) : Option (Member α) :=
  layout.members.find? (·.name = name)

/-- The record, if no required member is missing from those seen. -/
def complete (layout : Layout α) (seen : List String) (record : α) : Except Cause α :=
  match layout.members.find? fun m => m.required && !seen.contains m.name with
  | some m => .error (.missingField m.name)
  | none => .ok record

end Layout

/-- Goes to the next key of an object and reads it, or to the brace that closes the object. -/
def nextKey (first : Bool) : Reader (Option String) := fun s =>
  match skipBlanks s with
  | [] => .error ⟨.endInObject, 0⟩
  | c :: r =>
    if c = '\x7d' then .ok (none, c :: r)
    else if first then
      if c = '"' then (text r).map fun (k, r) => (some k, r)
      else .error (failOn (c :: r) .keyNotString)
    else if c = ',' then
      match skipBlanks r with
      | [] => .error ⟨.endInValue, 0⟩
      | '"' :: r => (text r).map fun (k, r) => (some k, r)
      | '\x7d' :: r => .error (failOn ('\x7d' :: r) .trailingComma)
      | r => .error (failOn r .keyNotString)
    else .error (failOn (c :: r) .expectedCommaOrBrace)

/-- Passes over the colon behind a key. -/
def colon (s : List Char) : Except Failure (List Char) :=
  match skipBlanks s with
  | [] => .error ⟨.endInObject, 0⟩
  | ':' :: r => .ok r
  | r => .error (failOn r .expectedColon)

theorem length_of_nextKey {first : Bool} {s r : List Char} {k : String}
    (h : nextKey first s = .ok (some k, r)) : r.length < s.length := by
  have hs := length_skipBlanks s
  have key {t : List Char} (ht : t.length < s.length)
      (h : (text t).map (fun (k, r) => (some k, r)) = .ok (some k, r)) : r.length < s.length := by
    cases hk : text t with
    | error e => simp [hk, Except.map] at h
    | ok p =>
      have := length_of_text hk
      simp only [hk, Except.map, Except.ok.injEq, Prod.mk.injEq] at h
      obtain ⟨_, rfl⟩ := h
      omega
  simp only [nextKey] at h
  split at h
  · cases h
  next c t ht =>
    have hr := length_skipBlanks t
    simp only [ht, List.length_cons] at hs
    split at h
    · cases h
    split at h
    · split at h
      · exact key (by omega) h
      · cases h
    split at h
    · split at h
      · cases h
      · next u hu =>
        simp only [hu, List.length_cons] at hr
        exact key (by omega) h
      · cases h
      · cases h
    · cases h

theorem length_of_nextKey_none {first : Bool} {s r : List Char}
    (h : nextKey first s = .ok (none, r)) : r.length ≤ s.length := by
  have hs := length_skipBlanks s
  have key {t : List Char} (h : (text t).map (fun (k, r) => (some k, r)) = .ok (none, r)) :
      False := by
    cases hk : text t with
    | error e => simp [hk, Except.map] at h
    | ok p => simp [hk, Except.map] at h
  simp only [nextKey] at h
  split at h
  · cases h
  next c t ht =>
    simp only [ht] at hs
    split at h
    · cases h; exact hs
    split at h
    · split at h
      · exact (key h).elim
      · cases h
    split at h
    · split at h
      · cases h
      · exact (key h).elim
      · cases h
      · cases h
    · cases h

theorem length_of_colon {s r : List Char} (h : colon s = .ok r) : r.length ≤ s.length := by
  have hs := length_skipBlanks s
  unfold colon at h
  split at h
  · cases h
  · next t ht =>
    cases h
    simp only [ht, List.length_cons] at hs
    omega
  · cases h

namespace Layout

variable {α : Type}

/-- Reads the members of an object up to its closing brace, behind those `seen` already.  A fault
of the members leaves what stands behind it to be read. -/
def readMembers (layout : Layout α) (first : Bool) (seen : List String) (record : α)
    (s : List Char) : Except Failure (Except Cause α × List Char) :=
  match _hs : nextKey first s with
  | .error e => .error e
  | .ok (none, r) => .ok (layout.complete seen record, r)
  | .ok (some key, r) =>
    match layout.member? key with
    | none =>
      if layout.closed then
        .ok (.error (.unknownField key (layout.members.map (·.name))), r)
      else
        match _hr : colon r with
        | .error e => .error e
        | .ok r =>
          match _hv : skipValue [] r with
          | .error e => .error e
          | .ok r => readMembers layout false seen record r
    | some m =>
      if seen.contains m.name then .ok (.error (.duplicateField m.name), r)
      else
        match _hr : colon r with
        | .error e => .error e
        | .ok r =>
          match _hv : m.change.read r with
          | .error e => .error e
          | .ok (change, r) => readMembers layout false (m.name :: seen) (change record) r
termination_by s.length
decreasing_by
  · have := length_of_nextKey _hs
    have := length_of_colon _hr
    have := length_of_skipValue _hv
    omega
  · have := length_of_nextKey _hs
    have := length_of_colon _hr
    have := m.change.shorter _hv
    omega

/-- Reads the members of a list, of which `index` are read. -/
def readElements (layout : Layout α) (index : Nat) (record : α) :
    List (Member α) → List Char → Except Failure (Except Cause α × List Char)
  | [], s => .ok (.ok record, s)
  | m :: ms, s =>
    match nextElement (index = 0) s with
    | .error e => .error e
    | .ok (false, r) =>
      if m.required then .ok (.error (.wrongLength index layout.wantedElements), r)
      else readElements layout (index + 1) record ms r
    | .ok (true, r) =>
      match m.change.read r with
      | .error e => .error e
      | .ok (change, r) => readElements layout (index + 1) (change record) ms r

theorem length_of_readMembers {layout : Layout α} {first : Bool} {seen : List String} {record : α}
    {s r : List Char} {content : Except Cause α}
    (h : layout.readMembers first seen record s = .ok (content, r)) : r.length ≤ s.length := by
  fun_induction layout.readMembers first seen record s with
  | case1 => cases h
  | case2 first seen record s t hs =>
    cases h
    exact length_of_nextKey_none hs
  | case3 first seen record s key t hs =>
    cases h
    exact Nat.le_of_lt (length_of_nextKey hs)
  | case4 => cases h
  | case5 => cases h
  | case6 first seen record s key t hs _ _ u hu v hv ih =>
    have h₁ := length_of_nextKey hs
    have h₂ := length_of_colon hu
    have h₃ := length_of_skipValue hv
    have h₄ := ih h
    omega
  | case7 first seen record s key t hs =>
    cases h
    exact Nat.le_of_lt (length_of_nextKey hs)
  | case8 => cases h
  | case9 => cases h
  | case10 first seen record s key t hs m _ _ u hu change v hv ih =>
    have h₁ := length_of_nextKey hs
    have h₂ := length_of_colon hu
    have h₃ := m.change.shorter hv
    have h₄ := ih h
    omega

theorem length_of_readElements {layout : Layout α} {index : Nat} {record : α}
    {ms : List (Member α)} {s r : List Char} {content : Except Cause α}
    (h : layout.readElements index record ms s = .ok (content, r)) : r.length ≤ s.length := by
  induction ms generalizing index record s with
  | nil => cases h; exact Nat.le_refl _
  | cons m ms ih =>
    simp only [readElements] at h
    split at h
    · cases h
    · next t ht =>
      have h₁ := length_of_nextElement ht
      split at h
      · cases h; exact h₁
      · have := ih h
        omega
    · next t ht =>
      have h₁ := length_of_nextElement ht
      split at h
      · cases h
      next change u hu =>
        have h₂ := m.change.shorter hu
        have := ih h
        omega

end Layout

/-- A record of a layout. -/
def Shape.record {α : Type} (layout : Layout α) : Shape α :=
  ofFront (fun c s =>
    if c = '[' then
      match layout.readElements 0 layout.blank layout.members s with
      | .error e => .error e
      | .ok (content, r) => finish content (closeList r)
    else if c = '\x7b' then
      match layout.readMembers true [] layout.blank s with
      | .error e => .error e
      | .ok (content, r) => finish content (closeObject r)
    else .error (mismatch layout.wanted (c :: s))) (by
    intro c s r a h
    split at h
    · split at h
      · cases h
      next content t ht =>
        have h₁ := Layout.length_of_readElements ht
        have h₂ := length_closeList t
        rw [length_of_finish h]
        omega
    split at h
    · split at h
      · cases h
      next content t ht =>
        have h₁ := Layout.length_of_readMembers ht
        have h₂ := length_closeObject t
        rw [length_of_finish h]
        omega
    · cases h)

end ServiceAdmin.Json
