import ServiceAdmin.Json.Record

/-!
# Values of any shape

`Shape.value` reads every JSON text whose lists and objects are nested to a bounded depth.
-/

namespace ServiceAdmin.Json

inductive Value
  | null
  | boolean (b : Bool)
  | number (n : Numeral)
  | string (s : String)
  | list (items : List Value)
  | object (members : List (String × Value))

namespace Shape

/-- Reads the members of an object up to the closing brace. -/
def entries {α : Type} (item : Shape α) (first : Bool) (s : List Char) :
    Except Failure (List (String × α) × List Char) :=
  match _hs : nextKey first s with
  | .error e => .error e
  | .ok (none, r) => .ok ([], r)
  | .ok (some key, r) =>
    match _hc : colon r with
    | .error e => .error e
    | .ok r =>
      match _hr : item.read r with
      | .error e => .error e
      | .ok (a, r) => (entries item false r).map fun (as, r) => ((key, a) :: as, r)
termination_by s.length
decreasing_by
  have := length_of_nextKey _hs
  have := length_of_colon _hc
  have := item.shorter _hr
  omega

theorem length_of_entries {α : Type} {item : Shape α} {first : Bool} {s r : List Char}
    {as : List (String × α)} (h : entries item first s = .ok (as, r)) : r.length ≤ s.length := by
  fun_induction entries item first s generalizing as r with
  | case1 => cases h
  | case2 first s t hs =>
    cases h
    exact length_of_nextKey_none hs
  | case3 => cases h
  | case4 => cases h
  | case5 first s key t hs u hu a v hv ih =>
    cases ht : entries item false v with
    | error e => simp [ht, Except.map] at h
    | ok p =>
      have h₁ := length_of_nextKey hs
      have h₂ := length_of_colon hu
      have h₃ := item.shorter hv
      have h₄ := ih ht
      simp only [ht, Except.map, Except.ok.injEq, Prod.mk.injEq] at h
      obtain ⟨_, rfl⟩ := h
      omega

/-- An object of members that all have one shape. -/
def object {α : Type} (item : Shape α) : Shape (List (String × α)) :=
  ofFront (fun c s =>
    if c = '\x7b' then
      match entries item true s with
      | .error e => .error e
      | .ok (as, r) => finish (.ok as) (closeObject r)
    else .error (mismatch "a map" (c :: s))) (by
    intro c s r as h
    split at h
    · split at h
      · cases h
      next bs t ht =>
        have h₁ := length_of_entries ht
        have h₂ := length_closeObject t
        rw [length_of_finish h]
        omega
    · cases h)

/-- `null`. -/
def null : Shape Unit :=
  ofFront (fun _ s => word ['u', 'l', 'l'] s) (by
    intro _ s r a h
    exact length_of_word h)

/-- A shape that no text has, since it would nest lists and objects too deeply. -/
def tooDeep {α : Type} : Shape α where
  read s := .error (failOn (skipBlanks s) .tooDeep)
  shorter := by intro _ _ _ h; cases h

/-- The shape of the values that begin with `c`, given the shape of lists and of objects. -/
def ofFirst? (lists : Shape Value) (objects : Shape Value) (c : Char) : Option (Shape Value) :=
  if c = 'n' then some (null.map fun _ => .null)
  else if c = 't' || c = 'f' then some (boolean.map .boolean)
  else if c = '-' || isDigit c then some ((number "a number" .ok).map .number)
  else if c = '"' then some (string.map .string)
  else if c = '[' then some lists
  else if c = '\x7b' then some objects
  else none

/-- A value of the kind that its first character tells. -/
def valueOf (lists objects : Shape Value) : Shape Value where
  read s :=
    match skipBlanks s with
    | [] => .error ⟨.endInValue, 0⟩
    | c :: r =>
      match ofFirst? lists objects c with
      | some shape => shape.read (c :: r)
      | none => .error (failOn (c :: r) .expectedValue)
  shorter := by
    intro s r a h
    have hs := length_skipBlanks s
    split at h
    · cases h
    next c t ht =>
      rw [ht] at hs
      split at h
      · next shape _ =>
        exact Nat.lt_of_lt_of_le (shape.shorter h) hs
      · cases h

/-- Any value with at most `depth` lists and objects around a place. -/
def value : Nat → Shape Value
  | 0 => valueOf tooDeep tooDeep
  | depth + 1 =>
    valueOf ((list (value depth)).map .list) ((object (value depth)).map .object)

end Shape

/-- The nesting that is read of values of any shape. -/
def maxDepth : Nat := 127

end ServiceAdmin.Json
