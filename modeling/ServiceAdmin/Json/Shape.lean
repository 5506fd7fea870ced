import ServiceAdmin.Json.Skip

/-!
# Shapes of values

A shape is a kind of value together with the way to read it from a text.  Reading takes something
off the text, so that lists are read to their ends by recursion on what is left.  A value of
another kind is met with the failure `mismatch`, which says what was found and what was wanted.
-/

namespace ServiceAdmin.Json

open ServiceAdmin.Number (max64 Magnitude Binary64)

/-- The word is read to its end before it is found to be unwanted. -/
def meetWord (wanted : String) (w : List Char) (found : Found) (r : List Char) : Failure :=
  match word w r with
  | .error e => e
  | .ok (_, r) => failAt r (.wrongType found wanted)

/-- The failure of meeting another kind of value, at the front of `s`, than the wanted one. -/
def mismatch (wanted : String) : List Char → Failure
  | [] => ⟨.expectedValue, 0⟩
  | c :: r =>
    if c = 'n' then meetWord wanted ['u', 'l', 'l'] .null r
    else if c = 't' then meetWord wanted ['r', 'u', 'e'] (.boolean true) r
    else if c = 'f' then meetWord wanted ['a', 'l', 's', 'e'] (.boolean false) r
    else if c = '-' || isDigit c then
      match numeral (c :: r) with
      | .error e => e
      | .ok (n, r) => failAt r (.wrongType n.found wanted)
    else if c = '"' then
      match text r with
      | .error e => e
      | .ok (t, r) => failAt r (.wrongType (.string t) wanted)
    else if c = '[' then failAt (c :: r) (.wrongType .sequence wanted)
    else if c = '\x7b' then failAt (c :: r) (.wrongType .map wanted)
    else failOn (c :: r) .expectedValue

/-- A kind of value and how it is read. -/
structure Shape (α : Type) where
  read : Reader α
  shorter : ∀ {s r : List Char} {a : α}, read s = .ok (a, r) → r.length < s.length

namespace Shape

/-- Reads a value that is told by the first character behind blanks. -/
def readFront {α : Type} (front : Char → Reader α) : Reader α := fun s =>
  match skipBlanks s with
  | [] => .error ⟨.endInValue, 0⟩
  | c :: r => front c r

theorem length_of_readFront {α : Type} {front : Char → Reader α}
    (h : ∀ c s r a, front c s = .ok (a, r) → r.length ≤ s.length) {s r : List Char} {a : α}
    (hr : readFront front s = .ok (a, r)) : r.length < s.length := by
  have hs := length_skipBlanks s
  unfold readFront at hr
  split at hr
  · cases hr
  next c t ht =>
    have := h c t r a hr
    simp only [ht, List.length_cons] at hs
    omega

/-- A shape that is told by the first character behind blanks. -/
def ofFront {α : Type} (front : Char → Reader α)
    (h : ∀ c s r a, front c s = .ok (a, r) → r.length ≤ s.length) : Shape α where
  read := readFront front
  shorter := length_of_readFront h

/-- A string that is called `wanted` in messages. -/
def textual (wanted : String) : Shape String :=
  ofFront (fun c s => if c = '"' then text s else .error (mismatch wanted (c :: s))) (by
    intro c s r a h
    split at h
    · exact Nat.le_of_lt (length_of_text h)
    · cases h)

/-- A string. -/
def string : Shape String := textual "a string"

/-- A truth value. -/
def boolean : Shape Bool :=
  ofFront (fun c s =>
    if c = 't' then (word ['r', 'u', 'e'] s).map fun (_, r) => (true, r)
    else if c = 'f' then (word ['a', 'l', 's', 'e'] s).map fun (_, r) => (false, r)
    else .error (mismatch "a boolean" (c :: s))) (by
    intro c s r a h
    split at h
    · cases hw : word ['r', 'u', 'e'] s with
      | error e => simp [hw, Except.map] at h
      | ok p =>
        simp only [hw, Except.map, Except.ok.injEq, Prod.mk.injEq] at h
        exact h.2 ▸ length_of_word hw
    split at h
    · cases hw : word ['a', 'l', 's', 'e'] s with
      | error e => simp [hw, Except.map] at h
      | ok p =>
        simp only [hw, Except.map, Except.ok.injEq, Prod.mk.injEq] at h
        exact h.2 ▸ length_of_word hw
    · cases h)

/-- A number that `accept` takes. -/
def number {α : Type} (wanted : String) (accept : Numeral → Except Cause α) : Shape α :=
  ofFront (fun c s =>
    if c = '-' || isDigit c then
      match numeral (c :: s) with
      | .error e => .error e
      | .ok (n, r) =>
        match accept n with
        | .ok a => .ok (a, r)
        | .error cause => .error (failAt r cause)
    else .error (mismatch wanted (c :: s))) (by
    intro c s r a h
    split at h
    · split at h
      · cases h
      next n t ht =>
        have := length_of_numeral ht
        simp only [List.length_cons] at this
        split at h
        · cases h
          omega
        · cases h
    · cases h)

/-- A whole number within limits; `wanted` is the name of its kind. -/
def integer (wanted : String) (lower upper : Int) : Shape Int :=
  number wanted fun
    | .whole n =>
      if lower ≤ n ∧ n ≤ upper then .ok n else .error (.wrongValue (.integer n) wanted)
    | n => .error (.wrongType n.found wanted)

/-- The result of a function on the values of a shape. -/
def map {α β : Type} (f : α → β) (shape : Shape α) : Shape β where
  read s := (shape.read s).map fun (a, r) => (f a, r)
  shorter := by
    intro s r b h
    cases hs : shape.read s with
    | error e => simp [hs, Except.map] at h
    | ok p =>
      simp only [hs, Except.map, Except.ok.injEq, Prod.mk.injEq] at h
      exact h.2 ▸ shape.shorter hs

/-- A whole number of 32 bits without a sign. -/
def natural32 : Shape Nat := (integer "u32" 0 Number.max32).map Int.toNat

/-- A whole number of 64 bits without a sign. -/
def natural64 : Shape Nat := (integer "u64" 0 max64).map Int.toNat

/-- A whole number of 64 bits. -/
def integer64 : Shape Int := integer "i64" (-Int.pow 2 63) (Int.pow 2 63 - 1)

/-- A binary64 number; whole numbers are rounded to it. -/
def floating : Shape Binary64 :=
  number "f64" fun
    | .whole n => .ok ⟨n < 0, Magnitude.ofNat n.natAbs⟩
    | .floating x => .ok x

/-- `null` or a value of the shape. -/
def optional {α : Type} (shape : Shape α) : Shape (Option α) where
  read s :=
    match skipBlanks s with
    | 'n' :: r => (word ['u', 'l', 'l'] r).map fun (_, r) => (none, r)
    | s => (shape.read s).map fun (a, r) => (some a, r)
  shorter := by
    intro s r a h
    have hs := length_skipBlanks s
    split at h
    · next t ht =>
      simp only [ht, List.length_cons] at hs
      cases hw : word ['u', 'l', 'l'] t with
      | error e => simp [hw, Except.map] at h
      | ok p =>
        simp only [hw, Except.map, Except.ok.injEq, Prod.mk.injEq] at h
        have := length_of_word hw
        obtain ⟨_, rfl⟩ := h
        omega
    · cases hr : shape.read (skipBlanks s) with
      | error e => simp [hr, Except.map] at h
      | ok p =>
        simp only [hr, Except.map, Except.ok.injEq, Prod.mk.injEq] at h
        have := shape.shorter hr
        obtain ⟨_, rfl⟩ := h
        omega

end Shape

/-- Goes to the next element of a list, or to the bracket that closes it. -/
def nextElement (first : Bool) : Reader Bool := fun s =>
  match skipBlanks s with
  | [] => .error ⟨.endInList, 0⟩
  | c :: r =>
    if c = ']' then .ok (false, c :: r)
    else if first then .ok (true, c :: r)
    else if c = ',' then
      match skipBlanks r with
      | [] => .error ⟨.endInValue, 0⟩
      | ']' :: r => .error (failOn (']' :: r) .trailingComma)
      | r => .ok (true, r)
    else .error (failOn (c :: r) .expectedCommaOrBracket)

/-- Closes a list: what is wrong with its end, if anything, and what is left. -/
def closeList (s : List Char) : Option Failure × List Char :=
  match skipBlanks s with
  | [] => (some ⟨.endInList, 0⟩, [])
  | ']' :: r => (none, r)
  | ',' :: r =>
    match skipBlanks r with
    | ']' :: r => (some (failOn (']' :: r) .trailingComma), ']' :: r)
    | r => (some (failOn r .trailingCharacters), r)
  | r => (some (failOn r .trailingCharacters), r)

/-- Closes an object. -/
def closeObject (s : List Char) : Option Failure × List Char :=
  match skipBlanks s with
  | [] => (some ⟨.endInObject, 0⟩, [])
  | '\x7d' :: r => (none, r)
  | ',' :: r => (some (failOn (',' :: r) .trailingComma), ',' :: r)
  | r => (some (failOn r .trailingCharacters), r)

/-- Ends a list or an object whose content is read: a fault of the content is placed behind the
closing bracket and comes before a fault of the end. -/
def finish {α : Type} (content : Except Cause α) (closed : Option Failure × List Char) :
    Except Failure (α × List Char) :=
  match content, closed with
  | .error cause, (_, r) => .error (failAt r cause)
  | .ok _, (some failure, _) => .error failure
  | .ok a, (none, r) => .ok (a, r)

theorem length_of_nextElement {first more : Bool} {s r : List Char}
    (h : nextElement first s = .ok (more, r)) : r.length ≤ s.length := by
  have hs := length_skipBlanks s
  simp only [nextElement] at h
  split at h
  · cases h
  next c t ht =>
    have hr := length_skipBlanks t
    simp only [ht, List.length_cons] at hs
    split at h
    · cases h; exact hs
    split at h
    · cases h; exact hs
    split at h
    · split at h
      · cases h
      · cases h
      · cases h; omega
    · cases h

theorem length_closeList (s : List Char) : (closeList s).2.length ≤ s.length := by
  have hs := length_skipBlanks s
  unfold closeList
  split
  · simp
  · next t ht => simp only [ht, List.length_cons] at hs ⊢; omega
  · next t ht =>
    have hr := length_skipBlanks t
    simp only [ht, List.length_cons] at hs
    split
    · next u hu => simp only [hu, List.length_cons] at hr ⊢; omega
    · dsimp only; omega
  · exact hs

theorem length_closeObject (s : List Char) : (closeObject s).2.length ≤ s.length := by
  have hs := length_skipBlanks s
  unfold closeObject
  split
  · simp
  · next t ht => simp only [ht, List.length_cons] at hs ⊢; omega
  · next t ht => simp only [ht, List.length_cons] at hs ⊢; omega
  · exact hs

theorem length_of_finish {α : Type} {content : Except Cause α}
    {closed : Option Failure × List Char} {a : α} {r : List Char}
    (h : finish content closed = .ok (a, r)) : r = closed.2 := by
  unfold finish at h
  split at h <;> cases h
  rfl

namespace Shape

/-- Reads the elements of a list up to the closing bracket. -/
def elements {α : Type} (item : Shape α) (first : Bool) (s : List Char) :
    Except Failure (List α × List Char) :=
  match _hs : nextElement first s with
  | .error e => .error e
  | .ok (false, r) => .ok ([], r)
  | .ok (true, r) =>
    match _hr : item.read r with
    | .error e => .error e
    | .ok (a, r) => (elements item false r).map fun (as, r) => (a :: as, r)
termination_by s.length
decreasing_by
  have := length_of_nextElement _hs
  have := item.shorter _hr
  omega

theorem length_of_elements {α : Type} {item : Shape α} {first : Bool} {s r : List Char}
    {as : List α} (h : elements item first s = .ok (as, r)) : r.length ≤ s.length := by
  fun_induction elements item first s generalizing as r with
  | case1 => cases h
  | case2 first s r' hs =>
    cases h
    exact length_of_nextElement hs
  | case3 => cases h
  | case4 first s t hs a u hu ih =>
    cases ht : elements item false u with
    | error e => simp [ht, Except.map] at h
    | ok p =>
      have h₁ := length_of_nextElement hs
      have h₂ := item.shorter hu
      have h₃ := ih ht
      simp only [ht, Except.map, Except.ok.injEq, Prod.mk.injEq] at h
      obtain ⟨_, rfl⟩ := h
      omega

/-- A list of values of one shape. -/
def list {α : Type} (item : Shape α) : Shape (List α) :=
  ofFront (fun c s =>
    if c = '[' then
      match elements item true s with
      | .error e => .error e
      | .ok (as, r) => finish (.ok as) (closeList r)
    else .error (mismatch "a sequence" (c :: s))) (by
    intro c s r as h
    split at h
    · split at h
      · cases h
      next bs t ht =>
        have h₁ := length_of_elements ht
        have h₂ := length_closeList t
        rw [length_of_finish h]
        omega
    · cases h)

end Shape

end ServiceAdmin.Json
