import ServiceAdmin.Json.Record

/-!
# Choices

A choice between names is written as a string, or as an object whose one key is the name and whose
value is `null`.
-/

namespace ServiceAdmin.Json

/-- Reads `null` and nothing else. -/
def nothing : Reader Unit := fun s =>
  match skipBlanks s with
  | [] => .error ⟨.endInValue, 0⟩
  | 'n' :: r => word ['u', 'l', 'l'] r
  | r => .error (mismatch "unit" r)

/-- Reads the one key of a choice, its value and the closing brace. -/
def choiceMember : Reader String := fun s => do
  let (name, s) ← (Shape.textual "variant identifier").read s
  let s ← colon s
  let ((), s) ← nothing s
  match skipBlanks s with
  | [] => .error ⟨.endInObject, 0⟩
  | '\x7d' :: s => .ok (name, s)
  | s => .error (failAt s .expectedValue)

theorem length_of_nothing {s r : List Char} (h : nothing s = .ok ((), r)) :
    r.length ≤ s.length := by
  have hs := length_skipBlanks s
  simp only [nothing] at h
  split at h
  · cases h
  · next t ht =>
    have := length_of_word h
    simp only [ht, List.length_cons] at hs
    omega
  · cases h

theorem length_of_choiceMember {s r : List Char} {name : String}
    (h : choiceMember s = .ok (name, r)) : r.length ≤ s.length := by
  simp only [choiceMember, bind, Except.bind] at h
  split at h
  · cases h
  next p hp =>
    have h₁ := (Shape.textual "variant identifier").shorter hp
    split at h
    · cases h
    next u hu =>
      have h₂ := length_of_colon hu
      split at h
      · cases h
      next q hq =>
        have h₃ := length_of_nothing hq
        have h₄ := length_skipBlanks q.2
        split at h
        · cases h
        · next v hv =>
          cases h
          simp only [hv, List.length_cons] at h₄
          omega
        · cases h

/-- One of the named values; every other name stands for `other`. -/
def Shape.choice {α : Type} (named : List (String × α)) (other : α) : Shape α :=
  let pick (name : String) : α := ((named.find? (·.1 = name)).map (·.2)).getD other
  map pick (ofFront (fun c s =>
    if c = '\x7b' then choiceMember s
    else if c = '"' then text s
    else .error (failOn (c :: s) .expectedValue)) (by
    intro c s r a h
    split at h
    · exact length_of_choiceMember h
    split at h
    · exact Nat.le_of_lt (length_of_text h)
    · cases h))

end ServiceAdmin.Json
