import ServiceAdmin.Json.Number

/-!
# Passing over values

A value that nobody asks for is passed over.  Lists and objects may be nested to any depth: those
that are open are kept on a stack.
-/

namespace ServiceAdmin.Json

/-- What is open around a value. -/
inductive Bracket
  | list
  | object
  deriving DecidableEq, Repr

namespace Bracket

def close : Bracket → Char
  | list => ']'
  | object => '\x7d'

def ended : Bracket → Cause
  | list => .endInList
  | object => .endInObject

def expectedComma : Bracket → Cause
  | list => .expectedCommaOrBracket
  | object => .expectedCommaOrBrace

end Bracket

/-- Passes over a key and its colon. -/
def skipKey (s : List Char) : Except Failure (List Char) :=
  match skipBlanks s with
  | [] => .error ⟨.endInObject, 0⟩
  | '"' :: s => do
    let s ← skipTextTail s
    match skipBlanks s with
    | [] => .error ⟨.endInObject, 0⟩
    | ':' :: s => .ok s
    | s => .error (failOn s .expectedColon)
  | s => .error (failOn s .keyNotString)

/-- Passes over what stands before the next value of a list or an object. -/
def skipToValue (frame : Bracket) (s : List Char) : Except Failure (List Char) :=
  match frame with
  | .list => .ok s
  | .object => skipKey s

/-- Passes over a value that is no list and no object, and that begins with `c`. -/
def skipScalar (c : Char) (s : List Char) : Except Failure (List Char) :=
  if c = 'n' then (word ['u', 'l', 'l'] s).map (·.2)
  else if c = 't' then (word ['r', 'u', 'e'] s).map (·.2)
  else if c = 'f' then (word ['a', 'l', 's', 'e'] s).map (·.2)
  else if c = '-' then skipUnsigned s
  else if isDigit c then skipUnsigned (c :: s)
  else if c = '"' then skipTextTail s
  else .error (failOn (c :: s) .expectedValue)

theorem length_of_skipExponent {s r : List Char} (h : skipExponent s = .ok r) :
    r.length ≤ s.length := by
  have hs := length_exponentSign s
  unfold skipExponent at h
  split at h
  · cases h
  next c t ht =>
    split at h
    · cases h
      have := length_skipDigits t
      simp only [ht, List.length_cons] at hs
      omega
    · cases h

theorem length_of_skipAfterDigits {s r : List Char} (h : skipAfterDigits s = .ok r) :
    r.length ≤ s.length := by
  unfold skipAfterDigits at h
  split at h
  · cases h
  · next c t =>
    have ht := length_skipDigits t
    split at h
    · split at h
      · next u hu =>
        have := length_of_skipExponent h
        simp only [hu, List.length_cons] at ht ⊢
        omega
      · next u hu =>
        have := length_of_skipExponent h
        simp only [hu, List.length_cons] at ht ⊢
        omega
      · cases h
        simp only [List.length_cons]
        omega
    · cases h
  · have := length_of_skipExponent h
    simp only [List.length_cons]
    omega
  · have := length_of_skipExponent h
    simp only [List.length_cons]
    omega
  · cases h
    exact Nat.le_refl _

theorem length_of_skipUnsigned {s r : List Char} (h : skipUnsigned s = .ok r) :
    r.length < s.length := by
  unfold skipUnsigned at h
  split at h
  · cases h
  next c t =>
    split at h
    · split at h
      · split at h
        · cases h
        · have := length_of_skipAfterDigits h
          simp only [List.length_cons] at this ⊢
          omega
      · cases h
        simp
    · split at h
      · have h₁ := length_of_skipAfterDigits h
        have h₂ := length_skipDigits t
        simp only [List.length_cons]
        omega
      · cases h

theorem length_of_skipWord {w s r : List Char} (h : (word w s).map (·.2) = .ok r) :
    r.length ≤ s.length := by
  cases hw : word w s with
  | error e => simp [hw, Except.map] at h
  | ok p =>
    simp only [hw, Except.map, Except.ok.injEq] at h
    subst h
    exact length_of_word hw

theorem length_of_skipScalar {c : Char} {s r : List Char} (h : skipScalar c s = .ok r) :
    r.length ≤ s.length := by
  unfold skipScalar at h
  split at h
  · exact length_of_skipWord h
  split at h
  · exact length_of_skipWord h
  split at h
  · exact length_of_skipWord h
  split at h
  · exact Nat.le_of_lt (length_of_skipUnsigned h)
  split at h
  · exact Nat.le_of_lt_succ (length_of_skipUnsigned h)
  split at h
  · exact Nat.le_of_lt (length_of_skipTextTail h)
  · cases h

theorem length_of_skipKey {s r : List Char} (h : skipKey s = .ok r) : r.length ≤ s.length := by
  have hs := length_skipBlanks s
  unfold skipKey at h
  split at h
  · cases h
  · next t ht =>
    cases hk : skipTextTail t with
    | error e => simp [hk, bind, Except.bind] at h
    | ok u =>
      have hu := length_skipBlanks u
      have hk := length_of_skipTextTail hk
      simp only [*, bind, Except.bind, List.length_cons] at h hs
      split at h
      · cases h
      · next v hv =>
        cases h
        simp only [hv, List.length_cons] at hu
        omega
      · cases h
  · cases h

theorem length_of_skipToValue {frame : Bracket} {s r : List Char}
    (h : skipToValue frame s = .ok r) : r.length ≤ s.length := by
  cases frame with
  | list => cases h; exact Nat.le_refl _
  | object => exact length_of_skipKey h

mutual

/-- Passes over a value inside of what is open, and then to the end of all of it. -/
def skipValue (stack : List Bracket) (s : List Char) : Except Failure (List Char) :=
  match _hs : skipBlanks s with
  | [] => .error ⟨.endInValue, 0⟩
  | c :: r =>
    if c = '[' then skipOpened .list stack r
    else if c = '\x7b' then skipOpened .object stack r
    else
      match _hr : skipScalar c r with
      | .error e => .error e
      | .ok r => skipRest stack r
termination_by (s.length, 0)
decreasing_by
  all_goals
    have hs := length_skipBlanks s
    simp only [_hs, List.length_cons] at hs
  · exact Prod.Lex.left _ _ (by omega)
  · exact Prod.Lex.left _ _ (by omega)
  · exact Prod.Lex.left _ _ (by have := length_of_skipScalar _hr; omega)

/-- Passes over what follows an opening bracket. -/
def skipOpened (frame : Bracket) (stack : List Bracket) (s : List Char) :
    Except Failure (List Char) :=
  match _hs : skipBlanks s with
  | [] => .error ⟨frame.ended, 0⟩
  | c :: r =>
    if c = frame.close then skipRest stack r
    else
      match _hr : skipToValue frame (c :: r) with
      | .error e => .error e
      | .ok r => skipValue (frame :: stack) r
termination_by (s.length, 1)
decreasing_by
  all_goals
    have hs := length_skipBlanks s
    simp only [_hs, List.length_cons] at hs
  · exact Prod.Lex.left _ _ (by omega)
  · have hr := length_of_skipToValue _hr
    simp only [List.length_cons] at hr
    rcases Nat.lt_or_eq_of_le (Nat.le_trans hr hs) with h | h
    · exact Prod.Lex.left _ _ h
    · rw [h]
      exact Prod.Lex.right _ (by omega)

/-- Passes over what follows a value. -/
def skipRest (stack : List Bracket) (s : List Char) : Except Failure (List Char) :=
  match stack with
  | [] => .ok s
  | frame :: stack =>
    match _hs : skipBlanks s with
    | [] => .error ⟨frame.ended, 0⟩
    | c :: r =>
      if c = ',' then
        match _hr : skipToValue frame r with
        | .error e => .error e
        | .ok r => skipValue (frame :: stack) r
      else if c = frame.close then skipRest stack r
      else .error (failOn (c :: r) frame.expectedComma)
termination_by (s.length, 0)
decreasing_by
  all_goals
    have hs := length_skipBlanks s
    simp only [_hs, List.length_cons] at hs
  · exact Prod.Lex.left _ _ (by have := length_of_skipToValue _hr; omega)
  · exact Prod.Lex.left _ _ (by omega)

end

theorem length_of_skipping (n : Nat) :
    (∀ stack s r, s.length < n → skipValue stack s = .ok r → r.length < s.length) ∧
    (∀ frame stack s r, s.length < n → skipOpened frame stack s = .ok r → r.length < s.length) ∧
    (∀ stack s r, s.length < n → skipRest stack s = .ok r → r.length ≤ s.length) := by
  induction n with
  | zero => simp
  | succ n ih =>
    obtain ⟨value, opened, rest⟩ := ih
    have value' : ∀ stack s r, s.length < n + 1 → skipValue stack s = .ok r →
        r.length < s.length := by
      intro stack s r hn h
      have hs := length_skipBlanks s
      rw [skipValue] at h
      split at h
      · cases h
      next c t ht =>
        simp only [ht, List.length_cons] at hs
        split at h
        · have := opened _ _ _ _ (by omega) h
          omega
        split at h
        · have := opened _ _ _ _ (by omega) h
          omega
        split at h
        · cases h
        next u hu =>
          have hu := length_of_skipScalar hu
          have := rest _ _ _ (by omega) h
          omega
    refine ⟨value', ?_, ?_⟩
    · intro frame stack s r hn h
      have hs := length_skipBlanks s
      rw [skipOpened] at h
      split at h
      · cases h
      next c t ht =>
        simp only [ht, List.length_cons] at hs
        split at h
        · have := rest _ _ _ (by omega) h
          omega
        split at h
        · cases h
        next u hu =>
          have hu := length_of_skipToValue hu
          simp only [List.length_cons] at hu
          have := value' _ _ _ (by omega) h
          omega
    · intro stack s r hn h
      have hs := length_skipBlanks s
      cases stack with
      | nil => rw [skipRest] at h; cases h; exact Nat.le_refl _
      | cons frame stack =>
        rw [skipRest] at h
        split at h
        · cases h
        next c t ht =>
          simp only [ht, List.length_cons] at hs
          split at h
          · split at h
            · cases h
            next u hu =>
              have hu := length_of_skipToValue hu
              have := value _ _ _ (by omega) h
              omega
          split at h
          · have := rest _ _ _ (by omega) h
            omega
          · cases h

theorem length_of_skipValue {stack : List Bracket} {s r : List Char}
    (h : skipValue stack s = .ok r) : r.length < s.length :=
  (length_of_skipping (s.length + 1)).1 _ _ _ (Nat.lt_succ_self _) h

/-- Passes over a value. -/
def skip : Reader Unit := fun s => (skipValue [] s).map fun r => ((), r)

end ServiceAdmin.Json
