import ServiceAdmin.Json.Failure

/-!
# Reading the pieces of a JSON text

A reader takes its part off the front of a text or fails.  Here are blanks, the words `null`, `true`
and `false`, and strings; a string is either read or, where its value is not wanted, passed over,
and passing over asks less of it.
-/

namespace ServiceAdmin.Json

open Text.Utf8 (size)

/-- Takes a value off the front of a text. -/
abbrev Reader (α : Type) := StateT (List Char) (Except Failure) α

/-- A failure at the place reached, with `rest` left. -/
def failAt (rest : List Char) (cause : Cause) : Failure := ⟨cause, size rest⟩

/-- A failure at the first octet of `rest`. -/
def failOn (rest : List Char) (cause : Cause) : Failure := ⟨cause, size rest - 1⟩

def isBlank (c : Char) : Bool := c = ' ' || c = '\n' || c = '\t' || c = '\r'

def skipBlanks (s : List Char) : List Char := s.dropWhile isBlank

theorem length_skipBlanks (s : List Char) : (skipBlanks s).length ≤ s.length :=
  (List.dropWhile_suffix _).length_le

/-- Reads the characters of a word. -/
def word : List Char → Reader Unit
  | [], s => .ok ((), s)
  | _ :: _, [] => .error ⟨.endInValue, 0⟩
  | w :: ws, c :: s => if c = w then word ws s else .error (failOn (c :: s) .expectedWord)

theorem length_of_word {w s r : List Char} (h : word w s = .ok ((), r)) : r.length ≤ s.length := by
  induction w generalizing s with
  | nil => cases h; exact Nat.le_refl _
  | cons a w ih =>
    cases s with
    | nil => cases h
    | cons c s =>
      simp only [word] at h
      split at h
      · have := ih h
        simp only [List.length_cons]
        omega
      · cases h

/-- The value of a hexadecimal digit. -/
def hexDigit? (c : Char) : Option Nat :=
  if '0' ≤ c && c ≤ '9' then some (c.toNat - '0'.toNat)
  else if 'a' ≤ c && c ≤ 'f' then some (c.toNat - 'a'.toNat + 10)
  else if 'A' ≤ c && c ≤ 'F' then some (c.toNat - 'A'.toNat + 10)
  else none

/-- The value of four hexadecimal digits. -/
def hexValue? : List Char → Option (Nat × List Char)
  | a :: b :: c :: d :: s => do
    let a ← hexDigit? a
    let b ← hexDigit? b
    let c ← hexDigit? c
    let d ← hexDigit? d
    return (((a * 16 + b) * 16 + c) * 16 + d, s)
  | _ => none

/-- Reads the four hexadecimal digits of an escape, which are the next four octets. -/
def hexUnit : Reader Nat := fun s =>
  match hexValue? s with
  | some r => .ok r
  | none =>
    if size s < 4 then .error ⟨.endInString, 0⟩
    else .error ⟨.invalidEscape, size s - 4⟩

/-- The character of a pair of surrogates. -/
def joinSurrogates (high low : Nat) : Char :=
  Char.ofNat (0x10000 + (high - 0xD800) * 0x400 + (low - 0xDC00))

/-- Reads what follows the backslash and the `u` of an escape. -/
def unicodeEscape : Reader Char := fun s => do
  let (unit, s) ← hexUnit s
  if 0xDC00 ≤ unit ∧ unit ≤ 0xDFFF then .error (failAt s .loneSurrogate)
  else if unit < 0xD800 ∨ 0xDBFF < unit then .ok (Char.ofNat unit, s)
  else match s with
    | '\\' :: 'u' :: s => do
      let (low, s) ← hexUnit s
      if low < 0xDC00 ∨ 0xDFFF < low then .error (failAt s .loneSurrogate)
      else .ok (joinSurrogates unit low, s)
    | [] | ['\\'] => .error ⟨.endInString, 0⟩
    | '\\' :: s => .error (failOn s .endOfHexEscape)
    | s => .error (failOn s .endOfHexEscape)

/-- The character that a backslash and this character stand for. -/
def simpleEscape? : Char → Option Char
  | '"' => some '"'
  | '\\' => some '\\'
  | '/' => some '/'
  | 'b' => some '\x08'
  | 'f' => some '\x0C'
  | 'n' => some '\n'
  | 'r' => some '\r'
  | 't' => some '\t'
  | _ => none

/-- Reads what follows a backslash. -/
def escape : Reader Char
  | [] => .error ⟨.endInString, 0⟩
  | c :: s =>
    match simpleEscape? c with
    | some e => .ok (e, s)
    | none => if c = 'u' then unicodeEscape s else .error (failOn (c :: s) .invalidEscape)

/-- Passes over what follows a backslash; surrogates need not be in pairs. -/
def skipEscape : Reader Unit
  | [] => .error ⟨.endInString, 0⟩
  | c :: s =>
    match simpleEscape? c with
    | some _ => .ok ((), s)
    | none =>
      if c = 'u' then (hexUnit s).map fun (_, s) => ((), s)
      else .error (failOn (c :: s) .invalidEscape)

theorem length_of_hexUnit {s r : List Char} {n : Nat} (h : hexUnit s = .ok (n, r)) :
    r.length < s.length := by
  simp only [hexUnit] at h
  split at h
  · next p hp =>
    cases h
    unfold hexValue? at hp
    split at hp
    · simp only [Option.bind_eq_bind, Option.bind_eq_some_iff] at hp
      obtain ⟨_, _, _, _, _, _, _, _, hp⟩ := hp
      cases hp
      simp only [List.length_cons]
      omega
    · cases hp
  · split at h <;> cases h

theorem length_of_unicodeEscape {s r : List Char} {c : Char} (h : unicodeEscape s = .ok (c, r)) :
    r.length < s.length := by
  simp only [unicodeEscape, bind, Except.bind] at h
  split at h
  · cases h
  next p hp =>
    have h₁ := length_of_hexUnit hp
    split at h
    · cases h
    · split at h
      · cases h; exact h₁
      · split at h
        · next hs =>
          split at h
          · cases h
          next q hq =>
            have h₂ := length_of_hexUnit hq
            split at h
            · cases h
            · simp only [Except.ok.injEq, Prod.mk.injEq] at h
              obtain ⟨_, rfl⟩ := h
              simp only [hs, List.length_cons] at h₁
              omega
        all_goals cases h

theorem length_of_escape {s r : List Char} {c : Char} (h : escape s = .ok (c, r)) :
    r.length < s.length := by
  cases s with
  | nil => cases h
  | cons a s =>
    simp only [escape] at h
    split at h
    · cases h; simp
    · split at h
      · have := length_of_unicodeEscape h
        simp only [List.length_cons]
        omega
      · cases h

theorem length_of_skipEscape {s r : List Char} (h : skipEscape s = .ok ((), r)) :
    r.length < s.length := by
  cases s with
  | nil => cases h
  | cons a s =>
    simp only [skipEscape] at h
    split at h
    · cases h; simp
    · split at h
      · cases hq : hexUnit s with
        | error e => simp [hq, Except.map] at h
        | ok q =>
          obtain ⟨n, t⟩ := q
          have := length_of_hexUnit hq
          simp only [hq, Except.map, Except.ok.injEq, Prod.mk.injEq, true_and] at h
          subst h
          simp only [List.length_cons]
          omega
      · cases h

/-- Reads a string behind its opening quote. -/
def textTail (s : List Char) : Except Failure (List Char × List Char) :=
  match s with
  | [] => .error ⟨.endInString, 0⟩
  | '"' :: s => .ok ([], s)
  | '\\' :: s =>
    match _h : escape s with
    | .error e => .error e
    | .ok (c, r) => (textTail r).map fun (t, r) => (c :: t, r)
  | c :: s =>
    if c.toNat < 0x20 then .error (failAt s .controlCharacter)
    else (textTail s).map fun (t, r) => (c :: t, r)
termination_by s.length
decreasing_by
  · have := length_of_escape _h
    simp only [List.length_cons]
    omega
  · simp

/-- Passes over a string behind its opening quote. -/
def skipTextTail (s : List Char) : Except Failure (List Char) :=
  match s with
  | [] => .error ⟨.endInString, 0⟩
  | '"' :: s => .ok s
  | '\\' :: s =>
    match _h : skipEscape s with
    | .error e => .error e
    | .ok (_, r) => skipTextTail r
  | c :: s =>
    if c.toNat < 0x20 then .error (failAt (c :: s) .controlCharacter)
    else skipTextTail s
termination_by s.length
decreasing_by
  · have := length_of_skipEscape _h
    simp only [List.length_cons]
    omega
  · simp

theorem length_of_skipTextTail {s r : List Char} (h : skipTextTail s = .ok r) :
    r.length < s.length := by
  fun_induction skipTextTail s with
  | case1 => cases h
  | case2 s => cases h; simp
  | case3 => cases h
  | case4 s u t hs ih =>
    have h₁ := ih h
    have h₂ := length_of_skipEscape hs
    simp only [List.length_cons]
    omega
  | case5 => cases h
  | case6 c s _ _ _ ih =>
    have := ih h
    simp only [List.length_cons]
    omega

/-- Reads a string behind its opening quote. -/
def text : Reader String := fun s => (textTail s).map fun (t, r) => (String.ofList t, r)

theorem length_of_textTail {s t r : List Char} (h : textTail s = .ok (t, r)) :
    r.length < s.length := by
  fun_induction textTail s generalizing t r with
  | case1 => cases h
  | case2 s => cases h; simp
  | case3 => cases h
  | case4 s c u hs ih =>
    cases ht : textTail u with
    | error e => simp [ht, Except.map] at h
    | ok p =>
      have h₁ := ih ht
      have h₂ := length_of_escape hs
      simp only [ht, Except.map, Except.ok.injEq, Prod.mk.injEq] at h
      obtain ⟨_, rfl⟩ := h
      simp only [List.length_cons]
      omega
  | case5 => cases h
  | case6 c s _ _ _ ih =>
    cases ht : textTail s with
    | error e => simp [ht, Except.map] at h
    | ok p =>
      have := ih ht
      simp only [ht, Except.map, Except.ok.injEq, Prod.mk.injEq] at h
      obtain ⟨_, rfl⟩ := h
      simp only [List.length_cons]
      omega

theorem length_of_text {s r : List Char} {t : String} (h : text s = .ok (t, r)) :
    r.length < s.length := by
  cases ht : textTail s with
  | error e => simp [text, ht, Except.map] at h
  | ok p =>
    have := length_of_textTail ht
    simp only [text, ht, Except.map, Except.ok.injEq, Prod.mk.injEq] at h
    obtain ⟨_, rfl⟩ := h
    exact this

end ServiceAdmin.Json
