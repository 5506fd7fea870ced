import ServiceAdmin.Json.Record
import ServiceAdmin.Proofs.Text.Ascii

/-!
# Readers by the character at the front

What a reader does is told by the character that it meets behind blanks.  These equations say so
with conditions on that character, so that later proofs decide conditions and not patterns.
-/

namespace ServiceAdmin.Json

open Text (forall_ascii toNat_lt_of_isAlphanum)

variable {α : Type} {s r : List Char} {c : Char}

/-! ## Numbers -/

theorem exponentSign_cons (c : Char) (s : List Char) :
    exponentSign (c :: s) =
      if c = '+' then (false, s) else if c = '-' then (true, s) else (false, c :: s) := by
  unfold exponentSign
  split
  · next heq => cases heq; rfl
  · next heq => cases heq; rfl
  · next hplus hminus =>
    rw [if_neg fun hc : c = '+' => hplus s (hc ▸ rfl),
      if_neg fun hc : c = '-' => hminus s (hc ▸ rfl)]

/-- Passes over an exponent if there is one. -/
def skipExponent? (s : List Char) : Except Failure (List Char) :=
  match s with
  | [] => .ok []
  | c :: r => if c = 'e' ∨ c = 'E' then skipExponent r else .ok (c :: r)

theorem skipAfterDigits_cons (c : Char) (s : List Char) :
    skipAfterDigits (c :: s) =
      if c = '.' then
        match s with
        | [] => .error ⟨.invalidNumber, 0⟩
        | d :: r =>
          if isDigit d then skipExponent? (skipDigits r)
          else .error (failOn (d :: r) .invalidNumber)
      else skipExponent? (c :: s) := by
  have hexponent {c : Char} {s : List Char} (he : ∀ r, c :: s = 'e' :: r → False)
      (hE : ∀ r, c :: s = 'E' :: r → False) : skipExponent? (c :: s) = .ok (c :: s) := by
    refine if_neg ?_
    rintro (rfl | rfl)
    · exact he s rfl
    · exact hE s rfl
  unfold skipAfterDigits
  split
  · next heq => cases heq; rfl
  · next d r heq =>
    cases heq
    refine Eq.trans (ite_congr rfl (fun _ => ?_) fun _ => rfl) (if_pos rfl).symm
    split
    · next h => rw [h]; rfl
    · next h => rw [h]; rfl
    · next he hE =>
      generalize skipDigits r = t at he hE
      cases t with
      | nil => rfl
      | cons c t => exact (hexponent he hE).symm
  · next heq => cases heq; rfl
  · next heq => cases heq; rfl
  · next hend hpoint he hE =>
    rw [hexponent he hE, if_neg]
    rintro rfl
    cases s with
    | nil => exact hend rfl
    | cons d s => exact hpoint d s rfl

/-! ## Strings -/

/-- Reads the escape of the low surrogate that belongs to the high one `unit`. -/
def lowSurrogate (unit : Nat) : Reader Char
  | [] => .error ⟨.endInString, 0⟩
  | c :: s =>
    if c = '\\' then
      match s with
      | [] => .error ⟨.endInString, 0⟩
      | d :: r =>
        if d = 'u' then
          (hexUnit r).bind fun (low, r) =>
            if low < 0xDC00 ∨ 0xDFFF < low then .error (failAt r .loneSurrogate)
            else .ok (joinSurrogates unit low, r)
        else .error (failOn (d :: r) .endOfHexEscape)
    else .error (failOn (c :: s) .endOfHexEscape)

theorem unicodeEscape_eq (s : List Char) :
    unicodeEscape s = (hexUnit s).bind fun (unit, s) =>
      if 0xDC00 ≤ unit ∧ unit ≤ 0xDFFF then .error (failAt s .loneSurrogate)
      else if unit < 0xD800 ∨ 0xDBFF < unit then .ok (Char.ofNat unit, s)
      else lowSurrogate unit s := by
  refine congrArg (hexUnit s).bind (funext fun x => ?_)
  obtain ⟨unit, r⟩ := x
  refine ite_congr rfl (fun _ => rfl) fun _ => ite_congr rfl (fun _ => rfl) fun _ => ?_
  split
  · rfl
  · rfl
  · rfl
  · next s hu hne =>
    cases s with
    | nil => exact absurd rfl hne
    | cons d s => exact (if_neg fun hd : d = 'u' => hu s (hd ▸ rfl)).symm
  · next hnil _ hmark =>
    cases r with
    | nil => exact absurd rfl hnil
    | cons c s => exact (if_neg fun hc : c = '\\' => hmark s (hc ▸ rfl)).symm

section Tails

variable {c : Char} (hquote : c ≠ '"') (hmark : c ≠ '\\') (s : List Char)

include hquote hmark

theorem textTail_cons :
    textTail (c :: s) =
      if c.toNat < 0x20 then .error (failAt s .controlCharacter)
      else (textTail s).map fun (t, r) => (c :: t, r) := by
  rw [textTail]
  · exact hquote
  · exact hmark

theorem skipTextTail_cons :
    skipTextTail (c :: s) =
      if c.toNat < 0x20 then .error (failAt (c :: s) .controlCharacter) else skipTextTail s := by
  rw [skipTextTail]
  · exact hquote
  · exact hmark

end Tails

theorem textTail_escape (s : List Char) :
    textTail ('\\' :: s) = (escape s).bind fun (c, r) =>
      (textTail r).map fun (t, r) => (c :: t, r) := by
  rw [textTail]
  split
  · next h => rw [h]; rfl
  · next h => rw [h]; rfl

theorem skipTextTail_escape (s : List Char) :
    skipTextTail ('\\' :: s) = (skipEscape s).bind fun (_, r) => skipTextTail r := by
  rw [skipTextTail]
  split
  · next h => rw [h]; rfl
  · next h => rw [h]; rfl

/-- A character that stands for itself in a string. -/
structure IsLiteral (c : Char) : Prop where
  quote : c ≠ '"'
  mark : c ≠ '\\'
  control : ¬ c.toNat < 0x20

theorem textTail_append {w : List Char} (hw : ∀ c ∈ w, IsLiteral c) (s : List Char) :
    textTail (w ++ s) = (textTail s).map fun (t, r) => (w ++ t, r) := by
  induction w with
  | nil =>
    rw [List.nil_append]
    cases textTail s <;> rfl
  | cons c w ih =>
    have hc := hw c List.mem_cons_self
    rw [List.cons_append, textTail_cons hc.quote hc.mark, if_neg hc.control,
      ih fun d hd => hw d (List.mem_cons_of_mem _ hd)]
    cases textTail s <;> rfl

/-- A string without escapes is read as it stands. -/
theorem text_append {w : List Char} (hw : ∀ c ∈ w, IsLiteral c) (s : List Char) :
    text (w ++ '"' :: s) = .ok (String.ofList w, s) := by
  rw [text, textTail_append hw, textTail]
  simp only [Except.map, List.append_nil]

theorem skipTextTail_append {w : List Char} (hw : ∀ c ∈ w, IsLiteral c) (s : List Char) :
    skipTextTail (w ++ s) = skipTextTail s := by
  induction w with
  | nil => rfl
  | cons c w ih =>
    have hc := hw c List.mem_cons_self
    rw [List.cons_append, skipTextTail_cons hc.quote hc.mark, if_neg hc.control,
      ih fun d hd => hw d (List.mem_cons_of_mem _ hd)]

theorem isLiteral_of_isAlphanum {c : Char} (h : c.isAlphanum = true) : IsLiteral c := by
  have hc := forall_ascii
    (P := fun c => c.isAlphanum = true → c ≠ '"' ∧ c ≠ '\\' ∧ ¬ c.toNat < 0x20)
    (by decide) (toNat_lt_of_isAlphanum h) h
  exact ⟨hc.1, hc.2.1, hc.2.2⟩

/-! ## Passing over -/

theorem colon_of_cons (h : skipBlanks s = c :: r) :
    colon s = if c = ':' then .ok r else .error (failOn (c :: r) .expectedColon) := by
  unfold colon
  rw [h]
  split
  · next heq => cases heq
  · next heq => cases heq; rfl
  · next hcolon => rw [if_neg fun hc : c = ':' => hcolon r (hc ▸ rfl)]

theorem skipKey_of_cons (h : skipBlanks s = c :: r) :
    skipKey s =
      if c = '"' then (skipTextTail r).bind colon else .error (failOn (c :: r) .keyNotString) := by
  unfold skipKey
  rw [h]
  split
  · next heq => cases heq
  · next heq => cases heq; rfl
  · next hquote => rw [if_neg fun hc : c = '"' => hquote r (hc ▸ rfl)]

section AtEnd

variable (stack : List Bracket) (frame : Bracket) (h : skipBlanks s = [])

include h

theorem skipValue_of_nil : skipValue stack s = .error ⟨.endInValue, 0⟩ := by
  rw [skipValue]
  split
  · rfl
  · next heq => rw [heq] at h; cases h

theorem skipOpened_of_nil : skipOpened frame stack s = .error ⟨frame.ended, 0⟩ := by
  rw [skipOpened]
  split
  · rfl
  · next heq => rw [heq] at h; cases h

theorem skipRest_of_nil : skipRest (frame :: stack) s = .error ⟨frame.ended, 0⟩ := by
  rw [skipRest]
  split
  · rfl
  · next heq => rw [heq] at h; cases h

end AtEnd

section AtFront

variable (stack : List Bracket) (frame : Bracket) (h : skipBlanks s = c :: r)

include h

theorem skipValue_of_cons :
    skipValue stack s =
      if c = '[' then skipOpened .list stack r
      else if c = '\x7b' then skipOpened .object stack r
      else (skipScalar c r).bind (skipRest stack) := by
  rw [skipValue]
  split
  · next heq => rw [heq] at h; cases h
  · next heq =>
    cases heq.symm.trans h
    refine ite_congr rfl (fun _ => rfl) fun _ => ite_congr rfl (fun _ => rfl) fun _ => ?_
    split <;> next heq => rw [heq]; rfl

theorem skipOpened_of_cons :
    skipOpened frame stack s =
      if c = frame.close then skipRest stack r
      else (skipToValue frame (c :: r)).bind (skipValue (frame :: stack)) := by
  rw [skipOpened]
  split
  · next heq => rw [heq] at h; cases h
  · next heq =>
    cases heq.symm.trans h
    refine ite_congr rfl (fun _ => rfl) fun _ => ?_
    split <;> next heq => rw [heq]; rfl

theorem skipRest_of_cons :
    skipRest (frame :: stack) s =
      if c = ',' then (skipToValue frame r).bind (skipValue (frame :: stack))
      else if c = frame.close then skipRest stack r
      else .error (failOn (c :: r) frame.expectedComma) := by
  rw [skipRest]
  split
  · next heq => rw [heq] at h; cases h
  · next heq =>
    cases heq.symm.trans h
    refine ite_congr rfl (fun _ => ?_) fun _ => rfl
    split <;> next heq => rw [heq]; rfl

end AtFront

/-- A string without escapes is passed over to its closing quote. -/
theorem skipValue_text {w : List Char} (hw : ∀ c ∈ w, IsLiteral c) (s : List Char) :
    skipValue [] ('"' :: (w ++ '"' :: s)) = .ok s := by
  have hscalar : skipScalar '"' (w ++ '"' :: s) = .ok s := by
    rw [skipScalar, if_neg (by decide), if_neg (by decide), if_neg (by decide), if_neg (by decide),
      if_neg (by decide), if_pos rfl, skipTextTail_append hw, skipTextTail]
  rw [skipValue_of_cons [] rfl, if_neg (by decide), if_neg (by decide), hscalar]
  exact skipRest.eq_1 s

/-! ## Lists -/

/-- Reads what stands behind a comma in a list. -/
def elementBehindComma : Reader Bool := fun s =>
  match skipBlanks s with
  | [] => .error ⟨.endInValue, 0⟩
  | c :: r => if c = ']' then .error (failOn (c :: r) .trailingComma) else .ok (true, c :: r)

theorem nextElement_of_cons (first : Bool) (h : skipBlanks s = c :: r) :
    nextElement first s =
      if c = ']' then .ok (false, c :: r)
      else if first then .ok (true, c :: r)
      else if c = ',' then elementBehindComma r
      else .error (failOn (c :: r) .expectedCommaOrBracket) := by
  unfold nextElement elementBehindComma
  rw [h]
  refine ite_congr rfl (fun _ => rfl) fun _ => ite_congr rfl (fun _ => rfl) fun _ =>
    ite_congr rfl (fun _ => ?_) fun _ => rfl
  split
  · next heq => rw [heq]
  · next heq => rw [heq]; rfl
  · next hend hbracket =>
    cases heq : skipBlanks r with
    | nil => exact absurd heq hend
    | cons d t => exact (if_neg fun hd : d = ']' => hbracket t (hd ▸ heq)).symm

theorem closeList_of_cons (h : skipBlanks s = c :: r) :
    closeList s =
      if c = ']' then (none, r)
      else if c = ',' then
        match skipBlanks r with
        | [] => (some (failOn [] .trailingCharacters), [])
        | d :: t =>
          (some (failOn (d :: t) (if d = ']' then .trailingComma else .trailingCharacters)), d :: t)
      else (some (failOn (c :: r) .trailingCharacters), c :: r) := by
  unfold closeList
  rw [h]
  split
  · next heq => cases heq
  · next heq => cases heq; rfl
  · next heq =>
    cases heq
    refine Eq.trans ?_ ((if_neg (by decide)).trans (if_pos rfl)).symm
    split
    · next heq => rw [heq]; rfl
    · next hbracket =>
      cases heq : skipBlanks r with
      | nil => rfl
      | cons d t =>
        dsimp only
        rw [if_neg fun hd : d = ']' => hbracket t (hd ▸ heq)]
  · next hbracket hcomma =>
    rw [if_neg fun hc : c = ']' => hbracket r (hc ▸ rfl),
      if_neg fun hc : c = ',' => hcomma r (hc ▸ rfl)]

/-! ## Objects -/

/-- Reads what stands behind a comma in an object. -/
def keyBehindComma : Reader (Option String) := fun s =>
  match skipBlanks s with
  | [] => .error ⟨.endInValue, 0⟩
  | c :: r =>
    if c = '"' then (text r).map fun (k, r) => (some k, r)
    else if c = '\x7d' then .error (failOn (c :: r) .trailingComma)
    else .error (failOn (c :: r) .keyNotString)

theorem nextKey_of_cons (first : Bool) (h : skipBlanks s = c :: r) :
    nextKey first s =
      if c = '\x7d' then .ok (none, c :: r)
      else if first then
        if c = '"' then (text r).map fun (k, r) => (some k, r)
        else .error (failOn (c :: r) .keyNotString)
      else if c = ',' then keyBehindComma r
      else .error (failOn (c :: r) .expectedCommaOrBrace) := by
  unfold nextKey keyBehindComma
  rw [h]
  refine ite_congr rfl (fun _ => rfl) fun _ => ite_congr rfl (fun _ => rfl) fun _ =>
    ite_congr rfl (fun _ => ?_) fun _ => rfl
  split
  · next heq => rw [heq]
  · next heq => rw [heq]; rfl
  · next heq => rw [heq]; rfl
  · next hend hquote hbrace =>
    cases heq : skipBlanks r with
    | nil => exact absurd heq hend
    | cons d t =>
      exact ((if_neg fun hd : d = '"' => hquote t (hd ▸ heq)).trans
        (if_neg fun hd : d = '\x7d' => hbrace t (hd ▸ heq))).symm

theorem nextKey_text {name : List Char} (hname : ∀ c ∈ name, IsLiteral c) (s : List Char) :
    nextKey true ('"' :: (name ++ '"' :: s)) = .ok (some (String.ofList name), s) := by
  rw [nextKey_of_cons true rfl, if_neg (by decide), if_pos rfl, if_pos rfl, text_append hname]
  rfl

theorem nextKey_comma_text {name : List Char} (hname : ∀ c ∈ name, IsLiteral c) (s : List Char) :
    nextKey false (',' :: '"' :: (name ++ '"' :: s)) = .ok (some (String.ofList name), s) := by
  have hfront : skipBlanks ('"' :: (name ++ '"' :: s)) = '"' :: (name ++ '"' :: s) := rfl
  rw [nextKey_of_cons false rfl, if_neg (by decide), if_neg Bool.false_ne_true, if_pos rfl,
    keyBehindComma, hfront]
  dsimp only
  rw [if_pos rfl, text_append hname]
  rfl

theorem closeObject_of_cons (h : skipBlanks s = c :: r) :
    closeObject s =
      if c = '\x7d' then (none, r)
      else (some (failOn (c :: r) (if c = ',' then .trailingComma else .trailingCharacters)),
        c :: r) := by
  unfold closeObject
  rw [h]
  split
  · next heq => cases heq
  · next heq => cases heq; rfl
  · next heq => cases heq; rfl
  · next hbrace hcomma =>
    rw [if_neg fun hc : c = '\x7d' => hbrace r (hc ▸ rfl),
      if_neg fun hc : c = ',' => hcomma r (hc ▸ rfl)]

/-! ## Elements and members -/

theorem Shape.elements_eq (item : Shape α) (first : Bool) (s : List Char) :
    elements item first s = (nextElement first s).bind fun (more, r) =>
      if more then (item.read r).bind fun (a, r) =>
        (elements item false r).map fun (as, r) => (a :: as, r)
      else .ok ([], r) := by
  rw [elements]
  split
  · next h => rw [h]; rfl
  · next h => rw [h]; rfl
  · next r h =>
    rw [h]
    show _ = (item.read r).bind _
    split <;> next h => rw [h]; rfl

namespace Layout

variable {layout : Layout α}

theorem readMembers_eq (layout : Layout α) (first : Bool) (seen : List String) (record : α)
    (s : List Char) :
    layout.readMembers first seen record s = (nextKey first s).bind fun (key, r) =>
      match key with
      | none => .ok (layout.complete seen record, r)
      | some key =>
        match layout.member? key with
        | none =>
          if layout.closed then
            .ok (.error (.unknownField key (layout.members.map (·.name))), r)
          else (colon r).bind fun r => (skipValue [] r).bind fun r =>
            layout.readMembers false seen record r
        | some m =>
          if seen.contains m.name then .ok (.error (.duplicateField m.name), r)
          else (colon r).bind fun r => (m.change.read r).bind fun (change, r) =>
            layout.readMembers false (m.name :: seen) (change record) r := by
  rw [readMembers]
  split
  · next h => rw [h]; rfl
  · next h => rw [h]; rfl
  · next h =>
    rw [h]
    dsimp only [Except.bind]
    cases hm : layout.member? _ with
    | none =>
      refine ite_congr rfl (fun _ => rfl) fun _ => ?_
      split
      · next h => rw [h]
      · next h =>
        rw [h]
        dsimp only
        split <;> next h => rw [h]
    | some m =>
      refine ite_congr rfl (fun _ => rfl) fun _ => ?_
      split
      · next h => rw [h]
      · next h =>
        rw [h]
        dsimp only
        split <;> next h => rw [h]

/-- A member that is not read fails the record. -/
theorem readMembers_of_member_error {first : Bool} {seen : List String} {record : α}
    {s r t : List Char} {key : String} {m : Member α} {e : Failure}
    (hkey : nextKey first s = .ok (some key, r)) (hm : layout.member? key = some m)
    (hseen : seen.contains m.name = false) (hcolon : colon r = .ok t)
    (hvalue : m.change.read t = .error e) : layout.readMembers first seen record s = .error e := by
  rw [readMembers_eq, hkey]
  simp only [Except.bind, hm, hseen, hcolon, hvalue, Bool.false_eq_true, if_false]

/-- A member of another name is passed over. -/
theorem readMembers_of_unknown {first : Bool} {seen : List String} {record : α}
    {s r t u : List Char} {key : String} (hkey : nextKey first s = .ok (some key, r))
    (hm : layout.member? key = none) (hopened : layout.closed = false) (hcolon : colon r = .ok t)
    (hvalue : skipValue [] t = .ok u) :
    layout.readMembers first seen record s = layout.readMembers false seen record u := by
  rw [readMembers_eq, hkey]
  simp only [Except.bind, hm, hopened, hcolon, hvalue, Bool.false_eq_true, if_false]

end Layout

end ServiceAdmin.Json
