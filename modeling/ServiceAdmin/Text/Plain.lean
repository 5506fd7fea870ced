/-!
# Plain text

What is left of a text when the sequences that control a terminal are taken out.  A sequence begins
with an escape character; a line end or a tab within it ends it and is kept.
-/

namespace ServiceAdmin.Text

/-- Where a scan stands in a control sequence. -/
inductive Sequence
  | outside
  /-- Behind the escape character. -/
  | begun
  /-- Behind an intermediate character. -/
  | continued
  /-- Among the parameters behind `ESC [`. -/
  | parameters
  /-- In a string that a bell ends. -/
  | title
  /-- In another string; it lasts until the next escape character. -/
  | string
  deriving DecidableEq, Repr

def isEscape (c : Char) : Bool := c = '\x1b'

/-- The controls that are kept outside of sequences. -/
def isKeptControl (c : Char) : Bool := c = '\t' || c = '\n' || c = '\x0c' || c = '\r'

/-- The controls that break a sequence off. -/
def isCancel (c : Char) : Bool := c = '\x18' || c = '\x1a'

def isOtherControl (c : Char) : Bool := c.toNat < 0x20 || c = '\x7f'

/-- Whether a character is left when it stands in a sequence, and where the scan stands then. -/
def Sequence.next (s : Sequence) (c : Char) : Bool × Sequence :=
  if isEscape c then (false, begun)
  else if isCancel c then (false, outside)
  else match s with
    | outside => (isKeptControl c || !isOtherControl c, outside)
    | title => (false, if c = '\x07' then outside else title)
    | string => (false, string)
    | begun =>
      if isKeptControl c then (true, outside)
      else if isOtherControl c then (false, begun)
      else if c.toNat < 0x30 then (false, continued)
      else if c = '[' then (false, parameters)
      else if c = ']' then (false, title)
      else if c = 'P' || c = 'X' || c = '^' || c = '_' then (false, string)
      else (false, outside)
    | continued =>
      if isKeptControl c then (true, outside)
      else if isOtherControl c then (false, continued)
      else (false, if c.toNat < 0x30 then continued else outside)
    | parameters =>
      if isKeptControl c then (true, outside)
      else if isOtherControl c then (false, parameters)
      else (false, if c.toNat < 0x40 then parameters else outside)

def plainFrom (s : Sequence) : List Char → List Char
  | [] => []
  | c :: rest =>
    let (kept, s) := s.next c
    if kept then c :: plainFrom s rest else plainFrom s rest

/-- A text without control sequences and without the controls that do not divide it. -/
def plain (text : String) : String := String.ofList (plainFrom .outside text.toList)

end ServiceAdmin.Text
