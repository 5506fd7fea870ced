import Mathlib.Data.List.Forall2
import ServiceAdmin.Platform.Target
import ServiceAdmin.Proofs.Text.Ascii
import ServiceAdmin.Proofs.Text.Pieces
import ServiceAdmin.Proofs.Text.Trimmed

/-!
# What is read of `cf target`

The four values are read from every layout of the lines that show them: in any order, among other
lines, with blanks around the parts of a line and with line ends of either kind
(`get_ofOutput_of_layout`).  A value may hold colons and look like a line of its own.
-/

namespace ServiceAdmin.Platform

/-! ## Layouts -/

/-- What a line of the output can tell. -/
inductive Label
  | apiEndpoint
  | user
  | org
  | space
  deriving DecidableEq, Repr

def Label.text : Label → String
  | apiEndpoint => "API endpoint"
  | user => "user"
  | org => "org"
  | space => "space"

def Target.get (t : Target) : Label → Option String
  | .apiEndpoint => t.apiEndpoint
  | .user => t.user
  | .org => t.org
  | .space => t.space

/-- A value that a line can show: it is not empty, and has no blanks at its ends. -/
structure IsTargetValue (value : String) : Prop where
  filled : value ≠ ""
  unbroken : '\n' ∉ value.toList
  trimmed : Text.IsTrimmed value.toList

/-- Nothing but spaces and tabs. -/
def IsPad (s : List Char) : Prop := ∀ c ∈ s, c ∈ [' ', '\t']

instance : DecidablePred IsPad := fun _ => inferInstanceAs (Decidable (∀ _ ∈ _, _))

/-- The line shows the value: label, colon and value, with pads around the label and the value.  The
letters of the label may be of either case. -/
inductive IsFieldLine (label : Label) (value : String) : List Char → Prop
  | intro {a n b c d : List Char} : IsPad a → IsPad b → IsPad c → IsPad d →
      sameLetters n label.text.toList = true →
      IsFieldLine label value (a ++ (n ++ b) ++ ':' :: (c ++ (value.toList ++ d)))

/-- The line has no colon, or another label stands before its first colon. -/
def IsOtherLine (line : List Char) : Prop :=
  '\n' ∉ line ∧ (':' ∉ line ∨ ∃ name rest, line = name ++ ':' :: rest ∧ ':' ∉ name ∧
    ∀ label : Label, sameLetters (Text.trimChars name) label.text.toList = false)

/-- What a line tells: one of the values, or none. -/
inductive Shows (values : Label → String) : Option Label → List Char → Prop
  | field {label : Label} {line : List Char} : IsFieldLine label (values label) line →
      Shows values (some label) line
  | other {line : List Char} : IsOtherLine line → Shows values none line

/-- The text of some lines, each with a line end of either kind; the last may have none. -/
inductive IsTextOf : List (List Char) → List Char → Prop
  | nil : IsTextOf [] []
  | last (line : List Char) : IsTextOf [line] line
  | cons {line lineEnd text : List Char} {lines : List (List Char)} :
      lineEnd ∈ [['\n'], ['\r', '\n']] → IsTextOf lines text →
      IsTextOf (line :: lines) (line ++ (lineEnd ++ text))

variable {label : Label} {value : String} {values : Label → String} {line s : List Char}
  {lines : List (List Char)} {kinds : List (Option Label)} {β : Type}

/-! ## Line ends -/

theorem dropReturn_eq_or (line : List Char) :
    Text.dropReturn line = line ∨ line = Text.dropReturn line ++ ['\r'] := by
  unfold Text.dropReturn
  split
  · next rest h =>
    right
    rw [← List.reverse_reverse line, h, List.reverse_cons]
  · exact .inl rfl

section Search

/-! A search that a carriage return at the end of a line does not disturb, and that finds nothing on
an empty line, may look at the pieces between line feeds. -/

variable {f : List Char → Option β} (hnil : f [] = none) (hreturn : ∀ l, f (l ++ ['\r']) = f l)

include hreturn in
theorem apply_dropReturn (line : List Char) : f (Text.dropReturn line) = f line := by
  rcases dropReturn_eq_or line with h | h
  · rw [h]
  · rw [h, hreturn, ← h]

include hnil hreturn

theorem findSome?_linesOfPieces (ps : List (List Char)) :
    (Text.linesOfPieces ps).findSome? f = ps.findSome? f := by
  fun_induction Text.linesOfPieces ps with
  | case1 => rfl
  | case2 last hempty => simp [List.isEmpty_iff.1 hempty, hnil]
  | case3 => rfl
  | case4 p ps _ ih => rw [List.findSome?_cons, List.findSome?_cons, apply_dropReturn hreturn, ih]

theorem findSome?_lines_of_isTextOf (h : IsTextOf lines s) (hlines : ∀ l ∈ lines, '\n' ∉ l) :
    (Text.lines s).findSome? f = lines.findSome? f := by
  rw [Text.lines, findSome?_linesOfPieces hnil hreturn]
  induction h with
  | nil => simp [Text.pieces, hnil]
  | last line => rw [Text.pieces_of_notMem (hlines line List.mem_cons_self)]
  | @cons line lineEnd text lines hend _ ih =>
    obtain ⟨hline, hlines⟩ := List.forall_mem_cons.1 hlines
    simp only [List.mem_cons, List.not_mem_nil, or_false] at hend
    rcases hend with rfl | rfl
    · rw [List.singleton_append, Text.pieces_append_cons _ hline, List.findSome?_cons,
        List.findSome?_cons, ih hlines]
    · have hreturned : '\n' ∉ line ++ ['\r'] := by simp [hline]
      have htext : line ++ (['\r', '\n'] ++ text) = (line ++ ['\r']) ++ '\n' :: text := by simp
      rw [htext, Text.pieces_append_cons _ hreturned, List.findSome?_cons, List.findSome?_cons,
        hreturn, ih hlines]

end Search

/-! ## Single lines -/

theorem lineValue?_of_notMem (label : String) (h : ':' ∉ line) : lineValue? label line = none := by
  rw [lineValue?, Text.cutAt?_of_notMem h]
  rfl

/-- What is before the first colon must be the label, and what is behind it the value. -/
theorem lineValue?_append (label : String) {name : List Char} (h : ':' ∉ name) (rest : List Char) :
    lineValue? label (name ++ ':' :: rest) =
      if sameLetters (Text.trimChars name) label.toList && !(Text.trimChars rest).isEmpty then
        some (String.ofList (Text.trimChars rest))
      else none := by
  rw [lineValue?, Text.cutAt?_append h]
  rfl

/-- A line is without colons, or cut by its first colon. -/
theorem notMem_or_exists_append (sep : Char) (s : List Char) :
    sep ∉ s ∨ ∃ name rest, s = name ++ sep :: rest ∧ sep ∉ name := by
  by_cases h : sep ∈ s
  · obtain ⟨name, rest, hs, hname⟩ := List.eq_append_cons_of_mem h
    exact .inr ⟨name, rest, hs, hname⟩
  · exact .inl h

theorem lineValue?_append_return (label : String) (line : List Char) :
    lineValue? label (line ++ ['\r']) = lineValue? label line := by
  have hblank : ∀ c ∈ ['\r'], Text.isBlank c = true := by decide
  rcases notMem_or_exists_append ':' line with h | ⟨name, rest, rfl, hname⟩
  · have hreturned : ':' ∉ line ++ ['\r'] := by simp [h]
    rw [lineValue?_of_notMem label h, lineValue?_of_notMem label hreturned]
  · have htrim : Text.trimChars (rest ++ ['\r']) = Text.trimChars rest :=
      Text.trimChars_append (a := []) (by simp) hblank rest
    rw [List.append_assoc, List.cons_append, lineValue?_append label hname,
      lineValue?_append label hname, htrim]

theorem IsPad.isBlank (h : IsPad s) : ∀ c ∈ s, Text.isBlank c = true := by
  have hall : ∀ c ∈ [' ', '\t'], Text.isBlank c = true := by decide
  exact fun c hc => hall c (h c hc)

theorem IsPad.notMem {c : Char} (h : IsPad s) (hc : c ∉ [' ', '\t']) : c ∉ s :=
  fun hmem => hc (h c hmem)

/-- The characters of a label are letters, and a space within it. -/
theorem forall_of_sameLetters {name : List Char}
    (h : sameLetters name label.text.toList = true) :
    ':' ∉ name ∧ '\n' ∉ name ∧ Text.IsTrimmed name := by
  rw [sameLetters, decide_eq_true_eq] at h
  have hmem {c : Char} (hc : c ∈ name) : c.toLower ∈ label.text.toList.map Char.toLower := by
    rw [← h]
    exact List.mem_map_of_mem hc
  have hmarks : ∀ c ∈ [':', '\n'], c.toLower ∉ label.text.toList.map Char.toLower := by
    cases label <;> decide
  have hend {c : Char} (hc : c.toLower.isAlpha = true) : Text.isBlank c = false := by
    have hletter : c.toLower.toNat < 128 := by
      apply Text.toNat_lt_of_isAlphanum
      rw [Char.isAlphanum, hc, Bool.true_or]
    exact Text.forall_ascii (P := fun c => c.toLower.isAlpha = true → Text.isBlank c = false)
      (by decide +kernel) (Text.toNat_lt_of_toLower hletter) hc
  have hhead : ∀ c ∈ (label.text.toList.map Char.toLower).head?, c.isAlpha = true := by
    cases label <;> decide
  have hlast : ∀ c ∈ (label.text.toList.map Char.toLower).getLast?, c.isAlpha = true := by
    cases label <;> decide
  refine ⟨fun hc => hmarks ':' (by decide) (hmem hc), fun hc => hmarks '\n' (by decide) (hmem hc),
    ?_, ?_⟩
  · intro c hc
    apply hend
    apply hhead
    rw [← h, List.head?_map, hc]
    rfl
  · intro c hc
    apply hend
    apply hlast
    rw [← h, List.getLast?_map, hc]
    rfl

/-- A line that shows a value has the value of its label, and none of another. -/
theorem lineValue?_of_isFieldLine (hvalue : IsTargetValue value) (h : IsFieldLine label value line)
    (other : Label) : lineValue? other.text line = if other = label then some value else none := by
  cases h with
  | @intro a name b c d ha hb hc hd hname =>
    obtain ⟨hcolon, -, htrimmed⟩ := forall_of_sameLetters hname
    have hpad {s : List Char} (hs : IsPad s) : ':' ∉ s := hs.notMem (by decide)
    have hfront : ':' ∉ a ++ (name ++ b) := by simp [hpad ha, hcolon, hpad hb]
    have hfilled : value.toList ≠ [] := by simpa using hvalue.filled
    rw [lineValue?_append _ hfront, Text.trimChars_padded ha.isBlank hb.isBlank htrimmed,
      Text.trimChars_padded hc.isBlank hd.isBlank hvalue.trimmed, String.ofList_toList]
    have hsame : sameLetters name other.text.toList = true ↔ other = label := by
      rw [sameLetters, decide_eq_true_eq] at hname ⊢
      rw [hname]
      cases label <;> cases other <;> decide
    by_cases hother : other = label
    · rw [hsame.2 hother]
      simp [hother, hfilled]
    · simp [Bool.eq_false_iff.2 (mt hsame.1 hother), hother]

theorem lineValue?_of_isOtherLine (h : IsOtherLine line) (label : Label) :
    lineValue? label.text line = none := by
  obtain ⟨-, h | ⟨name, rest, rfl, hname, hother⟩⟩ := h
  · exact lineValue?_of_notMem _ h
  · rw [lineValue?_append _ hname, hother label]
    rfl

theorem IsFieldLine.unbroken (hvalue : IsTargetValue value) (h : IsFieldLine label value line) :
    '\n' ∉ line := by
  cases h with
  | @intro a name b c d ha hb hc hd hname =>
    have hpad {s : List Char} (hs : IsPad s) : '\n' ∉ s := hs.notMem (by decide)
    simp [hpad ha, (forall_of_sameLetters hname).2.1, hpad hb, hpad hc, hvalue.unbroken, hpad hd]

/-! ## Whole outputs -/

section Layout

variable {kind : Option Label} (hvalues : ∀ label, IsTargetValue (values label))

include hvalues

/-- A line has the value that it tells. -/
theorem lineValue?_of_shows (h : Shows values kind line) (label : Label) :
    lineValue? label.text line = if kind = some label then some (values label) else none := by
  cases h with
  | @field shown _ hline =>
    rw [lineValue?_of_isFieldLine (hvalues shown) hline]
    by_cases hshown : label = shown
    · simp [hshown]
    · simp [hshown, Ne.symm hshown]
  | other hline =>
    rw [lineValue?_of_isOtherLine hline]
    simp

theorem Shows.unbroken (h : Shows values kind line) : '\n' ∉ line := by
  cases h with
  | field hline => exact hline.unbroken (hvalues _)
  | other hline => exact hline.1

theorem unbroken_of_forall₂ (h : List.Forall₂ (Shows values) kinds lines) :
    ∀ line ∈ lines, '\n' ∉ line := by
  induction h with
  | nil => simp
  | cons hline _ ih => exact List.forall_mem_cons.2 ⟨hline.unbroken hvalues, ih⟩

/-- The first line that has a value for a label is one that tells it, if there is one. -/
theorem findSome?_lineValue? (h : List.Forall₂ (Shows values) kinds lines) (label : Label) :
    lines.findSome? (lineValue? label.text) =
      if some label ∈ kinds then some (values label) else none := by
  induction h with
  | nil => simp
  | @cons kind line kinds lines hline _ ih =>
    rw [List.findSome?_cons, lineValue?_of_shows hvalues hline, ih]
    by_cases hkind : kind = some label
    · simp [hkind]
    · simp [hkind, Ne.symm hkind]

/-- **Each value is read from the lines that tell it**, and one that no line tells is absent. -/
theorem get_ofOutput (h : List.Forall₂ (Shows values) kinds lines) {output : String}
    (htext : IsTextOf lines output.toList) (label : Label) :
    (Target.ofOutput output).get label =
      if some label ∈ kinds then some (values label) else none := by
  have hread : (Target.ofOutput output).get label = labelled? output label.text := by
    cases label <;> rfl
  have hnil : lineValue? label.text [] = none := lineValue?_of_notMem _ (by simp)
  rw [hread, labelled?, findSome?_lines_of_isTextOf hnil (lineValue?_append_return _) htext
    (unbroken_of_forall₂ hvalues h), findSome?_lineValue? hvalues h]

theorem Shows.eq_of_isFieldLine (h : Shows values kind line)
    (hline : IsFieldLine label (values label) line) : kind = some label := by
  have hread := lineValue?_of_shows hvalues h label
  rw [lineValue?_of_isFieldLine (hvalues label) hline, if_pos rfl] at hread
  by_contra hne
  rw [if_neg hne] at hread
  cases hread

end Layout

/-- The lines show the values, each on exactly one line. -/
def IsLayoutOf (values : Label → String) (lines : List (List Char)) : Prop :=
  ∃ kinds, List.Forall₂ (Shows values) kinds lines ∧ ∀ label, kinds.count (some label) = 1

/-- **The four values are read from every layout of their lines**; without the line of one of them
exactly that one is absent. -/
theorem get_ofOutput_of_layout (hvalues : ∀ label, IsTargetValue (values label))
    (hlayout : IsLayoutOf values lines) :
    (∀ output, IsTextOf lines output.toList →
      ∀ label, (Target.ofOutput output).get label = some (values label)) ∧
    ∀ before line after removed, lines = before ++ line :: after →
      IsFieldLine removed (values removed) line →
      ∀ output, IsTextOf (before ++ after) output.toList →
        ∀ label, (Target.ofOutput output).get label =
          if label = removed then none else some (values label) := by
  obtain ⟨kinds, hkinds, hcount⟩ := hlayout
  constructor
  · intro output htext label
    have hmem : some label ∈ kinds := List.count_pos_iff.1 (by rw [hcount]; exact Nat.one_pos)
    rw [get_ofOutput hvalues hkinds htext, if_pos hmem]
  · rintro before line after removed rfl hline output htext label
    have hbefore := List.forall₂_take_append _ _ _ hkinds
    obtain ⟨kind, rest, hkind, hafter, hrest⟩ :=
      List.forall₂_cons_right_iff.1 (List.forall₂_drop_append _ _ _ hkinds)
    obtain rfl := hkind.eq_of_isFieldLine hvalues hline
    have hsplit := List.take_append_drop before.length kinds
    generalize kinds.take before.length = front at hbefore hsplit
    rw [hrest] at hsplit
    rw [get_ofOutput hvalues (List.rel_append hbefore hafter) htext]
    have hone := hcount label
    rw [← hsplit, List.count_append, List.count_cons] at hone
    by_cases hremoved : label = removed
    · subst hremoved
      rw [if_pos rfl, if_neg]
      rw [← List.count_pos_iff, List.count_append]
      simp only [beq_self_eq_true, if_true] at hone
      omega
    · rw [if_neg hremoved, if_pos]
      rw [← List.count_pos_iff, List.count_append]
      simp only [beq_iff_eq, Option.some.injEq, Ne.symm hremoved, if_false] at hone
      omega

/-! ### An output with unusual lines -/

section Unusual

/-- The values hold colons, and one looks like a line of its own. -/
def unusualValues : Label → String
  | .apiEndpoint => "https://api.sys.example:8443"
  | .user => "org: system"
  | .org => "a:b"
  | .space => "dev"

def unusualLines : List (List Char) :=
  ["version: 3.180.0".toList, "\tORG\t: a:b  ".toList, "User:org: system".toList, [],
    "space of users".toList, "api endpoint:   https://api.sys.example:8443".toList,
    "space: dev".toList]

/-- The last line has no end, and the others have ends of both kinds. -/
def unusualOutput : String :=
  "version: 3.180.0\n\tORG\t: a:b  \r\nUser:org: system\n\r\nspace of users\n" ++
    "api endpoint:   https://api.sys.example:8443\nspace: dev"

theorem isTargetValue_unusualValues (label : Label) : IsTargetValue (unusualValues label) := by
  cases label <;> exact ⟨by decide, by decide, by decide, by decide⟩

theorem isOtherLine_version : IsOtherLine "version: 3.180.0".toList := by
  refine ⟨by decide, .inr ⟨"version".toList, " 3.180.0".toList, rfl, by decide, ?_⟩⟩
  intro label
  cases label <;> decide

theorem isFieldLine_user : IsFieldLine .user (unusualValues .user) "User:org: system".toList :=
  .intro (a := []) (n := "User".toList) (b := []) (c := []) (d := [])
    (by decide) (by decide) (by decide) (by decide) (by decide)

theorem isLayoutOf_unusualLines : IsLayoutOf unusualValues unusualLines := by
  refine ⟨[none, some .org, some .user, none, none, some .apiEndpoint, some .space], ?_, ?_⟩
  · refine .cons (.other isOtherLine_version) (.cons (.field ?_) (.cons (.field isFieldLine_user)
      (.cons (.other ⟨by decide, .inl (by decide)⟩) (.cons (.other ⟨by decide, .inl (by decide)⟩)
        (.cons (.field ?_) (.cons (.field ?_) .nil))))))
    · exact .intro (a := ['\t']) (n := "ORG".toList) (b := ['\t']) (c := [' ']) (d := [' ', ' '])
        (by decide) (by decide) (by decide) (by decide) (by decide)
    · exact .intro (a := []) (n := "api endpoint".toList) (b := []) (c := "   ".toList) (d := [])
        (by decide) (by decide) (by decide) (by decide) (by decide)
    · exact .intro (a := []) (n := "space".toList) (b := []) (c := [' ']) (d := [])
        (by decide) (by decide) (by decide) (by decide) (by decide)
  · intro label
    cases label <;> decide

theorem isTextOf_unusualOutput : IsTextOf unusualLines unusualOutput.toList := by
  have htext : unusualOutput.toList = "version: 3.180.0".toList ++ (['\n'] ++
      ("\tORG\t: a:b  ".toList ++ (['\r', '\n'] ++ ("User:org: system".toList ++ (['\n'] ++
        ([] ++ (['\r', '\n'] ++ ("space of users".toList ++ (['\n'] ++
          ("api endpoint:   https://api.sys.example:8443".toList ++ (['\n'] ++
            "space: dev".toList))))))))))) := by decide +kernel
  rw [htext]
  exact .cons (by decide) (.cons (by decide) (.cons (by decide) (.cons (by decide)
    (.cons (by decide) (.cons (by decide) (.last _))))))

theorem get_ofOutput_unusual :
    (∀ label, IsTargetValue (unusualValues label)) ∧ IsLayoutOf unusualValues unusualLines ∧
      IsTextOf unusualLines unusualOutput.toList ∧
      ∀ label, (Target.ofOutput unusualOutput).get label = some (unusualValues label) :=
  ⟨isTargetValue_unusualValues, isLayoutOf_unusualLines, isTextOf_unusualOutput,
    (get_ofOutput_of_layout isTargetValue_unusualValues isLayoutOf_unusualLines).1 _
      isTextOf_unusualOutput⟩

end Unusual

end ServiceAdmin.Platform
