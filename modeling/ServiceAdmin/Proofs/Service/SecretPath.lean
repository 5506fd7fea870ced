import Mathlib.Computability.RegularExpressions
import ServiceAdmin.Proofs.Text.Ascii
import ServiceAdmin.Proofs.Text.Pieces
import ServiceAdmin.Service.Operation

/-!
# Which paths of secrets are accepted

A path is accepted if it is four names with slashes between them, and no other is
(`checkSecretPath_exactly`).  The same paths are told by the regular expression `pathPattern`, where
a slash and a name come three times behind the first name.
-/

namespace ServiceAdmin.Service

open RegularExpression (char star matches'_add matches'_mul matches'_pow
  matches'_star)

/-- The ASCII letters and digits, and the marks that a name may have. -/
def nameChars : List Char :=
  ("ABCDEFGHIJKLMNOPQRSTUVWXYZ" ++ "abcdefghijklmnopqrstuvwxyz" ++ "0123456789" ++
    "._()[]:,-").toList

/-- A name: one or more of these characters. -/
def IsPathName (name : List Char) : Prop := name ≠ [] ∧ ∀ c ∈ name, c ∈ nameChars

/-- The pieces between the slashes are four, and each is a name. -/
def IsFourNames (path : String) : Prop :=
  ∃ a b c d, Text.pieces '/' path.toList = [a, b, c, d] ∧ ∀ name ∈ [a, b, c, d], IsPathName name

/-! ## The pattern -/

/-- One of some characters. -/
def oneOf (cs : List Char) : RegularExpression Char := (cs.map char).foldr (· + ·) 0

def oneOrMore (P : RegularExpression Char) : RegularExpression Char := P * star P

def namePattern : RegularExpression Char := oneOrMore (oneOf nameChars)

/-- A name, and three times a slash and a name. -/
def pathPattern : RegularExpression Char := namePattern * (char '/' * namePattern) ^ 3

theorem mem_char_iff {a : Char} {x : List Char} : x ∈ (char a).matches' ↔ x = [a] := Iff.rfl

theorem mem_oneOf_iff {cs x : List Char} : x ∈ (oneOf cs).matches' ↔ ∃ c ∈ cs, x = [c] := by
  induction cs with
  | nil =>
    constructor
    · intro h
      exact absurd h (Language.notMem_zero x)
    · rintro ⟨c, hc, -⟩
      cases hc
  | cons c cs ih =>
    show x ∈ (char c + oneOf cs).matches' ↔ _
    rw [matches'_add, Language.mem_add, mem_char_iff, ih]
    simp

theorem mem_namePattern_iff {x : List Char} : x ∈ namePattern.matches' ↔ IsPathName x := by
  rw [namePattern, oneOrMore, matches'_mul, matches'_star]
  constructor
  · intro h
    obtain ⟨u, hu, v, hv, rfl⟩ := Language.mem_mul.1 h
    obtain ⟨c, hc, rfl⟩ := mem_oneOf_iff.1 hu
    obtain ⟨words, rfl, hwords⟩ := Language.mem_kstar.1 hv
    refine ⟨by simp, ?_⟩
    intro d hd
    rcases List.mem_append.1 hd with hd | hd
    · rw [List.mem_singleton.1 hd]
      exact hc
    · obtain ⟨word, hword, hd⟩ := List.mem_flatten.1 hd
      obtain ⟨e, he, rfl⟩ := mem_oneOf_iff.1 (hwords word hword)
      rw [List.mem_singleton.1 hd]
      exact he
  · rintro ⟨hne, hchars⟩
    obtain ⟨c, rest, rfl⟩ := List.exists_cons_of_ne_nil hne
    obtain ⟨hc, hrest⟩ := List.forall_mem_cons.1 hchars
    refine Language.mem_mul.2 ⟨[c], mem_oneOf_iff.2 ⟨c, hc, rfl⟩, rest, ?_, rfl⟩
    -- each further character is a word of its own
    refine Language.mem_kstar.2 ⟨rest.map ([·]), (List.flatMap_singleton' rest).symm, ?_⟩
    intro word hword
    obtain ⟨d, hd, rfl⟩ := List.mem_map.1 hword
    exact mem_oneOf_iff.2 ⟨d, hrest d hd, rfl⟩

/-- A group that comes a number of times is so many names, each behind a slash. -/
theorem mem_group_pow_iff {n : Nat} {x : List Char} :
    x ∈ ((char '/' * namePattern) ^ n).matches' ↔
      ∃ names : List (List Char), names.length = n ∧ (∀ name ∈ names, IsPathName name) ∧
        x = names.flatMap ('/' :: ·) := by
  rw [matches'_pow]
  induction n generalizing x with
  | zero =>
    rw [pow_zero, Language.mem_one]
    constructor
    · rintro rfl
      exact ⟨[], rfl, by simp, rfl⟩
    · rintro ⟨names, hlength, -, rfl⟩
      rw [List.length_eq_zero_iff.1 hlength]
      rfl
  | succ n ih =>
    rw [pow_succ']
    constructor
    · intro h
      obtain ⟨u, hu, v, hv, rfl⟩ := Language.mem_mul.1 h
      rw [matches'_mul] at hu
      obtain ⟨slash, hslash, name, hname, rfl⟩ := Language.mem_mul.1 hu
      rw [mem_char_iff.1 hslash]
      obtain ⟨names, hlength, hnames, rfl⟩ := ih.1 hv
      refine ⟨name :: names, by simp [hlength], ?_, rfl⟩
      exact List.forall_mem_cons.2 ⟨mem_namePattern_iff.1 hname, hnames⟩
    · rintro ⟨names, hlength, hnames, rfl⟩
      obtain ⟨name, rest, rfl⟩ := List.exists_cons_of_length_eq_add_one hlength
      obtain ⟨hname, hrest⟩ := List.forall_mem_cons.1 hnames
      rw [List.flatMap_cons]
      refine Language.mem_mul.2 ⟨_, ?_, _, ih.2 ⟨rest, by simpa using hlength, hrest, rfl⟩, rfl⟩
      rw [matches'_mul]
      exact Language.mem_mul.2 ⟨['/'], mem_char_iff.2 rfl, name, mem_namePattern_iff.2 hname, rfl⟩

/-! ## Names between slashes -/

theorem slash_notMem_of_isPathName {name : List Char} (h : IsPathName name) : '/' ∉ name := by
  intro hmem
  exact absurd (h.2 '/' hmem) (by decide)

/-- Names that stand behind slashes are cut there again. -/
theorem pieces_append_flatMap {sep : Char} {a : List Char} {names : List (List Char)}
    (ha : sep ∉ a) (hnames : ∀ name ∈ names, sep ∉ name) :
    Text.pieces sep (a ++ names.flatMap (sep :: ·)) = a :: names := by
  induction names generalizing a with
  | nil => rw [List.flatMap_nil, List.append_nil, Text.pieces_of_notMem ha]
  | cons b names ih =>
    obtain ⟨hb, hnames⟩ := List.forall_mem_cons.1 hnames
    rw [List.flatMap_cons, List.cons_append, Text.pieces_append_cons _ ha, ih hb hnames]

/-- **The paths of four names are those that match the pattern.** -/
theorem isFourNames_iff_mem_pathPattern {path : String} :
    IsFourNames path ↔ path.toList ∈ pathPattern.matches' := by
  rw [pathPattern, matches'_mul, Language.mem_mul]
  constructor
  · rintro ⟨a, b, c, d, hpieces, hnames⟩
    obtain ⟨ha, hrest⟩ := List.forall_mem_cons.1 hnames
    have hpath := Text.flatMap_pieces '/' path.toList
    rw [hpieces, List.flatMap_cons, List.cons_append] at hpath
    exact ⟨a, mem_namePattern_iff.2 ha, _, mem_group_pow_iff.2 ⟨[b, c, d], rfl, hrest, rfl⟩,
      List.tail_eq_of_cons_eq hpath⟩
  · rintro ⟨a, ha, u, hu, hpath⟩
    obtain ⟨names, hlength, hnames, rfl⟩ := mem_group_pow_iff.1 hu
    have ha := mem_namePattern_iff.1 ha
    have hpieces : Text.pieces '/' path.toList = a :: names := by
      rw [← hpath]
      exact pieces_append_flatMap (slash_notMem_of_isPathName ha)
        fun name hname => slash_notMem_of_isPathName (hnames name hname)
    obtain ⟨b, c, d, rfl⟩ := List.length_eq_three.1 hlength
    exact ⟨a, b, c, d, hpieces, List.forall_mem_cons.2 ⟨ha, hnames⟩⟩

/-! ## Accepted paths -/

theorem isPathChar_iff {c : Char} : isPathChar c = true ↔ c ∈ nameChars := by
  constructor
  · intro h
    have hascii : c.toNat < 128 := by
      rw [isPathChar, Bool.or_eq_true] at h
      rcases h with h | h
      · exact Text.toNat_lt_of_isAlphanum h
      · have hmarks : ∀ c ∈ ['.', '_', '(', ')', '[', ']', ':', ',', '-'], c.toNat < 128 := by
          decide
        exact hmarks c (List.contains_iff_mem.1 h)
    exact Text.forall_ascii (P := fun c => isPathChar c = true → c ∈ nameChars)
      (by decide +kernel) hascii h
  · intro h
    have hall : ∀ c ∈ nameChars, isPathChar c = true := by decide
    exact hall c h

theorem isSecretPath_iff {path : String} : isSecretPath path = true ↔ IsFourNames path := by
  have hname (name : List Char) :
      (!name.isEmpty && name.all isPathChar) = true ↔ IsPathName name := by
    simp [IsPathName, isPathChar_iff]
  simp only [isSecretPath, Bool.and_eq_true, decide_eq_true_eq, List.all_eq_true, hname]
  constructor
  · rintro ⟨hlength, hnames⟩
    obtain ⟨a, b, c, d, hpieces⟩ := List.length_eq_four.1 hlength
    rw [hpieces] at hnames
    exact ⟨a, b, c, d, hpieces, hnames⟩
  · rintro ⟨a, b, c, d, hpieces, hnames⟩
    rw [hpieces]
    exact ⟨rfl, hnames⟩

theorem checkSecretPath_of_isFourNames {path : String} (h : IsFourNames path) :
    checkSecretPath path = .ok () := if_pos (isSecretPath_iff.2 h)

theorem checkSecretPath_of_not_isFourNames {path : String} (h : ¬ IsFourNames path) :
    checkSecretPath path = .error (.invalidSecretPath path) := if_neg (mt isSecretPath_iff.1 h)

instance : DecidablePred IsFourNames := fun _ => decidable_of_iff _ isSecretPath_iff

/-- A path of four names has three slashes, and all else in it are characters of names. -/
theorem IsFourNames.chars {path : String} (h : IsFourNames path) :
    path.toList.count '/' = 3 ∧ ∀ c ∈ path.toList, c ∈ '/' :: nameChars := by
  obtain ⟨a, ha, u, hu, hpath⟩ := Language.mem_mul.1 (isFourNames_iff_mem_pathPattern.1 h)
  obtain ⟨names, hlength, hnames, rfl⟩ := mem_group_pow_iff.1 hu
  have ha := mem_namePattern_iff.1 ha
  have hcount {name : List Char} (hname : IsPathName name) : name.count '/' = 0 :=
    List.count_eq_zero.2 (slash_notMem_of_isPathName hname)
  obtain ⟨b, c, d, rfl⟩ := List.length_eq_three.1 hlength
  simp only [List.forall_mem_cons, List.not_mem_nil, false_imp_iff, implies_true,
    and_true] at hnames
  obtain ⟨hb, hc, hd⟩ := hnames
  rw [← hpath]
  constructor
  · simp [hcount ha, hcount hb, hcount hc, hcount hd]
  · intro e he
    simp only [List.flatMap_cons, List.flatMap_nil, List.append_nil, List.mem_append,
      List.mem_cons] at he ⊢
    rcases he with he | (he | he) | (he | he) | he | he
    · exact .inr (ha.2 e he)
    · exact .inl he
    · exact .inr (hb.2 e he)
    · exact .inl he
    · exact .inr (hc.2 e he)
    · exact .inl he
    · exact .inr (hd.2 e he)

/-- The only fault of a path is that it is not four names. -/
theorem checkSecretPath_eq_error_iff {path : String} {e : ValidationError} :
    checkSecretPath path = .error e ↔ e = .invalidSecretPath path ∧ ¬ IsFourNames path := by
  by_cases h : IsFourNames path
  · rw [checkSecretPath_of_isFourNames h]
    exact ⟨nofun, fun he => absurd h he.2⟩
  · rw [checkSecretPath_of_not_isFourNames h]
    constructor
    · intro he
      cases he
      exact ⟨rfl, h⟩
    · rintro ⟨rfl, -⟩
      rfl

/-- A secret is not looked at before its path is accepted, and is never refused for its path. -/
theorem validate_addSecret_eq_error_iff {path secret refused : String} :
    (Operation.addSecret path secret).validate = .error (.invalidSecretPath refused) ↔
      checkSecretPath path = .error (.invalidSecretPath refused) := by
  simp only [Operation.validate]
  cases hpath : checkSecretPath path with
  | error e => exact Iff.rfl
  | ok _ =>
    constructor
    · intro h
      simp only [bind, Except.bind] at h
      split at h <;> cases h
    · intro h
      cases h

/-- **A path is accepted if and only if it is four names between slashes**, which are the texts that
match the pattern.  An operation on a secret is refused for its path if and only if the path is not
accepted, whatever the secret is. -/
theorem checkSecretPath_exactly (path : String) :
    (checkSecretPath path = .ok () ↔ IsFourNames path) ∧
    (checkSecretPath path = .ok () ↔ path.toList ∈ pathPattern.matches') ∧
    (checkSecretPath path = .ok () →
      path.toList.count '/' = 3 ∧ '\n' ∉ path.toList ∧ ∀ c ∈ path.toList, c.toNat < 128) ∧
    (∀ refused, (Operation.removeSecret path).validate = .error (.invalidSecretPath refused) ↔
      refused = path ∧ ¬ IsFourNames path) ∧
    ∀ secret refused,
      (Operation.addSecret path secret).validate = .error (.invalidSecretPath refused) ↔
        refused = path ∧ ¬ IsFourNames path := by
  have haccepted : checkSecretPath path = .ok () ↔ IsFourNames path := by
    by_cases h : IsFourNames path
    · simp [checkSecretPath_of_isFourNames h, h]
    · simp [checkSecretPath_of_not_isFourNames h, h]
  have hrefused (refused : String) : checkSecretPath path = .error (.invalidSecretPath refused) ↔
      refused = path ∧ ¬ IsFourNames path := by
    rw [checkSecretPath_eq_error_iff, ValidationError.invalidSecretPath.injEq]
  refine ⟨haccepted, haccepted.trans isFourNames_iff_mem_pathPattern, ?_, hrefused, ?_⟩
  · intro h
    obtain ⟨hcount, hchars⟩ := (haccepted.1 h).chars
    have hascii : ∀ c ∈ '/' :: nameChars, c.toNat < 128 ∧ c ≠ '\n' := by decide
    refine ⟨hcount, ?_, fun c hc => (hascii c (hchars c hc)).1⟩
    intro hmem
    exact (hascii _ (hchars _ hmem)).2 rfl
  · intro secret refused
    rw [validate_addSecret_eq_error_iff]
    exact hrefused refused

example : IsFourNames "my-app/cloud,dev/main/db[0]:password" ∧ ¬ IsFourNames "a/b/c/d\n" ∧
    ¬ IsFourNames "a//c/d" := by decide

end ServiceAdmin.Service
