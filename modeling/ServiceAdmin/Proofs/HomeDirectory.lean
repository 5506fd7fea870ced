import ServiceAdmin.Config
import ServiceAdmin.Proofs.Text.Pieces
import ServiceAdmin.Proofs.Text.Trimmed

/-!
# Paths below the home directory

A path is known by its components: separators that are repeated or stand at its end make no
difference, and neither do names that stay in place.  What is joined to a directory has the
components of the directory before its own, unless it is absolute (`components_joinPath`).  So a `~`
stands for the home directory just if no second separator stands behind it, or one that leads back
to the home directory (`expandTilde_below_home_iff`).
-/

namespace ServiceAdmin

open Text (isBlank)

/-- Whether a name of a path leads anywhere. -/
def IsStep (name : String) : Prop := name ≠ "" ∧ name ≠ "."

instance (name : String) : Decidable (IsStep name) := inferInstanceAs (Decidable (_ ∧ _))

/-- Where the names of a path begin: at the root, which is a component of its own, or in the
current directory, which is one if it is named. -/
def startOf : List String → List String
  | [] => []
  | name :: rest =>
    if name = "" ∧ rest ≠ [] then ["/"] else if name = "." then ["."] else []

/-- The components of a path. -/
def components (path : String) : List String :=
  startOf (FileTree.names path) ++ (FileTree.names path).filter IsStep

example : components "/home//u/./x/" = ["/", "home", "u", "x"] := by decide +kernel

/-! ## Joined paths -/

theorem names_ne_nil (path : String) : FileTree.names path ≠ [] := by
  rw [FileTree.names, ne_eq, List.map_eq_nil_iff]
  exact Text.pieces_ne_nil '/' path.toList

theorem names_append (base path : String) :
    FileTree.names (base ++ "/" ++ path) = FileTree.names base ++ FileTree.names path := by
  have hlist : (base ++ "/" ++ path).toList = base.toList ++ '/' :: path.toList := by simp
  rw [FileTree.names, hlist, Text.pieces_append, List.map_append, FileTree.names, FileTree.names]

theorem names_eq_blank_iff {path : String} : FileTree.names path = [""] ↔ path = "" := by
  constructor
  · intro h
    have hpieces : Text.pieces '/' path.toList = [[]] := by
      obtain ⟨p, ps, hp⟩ := List.exists_cons_of_ne_nil (Text.pieces_ne_nil '/' path.toList)
      rw [FileTree.names, hp] at h
      simpa [hp] using h
    have htext := Text.intercalate_pieces '/' path.toList
    rw [hpieces, List.intercalate_singleton] at htext
    exact String.toList_eq_nil_iff.1 htext.symm
  · rintro rfl
    rfl

/-- What stands behind a first name that is not blank does not change the start. -/
theorem startOf_append {names : List String} (hne : names ≠ []) (hblank : names ≠ [""])
    (more : List String) : startOf (names ++ more) = startOf names := by
  obtain ⟨name, rest, rfl⟩ := List.exists_cons_of_ne_nil hne
  rw [List.cons_append, startOf, startOf]
  by_cases hname : name = ""
  · have hrest : rest ≠ [] := fun hnil => hblank (by rw [hname, hnil])
    simp [hname, hrest]
  · simp [hname]

theorem components_append {base : String} (h : base ≠ "") (path : String) :
    components (base ++ "/" ++ path) =
      components base ++ (FileTree.names path).filter IsStep := by
  rw [components, names_append, startOf_append (names_ne_nil base) (mt names_eq_blank_iff.1 h),
    List.filter_append, ← List.append_assoc, components]

theorem components_slash (path : String) :
    components ("/" ++ path) = "/" :: (FileTree.names path).filter IsStep := by
  have hnames : FileTree.names ("/" ++ path) = "" :: FileTree.names path := names_append "" path
  rw [components, hnames, startOf, if_pos ⟨rfl, names_ne_nil path⟩,
    List.filter_cons_of_neg (by decide)]
  rfl

/-- A separator at the end of a path makes no difference, unless it is the root. -/
theorem components_append_slash {base : String} (h : base ≠ "") :
    components (base ++ "/") = components base := by
  have hblank : (FileTree.names "").filter IsStep = [] := rfl
  have happend := components_append h ""
  rw [String.append_empty, hblank, List.append_nil] at happend
  exact happend

theorem components_joinPath {base : String} (hbase : base ≠ "") {path : String}
    (hpath : isAbsolute path = false) :
    components (joinPath base path) = components base ++ (FileTree.names path).filter IsStep := by
  rw [joinPath, if_neg (by simp [hpath, hbase])]
  split
  · next hslash =>
    obtain ⟨front, hfront⟩ := List.getLast?_eq_some_iff.1 hslash
    obtain rfl : base = String.ofList front ++ "/" := by
      rw [← String.toList_inj, hfront, String.toList_append, String.toList_ofList]
      rfl
    by_cases hroot : String.ofList front = ""
    · rw [hroot]
      exact components_slash path
    · rw [components_append hroot, components_append_slash hroot]
  · exact components_append hbase path

theorem joinPath_of_isAbsolute {base path : String} (h : isAbsolute path = true) :
    joinPath base path = path := by
  rw [joinPath, if_pos (by simp [h])]

/-! ## The home directory -/

/-- The directory that a `~` stands for. -/
def Environment.homePath (env : Environment) : String := env.home?.getD "~"

theorem Environment.ne_empty_of_home? {env : Environment} {home : String}
    (h : env.home? = some home) : home ≠ "" := by
  rcases Option.or_eq_some_iff.1 h with h | ⟨-, h⟩
  · simpa using (Option.filter_eq_some_iff.1 h).2
  · simpa using (Option.filter_eq_some_iff.1 h).2

theorem Environment.homePath_ne_empty (env : Environment) : env.homePath ≠ "" := by
  rw [homePath]
  cases hhome : env.home? with
  | none => decide
  | some home => exact ne_empty_of_home? hhome

/-- Only blanks at the end of the remainder are lost. -/
theorem expandTilde_slash (env : Environment) {a b : List Char} (ha : ∀ c ∈ a, isBlank c = true)
    (hb : ∀ c ∈ b, isBlank c = true) (rest : List Char) :
    expandTilde env (String.ofList (a ++ ('~' :: '/' :: rest ++ b))) =
      joinPath env.homePath (String.ofList (Text.trimEndChars rest)) := by
  have htrim : Text.trimChars (a ++ ('~' :: '/' :: rest ++ b)) =
      '~' :: '/' :: Text.trimEndChars rest := by
    rw [Text.trimChars_append ha hb]
    exact Text.trimEndChars_append_cons (by decide) ['~'] rest
  rw [expandTilde, String.toList_ofList, htrim]
  rfl

/-- The front of a remainder is not trimmed. -/
theorem isAbsolute_trimEndChars_iff {rest : List Char} :
    isAbsolute (String.ofList (Text.trimEndChars rest)) = true ↔ rest.head? = some '/' := by
  rw [isAbsolute, String.toList_ofList, decide_eq_true_eq]
  constructor
  · intro h
    obtain ⟨blanks, hrest⟩ := Text.isPrefix_trimEndChars rest
    rw [← hrest, List.head?_append, h]
    rfl
  · intro h
    obtain ⟨below, rfl⟩ := List.head?_eq_some_iff.1 h
    have htrim := Text.trimEndChars_append_cons (c := '/') (by decide) [] below
    rw [List.nil_append, List.nil_append] at htrim
    rw [htrim]
    rfl

/-- **A `~` stands for the home directory** just if no second separator stands behind it, or one
that leads back to the home directory. -/
theorem expandTilde_below_home_iff (env : Environment) {a b : List Char}
    (ha : ∀ c ∈ a, isBlank c = true) (hb : ∀ c ∈ b, isBlank c = true) (rest : List Char) :
    components env.homePath <+:
        components (expandTilde env (String.ofList (a ++ ('~' :: '/' :: rest ++ b)))) ↔
      rest.head? ≠ some '/' ∨
        components env.homePath <+: components (String.ofList (Text.trimEndChars rest)) := by
  rw [expandTilde_slash env ha hb]
  by_cases hrest : rest.head? = some '/'
  · rw [joinPath_of_isAbsolute (isAbsolute_trimEndChars_iff.2 hrest)]
    simp [hrest]
  · have hrelative := Bool.eq_false_iff.2 (mt isAbsolute_trimEndChars_iff.1 hrest)
    rw [components_joinPath env.homePath_ne_empty hrelative]
    simp [hrest]

theorem expandTilde_below_home_repeated :
    (∀ c ∈ [' '], isBlank c = true) ∧ (∀ c ∈ ['\n'], isBlank c = true) ∧
      components (Environment.homePath ⟨[("HOME", "")], some "/home/u/", .utc⟩) <+:
        components (expandTilde ⟨[("HOME", "")], some "/home/u/", .utc⟩
          (String.ofList ([' '] ++ ('~' :: '/' :: "scs//../etc/".toList ++ ['\n'])))) :=
  ⟨by decide, by decide,
    (expandTilde_below_home_iff ⟨[("HOME", "")], some "/home/u/", .utc⟩ (by decide) (by decide)
      _).2 (.inl (by decide))⟩

/-- A second separator behind the `~` makes the remainder absolute. -/
theorem not_expandTilde_below_home :
    ¬ components (Environment.homePath ⟨[("HOME", "home")], none, .utc⟩) <+:
      components (expandTilde ⟨[("HOME", "home")], none, .utc⟩ "~//etc/passwd") := by
  decide +kernel

end ServiceAdmin
