import ServiceAdmin.Proofs.Url.Extension
import ServiceAdmin.Proofs.Url.Segment

/-!
# Names in a path

A path is cut at its slashes, and encoding adds none.  So the segments of a URL have no slashes,
whatever its scheme is (`slash_notMem_of_mem_segments`).
-/

namespace ServiceAdmin.Url

/-- None of the segments has a slash. -/
def Path.Slashless : Path → Prop
  | segments names => ∀ name ∈ names, '/' ∉ name.toList
  | plain _ => True

theorem slashless_pathOf {names : List (List Char)} (h : ∀ name ∈ names, '/' ∉ name) :
    (pathOf names).Slashless := by
  intro name hname
  obtain ⟨chars, hchars, rfl⟩ := List.mem_map.1 hname
  rw [String.toList_ofList]
  exact h chars hchars

theorem slash_notMem_of_mem_splitPath {wellKnown : Bool} {s name : List Char}
    (h : name ∈ splitPath wellKnown s) : '/' ∉ name := by
  intro hmem
  have hslash := noSlash_of_mem_splitPath h '/' hmem
  simp [isSlash] at hslash

theorem slash_notMem_percentEncode {special : Char → Bool} {name : List Char} (h : '/' ∉ name) :
    '/' ∉ percentEncode special name := by
  intro hmem
  rcases mem_of_mem_percentEncode hmem with ⟨hname, -⟩ | hchar
  · exact h hname
  · exact absurd hchar.noSlash (by decide)

theorem slash_notMem_resolveDots {isFile : Bool} {names : List (List Char)}
    (h : ∀ name ∈ names, '/' ∉ name) : ∀ name ∈ resolveDots isFile [] names, '/' ∉ name :=
  forall_mem_resolveDots List.not_mem_nil (fun _ h => nomatch h) fun name hname _ =>
    slash_notMem_percentEncode (h name hname)

theorem slashless_hierarchicalPath (wellKnown : Bool) (s : List Char) :
    (hierarchicalPath wellKnown s).Slashless := by
  have hresolved (t : List Char) :
      (pathOf (resolveDots false [] (splitPath wellKnown t))).Slashless :=
    slashless_pathOf (slash_notMem_resolveDots fun _ h => slash_notMem_of_mem_splitPath h)
  cases s with
  | nil =>
    cases wellKnown with
    | true => exact List.forall_mem_singleton.2 (by decide)
    | false => exact fun _ h => nomatch h
  | cons c s =>
    rw [hierarchicalPath]
    split
    · exact hresolved s
    · exact hresolved (c :: s)

/-! ## Files -/

/-- The names of a file's path, of which the first may be a drive. -/
theorem slash_notMem_of_drive {c m : Char} {more : List Char} {rest : List (List Char)}
    (hdrive : isDrive [c, m] = true) (h : ∀ name ∈ (c :: m :: more) :: rest, '/' ∉ name) :
    ∀ name ∈ [c, ':'] :: (if more.isEmpty then rest else more :: rest), '/' ∉ name := by
  obtain ⟨hfirst, hrest⟩ := List.forall_mem_cons.1 h
  have hmore : '/' ∉ more := fun hmem =>
    hfirst (List.mem_cons_of_mem c (List.mem_cons_of_mem m hmem))
  have hc : '/' ∉ [c, ':'] := by
    intro hmem
    rcases List.mem_cons.1 hmem with rfl | hmem
    · exact hfirst List.mem_cons_self
    · exact absurd (List.mem_singleton.1 hmem) (by decide)
  refine List.forall_mem_cons.2 ⟨hc, ?_⟩
  split
  · exact hrest
  · exact List.forall_mem_cons.2 ⟨hmore, hrest⟩

theorem slashless_filePath {names : List (List Char)} (h : ∀ name ∈ names, '/' ∉ name) :
    (filePath names).1.Slashless := by
  unfold filePath
  split
  next parts drive hparts =>
    have hslash : ∀ name ∈ parts, '/' ∉ name := by
      split at hparts
      · split at hparts
        · next hdrive =>
          cases hparts
          rw [Bool.and_eq_true] at hdrive
          exact slash_notMem_of_drive hdrive.1 h
        · cases hparts
          exact h
      · cases hparts
        exact h
    have hleft : ∀ name ∈ (resolveDots true [] parts).dropWhile List.isEmpty, '/' ∉ name :=
      fun name hname =>
        slash_notMem_resolveDots hslash name ((List.dropWhile_suffix _).subset hname)
    split
    · exact List.forall_mem_singleton.2 (by decide)
    · exact slashless_pathOf hleft

theorem slashless_of_parseFile {s : List Char} {url : Url} (h : parseFile s = .ok url) :
    url.path.Slashless := by
  have hsplit (t : List Char) : ∀ name ∈ splitPath true t, '/' ∉ name :=
    fun _ hname => slash_notMem_of_mem_splitPath hname
  have hempty {names : List (List Char)} (h : ∀ name ∈ names, '/' ∉ name) :
      ∀ name ∈ [] :: names, '/' ∉ name :=
    List.forall_mem_cons.2 ⟨List.not_mem_nil, h⟩
  unfold parseFile at h
  dsimp only at h
  split at h
  · next hostText names hnames =>
    have hparts : ∀ name ∈ [] :: [] :: hostText :: names, '/' ∉ name := hnames ▸ hsplit _
    have htail := (List.forall_mem_cons.1 (List.forall_mem_cons.1 hparts).2).2
    have hrest := (List.forall_mem_cons.1 htail).2
    have hbehind : ∀ name ∈ if names.isEmpty then [[]] else names, '/' ∉ name := by
      split
      · exact List.forall_mem_singleton.2 List.not_mem_nil
      · exact hrest
    split at h
    · cases h
      exact slashless_filePath htail
    split at h
    · cases h
      exact slashless_filePath (hempty hrest)
    · obtain ⟨host, -, h⟩ := of_bind_eq_ok h
      split at h
      · cases h
        exact slashless_filePath (hempty hbehind)
      · cases h
        exact slashless_filePath hbehind
  · next names _ hnames =>
    have hparts : ∀ name ∈ [] :: names, '/' ∉ name := hnames ▸ hsplit _
    cases h
    exact slashless_filePath (List.forall_mem_cons.1 hparts).2
  · cases h
    exact slashless_filePath (hsplit _)

/-! ## All URLs -/

theorem slashless_of_parseOther {scheme : String} {s : List Char} {url : Url}
    (h : parseOther scheme s = .ok url) : url.path.Slashless := by
  unfold parseOther at h
  split at h
  · obtain ⟨-, path, hpath⟩ := parts_of_parseAuthority h
    exact hpath ▸ slashless_hierarchicalPath _ path
  · cases h
    exact slashless_pathOf (slash_notMem_resolveDots fun _ h => slash_notMem_of_mem_splitPath h)
  · cases h
    trivial

/-- **The segments of a URL have no slashes.** -/
theorem slash_notMem_of_mem_segments {s : String} {url : Url} (h : parse s = .ok url)
    {name : String} (hname : name ∈ url.segments) : '/' ∉ name.toList := by
  have hpath : url.path.Slashless := by
    unfold parse at h
    split at h
    · cases h
    dsimp only at h
    split at h
    · exact slashless_of_parseFile h
    split at h
    · obtain ⟨-, path, hpath⟩ := parts_of_parseAuthority h
      exact hpath ▸ slashless_hierarchicalPath _ path
    · exact slashless_of_parseOther h
  rw [segments] at hname
  cases hsegments : url.path with
  | segments names =>
    rw [hsegments] at hname hpath
    exact hpath name hname
  | plain text =>
    rw [hsegments] at hname
    cases hname

end ServiceAdmin.Url
