import ServiceAdmin.Proofs.Text.Ascii
import ServiceAdmin.Url.Parse

/-!
# Names behind a path

What stands behind a slash goes behind the segments that are there (`resolveDots_append`).  Names
without special characters are added as they are (`resolveDots_of_plain`), unless one of them is a
dot segment, which makes the path shorter than what was added (`pathLength_resolveDots_le`); so the
text of the path tells the two cases apart (`text_resolveDots_iff`).
-/

namespace ServiceAdmin.Url

/-! ## Segments -/

theorem splitPath_ne_nil (wellKnown : Bool) (s : List Char) : splitPath wellKnown s ≠ [] := by
  cases s with
  | nil => exact List.cons_ne_nil _ _
  | cons c s =>
    rw [splitPath]
    split
    · exact List.cons_ne_nil _ _
    · split <;> exact List.cons_ne_nil _ _

theorem splitPath_append_slash (wellKnown : Bool) (s t : List Char) :
    splitPath wellKnown (s ++ '/' :: t) = splitPath wellKnown s ++ splitPath wellKnown t := by
  induction s with
  | nil => rfl
  | cons c s ih =>
    rw [List.cons_append, splitPath, splitPath]
    split
    · rw [ih]
      rfl
    · obtain ⟨name, names, h⟩ := List.exists_cons_of_ne_nil (splitPath_ne_nil wellKnown s)
      rw [ih, h]
      rfl

/-- The segments behind those in `done`, of which more are to come: the last one first. -/
def settled (isFile : Bool) (done : List (List Char)) : List (List Char) → List (List Char)
  | [] => done
  | name :: names =>
    let encoded := percentEncode inPath name
    if dots encoded = ['.', '.'] then settled isFile (dropLast isFile done) names
    else if dots encoded = ['.'] then settled isFile done names
    else settled isFile (encoded :: done) names

theorem resolveDots_append {isFile : Bool} {done names more : List (List Char)} (h : more ≠ []) :
    resolveDots isFile done (names ++ more) =
      resolveDots isFile (settled isFile done names) more := by
  induction names generalizing done with
  | nil => rfl
  | cons name names ih =>
    have hmore : (names ++ more).isEmpty = false :=
      List.isEmpty_eq_false_iff.2 (List.append_ne_nil_of_right_ne_nil _ h)
    rw [List.cons_append, resolveDots, settled]
    simp only [hmore, ih]
    split
    · rfl
    · split <;> rfl

/-! ## Plain names -/

/-- A name that is written in a path as it is. -/
def IsPlain (name : List Char) : Prop := percentEncode inPath name = name ∧ dots name = name

/-- A segment that stands for no name. -/
def IsDots (name : List Char) : Prop := name = ['.'] ∨ name = ['.', '.']

instance (name : List Char) : Decidable (IsDots name) :=
  inferInstanceAs (Decidable (name = ['.'] ∨ name = ['.', '.']))

theorem dots_of_notMem {name : List Char} (h : '%' ∉ name) : dots name = name := by
  induction name with
  | nil => rfl
  | cons c name ih =>
    obtain ⟨hc, hname⟩ := not_or.1 (mt List.mem_cons.2 h)
    rw [dots, ih hname]
    · rintro rest rfl
      exact absurd rfl hc
    · rintro rest rfl
      exact absurd rfl hc

theorem percentEncode_of_forall {special : Char → Bool} {s : List Char}
    (h : ∀ c ∈ s, c.toNat < 0x7F ∧ special c = false) : percentEncode special s = s := by
  induction s with
  | nil => rfl
  | cons c s ih =>
    obtain ⟨hascii, hspecial⟩ := h c List.mem_cons_self
    rw [percentEncode, List.flatMap_cons, if_neg (by simp [hspecial, hascii])]
    exact congrArg (c :: ·) (ih fun d hd => h d (List.mem_cons_of_mem _ hd))

/-- Encoded names of which none is a dot segment are added as they are. -/
theorem resolveDots_of_forall {isFile : Bool} (done : List (List Char)) {names : List (List Char)}
    (h : ∀ name ∈ names, percentEncode inPath name = name ∧ ¬ IsDots (dots name)) :
    resolveDots isFile done names = done.reverse ++ names := by
  induction names generalizing done with
  | nil => simp [resolveDots]
  | cons name names ih =>
    obtain ⟨hencoded, hdots⟩ := h name List.mem_cons_self
    have hnot := not_or.1 hdots
    have hrest := ih (name :: done) fun other hother => h other (List.mem_cons_of_mem _ hother)
    rw [resolveDots]
    simp only [hencoded, if_neg hnot.1, if_neg hnot.2, hrest]
    simp

theorem resolveDots_of_plain {isFile : Bool} (done : List (List Char)) {names : List (List Char)}
    (hplain : ∀ name ∈ names, IsPlain name) (hdots : ∀ name ∈ names, ¬ IsDots name) :
    resolveDots isFile done names = done.reverse ++ names :=
  resolveDots_of_forall done fun name h =>
    ⟨(hplain name h).1, (hplain name h).2.symm ▸ hdots name h⟩

/-! ## Dot segments -/

/-- The length of the text of a path of segments. -/
def pathLength : List (List Char) → Nat
  | [] => 0
  | name :: names => name.length + 1 + pathLength names

@[simp] theorem pathLength_nil : pathLength [] = 0 := rfl

@[simp] theorem pathLength_cons (name : List Char) (names : List (List Char)) :
    pathLength (name :: names) = name.length + 1 + pathLength names := rfl

theorem pathLength_append (names others : List (List Char)) :
    pathLength (names ++ others) = pathLength names + pathLength others := by
  induction names with
  | nil => exact (Nat.zero_add _).symm
  | cons name names ih =>
    rw [List.cons_append, pathLength_cons, pathLength_cons, ih]
    omega

theorem pathLength_dropLast_le (done : List (List Char)) :
    pathLength (dropLast false done) ≤ pathLength done := by
  cases done with
  | nil => exact Nat.le_refl _
  | cons name names => simp [dropLast]

theorem pathLength_reverse (names : List (List Char)) :
    pathLength names.reverse = pathLength names := by
  induction names with
  | nil => rfl
  | cons name names ih =>
    rw [List.reverse_cons, pathLength_append, ih, pathLength_cons, pathLength_cons, pathLength_nil]
    omega

/-- No path is longer than what it is made of, and every dot segment makes it shorter. -/
theorem pathLength_resolveDots_le (done : List (List Char)) {names : List (List Char)}
    (hplain : ∀ name ∈ names, IsPlain name) :
    pathLength (resolveDots false done names) + names.countP (IsDots ·) ≤
      pathLength done + pathLength names := by
  induction names generalizing done with
  | nil =>
    rw [resolveDots, pathLength_reverse]
    exact Nat.le_refl _
  | cons name names ih =>
    obtain ⟨hencoded, hname⟩ := hplain name List.mem_cons_self
    have hrest (done : List (List Char)) :=
      ih done fun other h => hplain other (List.mem_cons_of_mem _ h)
    have hdrop := pathLength_dropLast_le done
    rw [resolveDots, List.countP_cons, pathLength_cons]
    simp only [hencoded, hname]
    split
    · next hup =>
      have hdots : decide (IsDots name) = true := decide_eq_true (.inr hup)
      have hlength : name.length = 2 := congrArg List.length hup
      split
      · next hempty =>
        rw [List.isEmpty_iff.1 hempty, pathLength_reverse, pathLength_cons]
        simp only [List.countP_nil, pathLength_nil, List.length_nil]
        omega
      · have hnames := hrest (dropLast false done)
        omega
    split
    · next hself =>
      have hdots : decide (IsDots name) = true := decide_eq_true (.inl hself)
      have hlength : name.length = 1 := congrArg List.length hself
      split
      · next hempty =>
        rw [List.isEmpty_iff.1 hempty, pathLength_reverse, pathLength_cons]
        simp only [List.countP_nil, pathLength_nil, List.length_nil]
        omega
      · have hnames := hrest done
        omega
    · next hup hself =>
      have hnot : decide (IsDots name) = false := decide_eq_false (not_or.2 ⟨hself, hup⟩)
      have hnames := hrest (name :: done)
      rw [pathLength_cons] at hnames
      simp only [hnot, Bool.false_eq_true, if_false]
      omega

/-! ## Texts -/

theorem toList_text_pathOf (names : List (List Char)) :
    (pathOf names).text.toList = names.flatMap ('/' :: ·) := by
  rw [pathOf, Path.text, String.toList_join, List.map_map, List.flatMap_map]
  simp

theorem length_text_pathOf (names : List (List Char)) :
    (pathOf names).text.toList.length = pathLength names := by
  rw [toList_text_pathOf]
  induction names with
  | nil => rfl
  | cons name names ih =>
    rw [List.flatMap_cons, List.length_append, List.length_cons, ih, pathLength_cons]

/-- **Plain names stay in a path exactly if none of them is a dot segment.** -/
theorem text_resolveDots_iff (done : List (List Char)) {names : List (List Char)}
    (hplain : ∀ name ∈ names, IsPlain name) :
    (pathOf (resolveDots false done names)).text = (pathOf (done.reverse ++ names)).text ↔
      ∀ name ∈ names, ¬ IsDots name := by
  constructor
  · intro htext name hname hdots
    have hle := pathLength_resolveDots_le done hplain
    have hpos : 0 < names.countP (IsDots ·) :=
      List.countP_pos_iff.2 ⟨name, hname, decide_eq_true hdots⟩
    have hlength := congrArg (·.toList.length) htext
    simp only [length_text_pathOf] at hlength
    have hall : pathLength (done.reverse ++ names) = pathLength done + pathLength names := by
      rw [pathLength_append, pathLength_reverse]
    omega
  · intro hdots
    rw [resolveDots_of_plain done hplain hdots]

theorem splitPath_eq_pieces {s : List Char} (h : '\\' ∉ s) :
    splitPath true s = Text.pieces '/' s := by
  induction s with
  | nil => rfl
  | cons c s ih =>
    obtain ⟨hc, hs⟩ := not_or.1 (mt List.mem_cons.2 h)
    have hslash : isSlash true c = true ↔ c = '/' := by simp [isSlash, Ne.symm hc]
    rw [splitPath, Text.pieces, ih hs]
    refine ite_congr (propext hslash) (fun _ => rfl) fun _ => ?_
    cases Text.pieces '/' s <;> rfl

end ServiceAdmin.Url
