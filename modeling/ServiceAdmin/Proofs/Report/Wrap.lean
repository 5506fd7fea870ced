import ServiceAdmin.Proofs.Text.Pieces
import ServiceAdmin.Report.Wrap

/-!
# Wrapped texts

A text is cut into pieces that are the text when they are put together again (`flatten_chunks`), as
many as the length of a line asks for (`length_chunks`).  Behind a label they stand on one line each
(`append_intercalate_eq`).  A wrapped text loses nothing, and its lines are as long as they may be
(`exists_isWrapping`).
-/

namespace ServiceAdmin.Report

/-! ## Pieces of a text -/

theorem flatten_chunks (n : Nat) (s : List Char) : (chunks n s).flatten = s := by
  fun_induction chunks n s with
  | case1 => rfl
  | case2 c rest ih =>
    rw [List.flatten_cons, ih, List.cons_append, List.take_append_drop]

theorem length_chunks (n : Nat) (s : List Char) :
    (chunks n s).length = (s.length + n) / (n + 1) := by
  fun_induction chunks n s with
  | case1 => rw [List.length_nil, List.length_nil, Nat.zero_add, Nat.div_eq_of_lt (by omega)]
  | case2 c rest ih =>
    have hsum : rest.length + 1 + n = rest.length + (n + 1) := by omega
    rw [List.length_cons, ih, List.length_drop, List.length_cons, hsum,
      Nat.add_div_right _ (by omega)]
    by_cases hn : n ≤ rest.length
    · rw [Nat.sub_add_cancel hn]
    · -- the last piece, behind which nothing is left
      rw [Nat.div_eq_of_lt (by omega : rest.length - n + n < n + 1),
        Nat.div_eq_of_lt (by omega : rest.length < n + 1)]

theorem mem_of_mem_chunks {n : Nat} {s piece : List Char} (h : piece ∈ chunks n s) {c : Char}
    (hc : c ∈ piece) : c ∈ s :=
  flatten_chunks n s ▸ List.mem_flatten_of_mem h hc

/-- A piece has a character and is no longer than a line. -/
theorem length_of_mem_chunks {n : Nat} {s piece : List Char} (h : piece ∈ chunks n s) :
    1 ≤ piece.length ∧ piece.length ≤ n + 1 := by
  fun_induction chunks n s with
  | case1 => cases h
  | case2 c rest ih =>
    rcases List.mem_cons.1 h with rfl | h
    · rw [List.length_cons, List.length_take]
      omega
    · exact ih h

/-- Only the last piece is shorter than a line. -/
theorem length_of_mem_dropLast_chunks {n : Nat} {s piece : List Char}
    (h : piece ∈ (chunks n s).dropLast) : piece.length = n + 1 := by
  fun_induction chunks n s with
  | case1 => cases h
  | case2 c rest ih =>
    by_cases hn : rest.length ≤ n
    · -- nothing is left behind this piece
      rw [List.drop_of_length_le hn, chunks] at h
      cases h
    · have hne : chunks n (rest.drop n) ≠ [] := by
        intro hnil
        have hlength := congrArg List.length (flatten_chunks n (rest.drop n))
        rw [hnil, List.flatten_nil, List.length_nil, List.length_drop] at hlength
        omega
      rw [List.dropLast_cons_of_ne_nil hne] at h
      rcases List.mem_cons.1 h with rfl | h
      · rw [List.length_cons, List.length_take]
        omega
      · exact ih h

/-! ## Pieces behind a label -/

/-- The lines of pieces that stand behind a label; all but the first are behind the margin. -/
def hanging (label margin : List Char) : List (List Char) → List (List Char)
  | [] => [label]
  | piece :: pieces => (label ++ piece) :: pieces.map (margin ++ ·)

theorem append_intercalate_eq (label margin : List Char) (pieces : List (List Char)) :
    label ++ ('\n' :: margin).intercalate pieces ++ ['\n'] =
      (hanging label margin pieces).flatMap (· ++ ['\n']) := by
  induction pieces generalizing label with
  | nil => simp [hanging]
  | cons piece pieces ih =>
    cases pieces with
    | nil => simp [hanging]
    | cons next pieces =>
      have hrest := ih margin
      rw [hanging, List.flatMap_cons] at hrest
      rw [List.intercalate_cons_cons, hanging, List.flatMap_cons, List.map_cons,
        List.flatMap_cons, ← hrest]
      simp

theorem length_hanging (label margin : List Char) (pieces : List (List Char)) :
    (hanging label margin pieces).length = max 1 pieces.length := by
  cases pieces with
  | nil => rfl
  | cons piece pieces =>
    rw [hanging, List.length_cons, List.length_map, List.length_cons]
    omega

theorem exists_head?_hanging (label margin : List Char) (pieces : List (List Char)) :
    ∃ line ∈ (hanging label margin pieces).head?, label <+: line := by
  cases pieces with
  | nil => exact ⟨label, rfl, List.prefix_rfl⟩
  | cons piece pieces => exact ⟨label ++ piece, rfl, List.prefix_append label piece⟩

/-- Without label and margin the lines are the pieces. -/
theorem flatMap_drop_hanging {k : Nat} {label margin : List Char} (hlabel : label.length = k)
    (hmargin : margin.length = k) (pieces : List (List Char)) :
    (hanging label margin pieces).flatMap (List.drop k) = pieces.flatten := by
  cases pieces with
  | nil => simp [hanging, ← hlabel]
  | cons piece pieces =>
    have hdrop : (fun piece => (margin ++ piece).drop k) = id := by
      funext piece
      rw [← hmargin, List.drop_left, id_eq]
    rw [hanging, List.flatMap_cons, ← hlabel, List.drop_left, hlabel, List.flatMap_map, hdrop,
      List.flatMap_id, List.flatten_cons]

theorem mem_of_mem_hanging {label margin line : List Char} {pieces : List (List Char)}
    (h : line ∈ hanging label margin pieces) {c : Char} (hc : c ∈ line) :
    c ∈ label ∨ c ∈ margin ∨ ∃ piece ∈ pieces, c ∈ piece := by
  cases pieces with
  | nil => exact .inl (List.mem_singleton.1 h ▸ hc)
  | cons piece pieces =>
    rcases List.mem_cons.1 h with rfl | h
    · rcases List.mem_append.1 hc with hc | hc
      · exact .inl hc
      · exact .inr (.inr ⟨piece, List.mem_cons_self, hc⟩)
    · obtain ⟨other, hother, rfl⟩ := List.mem_map.1 h
      rcases List.mem_append.1 hc with hc | hc
      · exact .inr (.inl hc)
      · exact .inr (.inr ⟨other, List.mem_cons_of_mem piece hother, hc⟩)

/-- Pieces without line feeds are on the lines of the joined text. -/
theorem pieces_append_intercalate {label margin : List Char} {pieces : List (List Char)}
    (hlabel : '\n' ∉ label) (hmargin : '\n' ∉ margin) (hpieces : ∀ piece ∈ pieces, '\n' ∉ piece) :
    Text.pieces '\n' (label ++ ('\n' :: margin).intercalate pieces) =
      hanging label margin pieces := by
  induction pieces generalizing label with
  | nil => rw [List.intercalate_nil, List.append_nil, Text.pieces_of_notMem hlabel, hanging]
  | cons piece pieces ih =>
    obtain ⟨hpiece, hrest⟩ := List.forall_mem_cons.1 hpieces
    have hfirst : '\n' ∉ label ++ piece := by
      rw [List.mem_append]
      exact not_or.2 ⟨hlabel, hpiece⟩
    cases pieces with
    | nil => rw [List.intercalate_singleton, Text.pieces_of_notMem hfirst, hanging, List.map_nil]
    | cons next pieces =>
      rw [List.intercalate_cons_cons, List.append_assoc, ← List.append_assoc label,
        List.cons_append, Text.pieces_append_cons _ hfirst, ih hmargin hrest]
      rfl

theorem length_of_mem_hanging {label margin line : List Char} {pieces : List (List Char)}
    {k n : Nat} (hlabel : label.length = k) (hmargin : margin.length = k)
    (hpieces : ∀ piece ∈ pieces, piece.length ≤ n) (h : line ∈ hanging label margin pieces) :
    line.length ≤ k + n := by
  cases pieces with
  | nil =>
    rw [List.mem_singleton.1 h]
    omega
  | cons piece pieces =>
    obtain ⟨hpiece, hrest⟩ := List.forall_mem_cons.1 hpieces
    rcases List.mem_cons.1 h with rfl | h
    · rw [List.length_append]
      omega
    · obtain ⟨other, hother, rfl⟩ := List.mem_map.1 h
      have := hrest other hother
      rw [List.length_append]
      omega

/-! ## Wrapping and unwrapping -/

/-- The lines of a text put together, all but the first without their margin. -/
def unwrap (margin : Nat) (s : List Char) : List Char :=
  match Text.pieces '\n' s with
  | [] => []
  | first :: rest => first ++ rest.flatMap (List.drop margin)

/-- How a text is wrapped as pieces of it. -/
structure IsWrapping (width indent : Nat) (pieces : List (List Char)) (text wrapped : List Char) :
    Prop where
  flatten : pieces.flatten = text
  joined : wrapped = ('\n' :: List.replicate indent ' ').intercalate pieces
  full : ∀ piece ∈ pieces.dropLast, piece.length = max 1 (width - indent)
  last : ∀ piece ∈ pieces.getLast?, 1 ≤ piece.length ∧ piece.length ≤ max 1 (width - indent)
  empty : text = [] → pieces = []
  /-- No line is too long once the first is behind a label as wide as the margin. -/
  fits : '\n' ∉ text → indent < width → ∀ label, label.length = indent → '\n' ∉ label →
    ∀ line ∈ Text.pieces '\n' (label ++ wrapped), line.length ≤ width
  unwraps : '\n' ∉ text → unwrap indent wrapped = text

theorem notMem_replicate_space (n : Nat) : '\n' ∉ List.replicate n ' ' := by
  intro h
  exact absurd (List.eq_of_mem_replicate h) (by decide)

theorem unwrap_intercalate {indent : Nat} {pieces : List (List Char)}
    (h : ∀ piece ∈ pieces, '\n' ∉ piece) :
    unwrap indent (('\n' :: List.replicate indent ' ').intercalate pieces) = pieces.flatten := by
  have hlines := pieces_append_intercalate List.not_mem_nil (notMem_replicate_space indent) h
  rw [List.nil_append] at hlines
  rw [unwrap, hlines]
  cases pieces with
  | nil => rfl
  | cons piece pieces =>
    have hdrop : (fun piece => (List.replicate indent ' ' ++ piece).drop indent) = id := by
      funext piece
      rw [List.drop_append_of_le_length (by simp), List.drop_of_length_le (by simp)]
      rfl
    simp only [hanging, List.nil_append, List.flatMap_map, hdrop, List.flatMap_id,
      List.flatten_cons]

/-- **Wrapping loses nothing and respects the width.** -/
theorem exists_isWrapping (text : String) (width indent : Nat) :
    ∃ pieces, IsWrapping width indent pieces text.toList (wrap text width indent).toList := by
  have hline : width - indent - 1 + 1 = max 1 (width - indent) := by omega
  have hjoined : (wrap text width indent).toList = ('\n' :: List.replicate indent ' ').intercalate
      (chunks (width - indent - 1) text.toList) := by
    rw [wrap, String.toList_ofList]
  have hunbroken (h : '\n' ∉ text.toList) :
      ∀ piece ∈ chunks (width - indent - 1) text.toList, '\n' ∉ piece :=
    fun piece hpiece hmem => h (mem_of_mem_chunks hpiece hmem)
  refine ⟨chunks (width - indent - 1) text.toList, ?_⟩
  exact {
    flatten := flatten_chunks _ _
    joined := hjoined
    full := fun piece hpiece => hline ▸ length_of_mem_dropLast_chunks hpiece
    last := fun piece hpiece => hline ▸ length_of_mem_chunks (List.mem_of_getLast? hpiece)
    empty := by
      intro hnil
      rw [hnil, chunks]
    fits := by
      intro htext hwidth label hlabel hunlabel line hmem
      rw [hjoined, pieces_append_intercalate hunlabel (notMem_replicate_space indent)
        (hunbroken htext)] at hmem
      have hlength := length_of_mem_hanging hlabel (List.length_replicate ..)
        (fun piece hpiece => (length_of_mem_chunks hpiece).2) hmem
      omega
    unwraps := by
      intro htext
      rw [hjoined, unwrap_intercalate (hunbroken htext), flatten_chunks] }

end ServiceAdmin.Report
