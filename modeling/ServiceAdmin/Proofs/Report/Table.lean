import ServiceAdmin.Proofs.Text.Pieces
import ServiceAdmin.Report.Table

/-!
# Rows of a table

A table whose cells have no line feeds has one line for its headers and one for each row
(`exists_table_eq_unlines`).  A line holds the texts of its cells in their order, and else nothing
but spaces.
-/

namespace ServiceAdmin.Report

/-- The text of lines that all end in a line feed. -/
def unlines (lines : List (List Char)) : String := String.ofList (lines.flatMap (· ++ ['\n']))

/-- The line holds the texts in their order, with spaces around them and nothing else. -/
def Spaced : List (List Char) → List Char → Prop
  | [], line => ∀ c ∈ line, c = ' '
  | text :: texts, line =>
    ∃ n rest, line = List.replicate (n + 1) ' ' ++ text ++ rest ∧ Spaced texts rest

theorem mem_of_spaced {texts : List (List Char)} {line : List Char} (h : Spaced texts line)
    {c : Char} (hc : c ∈ line) : c = ' ' ∨ ∃ text ∈ texts, c ∈ text := by
  induction texts generalizing line with
  | nil => exact .inl (h c hc)
  | cons text texts ih =>
    obtain ⟨n, rest, rfl, hrest⟩ := h
    rcases List.mem_append.1 hc with hc | hc
    · rcases List.mem_append.1 hc with hc | hc
      · exact .inl (List.eq_of_mem_replicate hc)
      · exact .inr ⟨text, List.mem_cons_self, hc⟩
    · exact (ih hrest hc).imp_right fun ⟨other, hother, hc⟩ =>
        ⟨other, List.mem_cons_of_mem text hother, hc⟩

theorem Spaced.append_left {text : List Char} {texts : List (List Char)} {line : List Char}
    (h : Spaced (text :: texts) line) (k : Nat) :
    Spaced (text :: texts) (List.replicate k ' ' ++ line) := by
  obtain ⟨n, rest, rfl, hrest⟩ := h
  refine ⟨k + n, rest, ?_, hrest⟩
  rw [← List.append_assoc, ← List.append_assoc, List.replicate_append_replicate, Nat.add_assoc]

/-! ## Lines of a row -/

theorem rowLine_cons_cons (width next : Nat) (widths : List Nat) (text : List Char)
    (texts : List (List Char)) :
    rowLine (width :: next :: widths) (text :: texts) =
      ' ' :: (text ++ (List.replicate (width - Text.columns text + 1) ' ' ++
        rowLine (next :: widths) texts)) := by
  rw [← List.replicate_append_replicate, List.append_assoc, ← List.append_assoc]
  rfl

/-- A line with as many texts as there are columns holds them all. -/
theorem spaced_rowLine {widths : List Nat} {texts : List (List Char)}
    (h : widths.length = texts.length) : Spaced texts (rowLine widths texts) := by
  induction widths generalizing texts with
  | nil =>
    rw [List.length_eq_zero_iff.1 h.symm]
    exact fun _ h => nomatch h
  | cons width widths ih =>
    obtain ⟨text, texts, rfl⟩ := List.exists_cons_of_length_eq_add_one h.symm
    have hlength := Nat.succ.inj h
    cases widths with
    | nil =>
      rw [List.length_eq_zero_iff.1 hlength.symm]
      exact ⟨0, [' '], rfl, List.forall_mem_singleton.2 rfl⟩
    | cons next widths =>
      obtain ⟨other, texts, rfl⟩ := List.exists_cons_of_length_eq_add_one hlength.symm
      rw [rowLine_cons_cons]
      exact ⟨0, _, rfl, (ih hlength).append_left _⟩

/-! ## Cells without line feeds -/

theorem cellOf_of_notMem {s : String} (h : '\n' ∉ s.toList) :
    cellOf s = if s.toList.isEmpty then [] else [s.toList] := by
  rw [cellOf, Text.lines, Text.pieces_of_notMem h]
  rfl

theorem length_cellOf_le {s : String} (h : '\n' ∉ s.toList) : (cellOf s).length ≤ 1 := by
  rw [cellOf_of_notMem h]
  split
  · exact Nat.zero_le 1
  · exact Nat.le_refl 1

theorem cellOf_getD_zero {s : String} (h : '\n' ∉ s.toList) :
    (cellOf s).getD 0 [] = s.toList := by
  rw [cellOf_of_notMem h]
  split
  · next hempty => exact (List.isEmpty_iff.1 hempty).symm
  · rfl

theorem foldl_max_eq {n : Nat} {l : List Nat} (h : ∀ m ∈ l, m ≤ n) : l.foldl max n = n := by
  induction l with
  | nil => rfl
  | cons m l ih =>
    rw [List.foldl_cons, Nat.max_eq_left (h m List.mem_cons_self)]
    exact ih fun k hk => h k (List.mem_cons_of_mem m hk)

variable {row : List String}

theorem rowHeight_map_cellOf (h : ∀ s ∈ row, '\n' ∉ s.toList) :
    rowHeight (row.map cellOf) = 1 := by
  refine foldl_max_eq fun m hm => ?_
  obtain ⟨cell, hcell, rfl⟩ := List.mem_map.1 hm
  obtain ⟨s, hs, rfl⟩ := List.mem_map.1 hcell
  exact length_cellOf_le (h s hs)

/-- **A row without line feeds is one line.** -/
theorem rowLines_map_cellOf (widths : List Nat) (h : ∀ s ∈ row, '\n' ∉ s.toList) :
    rowLines widths (row.map cellOf) = [rowLine widths (row.map String.toList)] := by
  have htexts : (row.map cellOf).map (fun cell => cell.getD 0 []) = row.map String.toList := by
    rw [List.map_map]
    exact List.map_congr_left fun s hs => cellOf_getD_zero (h s hs)
  rw [rowLines, rowHeight_map_cellOf h, ← htexts]
  rfl

/-! ## Tables -/

/-- A line for a row: it has no line feed, and holds the cells in their order. -/
structure IsLineOf (row : List String) (line : List Char) : Prop where
  spaced : Spaced (row.map String.toList) line
  unbroken : '\n' ∉ line

theorem isLineOf_rowLine {widths : List Nat} (hlength : widths.length = row.length)
    (h : ∀ s ∈ row, '\n' ∉ s.toList) :
    IsLineOf row (rowLine widths (row.map String.toList)) := by
  have hspaced := spaced_rowLine (hlength.trans (List.length_map String.toList).symm)
  refine ⟨hspaced, fun hmem => ?_⟩
  rcases mem_of_spaced hspaced hmem with hspace | ⟨text, htext, hc⟩
  · exact absurd hspace (by decide)
  · obtain ⟨s, hs, rfl⟩ := List.mem_map.1 htext
    exact h s hs hc

theorem length_columnWidths {n : Nat} {cells : List (List Cell)} {row : List Cell}
    (hrow : row.length = n) (h : ∀ other ∈ cells, other.length = n) :
    (columnWidths (row :: cells)).length = n := by
  rw [columnWidths, List.length_map, List.length_range, List.map_cons, List.foldl_cons, hrow,
    Nat.zero_max]
  refine foldl_max_eq fun m hm => ?_
  obtain ⟨other, hother, rfl⟩ := List.mem_map.1 hm
  exact Nat.le_of_eq (h other hother)

/-- **A table without line feeds has one line for the headers and one for each row.** -/
theorem exists_table_eq_unlines (headers : List String) (rows : List (List String))
    (hlength : ∀ row ∈ rows, row.length = headers.length)
    (hheaders : ∀ s ∈ headers, '\n' ∉ s.toList) (hrows : ∀ row ∈ rows, ∀ s ∈ row, '\n' ∉ s.toList) :
    ∃ line : List String → List Char,
      table headers rows = unlines (line headers :: rows.map line) ∧
        ∀ row ∈ headers :: rows, IsLineOf row (line row) := by
  have hwidths : ∀ row ∈ headers :: rows,
      (columnWidths ((headers :: rows).map (List.map cellOf))).length = row.length := by
    have hall : (columnWidths ((headers :: rows).map (List.map cellOf))).length =
        headers.length := by
      refine length_columnWidths (List.length_map _) fun other hother => ?_
      obtain ⟨row, hrow, rfl⟩ := List.mem_map.1 hother
      rw [List.length_map, hlength row hrow]
    exact List.forall_mem_cons.2 ⟨hall, fun row hrow => hall.trans (hlength row hrow).symm⟩
  generalize hw : columnWidths ((headers :: rows).map (List.map cellOf)) = widths at hwidths
  have hunbroken : ∀ row ∈ headers :: rows, ∀ s ∈ row, '\n' ∉ s.toList :=
    List.forall_mem_cons.2 ⟨hheaders, hrows⟩
  refine ⟨fun row => rowLine widths (row.map String.toList), ?_, fun row hrow =>
    isLineOf_rowLine (hwidths row hrow) (hunbroken row hrow)⟩
  have hlines : ∀ row ∈ headers :: rows,
      (rowLines widths (row.map cellOf)).flatMap (· ++ ['\n']) =
        rowLine widths (row.map String.toList) ++ ['\n'] := by
    intro row hrow
    rw [rowLines_map_cellOf widths (hunbroken row hrow), List.flatMap_singleton]
  calc table headers rows
      = String.ofList ((headers :: rows).flatMap fun row =>
          (rowLines widths (row.map cellOf)).flatMap (· ++ ['\n'])) := by
        rw [table, hw, List.flatMap_map]
    _ = String.ofList ((headers :: rows).flatMap fun row =>
          rowLine widths (row.map String.toList) ++ ['\n']) := by
        rw [List.flatMap_def, List.flatMap_def, List.map_congr_left hlines]
    _ = unlines ((headers :: rows).map fun row => rowLine widths (row.map String.toList)) := by
        rw [unlines, List.flatMap_map]

end ServiceAdmin.Report
