import ServiceAdmin.Text.Blank
import ServiceAdmin.Text.Width

/-!
# Tables

A table without borders.  Each cell has a space on both sides and is filled up with spaces to the
width of its column, the last column excepted.  A cell may have several lines, and then its row has.
-/

namespace ServiceAdmin.Report

open Text (columns)

/-- A cell by its lines. -/
abbrev Cell := List (List Char)

def cellOf (s : String) : Cell := Text.lines s.toList

def cellWidth (cell : Cell) : Nat := (cell.map columns).foldl max 0

/-- The cells of column `i` in all rows. -/
def columnWidth (rows : List (List Cell)) (i : Nat) : Nat :=
  (rows.map fun row => cellWidth (row.getD i [])).foldl max 0

/-- The widths of the columns; the longest row tells how many there are. -/
def columnWidths (rows : List (List Cell)) : List Nat :=
  (List.range ((rows.map List.length).foldl max 0)).map (columnWidth rows)

/-- One line of a row, of the texts of its cells. -/
def rowLine : List Nat → List (List Char) → List Char
  | [], _ => []
  | [_], texts => ' ' :: texts.headD [] ++ [' ']
  | width :: widths, texts =>
    let text := texts.headD []
    ' ' :: text ++ List.replicate (width - columns text) ' ' ++ ' ' :: rowLine widths texts.tail

/-- A row has as many lines as its highest cell, and at least one. -/
def rowHeight (row : List Cell) : Nat := (row.map List.length).foldl max 1

def rowLines (widths : List Nat) (row : List Cell) : List (List Char) :=
  (List.range (rowHeight row)).map fun k => rowLine widths (row.map fun cell => cell.getD k [])

/-- The table under its headers. -/
def table (headers : List String) (rows : List (List String)) : String :=
  let cells := (headers :: rows).map (List.map cellOf)
  let widths := columnWidths cells
  String.ofList (cells.flatMap fun row => (rowLines widths row).flatMap (· ++ ['\n']))

end ServiceAdmin.Report
