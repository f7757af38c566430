import JavaHomes.Text.Blank
import JavaHomes.Text.Width

/-!
Tables in plain text: cells between bars, a rule above and below every row. A column is as wide as
its widest line, and a row as high as its highest cell.
-/

namespace JavaHomes.CommandLine.Table

/-- The lines of a cell. -/
def cellLines (cell : String) : List (List Char) :=
  Text.splitBy (· == '\n') cell.toList

/-- The columns that a cell takes. -/
def cellWidth (cell : String) : Nat :=
  ((cellLines cell).map Text.Width.ofChars).foldl max 0

/-- The larger width for each column; a missing column has none. -/
def widest : List Nat → List Nat → List Nat
  | [], b => b
  | a, [] => a
  | x :: a, y :: b => max x y :: widest a b

/-- The widths of the columns. -/
def columnWidths (rows : List (List String)) : List Nat :=
  (rows.map fun row => row.map cellWidth).foldl widest []

/-- The rule between rows. -/
def rule (widths : List Nat) : List Char :=
  '+' :: widths.flatMap fun w => List.replicate (w + 2) '-' ++ ['+']

/-- A line of a cell, filled up to the width of its column. -/
def padded (width : Nat) (line : List Char) : List Char :=
  ' ' :: line ++ List.replicate (width - Text.Width.ofChars line) ' ' ++ [' ', '|']

/-- One line of a row; a cell that has no such line is left blank. -/
def rowLine (widths : List Nat) (row : List String) (i : Nat) : List Char :=
  '|' :: ((widths.zip row).map fun (w, cell) => padded w ((cellLines cell)[i]?.getD [])).flatten

/-- The lines of a row. -/
def rowLines (widths : List Nat) (row : List String) : List (List Char) :=
  let height := (row.map fun cell => (cellLines cell).length).foldl max 0
  (List.range height).map (rowLine widths row)

/-- The text of a table. -/
def render (rows : List (List String)) : String :=
  let widths := columnWidths rows
  String.ofList <| Text.joinLines <|
    rule widths :: rows.flatMap fun row => rowLines widths row ++ [rule widths]

end JavaHomes.CommandLine.Table
