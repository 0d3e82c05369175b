/-
  ScriptingBindings.Console.Table
  ──────────────────────────────────
  **TABLES.**

  A table has a title, a row of headings and rows of cells.  Each column is as
  wide as its widest line, with a space on either side; the title stands in
  the middle.  Where the console is not wide enough, the widest column gives
  way.  A frame says which characters are drawn around and between the cells.
-/
import ScriptingBindings.Console.Cells
import ScriptingBindings.Text.Lines

namespace ScriptingBindings.Console

/-! ## §1. Frames. -/

/-- The characters of one line of a frame: at the left, along a column, between two columns,
at the right. -/
structure Rule where
  left : Char := ' '
  along : Char := ' '
  between : Char := ' '
  right : Char := ' '
  deriving Repr, DecidableEq

/-- The lines of a frame: above the headings, around cells, below the headings, at the end. -/
structure Frame where
  top : Rule := {}
  cells : Rule := {}
  rule : Rule := {}
  bottom : Rule := {}
  deriving Repr, DecidableEq

/-- A frame of lines with rounded corners. -/
def Frame.rounded : Frame where
  top := ⟨'╭', '─', '┬', '╮'⟩
  cells := ⟨'│', ' ', '│', '│'⟩
  rule := ⟨'├', '─', '┼', '┤'⟩
  bottom := ⟨'╰', '─', '┴', '╯'⟩

/-- A frame of nothing but a line below the headings. -/
def Frame.plain : Frame where
  rule := ⟨' ', '─', '─', ' '⟩

/-- A line of columns. -/
def Rule.join (r : Rule) (columns : List (List Char)) : List Char :=
  r.left :: Text.joinWith r.between columns ++ [r.right]

/-- A line without cells, for columns of some widths. -/
def Rule.draw (r : Rule) (widths : List Nat) : List Char :=
  r.join (widths.map (fun width => List.replicate (width + 2) r.along))

/-! ## §2. Tables. -/

/-- A table. -/
structure Table where
  title : String
  frame : Frame
  headings : List String
  rows : List (List String)
  deriving Repr, DecidableEq

namespace Table

/-- The lines of the cells of a row. -/
def cellLines (row : List String) : List (List (List Char)) :=
  row.map (fun cell => Text.lines cell.toList)

/-- The width of the widest line of a cell. -/
def width (cell : String) : Nat :=
  ((Text.lines cell.toList).map cellWidth).foldl max 0

/-- The widths of the columns as their cells ask for them. -/
def wantedWidths (t : Table) : List Nat :=
  t.rows.foldl (fun ws row => List.zipWith max ws (row.map width)) (t.headings.map width)

/-- The widths of the columns on a console of some width.  Around each column stand two blanks
and a part of the frame. -/
def widths (room : Nat) (t : Table) : List Nat :=
  let ws := t.wantedWidths
  let excess := ws.foldl Nat.add 0 + 3 * ws.length + 1 - room
  ws.map (fun w => if w = ws.foldl max 0 then w - excess else w)

/-- A line of a cell in a column that may be too narrow for it. -/
def shorten (width : Nat) (line : List Char) : List Char :=
  if cellWidth line ≤ width then line else cropTo (width - 1) line ++ ['…']

/-- A line of a cell, with a space before it and blanks up to its column's end. -/
def pad (width : Nat) (line : List Char) : List Char :=
  let line := shorten width line
  ' ' :: line ++ List.replicate (width + 1 - cellWidth line) ' '

/-- The lines of a row, as many as its highest cell has. -/
def rowLines (frame : Frame) (widths : List Nat) (row : List String) : List (List Char) :=
  let cells := cellLines row
  (List.range ((cells.map List.length).foldl max 1)).map fun n =>
    frame.cells.join (List.zipWith (fun width cell => pad width (cell.getD n [])) widths cells)

/-- The title in the middle of a line of some width; of two middles, the left one. -/
def titleLine (width : Nat) (title : String) : List Char :=
  let left := (width - title.length) / 2
  List.replicate left ' ' ++ title.toList
    ++ List.replicate (width - title.length - left) ' '

/-- The lines of a table on a console of some width. -/
def lines (room : Nat) (t : Table) : List (List Char) :=
  let ws := t.widths room
  let top := t.frame.top.draw ws
  [titleLine top.length t.title, top] ++ rowLines t.frame ws t.headings
    ++ [t.frame.rule.draw ws] ++ t.rows.flatMap (rowLines t.frame ws)
    ++ [t.frame.bottom.draw ws]

/-- The text of a table on a console of some width; every line ends with a line feed. -/
def text (room : Nat) (t : Table) : String :=
  String.ofList ((t.lines room).flatMap (· ++ ['\n']))

end Table

end ScriptingBindings.Console
