import CarbonAware.Text.Width

/-!
# Tables

A table of `n` columns is drawn with rounded box-drawing lines around it, a double line under the header and no
lines between rows.  Every column is as wide as its widest cell and one blank on either side.  The terminal codes of a
styled cell enclose the padded content (`Cell.drawLine`); a cell of several lines makes its row as high.
-/

namespace CarbonAware.Report

/-- How the content of a cell is highlighted. -/
inductive Style where
  | plain
  | bold
  | dim
  | green
  | red
  | standardColour
deriving DecidableEq, Repr

/-- Whether coloured styles show their colours. -/
inductive Colours where
  | shown
  | hidden
deriving DecidableEq, Repr

namespace Style

def escape : Char := '\x1b'

/-- The terminal code with the given parameters. -/
def code (parameters : String) : String := s!"{escape}[{parameters}m"

/-- The code of a colour, which loses its parameters if colours are not wanted. -/
def colourCode (colours : Colours) (parameters : String) : String :=
  code (match colours with | .shown => parameters | .hidden => "")

/-- The text between the codes that turn the style on and off. -/
def enclose (colours : Colours) : Style → String → String
  | plain, text => text
  | bold, text => code "1" ++ text ++ code "0"
  | dim, text => code "2" ++ text ++ code "0"
  | green, text => colourCode colours "38;5;10" ++ text ++ colourCode colours "39"
  | red, text => colourCode colours "38;5;9" ++ text ++ colourCode colours "39"
  | standardColour, text => colourCode colours "39" ++ text ++ colourCode colours "39"

end Style

/-- The side of a cell that its text is moved to. -/
inductive Alignment where
  | left
  | right
deriving DecidableEq, Repr

/-- One cell of a table. -/
structure Cell where
  text : String
  alignment : Alignment
  style : Style
deriving DecidableEq, Repr

/-- The text repeated `count` times. -/
def repeated (count : Nat) (text : String) : String := String.join (List.replicate count text)

namespace Cell

/-- A plain cell at the left. -/
def left (text : String) : Cell := ⟨text, .left, .plain⟩

/-- A plain cell at the right. -/
def right (text : String) : Cell := ⟨text, .right, .plain⟩

def styled (cell : Cell) (style : Style) : Cell := { cell with style }

def lines (cell : Cell) : List String := cell.text.splitOn "\n"

/-- The columns of the longest line. -/
def width (cell : Cell) : Nat := (cell.lines.map Text.displayWidth).foldl max 0

/-- A line of the content, filled up to `width` columns at the side that the alignment leaves free. -/
def align (alignment : Alignment) (width : Nat) (line : String) : String :=
  let fill := repeated (width - Text.displayWidth line) " "
  match alignment with
  | .left => line ++ fill
  | .right => fill ++ line

/-- The line `index` of the cell in a column of the given width; blanks below the last line. -/
def drawLine (colours : Colours) (index width : Nat) (cell : Cell) : String :=
  match cell.lines[index]? with
  | some line => cell.style.enclose colours s!" {align cell.alignment width line} "
  | none => repeated (width + 2) " "

end Cell

/-- A header and rows of one cell per column. -/
structure Table (n : Nat) where
  header : Vector Cell n
  rows : List (Vector Cell n)

namespace Table

variable {n : Nat}

/-- The width of each column, without the blanks on either side. -/
def widths (t : Table n) : Vector Nat n :=
  t.rows.foldl (fun widths row => widths.zipWith max (row.map Cell.width)) (t.header.map Cell.width)

/-- A horizontal line: its left end, the stroke, the crossing of columns and the right end. -/
def ruler (widths : Vector Nat n) (start stroke crossing stop : String) : String :=
  start ++ crossing.intercalate (widths.toList.map fun width => repeated (width + 2) stroke) ++ stop

/-- The lines of a row. -/
def drawRow (colours : Colours) (widths : Vector Nat n) (row : Vector Cell n) : List String :=
  let height := (row.toList.map fun cell => cell.lines.length).foldl max 0
  (List.range height).map fun index =>
    "│" ++ "┆".intercalate (Vector.zipWith (Cell.drawLine colours index) widths row).toList ++ "│"

/-- The drawn table, without a final line break. -/
def draw (colours : Colours) (t : Table n) : String :=
  let widths := t.widths
  "\n".intercalate <|
    [ruler widths "╭" "─" "┬" "╮"] ++ drawRow colours widths t.header ++ [ruler widths "╞" "═" "╪" "╡"] ++
      t.rows.flatMap (drawRow colours widths) ++ [ruler widths "╰" "─" "┴" "╯"]

end Table

end CarbonAware.Report
