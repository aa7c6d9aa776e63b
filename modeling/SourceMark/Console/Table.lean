/-
Tables as the console draws them: a heavy frame around the headers, a light one around the rows, and every column as
wide as its longest cell with a blank on either side.
-/
import SourceMark.Console.Screen

namespace SourceMark

/-- a table: the headers of its columns and its rows, cells in markup -/
structure Table where
  headers : List Text
  rows : List (List Text)

namespace Table

def cellText (cell : Text) : Text :=
  Console.unbounded.display (Markup.said cell)

/-- the width of each column: that of its longest cell -/
def widths (t : Table) : List Nat :=
  (List.range t.headers.length).map fun column =>
    ((t.headers :: t.rows).map fun row => Text.columns (cellText (row.getD column []))).foldl max 0

/-- the characters of a frame line: at its left end, between two cells, at its right end -/
structure Frame where
  left : Char
  between : Char
  right : Char

/-- a line of a frame with something for each column in it -/
def Frame.line (f : Frame) (cells : List Text) : Text :=
  f.left :: Text.join [f.between] cells ++ [f.right, '\n']

def Frame.rule (f : Frame) (stroke : Char) (widths : List Nat) : Text :=
  f.line (widths.map fun width => List.replicate (width + 2) stroke)

/-- a row of cells, each padded to the width of its column -/
def Frame.row (f : Frame) (widths : List Nat) (cells : List Text) : Text :=
  f.line (widths.zipIdx.map fun (width, column) =>
    ' ' :: Text.padColumns width (cellText (cells.getD column [])) ++ [' '])

def draw (t : Table) : Text :=
  let widths := t.widths
  Frame.rule ⟨'┏', '┳', '┓'⟩ '━' widths ++ Frame.row ⟨'┃', '┃', '┃'⟩ widths t.headers ++
    Frame.rule ⟨'┡', '╇', '┩'⟩ '━' widths ++ t.rows.flatMap (Frame.row ⟨'│', '│', '│'⟩ widths) ++
      Frame.rule ⟨'└', '┴', '┘'⟩ '─' widths

end Table

end SourceMark
