import PlotPipe.Number.Reading
import PlotPipe.Series
import PlotPipe.Table.Source
import PlotPipe.Text.Literal
/-!
# Tables — data files

A data file holds one row of numbers on each line. Columns are separated
by blanks, or by a delimiter of one character, where every delimiter
counts. A number sign starts a comment; lines without anything else are
passed over. All rows are as wide as the first one.

A table of one column draws heights. In a wider one the first column
holds the positions of all others, each of which is a series of points.
-/

namespace PlotPipe

/-- Rows of numbers, all of the same width. -/
structure Table where
  rows : List (List Binary64)
  deriving DecidableEq

namespace Table

/-- What separates the cells of a row. -/
inductive Separator where
  | blanks
  | character (c : Char)
  deriving DecidableEq

/-- The character that starts a comment. -/
def commentMark : Char := '#'

/-- The characters of a delimiter, or of a cell, that a message shows at
most. -/
def shownLength : Nat := 100

/-- The separator that a delimiter asks for: any blanks without one. A
delimiter is one character that has no other use. -/
def Separator.ofDelimiter : Option String → Except Failure Separator
  | none => .ok .blanks
  | some delimiter =>
    match delimiter.toList with
    | [c] =>
      if c = commentMark then .error (.table .delimiterIsComment)
      else if c = '\n' ∨ c = '\r' then .error (.table .delimiterIsLineEnd)
      else .ok (.character c)
    | _ =>
      .error (.table (.delimiterNotCharacter (Text.clip shownLength (Text.literal delimiter))))

/-- The cells of a line. -/
def Separator.cells (separator : Separator) (line : List Char) : List (List Char) :=
  let content := line.takeWhile fun c => c ≠ commentMark
  match separator with
  | .blanks => Text.words content
  | .character c => if content.isEmpty then [] else Text.splitAt c content

/-- The number in a cell, which may have blanks around it. -/
def cell? (cell : List Char) : Option Binary64 :=
  Decimal.plain? (Text.trimBy Text.isBlank cell)

/-- The numbers of a row. Rows count from zero and columns from one. -/
def numbers (row : Nat) : Nat → List (List Char) → Except Failure (List Binary64)
  | _, [] => .ok []
  | column, cell :: rest =>
    match cell? cell with
    | some x => (numbers row (column + 1) rest).map fun xs => x :: xs
    | none =>
      let shown := Text.clip shownLength (Text.literal (String.ofList cell))
      .error (.table (.notNumber shown row column))

/-- The rows of several lines of cells, where `row` rows of the given
width come before them. A row of another width is found out before its
numbers are read. -/
def rowsFrom (row width : Nat) : List (List (List Char)) → Except Failure (List (List Binary64))
  | [] => .ok []
  | cells :: rest => do
    if cells.length ≠ width then
      throw (.table (.columnsChanged width cells.length (row + 1)))
    let xs ← numbers row 1 cells
    let others ← rowsFrom (row + 1) width rest
    return xs :: others

/-- The table that a text holds. -/
def ofText (separator : Separator) (s : String) : Except Failure Table := do
  let lines := ((Text.lines s).map separator.cells).filter fun cells => !cells.isEmpty
  match lines with
  | [] => return ⟨[]⟩
  | first :: _ => return ⟨← rowsFrom 0 first.length lines⟩

/-- What comes out of a file that may be packed. -/
def contentOf (machine : Machine) (packing : Option Packing) (bytes : ByteArray) : Unpacked :=
  match packing with
  | some packing => machine.unpack packing bytes
  | none => { content := bytes }

/-- The table in what comes out of a file. It is read row by row: what is
wrong with a row is found out before what breaks off the reading behind
it. -/
def ofUnpacked (separator : Separator) (u : Unpacked) : Except Failure Table := do
  let table ← ofText separator (← Workspace.decode u.content)
  match u.failure with
  | some failure => throw failure
  | none => return table

/-- The table in a file. The file is opened before the delimiter is
looked at, and unpacked after that. -/
def load (workspace : Workspace) (path : Path) (delimiter : Option String) :
    Except Failure Table := do
  let (bytes, packing) ← fetch workspace path
  let separator ← Separator.ofDelimiter delimiter
  ofUnpacked separator (contentOf workspace.machine packing bytes)

/-- The number of columns. -/
def width (t : Table) : Nat := (t.rows.head?.map List.length).getD 0

/-- The cells of a column, from zero. -/
def column (t : Table) (n : Nat) : List Binary64 :=
  t.rows.filterMap fun row => row[n]?

/-- The first column with another one. -/
def points (t : Table) (n : Nat) : List (Binary64 × Binary64) :=
  (t.column 0).zip (t.column n)

/-- The series of a table: its only column under a name, or all columns
after the first, each under its number. -/
def series (t : Table) (style : PlotStyle) (name : String) : List Series :=
  if t.width = 1 then [{ style, trace := .heights (t.column 0), title := .text name }]
  else
    (List.range' 1 (t.width - 1)).map fun n =>
      { style, trace := .points (t.points n), title := .text ("column " ++ toString (n + 1)) }

end Table

end PlotPipe
