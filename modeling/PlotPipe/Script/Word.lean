import PlotPipe.Datum.Items
import PlotPipe.Script.Quote
import PlotPipe.Text.Digit
/-!
# Scripts — values as words

How a value of any kind goes into a script: quoted, as a number, or in
hexadecimal. Only texts can be quoted, and only whole numbers have a
hexadecimal form; each other kind has its own way of not being one.
-/

namespace PlotPipe

/-- A double as a script writes it. -/
def Binary64.scriptText (x : Binary64) : String := x.text .script

namespace Datum

/-- A cell of a column as a quoted text: only a whole cell is replaced, a
line break by a blank and an apostrophe by two. -/
def quotedCell (s : String) : String :=
  let content :=
    if ["\r\n", "\n", "\r"].contains s then " " else if s = "'" then "''" else s
  "'" ++ content ++ "'"

/-- The cells of a column as quoted texts; missing ones stay what they
are. -/
def quotedCells (type : CellType) (cells : List Datum) : Except Failure (List Datum) :=
  match type with
  | .tick _ => .error (.misuse (.notConcatenable "DatetimeArray"))
  | .text | .object | .optional .text => cells.mapM fun c =>
    match c with
    | text s => .ok (text (quotedCell s))
    | c =>
      if c.isMissing then .ok (if type = .object then real .nan else c)
      else .error (.misuse (.notConcatenable c.typeName))
  | .optional inner => .error (.misuse (.cellsForText inner.name))
  | _ => .error (.misuse (.cellsForText type.name))

/-- A value as a quoted text. Columns and tables are quoted cell by cell,
and shown as they are set. -/
def quoted (d : Datum) : Except Failure String :=
  match d with
  | column type index cells =>
    (quotedCells type cells).map fun cells => (column type index cells).display
  | frame columns => do
    let columns ← columns.mapM fun (name, type, cells) => do
      return (name, type, ← quotedCells type cells)
    return (frame columns).display
  | text s | cell .text (text s) => .ok (Script.quote s)
  | bytes _ | buffer _ => .error (.misuse .bytesForText)
  | date _ | moment _ => .error (.misuse .dateForText)
  | stamp _ => .error (.misuse .stampForText)
  | noTime => .error (.misuse (.notConcatenable d.typeName))
  | d => .error (.misuse (.noPart d.typeName "replace"))

/-- A value as a number, which is written as a double. -/
def scriptNumber (d : Datum) : Except Failure String :=
  d.toReal.map Binary64.scriptText

/-- An integer in hexadecimal, of at least two digits; a sign takes the
place of one. -/
def hexDigits (i : Int) : String :=
  if i < 0 then "-" ++ Text.hex 1 i.natAbs else Text.hex 2 i.natAbs

/-- The form that hexadecimal numbers have, which dates take for the
text they are to be written as. -/
def hexForm : String := "02x"

/-- A value in hexadecimal. -/
def hexText : Datum → Except Failure String
  | truth b => .ok (hexDigits (if b then 1 else 0))
  | int i => .ok (hexDigits i)
  | real _ => .error (.misuse (.notHex "float"))
  | complex _ _ => .error (.misuse (.notHex "complex"))
  | text _ | tick _ => .error (.misuse (.notHex "str"))
  | exact _ => .error (.misuse .exactAsHex)
  | date _ | moment _ | stamp _ => .ok hexForm
  | noTime => .error (.misuse .noTimeAsHex)
  | cell .text _ => .error (.misuse (.notHex "numpy.str_"))
  | cell _ value => hexText value
  | array .text [] _ => .error (.misuse (.notHex "numpy.str_"))
  | array _ [] [value] => hexText value
  | d => .error (.misuse (.noHexForm d.typeName))

end Datum

end PlotPipe
