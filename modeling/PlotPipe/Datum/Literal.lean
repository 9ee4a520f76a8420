import PlotPipe.Datum.TableText
import PlotPipe.Text.Literal
/-!
# Data — literals and type names

How a message shows a value, and what it calls the type of a value. A
literal is the text from which the value could be built again; columns
and tables are shown as they are set instead. Inside a table a value
stands by itself, without quotes, and a collection stands between
brackets down to a fixed depth.
-/

namespace PlotPipe

namespace CellType

/-- The notes at the end of an array literal: the lengths of the axes
where the cells do not show them, and the type of the cells unless the
cells themselves show it. -/
def notes (type : CellType) (shape : List Nat) (cells : List Datum) : List String :=
  let axes :=
    if (cells.isEmpty && shape ≠ [0]) || ArrayText.fullSize < cells.length then
      ["shape=(" ++ ", ".intercalate (shape.map fun n => toString n)
        ++ (if shape.length = 1 then ",)" else ")")]
    else []
  let longest := cells.foldl
    (fun n c => match c with | .text s => max n s.length | _ => n) 1
  let name := match type with
    | integer 64 | floating 64 | complex 128 | truth => if cells.isEmpty then [type.name] else []
    | text => ["'<U" ++ toString longest ++ "'"]
    | tick _ => ["'" ++ type.name ++ "'"]
    | _ => [type.name]
  axes ++ name.map fun s => "dtype=" ++ s

end CellType

namespace Datum

/-- A double as it stands in a complex number, without a fraction of
zero. -/
def componentText (f : BinaryFormat) (x : Binary64) : String :=
  let s := ArrayText.single f x
  if s.endsWith ".0" then String.ofList (s.toList.take (s.length - 2)) else s

/-- A complex number as a literal; a real part of positive zero is left
out with the brackets. -/
def complexLiteral (f : BinaryFormat) (re im : Binary64) : String :=
  let imText := componentText f im
  if re = .zero then imText ++ "j"
  else
    let plus := if imText.startsWith "-" then "" else "+"
    "(" ++ componentText f re ++ plus ++ imText ++ "j)"

/-- A truth value as a literal. -/
def truthLiteral (b : Bool) : String := if b then "True" else "False"

/-- The number of an array cell as a text. -/
def cellText (type : CellType) (value : Datum) : String :=
  match type, value with
  | _, .truth b => truthLiteral b
  | _, .text s => s
  | .floating bits, .real x => ArrayText.single (CellType.format bits) x
  | .complex bits, .complex re im => complexLiteral (CellType.format (bits / 2)) re im
  | _, .real x => x.text .plain
  | _, .int i => toString i
  | _, _ => ""

/-- An array cell in brackets that name its type. -/
def cellLiteral (type : CellType) (value : Datum) : String :=
  match type, value with
  | .complex _, _ =>
    let text := (cellText type value).toList.filter fun c => c ≠ '(' && c ≠ ')'
    "np." ++ type.name ++ "(" ++ String.ofList text ++ ")"
  | .truth, _ => "np." ++ cellText type value ++ "_"
  | .text, .text s => "np.str_(" ++ Text.literal s ++ ")"
  | _, _ => "np." ++ type.name ++ "(" ++ cellText type value ++ ")"

/-- The texts of the cells of an array, from their literals. A cell of an
array without axes has no blanks before it, and a list that is one cell
is marked as such. -/
def setCells (type : CellType) (bare : Bool) (cells : List (Datum × String)) : List String :=
  let pad (texts : List String) : List String :=
    (ArrayText.alignRight (texts.map String.toList)).map String.ofList
  match type with
  | .floating bits =>
    (ArrayText.alignPoints false (CellType.format bits)
      (cells.map fun c => match c.1 with | .real x => x | _ => .nan)).map String.ofList
  | .complex bits =>
    (ArrayText.alignPairs (CellType.format (bits / 2)) (cells.map fun c => match c.1 with
      | .complex re im => (re, im)
      | _ => (.nan, .nan))).map String.ofList
  | .truth =>
    cells.map fun c => match c.1 with
      | .truth true => if bare then "True" else " True"
      | _ => "False"
  | .integer _ | .natural _ => pad (cells.map Prod.snd)
  | .tick _ => pad (cells.map fun c => match c.1 with | .tick t => "'" ++ t.text ++ "'" | _ => "")
  | .text => cells.map fun c => match c.1 with | .text s => Text.literal (withoutZeros s) | _ => ""
  | _ => cells.map fun c => match c.1 with | .list _ => "list(" ++ c.2 ++ ")" | _ => c.2

/-- The cells of an array from their literals, between brackets. -/
def arrayText (setting : ArrayText.Setting) (type : CellType) (shape : List Nat)
    (cells : List Datum) (literals : List String) : String :=
  if cells.isEmpty then "[]"
  else
    let large := ArrayText.fullSize < cells.length
    let shown := ArrayText.shownCells large shape (cells.zip literals)
    ArrayText.layout setting large shape (setCells type shape.isEmpty shown)

/-- A number of items from `start` on, each `step` after the other. -/
def rangeFrom (step : Int) : Nat → Int → List Int
  | 0, _ => []
  | count + 1, start => start :: rangeFrom step count (start + step)

/-- The length of a range. -/
def rangeLength (start stop step : Int) : Nat :=
  (if 0 < step then (stop - start + step - 1) / step
    else if step < 0 then (start - stop - step - 1) / (-step)
    else 0).toNat

/-- The length from which on a range is too long to be measured. -/
def lengthLimit : Nat := 9223372036854775808

/-- The depth of brackets that a table sets itself. -/
def tableDepth : Nat := 3

/-- The texts that stand for a value: its literal, and what a table shows
for it inside a number of brackets. Inside a dictionary texts are quoted
and breaks are left as they are. -/
structure Wording where
  literal : String
  inTable : Nat → Bool → String

namespace Wording

/-- A value that a table shows by a text of its own. -/
def plain (literal text : String) : Wording :=
  ⟨literal, fun _ quoted => if quoted then text else TableText.escapeBreaks text⟩

/-- A text. -/
def ofText (literal text : String) : Wording :=
  ⟨literal, fun _ quoted => if quoted then "'" ++ text ++ "'" else TableText.escapeBreaks text⟩

/-- A collection that a table sets itself, as long as there are not too
many brackets around it. -/
def collection (literal before after : String) (items : List Wording) : Wording :=
  ⟨literal, fun depth quoted =>
    if depth < tableDepth then
      TableText.entryList before after (items.map fun w => w.inTable (depth + 1) quoted)
    else if quoted then literal else TableText.escapeBreaks literal⟩

/-- A dictionary. -/
def dictionary (entries : List (String × Wording)) : Wording :=
  let pairs := entries.map fun (key, w) => Text.literal key ++ ": " ++ w.literal
  let literal := "\x7b" ++ ", ".intercalate pairs ++ "\x7d"
  ⟨literal, fun depth quoted =>
    if depth < tableDepth then
      TableText.entryList "\x7b" "\x7d"
        (entries.map fun (key, w) => "'" ++ key ++ "': " ++ w.inTable (depth + 1) true)
    else if quoted then literal else TableText.escapeBreaks literal⟩

/-- The cells of an array as a table shows them, axis by axis. -/
def nested : List Nat → List String → String
  | [], texts => texts.headD ""
  | [_], texts => TableText.entryList "[" "]" texts
  | count :: rest, texts =>
    TableText.entryList "[" "]"
      ((ArrayText.pieces (rest.foldl (· * ·) 1) count texts).map (nested rest))

/-- An array. -/
def ofArray (type : CellType) (shape : List Nat) (cells : List Datum) (items : List Wording) :
    Wording :=
  let literals := items.map Wording.literal
  ⟨ArrayText.withNotes (arrayText ArrayText.inLiteral type shape cells literals)
    (type.notes shape cells), fun depth quoted => nested shape (items.map fun w =>
      w.inTable (depth + 1) quoted)⟩

end Wording

mutual

/-- The texts that stand for a value. -/
def wording : Datum → Wording
  | null => .plain "None" "None"
  | truth b => .plain (truthLiteral b) (truthLiteral b)
  | int i => .plain (toString i) (toString i)
  | real x => .plain (x.text .plain) (x.text .plain)
  | exact x => .plain ("Decimal('" ++ x.text ++ "')") x.text
  | complex re im => .plain (complexLiteral .binary64 re im) (complexLiteral .binary64 re im)
  | text s => .ofText (Text.literal s) s
  | bytes bs => .plain ("b" ++ Text.byteLiteral bs) ("b" ++ Text.byteLiteral bs)
  | buffer bs =>
    .collection ("bytearray(b" ++ Text.bufferLiteral bs ++ ")") "[" "]"
      (bs.map fun b => .plain (toString b) (toString b))
  | list items =>
    let ws := wordings items
    .collection ("[" ++ ", ".intercalate (ws.map Wording.literal) ++ "]") "[" "]" ws
  | tuple items =>
    let ws := wordings items
    let after := if items.length = 1 then ",)" else ")"
    .collection ("(" ++ ", ".intercalate (ws.map Wording.literal) ++ after) "(" after ws
  | range start stop step =>
    let shown := if step = 1 then s!"range({start}, {stop})" else s!"range({start}, {stop}, {step})"
    let count := min (rangeLength start stop step) (TableText.shownEntries + 1)
    let numbers := rangeFrom step count start
    .collection shown "(" ")" (numbers.map fun i => .plain (toString i) (toString i))
  | dict entries => .dictionary (entryWordings entries)
  | date d => .plain d.literal d.text
  | moment m => .plain m.literal m.text
  | tick t => .plain t.literal t.text
  | stamp s => .plain s.literal s.text
  | noTime => .plain "NaT" "NaT"
  | missing => .plain "<NA>" "<NA>"
  | cell .text (text s) => .ofText ("np.str_(" ++ Text.literal s ++ ")") s
  | cell type value => .plain (cellLiteral type value) (cellText type value)
  | array type shape cells => .ofArray type shape cells (wordings cells)
  | column type index cells =>
    let text := TableText.column type.name type index
      ((wordings index).map fun w => w.inTable 0 false) cells
      ((wordings cells).map fun w => w.inTable 0 false)
    ⟨text, fun _ _ => text⟩
  | frame columns =>
    let text := TableText.frame (columnWordings columns)
    ⟨text, fun _ _ => text⟩
  | record name fields =>
    let shown := (entryWordings fields).map fun (key, w) => key ++ "=" ++ w.literal
    let text := name ++ "(" ++ ", ".intercalate shown ++ ")"
    .plain text text

/-- The texts of several values. -/
def wordings : List Datum → List Wording
  | [] => []
  | d :: rest => wording d :: wordings rest

/-- The texts of named values. -/
def entryWordings : List (String × Datum) → List (String × Wording)
  | [] => []
  | (key, d) :: rest => (key, wording d) :: entryWordings rest

/-- The columns of a table with the texts of their cells. -/
def columnWordings : List (String × CellType × List Datum) →
    List (String × CellType × List Datum × List String)
  | [] => []
  | (name, type, cells) :: rest =>
    (name, type, cells, (wordings cells).map fun w => w.inTable 0 false) :: columnWordings rest

end

/-- A value as a literal. -/
def literal (d : Datum) : String := (wording d).literal

/-- A value as it stands inside a text: texts and times by themselves,
and numbers of arrays as the numbers they are. -/
def display : Datum → String
  | text s => s
  | exact x => x.text
  | date d => d.text
  | moment m => m.text
  | stamp s => s.text
  | tick t => t.text
  | cell _ (.real x) => x.text .plain
  | cell _ (.complex re im) => complexLiteral .binary64 re im
  | cell type value => cellText type value
  | array .text [] [.text s] => withoutZeros s
  | array _ [] [value] => display value
  | array type shape cells =>
    arrayText ArrayText.bare type shape cells ((wordings cells).map Wording.literal)
  | d => literal d

/-- The name that conversions use for the type of a value. -/
def typeName : Datum → String
  | null => "NoneType"
  | truth _ => "bool"
  | int _ => "int"
  | real _ => "float"
  | exact _ => "decimal.Decimal"
  | complex _ _ => "complex"
  | text _ => "str"
  | bytes _ => "bytes"
  | buffer _ => "bytearray"
  | list _ => "list"
  | tuple _ => "tuple"
  | range _ _ _ => "range"
  | dict _ => "dict"
  | date _ => "datetime.date"
  | moment _ => "datetime.datetime"
  | tick _ => "numpy.datetime64"
  | stamp _ => "Timestamp"
  | noTime => "NaTType"
  | missing => "NAType"
  | cell .text _ => "numpy.str_"
  | cell type _ => "numpy." ++ type.name
  | array _ _ _ => "numpy.ndarray"
  | column _ _ _ => "Series"
  | frame _ => "DataFrame"
  | record name _ => name

/-- The last part of the name of the type of a value. -/
def shortTypeName (d : Datum) : String :=
  String.ofList ((d.typeName.toList.reverse.takeWhile (· ≠ '.')).reverse)

/-- The type of a value with the place it comes from. -/
def typePath (d : Datum) : String :=
  let path := match d with
    | stamp _ => "pandas.Timestamp"
    | noTime => "pandas.api.typing.NaTType"
    | missing => "pandas.api.typing.NAType"
    | column _ _ _ => "pandas.Series"
    | frame _ => "pandas.DataFrame"
    | record name _ => "gnuplot_session.values." ++ name
    | _ => d.typeName
  "<class '" ++ path ++ "'>"

end Datum

end PlotPipe
