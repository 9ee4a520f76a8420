import PlotPipe.Datum.Items
import PlotPipe.Datum.Order
/-!
# Data — cells from values

How a value becomes a cell of an array or of a column. Integers have to
fit the width of the cell, doubles lose their fraction and what is beyond
the width, texts are read as numbers, and a missing value is a double
that is no number. Columns are stricter: their integers have to be what
was given for them, their times have certain units only, and missing
values stay what their type has for them.
-/

namespace PlotPipe

namespace CellType

/-- An integer wrapped round into the width of a cell. -/
def wrap (type : CellType) (i : Int) : Int :=
  match type with
  | integer bits => i.bmod (Nat.pow 2 bits)
  | natural bits => i % (Nat.pow 2 bits : Nat)
  | _ => i

/-- The integers that a machine word can take up. -/
def isWord (i : Int) : Bool := (integer 64).holds i || (natural 64).holds i

/-- A value as an integer cell. -/
def castWhole (type : CellType) (d : Datum) : Except Failure Datum :=
  match d with
  | .int i =>
    if type.holds i then .ok (.int i) else .error (.array (.outOfRange i type.name))
  | .cell (.integer _) (.int i) | .cell (.natural _) (.int i) => .ok (.int (type.wrap i))
  | _ => do
    let i ← d.toInt
    if isWord i then return .int (type.wrap i) else throw (.conversion .integerTooWide)

/-- A value as a double, where a missing value is no number. -/
def castReal (d : Datum) : Except Failure Binary64 :=
  match d with
  | .null => .ok .nan
  | _ => d.toReal

/-- A value as a complex number, where a missing value is no number. -/
def castComplex (f : BinaryFormat) (d : Datum) : Except Failure Datum :=
  match d with
  | .null => .ok (.complex .nan .nan)
  | .complex re im | .cell (.complex _) (.complex re im) =>
    .ok (.complex (re.narrow f) (im.narrow f))
  | _ => d.toReal.map fun x => .complex (x.narrow f) .zero

/-- A value as a tick of a unit. -/
def castTick (unit : TickUnit) (d : Datum) : Except Failure Datum :=
  match d with
  | .text s | .cell .text (.text s) => (Tick.read unit s).map .tick
  | .int i => .ok (.tick (.ofCount unit i))
  | .date date => .ok (.tick (.ofAttos unit (date.epochDays * (86400 * attosPerSecond : Nat))))
  | .moment m => .ok (.tick (.ofAttos unit (m.epochMicros * 1000000000000)))
  | .stamp s => .ok (.tick (.ofAttos unit (s.epochNanos * attosPerNano)))
  | .tick t => .ok (.tick (t.toUnit unit))
  | _ => .ok (.tick ⟨unit, none⟩)

/-- The text of a value by itself. -/
def ownText : Datum → String
  | .cell type (.real x) => Datum.cellText type (.real x)
  | .cell type (.complex re im) => Datum.cellText type (.complex re im)
  | d => d.display

/-- The text of a value, in which bytes are read as characters. -/
def readText (d : Datum) : Except Failure String :=
  match d with
  | .bytes bs =>
    match String.fromUTF8? ⟨bs.toArray⟩ with
    | some s => .ok s
    | none => .error .notText
  | _ => .ok (ownText d)

/-- The room that an array of texts makes for a cell of another type. -/
def textWidth : CellType → Nat
  | natural bits => if bits ≤ 8 then 3 else if bits ≤ 16 then 5 else if bits ≤ 32 then 10 else 20
  | integer bits => if bits ≤ 8 then 4 else if bits ≤ 16 then 6 else if bits ≤ 32 then 11 else 21
  | floating _ => 32
  | complex _ => 64
  | truth => 5
  | _ => 0

/-- A value as a text cell. Bytes have to be ASCII, and the room for a
number is filled up with zeros. -/
def castText (d : Datum) : Except Failure Datum := do
  let s ← readText d
  match d with
  | .bytes bs => if bs.all (· < 128) then return .text s else throw .notText
  | .cell type _ =>
    let zeros := List.replicate (type.textWidth - s.length) '\x00'
    return .text (s ++ String.ofList zeros)
  | _ => return .text s

/-- A value as a cell of an array. -/
def cast (type : CellType) (d : Datum) : Except Failure Datum :=
  match type with
  | integer _ | natural _ => castWhole type d
  | floating bits => (castReal d).map fun x => .real (x.narrow (format bits))
  | complex bits => castComplex (format (bits / 2)) d
  | truth => d.isSet.map .truth
  | text => castText d
  | tick unit => castTick unit d
  | object | optional _ => .ok d

/-- A value and a cell are equal numbers. -/
def isEqual (d cell : Datum) : Bool :=
  match d.amount?, cell.amount? with
  | some x, some y => x.toExact.order? y.toExact = some .eq
  | _, _ => false

/-- A value that is an integer by its kind. -/
def isWhole : Datum → Bool
  | .int _ | .cell (.integer _) _ | .cell (.natural _) _ => true
  | _ => false

/-- A value below zero. -/
def isNegative : Datum → Bool
  | .int i | .cell _ (.int i) => i < 0
  | _ => false

/-- Values as the integers of a column, which have to be equal to them;
among texts they have to be written the same way. -/
def castWholeColumn (type : CellType) (values : List Datum) : Except Failure (List Datum) :=
  match values.mapM (castWhole type) with
  | .error failure =>
    .error (if failure.kind = .overflow then .array (.columnOutOfRange type.name) else failure)
  | .ok cells =>
    let pairs := values.zip cells
    if pairs.all fun (d, cell) => isEqual d cell then .ok cells
    else if values.any Datum.isText then
      if pairs.all fun (d, cell) => d.display = cell.display then .ok cells
      else .error (.array (.columnTextChanged type.name))
    else if !values.all isWhole then .error (.array .columnNotWhole)
    else if type.holds (-1) || !values.any isNegative then
      .error (.array (.columnTooNarrow type.name))
    else .error (.array .columnNegative)

/-- Values as the cells of a column, of which some may be missing: whole
numbers and truth values are not made of others. -/
def castOptionalColumn (inner : CellType) (values : List Datum) : Except Failure (List Datum) := do
  let given := values.filter fun d => !d.isMissing
  let isReal (d : Datum) : Bool := match d with | .real _ => true | _ => false
  let cells ← values.mapM fun d => if d.isMissing then pure .missing else cast inner d
  let isKept := (values.zip cells).all fun (d, cell) => d.isMissing || isEqual d cell
  match inner with
  | integer _ | natural _ =>
    if isKept || given.any Datum.isText then return cells
    else
      let source := if values.all fun d => isReal d || isWhole d then "float64" else "object"
      throw (.array (.notEquivalent source inner.name))
  | truth => if isKept then return cells else throw (.array .notTruthLike)
  | _ => return cells

/-- The units that the times of a column may have. -/
def columnUnits : List TickUnit := [.second, .milli, .micro, .nano]

/-- A value as a cell of a column of texts, times or other cells. -/
def castColumnCell (type : CellType) (d : Datum) : Except Failure Datum :=
  match type with
  | text => if d.isMissing then .ok (.real .nan) else (readText d).map .text
  | tick unit =>
    if columnUnits.contains unit then castTick unit d
    else .error (.array (.unitNotSupported type.name))
  | _ => cast type d

/-- Values as the cells of a column. -/
def castColumn (type : CellType) (values : List Datum) : Except Failure (List Datum) :=
  match type with
  | integer _ | natural _ => castWholeColumn type values
  | optional inner => castOptionalColumn inner values
  | _ => values.mapM (castColumnCell type)

end CellType

namespace Datum

/-- An array of a cell type from values, laid out on axes. -/
def arrayOf (type : CellType) (shape : List Nat) (values : List Datum) : Except Failure Datum := do
  let cells ← values.mapM type.cast
  if cellCount shape ≠ cells.length then throw (.array (.notFilling cells.length shape))
  return array type shape cells

/-- A single cell by itself. -/
def cellOf (type : CellType) (value : Datum) : Except Failure Datum :=
  match type, value with
  | .text, _ => .ok (.cell .text (.text (CellType.ownText value)))
  | .object, _ => .ok value
  | _, _ => (type.cast value).map type.element

/-- A value as a time of an index: a missing one is no time. -/
def indexTime? : Datum → Option Datum
  | moment m => some (.stamp ⟨m, 0⟩)
  | stamp s => some (.stamp s)
  | tick t => some (tableTime t)
  | null | noTime => some .noTime
  | _ => none

/-- A value as a number of an index: a missing one is a double without a
value. -/
def indexReal? : Datum → Option Datum
  | int i => some (.real (.ofIntQuotient i 1))
  | real x => some (.real x)
  | null => some (.real .nan)
  | _ => none

/-- The values of an index. Times are stamps when all of them are times,
and numbers are doubles when some of them have to be. -/
def indexOf (values : List Datum) : List Datum :=
  let isTime (d : Datum) : Bool := match d with | stamp _ => true | _ => false
  let isInt (d : Datum) : Bool := match d with | int _ => true | _ => false
  let isNull (d : Datum) : Bool := match d with | null => true | _ => false
  match values.mapM indexTime?, values.mapM indexReal? with
  | some times, reals =>
    if times.any isTime then times else if values.all isNull then values else reals.getD values
  | none, some reals => if values.all isInt then values else reals
  | none, none => values

/-- A column of a cell type from values, with an index of its own or the
numbers from zero on. -/
def columnOf (type : CellType) (values : List Datum) (index : Option (List Datum)) :
    Except Failure Datum := do
  let cells ← type.castColumn values
  let index := index.getD (defaultIndex cells.length)
  if index.length ≠ cells.length then throw (.array (.indexLength cells.length index.length))
  return column type (indexOf index) cells

/-- A column that is filled up to a number of cells: cells that are
lacking turn integers into doubles and truth values into objects. -/
def fillUp (count : Nat) (type : CellType) (cells : List Datum) : CellType × List Datum :=
  let lacking := count - cells.length
  let fill (value : Datum) := cells ++ List.replicate lacking value
  if lacking = 0 then (type, cells)
  else
    match type with
    | .integer _ | .natural _ => (.floating 64, (fill .null).map fun c => match c with
      | int i => .real (.ofIntQuotient i 1)
      | _ => .real .nan)
    | .truth => (.object, fill (.real .nan))
    | .tick unit => (type, fill (.tick ⟨unit, none⟩))
    | .optional _ => (type, fill .missing)
    | _ => (type, fill (.real .nan))

/-- Named columns, each once: the last one given under a name takes the
place of the first. -/
def distinct {α : Type} (columns : List (String × α)) : List (String × α) :=
  columns.foldl
    (fun seen c =>
      if seen.any fun other => other.1 = c.1 then
        seen.map fun other => if other.1 = c.1 then c else other
      else seen ++ [c])
    []

/-- A table from columns of values, all of them filled up to the length
of the longest. -/
def frameOf (columns : List (String × CellType × List Datum)) : Except Failure Datum := do
  let cast ← columns.mapM fun (name, type, values) => do
    return (name, type, ← type.castColumn values)
  let columns := distinct cast
  let count := columns.foldl (fun n c => max n c.2.2.length) 0
  return frame (columns.map fun (name, type, cells) => (name, fillUp count type cells))

/-- A record with a value for each of its fields. -/
def recordOf (name : String) (fields : List String) (values : List Datum) :
    Except Failure Datum :=
  if values.length < fields.length then
    .error (.misuse (.missingFields name (fields.drop values.length)))
  else if fields.length < values.length then
    .error (.misuse (.surplusFields name (fields.length + 1) (values.length + 1)))
  else .ok (record name (fields.zip values))

end Datum

end PlotPipe
