import PlotPipe.Number.Exact
import PlotPipe.Time.Stamp
/-!
# Data — values of any kind

Data and settings arrive as values of many kinds: plain numbers and
texts, dates and times, nested sequences, arrays with one type of cell,
columns and frames of a table, and records such as a range or a colour.
A value keeps its kind, because what may be done with it and how a
message shows it depend on the kind.

Texts are made of characters, of which a surrogate is none. Where it
matters that a text can hold one, which is where scripts are encoded, an
alphabet says which characters stand for surrogates; everywhere else, so
where texts are read from files and shown in messages, texts are taken to
have none.
-/

namespace PlotPipe

/-- The type that all cells of an array or a column have. -/
inductive CellType where
  | integer (bits : Nat)
  | natural (bits : Nat)
  | floating (bits : Nat)
  /-- Two doubles of half the width. -/
  | complex (bits : Nat)
  | truth
  | text
  | object
  | tick (unit : TickUnit)
  /-- Cells of another type, of which some may be missing. -/
  | optional (type : CellType)
  deriving DecidableEq

/-- A value of any kind. -/
inductive Datum where
  | null
  | truth (value : Bool)
  | int (value : Int)
  | real (value : Binary64)
  | exact (value : Exact)
  | complex (re im : Binary64)
  | text (value : String)
  | bytes (value : List UInt8)
  /-- Bytes that can be changed in place, which count as a sequence of
  numbers. -/
  | buffer (value : List UInt8)
  | list (items : List Datum)
  | tuple (items : List Datum)
  | range (start stop step : Int)
  | dict (entries : List (String × Datum))
  | date (value : Date)
  | moment (value : Moment)
  | tick (value : Tick)
  | stamp (value : Stamp)
  /-- The time of a table cell that has none. -/
  | noTime
  /-- A table cell that is missing from a column with optional cells. -/
  | missing
  /-- A single cell taken from an array. -/
  | cell (type : CellType) (value : Datum)
  /-- An array with the lengths of its axes and its cells, the last axis
  running fastest. -/
  | array (type : CellType) (shape : List Nat) (cells : List Datum)
  /-- A table column with an index value for each cell. -/
  | column (type : CellType) (index : List Datum) (cells : List Datum)
  /-- A table as its columns. -/
  | frame (columns : List (String × CellType × List Datum))
  /-- A named value with named fields. -/
  | record (name : String) (fields : List (String × Datum))
  deriving Inhabited

namespace CellType

/-- The cell types with a fixed name. -/
def named : List (String × CellType) :=
  [("int8", integer 8), ("int16", integer 16), ("int32", integer 32), ("int64", integer 64),
    ("uint8", natural 8), ("uint16", natural 16), ("uint32", natural 32), ("uint64", natural 64),
    ("float16", floating 16), ("float32", floating 32), ("float64", floating 64),
    ("complex64", complex 64), ("complex128", complex 128), ("bool", truth), ("str", text),
    ("object", object)]

/-- Other names of cell types. -/
def otherNames : List (String × CellType) :=
  [("int", integer 64), ("uint", natural 64), ("half", floating 16), ("single", floating 32),
    ("float", floating 64), ("double", floating 64), ("i1", integer 8), ("i2", integer 16),
    ("i4", integer 32), ("i8", integer 64), ("u1", natural 8), ("u2", natural 16),
    ("u4", natural 32), ("u8", natural 64), ("f2", floating 16), ("f4", floating 32),
    ("f8", floating 64), ("complex", complex 128), ("U", text), ("O", object)]

/-- The name of a cell type with cells that may be missing, from the name
of the type of the others. -/
def optionalName (name : String) : String :=
  if name = "bool" then "boolean" else if name = "str" then "string"
  else if name.startsWith "u" then "UI" ++ String.ofList (name.toList.drop 2)
  else name.capitalize

/-- The cell type with a name; ticks name their unit between brackets. -/
def ofName? (name : String) : Option CellType :=
  match (named ++ otherNames).lookup name with
  | some type => some type
  | none =>
    match named.find? fun entry => name = optionalName entry.1 with
    | some entry => some (optional entry.2)
    | none =>
      (TickUnit.byName.find? fun entry => name = "datetime64[" ++ entry.1 ++ "]").map
        fun entry => tick entry.2

/-- The name of a cell type. -/
def name : CellType → String
  | tick unit => "datetime64[" ++ unit.name ++ "]"
  | optional type => optionalName type.name
  | type => ((named.find? fun entry => entry.2 = type).map Prod.fst).getD ""

/-- Cells of the type are numbers as they stand. -/
def isNumber : CellType → Bool
  | integer _ | natural _ | floating _ | truth => true
  | _ => false

/-- The binary format of floating cells of a width. -/
def format (bits : Nat) : BinaryFormat :=
  if bits = 16 then .binary16 else if bits = 32 then .binary32 else .binary64

/-- Cells of the type hold an integer. -/
def holds (type : CellType) (i : Int) : Bool :=
  match type with
  | integer bits => -(Nat.pow 2 (bits - 1) : Int) ≤ i && i < (Nat.pow 2 (bits - 1) : Int)
  | natural bits => 0 ≤ i && i < (Nat.pow 2 bits : Int)
  | _ => true

end CellType

namespace Datum

/-- A text without the zero characters at its end, which cells do not
keep. -/
def withoutZeros (s : String) : String :=
  String.ofList ((s.toList.reverse.dropWhile (· = '\x00')).reverse)

/-- A tick as the plain value nearest to it: nothing, a date, a moment,
or its count where it is finer than a moment or in a year without
moments. -/
def plainTick (t : Tick) : Datum :=
  match t.count with
  | none => .null
  | some count =>
    let m := Tick.moment t.unit count
    if TickUnit.micro.fineness < t.unit.fineness || m.date.year < 1 || 9999 < m.date.year then
      .int count
    else if t.unit.fineness ≤ TickUnit.day.fineness then .date m.date
    else .moment m

/-- A tick as the stamp that a table shows for it. -/
def tableTime (t : Tick) : Datum :=
  match t.count with
  | none => .noTime
  | some count => .stamp (.ofNanos (Tick.countAttos t.unit count / attosPerNano))

/-- A value that a table takes for a missing one. -/
def isMissing : Datum → Bool
  | null | noTime | missing | real .nan | exact (.undefined _ _ _) => true
  | cell _ (real .nan) => true
  | tick t => t.count.isNone
  | _ => false

/-- Read a stamp; nothing, and the names of no time and of no number, are no
time. -/
def ofStampText? (s : String) : Option Datum :=
  if ["", "NaT", "nat", "NAT", "nan", "NaN", "NAN"].contains s then some .noTime
  else (Stamp.ofText? s).map stamp

end Datum

namespace CellType

/-- A cell by itself, as it is found when an array is taken apart:
objects stand for themselves. -/
def element (type : CellType) (value : Datum) : Datum :=
  match type, value with
  | object, _ | tick _, _ | optional text, _ | _, .missing => value
  | text, .text s => .cell text (.text (Datum.withoutZeros s))
  | optional inner, _ => .cell inner value
  | _, _ => .cell type value

/-- A cell as a plain value. -/
def plain (type : CellType) (value : Datum) : Datum :=
  match type, value with
  | tick _, .tick t => Datum.plainTick t
  | text, .text s => .text (Datum.withoutZeros s)
  | _, _ => value

/-- A cell of a table column as a plain value: times are stamps. -/
def tableCell (type : CellType) (value : Datum) : Datum :=
  match type, value with
  | tick _, .tick t => Datum.tableTime t
  | _, _ => value

/-- A cell of a table column as it is found when the column is gone
through: cells that may be missing are cells of arrays. -/
def columnItem (type : CellType) (value : Datum) : Datum :=
  match type with
  | optional _ => type.element value
  | _ => type.tableCell value

end CellType

end PlotPipe
