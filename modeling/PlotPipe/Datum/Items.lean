import PlotPipe.Datum.Convert
/-!
# Data — items and parts

The items that a value holds, as they are found when it is gone through,
and its parts by name. Arrays are gone through along their first axis,
tables by the names of their columns. Parts are the fields of a record,
the columns of a table and the cells of a column that is indexed by
texts.
-/

namespace PlotPipe

namespace Datum

/-- The numbers of a range. -/
def rangeItems (start stop step : Int) : List Datum :=
  (rangeFrom step (rangeLength start stop step) start).map int

/-- The length of a range, which may be too long to be measured. -/
def measuredRange (start stop step : Int) : Except Failure Nat :=
  let length := rangeLength start stop step
  if length < lengthLimit then .ok length else .error (.conversion .lengthTooLarge)

/-- Cut a list into `count` pieces of one size. -/
def chunks (size : Nat) : Nat → List Datum → List (List Datum)
  | 0, _ => []
  | count + 1, cells => cells.take size :: chunks size count (cells.drop size)

/-- The number of cells in a block of the given axes. -/
def cellCount (shape : List Nat) : Nat := shape.foldl (· * ·) 1

/-- The cells of an array as nested lists of plain values. -/
def nested (type : CellType) : List Nat → List Datum → Datum
  | [], cells => (cells.map type.plain).headD null
  | [_], cells => list (cells.map type.plain)
  | count :: rest, cells => list ((chunks (cellCount rest) count cells).map (nested type rest))

/-- The items of an array along its first axis. -/
def arrayItems (type : CellType) (shape : List Nat) (cells : List Datum) : List Datum :=
  match shape with
  | [] => []
  | [_] => cells.map type.element
  | count :: rest => (chunks (cellCount rest) count cells).map fun block => array type rest block

/-- The items of a value that is a collection. -/
def items (d : Datum) : Except Failure (List Datum) :=
  match d with
  | text s | cell .text (text s) => .ok (s.toList.map fun c => text c.toString)
  | bytes bs | buffer bs => .ok (bs.map fun b => int b.toNat)
  | list xs | tuple xs => .ok xs
  | range start stop step => (measuredRange start stop step).map fun _ => rangeItems start stop step
  | dict entries => .ok (entries.map fun entry => text entry.1)
  | array _ [] _ => .error (.conversion .noAxis)
  | array type shape cells => .ok (arrayItems type shape cells)
  | column type _ cells => .ok (cells.map type.columnItem)
  | frame columns => .ok (columns.map fun c => text c.1)
  | value => .error (.conversion (.notIterable value.typeName))

/-- The items of a value that is spread into a list of others. -/
def spread (d : Datum) : Except Failure (List Datum) :=
  match d.items with
  | .error (.conversion (.notIterable typeName)) => .error (.conversion (.notSpreadable typeName))
  | result => result

/-- The kinds that are sequences in their own right; arrays are not
among them. -/
def isSequence : Datum → Bool
  | text _ | cell .text _ | bytes _ | buffer _ | list _ | tuple _ | range _ _ _ => true
  | _ => false

/-- The length of a sequence. -/
def sequenceLength : Datum → Except Failure (Option Nat)
  | text s | cell .text (text s) => .ok (some s.length)
  | bytes bs | buffer bs => .ok (some bs.length)
  | list items | tuple items => .ok (some items.length)
  | range start stop step => (measuredRange start stop step).map some
  | _ => .ok none

/-- An array. -/
def isArray : Datum → Bool
  | array _ _ _ => true
  | _ => false

/-- The value of a field or key. -/
def lookup {α : Type} (key : String) (entries : List (String × α)) : Option α :=
  (entries.find? fun entry => entry.1 = key).map Prod.snd

/-- The index values of a table that has none of its own. -/
def defaultIndex (count : Nat) : List Datum :=
  (List.range count).map fun i : Nat => int i

/-- The cell of a column under a text of its index. -/
def cellUnder? (name : String) : List Datum → List Datum → Option Datum
  | key :: keys, value :: cells =>
    if key.text? = some name then some value else cellUnder? name keys cells
  | _, _ => none

/-- A part of a value by its name. -/
def part (name : String) (d : Datum) : Except Failure Datum :=
  let found : Option Datum := match d with
    | record _ fields => lookup name fields
    | frame columns =>
      (lookup name columns).map fun (type, cells) =>
        column type (defaultIndex cells.length) cells
    | column type index cells =>
      (cellUnder? name index cells).map fun value => type.element (type.tableCell value)
    | _ => none
  match found with
  | some value => .ok value
  | none => .error (.misuse (.noPart d.typeName name))

/-- Several values as the one text that they make up: a single one by
itself. -/
def joined : List Datum → String
  | [] => ""
  | [d] => d.display
  | ds => (tuple ds).literal

end Datum

/-- The complaint of a code and a text, perhaps about a subject or two,
from the values it is made of. Of five values at most the fourth is of no
concern; other numbers of values are no more than what they say. -/
def Complaint.ofArguments : List Datum → Complaint
  | [code, text] | [code, text, .null] | [code, text, .null, _] | [code, text, .null, _, _] =>
    .coded code.display text.display []
  | [code, text, subject] | [code, text, subject, _] | [code, text, subject, _, .null] =>
    .coded code.display text.display [subject.literal]
  | [code, text, subject, _, second] =>
    .coded code.display text.display [subject.literal, second.literal]
  | values => .said (Datum.joined values)

end PlotPipe
