import PlotPipe.Payload.Outline
/-!
# Payload — grids of numbers

A payload is laid out as a grid: the lengths of its axes and its cells,
the last axis running fastest. Arrays and tables have their axes; those
of nested sequences are found by their outline. Cells become doubles in
the order of the grid, and the first cell that is no number ends the
conversion. Texts, byte strings and dictionaries are never opened.
-/

namespace PlotPipe

/-- Cells with the lengths of the axes they are laid out on. -/
structure Grid (α : Type) where
  shape : List Nat
  cells : List α

namespace Payload

/-- The failure of a cell that holds no number. -/
def nonNumeric (label : String) (index : Nat) (d : Datum) : Failure :=
  d.showing fun literal => .payload (.nonNumeric label index literal)

/-- A cell as a double. A missing value is not-a-number; texts and byte
strings are not read; a number too large for a double keeps its own
failure, as does a signalling decimal. -/
def toCell (label : String) (index : Nat) (d : Datum) : Except Failure Binary64 :=
  match d with
  | .null => .ok .nan
  | .exact x => Datum.realOfExact x
  | .text _ | .cell .text _ | .bytes _ => .error (nonNumeric label index d)
  | _ =>
    match d.toReal with
    | .ok x => .ok x
    | .error failure =>
      if failure.kind = .type ∨ failure.kind = .value then .error (nonNumeric label index d)
      else .error failure

/-- Convert cells in order; the cell at place `position` belongs to the
entry `position / width`. -/
def toCells (label : String) (width : Nat) : Nat → List Datum → Except Failure (List Binary64)
  | _, [] => .ok []
  | position, d :: rest => do
    let x ← toCell label (position / width) d
    let xs ← toCells label width (position + 1) rest
    return x :: xs

/-- The most axes of a grid whose cells are converted one by one. -/
def axisLimit : Nat := 32

/-- Convert the cells of a grid one by one. -/
def convert (label : String) (shape : List Nat) (cells : List Datum) :
    Except Failure (Grid Binary64) := do
  if axisLimit < shape.length then throw (.array (.tooManyAxes shape.length))
  return ⟨shape, ← toCells label (Datum.cellCount (shape.drop 1)) 0 cells⟩

/-- A number that is a cell of an array as it stands. -/
def numberCell : Datum → Binary64
  | .int i => .ofIntQuotient i 1
  | .truth b => .ofIntQuotient (if b then 1 else 0) 1
  | .real x => x
  | _ => .nan

/-- The grid of an array: numbers as they stand, other cells one by
one. -/
def gridOfArray (label : String) (type : CellType) (shape : List Nat) (cells : List Datum) :
    Except Failure (Grid Binary64) :=
  if type.isNumber then .ok ⟨shape, cells.map numberCell⟩
  else convert label shape (cells.map type.element)

/-- The grid of a payload. -/
def grid (label : String) (d : Datum) : Except Failure (Grid Binary64) :=
  match d with
  | .column type _ cells =>
    let (type, cells) := columnArray type cells
    gridOfArray label type [cells.length] cells
  | .frame columns =>
    let (type, shape, cells) := tableArray columns
    gridOfArray label type shape cells
  | .array type shape cells => gridOfArray label type shape cells
  | .list _ | .tuple _ | .range _ _ _ => do
    let shape := Outline.ofNest d
    convert label shape (← cellsOn shape d)
  | _ => .error (.payload (.unsupported label d.typePath))

/-- Pair up consecutive items. -/
def pairUp {α : Type} : List α → List (α × α)
  | a :: b :: rest => (a, b) :: pairUp rest
  | _ => []

end Payload

end PlotPipe
