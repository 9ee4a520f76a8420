import PlotPipe.Datum.Cell
/-!
# Payload — the outline of nested sequences

A nest of sequences is laid out on axes, one for each depth at which all
of them can be opened and have one length. The outline is found by going
through the nest in order: the first values that cannot be opened settle
how deep it is, and whatever differs from that later makes it shallower.
What lies below the last axis stays a cell, and so does a range that is
too long to be measured. Arrays, columns and tables take part with all of
their axes at once. Where the outline is shallower than an array, the
array has to fit the cells that are left for it.
-/

namespace PlotPipe

/-- What is known of the axes of a nest: the depth that it has at most,
whether some value has settled it, and the lengths of the axes. -/
structure Outline where
  limit : Nat
  settled : Bool := false
  lengths : List Nat := []

namespace Outline

/-- The most axes that a grid has. -/
def axisLimit : Nat := 64

/-- Put lengths from a depth on. -/
def put (o : Outline) (depth : Nat) (lengths : List Nat) : Outline :=
  { o with lengths := o.lengths.take depth ++ lengths }

/-- The first place at which lengths differ from those of an outline. -/
def differsAt? (known lengths : List Nat) : Option Nat :=
  (known.zip lengths).findIdx? fun (a, b) => a ≠ b

/-- Meet a sequence at a depth; the second part says whether it fits. -/
def meetSequence (o : Outline) (depth length : Nat) : Outline × Bool :=
  if o.limit ≤ depth then (o, false)
  else if !o.settled then (o.put depth [length], true)
  else if o.lengths[depth]? = some length then (o, true)
  else ({ o with limit := depth }, false)

/-- Meet a block of cells at a depth: a value that cannot be opened has
no axes, an array has as many as it has. An outline that has been settled
keeps the axes before the first one that differs. -/
def meetBlock (o : Outline) (depth : Nat) (lengths : List Nat) : Outline :=
  let fitting := lengths.take (o.limit - depth)
  let limit := min o.limit (depth + lengths.length)
  if !o.settled then { o.put depth fitting with limit, settled := true }
  else
    match differsAt? (o.lengths.drop depth) fitting with
    | some place => { o with limit := limit - (fitting.length - place) }
    | none => { o with limit }

/-- The axes of a value that takes part with all of them at once. -/
def blockAxes : Datum → List Nat
  | .array _ shape _ => shape
  | .buffer bs => [bs.length]
  | .column _ _ cells => [cells.length]
  | .frame columns => [((columns.head?).map fun c => c.2.2.length).getD 0, columns.length]
  | _ => []

/-- Meet the end of a sequence that was gone through: an empty one is as
deep as the nest can be. -/
def close (o : Outline) (depth length : Nat) : Outline :=
  if length = 0 then { o with limit := depth + 1, settled := true } else o

mutual

/-- Meet a value at a depth. -/
def meet (o : Outline) (depth : Nat) : Datum → Outline
  | .list items | .tuple items =>
    if o.limit = depth then o.meetBlock depth []
    else
      let (o, fits) := o.meetSequence depth items.length
      if fits then (o.meetAll (depth + 1) items).close depth items.length else o
  | .range start stop step =>
    let length := Datum.rangeLength start stop step
    if o.limit = depth || Datum.lengthLimit ≤ length then o.meetBlock depth []
    else
      let (o, fits) := o.meetSequence depth length
      if !fits then o
      else if length = 0 then o.close depth 0
      else o.meetBlock (depth + 1) []
  | d => o.meetBlock depth (blockAxes d)

/-- Meet several values at a depth. -/
def meetAll (o : Outline) (depth : Nat) : List Datum → Outline
  | [] => o
  | d :: rest => (o.meet depth d).meetAll depth rest

end

/-- The axes of a nest. -/
def ofNest (d : Datum) : List Nat :=
  let o := meet ⟨axisLimit, false, []⟩ 0 d
  o.lengths.take o.limit

end Outline

namespace Payload

/-- Drop axes of length one in front, while there are more than `count`
axes. -/
def dropUnitAxes (count : Nat) : List Nat → List Nat
  | 1 :: rest => if count < rest.length + 1 then dropUnitAxes count rest else 1 :: rest
  | shape => shape

/-- Fit the cells of an array into a place. The place is of the first
axes of the array, so that an array with more of them fits when it is a
single cell. -/
def fit (shape target : List Nat) (cells : List Datum) : Except Failure (List Datum) :=
  let source := dropUnitAxes target.length shape
  if source = target then .ok cells else .error (.array (.notFitting source target))

/-- The rows of a table from its columns. -/
def transpose : List (List Datum) → List (List Datum)
  | [] => []
  | [column] => column.map fun d => [d]
  | column :: rest => List.zipWith (· :: ·) column (transpose rest)

/-- The cell type that holds the cells of two columns. Times keep the
finer unit; numbers are doubles, but truth values are no numbers here. -/
def mergeTypes (a b : CellType) : CellType :=
  match a, b with
  | .tick m, .tick n => .tick (if m.fineness < n.fineness then n else m)
  | _, _ =>
    if a = b && a ≠ .text then a
    else if a.isNumber && b.isNumber && a ≠ .truth && b ≠ .truth then .floating 64
    else .object

/-- The cell type that holds the cells of several columns. A single
column keeps its own. -/
def commonType : List CellType → CellType
  | [] => .object
  | [type] => type
  | type :: rest =>
    match rest.foldl mergeTypes type with
    | .optional _ => .object
    | common => common

/-- A cell of a column among those of another type. -/
def cellAs (common type : CellType) (value : Datum) : Datum :=
  match common, value with
  | .tick unit, .tick t => .tick (t.toUnit unit)
  | .object, _ => type.tableCell value
  | _, _ => value

/-- A column as an array: missing cells are doubles without a value
where the others are numbers. -/
def columnArray (type : CellType) (cells : List Datum) : CellType × List Datum :=
  match type with
  | .text | .optional .text => (.object, cells)
  | .optional inner =>
    let lacks := cells.any fun c => match c with | .missing => true | _ => false
    if !lacks then (inner, cells)
    else if inner.isNumber && inner ≠ .truth then
      (.floating 64, cells.map fun c => match c with
        | .missing => .real .nan
        | .int i => .real (.ofIntQuotient i 1)
        | c => c)
    else (.object, cells)
  | type => (type, cells)

/-- A table as an array: its cell type, its axes and its cells. -/
def tableArray (columns : List (String × CellType × List Datum)) :
    CellType × List Nat × List Datum :=
  match columns with
  | [(_, type, cells)] =>
    let (type, cells) := columnArray type cells
    (type, [cells.length, 1], cells)
  | _ =>
    let type := commonType (columns.map fun c => c.2.1)
    let rows := transpose (columns.map fun (_, own, cells) => cells.map (cellAs type own))
    (type, [rows.length, columns.length], rows.flatten)

/-- The cells of a value that is laid out as a block of its own, as plain
values. -/
def blockCells : Datum → List Datum
  | .array type _ cells => cells.map type.plain
  | .buffer bs => bs.map fun b => .int b.toNat
  | .column type _ cells => let (type, cells) := columnArray type cells; cells.map type.plain
  | .frame columns => let (type, _, cells) := tableArray columns; cells.map type.plain
  | d => [d]

mutual

/-- The cells of a value on the axes that are left for it. -/
def cellsOn : List Nat → Datum → Except Failure (List Datum)
  | [], d => .ok [d]
  | _ :: axes, .list items | _ :: axes, .tuple items => allCellsOn axes items
  | axes, .range start stop step =>
    .ok (if axes.isEmpty then [.range start stop step] else Datum.rangeItems start stop step)
  | axes, d => fit (Outline.blockAxes d) axes (blockCells d)

/-- The cells of several values. -/
def allCellsOn (axes : List Nat) : List Datum → Except Failure (List Datum)
  | [] => .ok []
  | d :: rest => do
    let cells ← cellsOn axes d
    let others ← allCellsOn axes rest
    return cells ++ others

end

end Payload

end PlotPipe
