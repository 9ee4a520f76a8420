import PlotPipe.Payload.Grid
/-!
# Payload — rows of plots

The rows that the layouts of a plot are made of: single heights, points
in the plane, heights over time, and candles. Points and heights come
from a grid. Rows with a time are taken apart one by one, since their
cells are of different kinds; a candle may hold its four prices in a
group of its own. Times become seconds from the start of 1970.
-/

namespace PlotPipe

/-- A candle of a price chart: a time and four prices. -/
structure Candle where
  time : Binary64
  opening : Binary64
  high : Binary64
  low : Binary64
  closing : Binary64
  deriving DecidableEq

namespace Payload

/-- The heights of a payload of one axis. -/
def heights (label : String) (d : Datum) : Except Failure (List Binary64) := do
  let g ← grid label d
  match g.shape with
  | [_] => return g.cells
  | _ => throw (.payload (.notOneDimensional label))

/-- The points of a payload of two axes, the second of length two. A
payload without cells has no points, whatever its axes. -/
def points (label : String) (d : Datum) : Except Failure (List (Binary64 × Binary64)) := do
  let g ← grid label d
  if g.cells.isEmpty then return []
  else
    match g.shape with
    | [_, 2] => return pairUp g.cells
    | _ => throw (.payload (.notPairs label))

/-- A time in seconds from the start of 1970. Dates are their midnight,
in universal time; numbers count as seconds already. -/
def seconds (label : String) (index : Nat) (d : Datum) : Except Failure Binary64 :=
  match d with
  | .stamp s => .ok s.moment.epochSeconds
  | .tick t => .ok t.epochSeconds
  | .moment m => .ok m.epochSeconds
  | .noTime => .error (.conversion .noInstant)
  | .date date => .ok (Moment.ofDate date).epochSeconds
  | _ => toCell label index d

/-- Take each value of a list apart into its items. -/
def itemsOfEach : List Datum → Except Failure (List (List Datum))
  | [] => .ok []
  | d :: rest => do
    let xs ← d.items
    let others ← itemsOfEach rest
    return xs :: others

/-- A value that can be a row: a sequence, but no text and no byte
string, or an array. -/
def isRow (d : Datum) : Bool :=
  match d with
  | .bytes _ => false
  | _ => !d.isText && (d.isSequence || d.isArray)

/-- The failure of a value that is no row. -/
def notRow (label : String) (index : Nat) (d : Datum) : Failure :=
  d.showing fun literal => .payload (.notRow label index literal)

/-- The first value from an index on that is no row. -/
def firstNonRow (label : String) : Nat → List Datum → Except Failure Unit
  | _, [] => .ok ()
  | index, d :: rest =>
    if isRow d then firstNonRow label (index + 1) rest
    else .error (notRow label index d)

/-- The cells of a row. Of a long range only the first ones are given: no
row has as many as six, so that they tell that it is too long. -/
def rowCells (d : Datum) : Except Failure (List Datum) :=
  match d with
  | .array _ [] _ => .error (.conversion .noLength)
  | .range start stop step => do
    let length ← Datum.measuredRange start stop step
    return (Datum.rangeFrom step (min length 6) start).map .int
  | _ => d.items

/-- The rows of a payload, checked to be rows but not yet taken apart:
an array or table gives its rows as tuples. -/
def rows (label : String) (d : Datum) : Except Failure (List Datum) :=
  match d with
  | .array type shape cells => do
    let rows ← itemsOfEach (← (Datum.nested type shape cells).items)
    return rows.map .tuple
  | .frame columns =>
    let cells := columns.map fun (_, type, cells) => cells.map type.tableCell
    .ok ((transpose cells).map .tuple)
  | .list rows | .tuple rows => do
    firstNonRow label 0 rows
    return rows
  | .range start stop step =>
    if Datum.rangeLength start stop step = 0 then .ok []
    else .error (notRow label 0 (.int start))
  | _ => .error (.payload (.unsupported label d.typePath))

/-- Convert rows in order, each with its index. -/
def convertRows {α : Type} (convert : Nat → Datum → Except Failure α) :
    Nat → List Datum → Except Failure (List α)
  | _, [] => .ok []
  | index, row :: rest => do
    let x ← convert index row
    let xs ← convertRows convert (index + 1) rest
    return x :: xs

/-- A row of a time and a height. -/
def timePair (label : String) (index : Nat) (row : Datum) :
    Except Failure (Binary64 × Binary64) := do
  match ← rowCells row with
  | [time, height] =>
    let t ← seconds label index time
    let y ← toCell label index height
    return (t, y)
  | _ => throw (.payload (.notTimePair label index))

/-- Heights over time. A table column takes its times from its index. -/
def timePairs (label : String) (d : Datum) : Except Failure (List (Binary64 × Binary64)) := do
  let source := match d with
    | .column type index cells =>
      .list (List.zipWith (fun time height => .tuple [time, height]) index
        (cells.map type.tableCell))
    | _ => d
  convertRows (timePair label) 0 (← rows label source)

/-- A group of prices: a sequence or an array, but no text. -/
def isPriceGroup (d : Datum) : Bool :=
  !d.isText && (d.isSequence || d.isArray)

/-- The time and the prices of a row, which are a group of their own or
the rest of the row. -/
def candleParts (label : String) (index : Nat) (row : Datum) :
    Except Failure (Datum × List Datum) := do
  match ← rowCells row with
  | [time, group] =>
    if isPriceGroup group then return (time, ← rowCells group)
    else throw (.payload (.notCandle label index))
  | [time, a, b, c, d] => return (time, [a, b, c, d])
  | _ => throw (.payload (.notCandle label index))

/-- A row of a time and four prices. The prices are converted before the
time. -/
def candle (label : String) (index : Nat) (row : Datum) : Except Failure Candle := do
  let (time, prices) ← candleParts label index row
  match prices with
  | [a, b, c, d] =>
    let opening ← toCell label index a
    let high ← toCell label index b
    let low ← toCell label index c
    let closing ← toCell label index d
    return ⟨← seconds label index time, opening, high, low, closing⟩
  | _ => throw (.payload (.notFourPrices label index))

/-- The candles of a payload. -/
def candles (label : String) (d : Datum) : Except Failure (List Candle) := do
  convertRows (candle label) 0 (← rows label d)

end Payload

end PlotPipe
