import PlotPipe.Payload.Rows
import PlotPipe.Style.Coerce
import PlotPipe.Style.Strict
/-!
# Series

A series is one trace of a plot with its styling. What it draws is
either data, in one of four layouts, or an expression that the plotting
program evaluates. The data are doubles already; a series over time, and
candles always are, switches the axis of the plot to time.
-/

namespace PlotPipe

/-- How a series is drawn. -/
inductive PlotStyle where
  | lines | points | steps | histogram | candlesticks
  deriving DecidableEq

/-- The layouts that data can have. -/
inductive Layout where
  | heights | points | timeline | candles
  deriving DecidableEq

/-- What a series draws. -/
inductive Trace where
  /-- Heights at the positions from zero on. -/
  | heights (values : List Binary64)
  /-- Points in the plane. -/
  | points (values : List (Binary64 × Binary64))
  /-- Heights over time. -/
  | timeline (values : List (Binary64 × Binary64))
  /-- Candles of a price chart. -/
  | candles (values : List Candle)
  /-- An expression, which has to be a text when it is written. -/
  | expression (value : Datum)

/-- The appearance of a series, as it is handed over; what is null is not
asked for. -/
structure Styling where
  title : Datum := .null
  color : Datum := .null
  weight : Datum := .null
  fill : Datum := .null

/-- A trace with its appearance. -/
structure Series where
  style : PlotStyle
  trace : Trace
  title : Datum := .null
  color : Option Color := none
  weight : Datum := .null
  fill : Datum := .null

namespace Trace

/-- Read data in a layout. -/
def read (layout : Layout) (d : Datum) : Except Failure Trace :=
  match layout with
  | .heights => (Payload.heights "y" d).map heights
  | .points => (Payload.points "xy" d).map points
  | .timeline => (Payload.timePairs "timey" d).map timeline
  | .candles => (Payload.candles "candlesticks" d).map candles

/-- The data of a trace as rows of numbers. -/
def rows : Trace → List (List Binary64)
  | heights values => values.map fun y => [y]
  | points values | timeline values => values.map fun (x, y) => [x, y]
  | candles values => values.map fun c => [c.time, c.opening, c.high, c.low, c.closing]
  | expression _ => []

/-- The trace brings its own data. -/
def isInline : Trace → Bool
  | expression _ => false
  | _ => true

/-- The trace has a time axis. -/
def isTime : Trace → Bool
  | timeline _ | candles _ => true
  | _ => false

end Trace

namespace Series

/-- Give a trace its appearance. -/
def ofTrace (style : PlotStyle) (trace : Trace) (styling : Styling) : Except Failure Series := do
  let color ← match styling.color with
    | .null => pure none
    | d => (Color.ofDatum d).map some
  return { style, trace, title := styling.title, color, weight := styling.weight,
           fill := styling.fill }

/-- A series of data. The data are read before the colour. -/
def ofData (style : PlotStyle) (layout : Layout) (d : Datum) (styling : Styling) :
    Except Failure Series := do
  ofTrace style (← Trace.read layout d) styling

/-- A series of an expression. -/
def ofExpression (style : PlotStyle) (value : Datum) (styling : Styling) :
    Except Failure Series :=
  ofTrace style (.expression value) styling

/-- The number of rows. -/
def length (s : Series) : Nat := s.trace.rows.length

/-- The strict check of a weight. -/
def checkWeight (weight : Datum) : Except Failure Unit := do
  if ← weight.isNegative then throw (.strict (.weight (← weight.written)))

/-- The strict check of a series: weight, colour, filling. -/
def check (s : Series) : Except Failure Unit := do
  s.weight.whenAsked checkWeight
  match s.color with
  | some color => color.check
  | none => pure ()
  s.fill.whenAsked Filling.checkDatum

end Series

end PlotPipe
