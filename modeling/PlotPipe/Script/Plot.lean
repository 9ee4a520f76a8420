import PlotPipe.Series
import PlotPipe.Script.Directive
/-!
# Scripts — plots

The script of a plot: the lines of its settings, a line for the kind of
its x axis where one is needed, the plot line with a clause for each
series, and the data of each series that brings its own. A block of data
has one line for each row and ends with a line that holds `e`. Candles
are stored as open, high, low, close, and written as open, low, high,
close.
-/

namespace PlotPipe

namespace Script

/-- The line that ends a block of data. -/
def sentinel : String := "e"

/-- The line that switches the x axis to time. -/
def timeAxis : String := "set xdata time; set timefmt '%s'"

/-- The line that switches the x axis back to numbers. -/
def numericAxis : String := "set xdata"

/-- Lines as one text, each with its line end. -/
def ofLines (lines : List String) : String :=
  String.join (lines.map fun line => line ++ "\n")

end Script

/-- The name of a plot style in a script. -/
def PlotStyle.scriptText : PlotStyle → String
  | lines => "lines"
  | points => "points"
  | steps => "steps"
  | histogram => "histograms"
  | candlesticks => "candlesticks"

namespace Trace

/-- What a clause says about the source of its data; an expression is
any value that is there. -/
def source : Trace → Except Failure Datum
  | heights _ => .ok (.text "'-' using 1")
  | points _ | timeline _ => .ok (.text "'-' using 1:2")
  | candles _ => .ok (.text "'-' using 1:2:3:4:5")
  | expression .null => .error (.style .missingExpression)
  | expression value => .ok value

/-- The rows of a trace in the order in which they are written. -/
def writtenRows : Trace → List (List Binary64)
  | candles values => values.map fun c => [c.time, c.opening, c.low, c.high, c.closing]
  | trace => trace.rows

/-- The block of data of a trace. -/
def block (t : Trace) : List String :=
  if t.isInline then
    t.writtenRows.map (fun row => " ".intercalate (row.map Binary64.scriptText))
      ++ [Script.sentinel]
  else []

end Trace

namespace Series

/-- The title of a series in its clause. -/
def titlePart (title : Datum) : Except Failure String :=
  match title with
  | .null => .ok "notitle"
  | title => title.quoted.map fun text => "title " ++ text

/-- The colour of a series in its clause, where it has one. -/
def colorPart (color : Option Color) : Except Failure (List String) :=
  match color with
  | some color => color.scriptText.map fun text => ["lc rgb " ++ text]
  | none => .ok []

/-- The clause of a series in the plot line. Its first word is only found
to be no text when all parts are put together. -/
def clause (s : Series) : Except Failure String := do
  let source ← s.trace.source
  let title ← titlePart s.title
  let weight ← Script.line (fun weight => weight.written.map fun text => "lw " ++ text) s.weight
  let color ← colorPart s.color
  let fill ← Script.line Filling.clause s.fill
  match source.text? with
  | some text =>
    return " ".intercalate ([text, "with " ++ s.style.scriptText, title] ++ weight ++ color ++ fill)
  | none => throw (.misuse (.notWord source.typeName))

/-- The clauses of several series. -/
def clauses : List Series → Except Failure (List String)
  | [] => .ok []
  | s :: rest => do
    let c ← s.clause
    let cs ← clauses rest
    return c :: cs

/-- The line that turns the x axis of a plot, over time or not, where it
has to be turned. -/
def axisLines (resetTimeAxis time : Bool) : List String :=
  if time then [Script.timeAxis] else if resetTimeAxis then [Script.numericAxis] else []

/-- The lines that plot several series. `resetTimeAxis` asks for a
numeric x axis where no series needs time. -/
def plotLines (resetTimeAxis : Bool) (series : List Series) : Except Failure (List String) := do
  if series.isEmpty then throw (.style .noSeries)
  let axis := axisLines resetTimeAxis (series.any fun s => s.trace.isTime)
  let clauses ← clauses series
  return axis ++ ["plot " ++ ", ".intercalate clauses] ++ series.flatMap fun s => s.trace.block

end Series

namespace Script

/-- The script that sets settings. -/
def set (o : Options) : Except Failure String := do
  return ofLines (← o.directives)

/-- The script that resets settings. -/
def unset (d : Dimensions) : Except Failure String := do
  return ofLines (← d.resetDirectives)

/-- The script that plots series with settings of their own. -/
def plot (resetTimeAxis : Bool) (series : List Series) (o : Options) : Except Failure String := do
  let settings ← o.directives
  let lines ← Series.plotLines resetTimeAxis series
  return ofLines (settings ++ lines)

end Script

end PlotPipe
