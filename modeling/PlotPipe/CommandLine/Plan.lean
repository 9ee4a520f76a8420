import PlotPipe.CommandLine.Invocation
import PlotPipe.Config.File
import PlotPipe.Session
import PlotPipe.Table
/-!
# Command line — plans

A plan is a request together with the settings of the session that is to
perform it. It is made from an invocation and the files that it names:
first the series, then the settings of the plot, then those of the
session, so of several faults the earliest of these is found. The
command line takes part in the settings of the session: it may name
another program, and switch on what a file leaves off.

What a plan would send can be told without a session; this is what a dry
run shows.
-/

namespace PlotPipe

namespace Output

/-- The terminals that draw into a file. -/
def fileTerminals : List (String × (String → Terminal)) :=
  [("png", fun path => .png (.text path)), ("eps", fun path => .eps (.text path))]

/-- The terminal that an argument describes: the name of a window, or of
a file format with a colon and the path of the file. -/
def terminalOfArgument (value : String) : Except Failure Terminal :=
  let (kind, path) := match Text.cutAt? ':' value.toList with
    | some (kind, path) => (String.ofList kind, String.ofList path)
    | none => (value, "")
  let kind := lookupForm kind
  match fileTerminals.lookup kind with
  | some terminal =>
    if path.isEmpty then .error (.argument (.outputWithoutPath kind)) else .ok (terminal path)
  | none => Terminal.ofName (Text.literal kind) kind

/-- The output that an argument describes. -/
def ofArgument (value : String) (font : Option String) : Except Failure Datum :=
  (terminalOfArgument value).map fun terminal =>
    Output.record terminal.toDatum (.ofOption .text font)

end Output

namespace CommandLine

/-- The bounds of the axis range that an option gives: two numbers with a
colon between them. -/
def span (name value : String) : Except Failure (Binary64 × Binary64) :=
  match Text.cutAt? ':' value.toList with
  | none => .error (.argument (.spanShape name))
  | some (lo, hi) =>
    match Decimal.free? (String.ofList lo), Decimal.free? (String.ofList hi) with
    | some lo, some hi => .ok (lo, hi)
    | _, _ => .error (.argument (.spanBounds name (Text.literal value)))

/-- The bounds of an axis range that may be missing. -/
def span? (name : String) : Option String → Except Failure (Option (Binary64 × Binary64))
  | none => .ok none
  | some value => (span name value).map some

/-- The range of the axes whose bounds are given. -/
def rangeOf : Option (Binary64 × Binary64) → Option (Binary64 × Binary64) → Option AxisRange
  | some (xlo, xhi), some (ylo, yhi) => some (.xy (.real xlo) (.real xhi) (.real ylo) (.real yhi))
  | some (lo, hi), none => some (.x (.real lo) (.real hi))
  | none, some (lo, hi) => some (.y (.real lo) (.real hi))
  | none, none => none

/-- The labels of the axes that have one. -/
def labelsOf : Option String → Option String → Datum
  | none, none => .null
  | x, y => Labels.record (.ofOption .text x) (.ofOption .text y)

/-- A request with the settings of its session. -/
structure Plan where
  request : Request
  config : SessionConfig

namespace Invocation

/-- The series of an invocation. Expressions are their own titles, and
steps cannot be drawn through them. -/
def series (i : Invocation) (workspace : Workspace) : Except Failure (List Series) := do
  match i.source with
  | .expressions texts =>
    if i.style = .steps then throw (.argument (.styleWithoutExpressions (Text.literal "steps")))
    return texts.map fun text =>
      { style := i.style, trace := .expression (.text text), title := .text text }
  | .file path delimiter =>
    let table ← Table.load workspace path delimiter
    if table.rows.isEmpty then throw (.table (.noRows path.text))
    return table.series i.style path.name

/-- The settings of the plot of an invocation. -/
def options (i : Invocation) : Except Failure Options := do
  let output ← Output.ofArgument i.output i.font
  let xs ← span? "xrange" i.xrange
  let ys ← span? "yrange" i.yrange
  return {
    output
    title := .ofOption .text i.title
    grid := if i.grid then .truth true else .null
    range := .ofOption AxisRange.toDatum (rangeOf xs ys)
    labels := labelsOf i.xlabel i.ylabel }

/-- The settings of the session of an invocation. -/
def sessionConfig (i : Invocation) (workspace : Workspace) : Except Failure SessionConfig := do
  let base ← match i.config with
    | some path => SessionConfig.load workspace path
    | none => pure {}
  let program := i.program.getD ""
  return { base with
    path := if program.isEmpty then base.path else program
    verbose := i.verbose || base.verbose
    strict := i.strict || base.strict }

/-- The plan of an invocation. -/
def plan (i : Invocation) (workspace : Workspace) : Except Failure Plan := do
  let series ← i.series workspace
  let options ← i.options
  let config ← i.sessionConfig workspace
  return ⟨.plotMany series options, config⟩

end Invocation

/-- The script that a plan would send. -/
def Plan.script (p : Plan) : Except Failure String := do
  if p.config.strict then p.request.check
  p.request.script false

end CommandLine

end PlotPipe
