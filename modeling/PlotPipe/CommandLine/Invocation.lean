import PlotPipe.CommandLine.Words
import PlotPipe.Notice
import PlotPipe.Series
import PlotPipe.Workspace
/-!
# Command line — invocations

An invocation asks for one plot: of expressions, or of the columns of a
data file, with the settings of the plot and of the session as the words
give them. Words before the command say which notices are shown. Words
are texts of characters, and hold no surrogates.
-/

namespace PlotPipe

namespace CommandLine

/-- What a command plots. -/
inductive Source where
  | expressions (texts : List String)
  | file (path : Path) (delimiter : Option String)
  deriving DecidableEq

/-- A plot as it is asked for. -/
structure Invocation where
  source : Source
  level : Notice.Level := .warning
  style : PlotStyle := .lines
  title : Option String := none
  xrange : Option String := none
  yrange : Option String := none
  xlabel : Option String := none
  ylabel : Option String := none
  grid : Bool := false
  output : String := "wxt"
  font : Option String := none
  program : Option String := none
  config : Option Path := none
  dryRun : Bool := false
  verbose : Bool := false
  strict : Bool := false
  deriving DecidableEq

/-- The styles that can be asked for. -/
def styleNames : List (String × PlotStyle) :=
  [("lines", .lines), ("points", .points), ("steps", .steps)]

/-- The options before the command. -/
def commonOptions : Grammar :=
  [("log-level", .oneOf ["DEBUG", "INFO", "WARNING", "ERROR"])]

/-- The options of every command. -/
def plotOptions : Grammar :=
  [("style", .oneOf (styleNames.map Prod.fst)), ("title", .value), ("xrange", .value),
    ("yrange", .value), ("xlabel", .value), ("ylabel", .value), ("grid", .nothing),
    ("output", .value), ("font", .value), ("gnuplot", .value), ("config", .value),
    ("dry-run", .nothing), ("verbose", .nothing), ("strict", .nothing)]

/-- The commands: one plots expressions, the other one a data file. -/
inductive Command where
  | expressions
  | file
  deriving DecidableEq

namespace Command

/-- The commands by name. -/
def names : List (String × Command) := [("func", expressions), ("data", file)]

/-- The options of a command. -/
def options : Command → Grammar
  | expressions => plotOptions
  | file => ("delimiter", .value) :: plotOptions

/-- The operands of a command. -/
def operands : Command → Operands
  | expressions => .many
  | file => .one

/-- What a command plots with its arguments. -/
def source (c : Command) (a : Arguments) : Source :=
  match c with
  | expressions => .expressions a.operands
  | file => .file (.ofText (a.operands.headD "")) (a.get? "delimiter")

end Command

namespace Invocation

/-- The plot that a command asks for with its arguments. -/
def ofArguments (level : Notice.Level) (c : Command) (a : Arguments) : Invocation where
  source := c.source a
  level := level
  style := ((a.get? "style").bind fun name => styleNames.lookup name).getD .lines
  title := a.get? "title"
  xrange := a.get? "xrange"
  yrange := a.get? "yrange"
  xlabel := a.get? "xlabel"
  ylabel := a.get? "ylabel"
  grid := a.has "grid"
  output := (a.get? "output").getD "wxt"
  font := a.get? "font"
  program := a.get? "gnuplot"
  config := (a.get? "config").map Path.ofText
  dryRun := a.has "dry-run"
  verbose := a.has "verbose"
  strict := a.has "strict"

/-- The plot that the words of a command ask for. -/
def ofCommand (level : Notice.Level) (c : Command) (rest : List String) :
    Except Stop Invocation := do
  let a ← Arguments.ofWords c.operands (← c.options.words rest)
  return ofArguments level c a

/-- Read the words before the command, each with what it is among them,
and then the command. Words that have no place are only complained about
when the command itself is in order. -/
def ofWords (level : Notice.Level) (surplus : Bool) :
    List (String × Word) → Except Stop Invocation
  | (name, .operand _) :: rest =>
    match Command.names.lookup name with
    | none => .error .misuse
    | some c => do
      let i ← ofCommand level c (rest.map Prod.fst)
      if surplus then throw .misuse
      return i
  | (_, .setting _ takes (some text)) :: rest => do
    ofWords (← levelOf takes text) surplus rest
  | (_, .setting _ takes none) :: (text, .operand _) :: rest => do
    ofWords (← levelOf takes text) surplus rest
  | (_, .halt stop) :: _ => .error stop
  | (_, .unknown) :: rest => ofWords level true rest
  | _ => .error .misuse
where
  /-- The level of a name. -/
  levelOf (takes : Takes) (text : String) : Except Stop Notice.Level :=
    match takes.admits text, Notice.Level.ofName? text with
    | true, some level => .ok level
    | _, _ => .error .misuse

/-- The plot that a command line asks for. -/
def parse (arguments : List String) : Except Stop Invocation := do
  ofWords .warning false (arguments.zip (← commonOptions.words arguments))

end Invocation

end CommandLine

end PlotPipe
