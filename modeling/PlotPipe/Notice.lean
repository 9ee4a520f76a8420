/-!
# Notices

Lines about what goes on inside: a level, the part that speaks, and the
text. Operations return their notices or keep them with the state they
change; which levels are shown is decided by who shows them.
-/

namespace PlotPipe

/-- How much a notice matters. -/
inductive Notice.Level where
  | debug | info | warning | error
  deriving DecidableEq

/-- A line about what goes on. -/
structure Notice where
  level : Notice.Level
  source : String
  text : String
  deriving DecidableEq

namespace Notice

namespace Level

/-- The name of a level. -/
def name : Level → String
  | debug => "DEBUG"
  | info => "INFO"
  | warning => "WARNING"
  | error => "ERROR"

/-- The place of a level among all of them. -/
def rank : Level → Nat
  | debug => 0
  | info => 1
  | warning => 2
  | error => 3

/-- The level with a name. -/
def ofName? (name : String) : Option Level :=
  [debug, info, warning, error].find? fun level => level.name = name

end Level

/-- A notice of a channel. -/
def channel (level : Level) (text : String) : Notice := ⟨level, "gnuplot_session.channel", text⟩

/-- A notice of a session. -/
def session (level : Level) (text : String) : Notice := ⟨level, "gnuplot_session.session", text⟩

/-- A notice of the command line. -/
def commandLine (level : Level) (text : String) : Notice := ⟨level, "gnuplot_session.cli", text⟩

/-- A notice as a line. -/
def line (n : Notice) : String := n.level.name ++ " " ++ n.source ++ ": " ++ n.text ++ "\n"

/-- The notices at or above a level, as one text. -/
def render (level : Level) (notices : List Notice) : String :=
  String.join ((notices.filter fun n => level.rank ≤ n.level.rank).map line)

end Notice

end PlotPipe
