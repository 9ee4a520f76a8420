import PlotPipe.Script.Word
import PlotPipe.Style.Basic
/-!
# Scripts — directives of settings

Each setting is one line of the script; a line that takes several
commands has them separated by `"; "`. A setting that was not asked for
gives no line. The lines that reset settings name the same dimensions and
restore their defaults. A setting is looked at when its line is written,
part by part, so that of several faults the first one in the line is
found.
-/

namespace PlotPipe

/-- Commands on one line. -/
def Script.joinCommands (commands : List String) : String :=
  "; ".intercalate commands

/-- The line of several commands; without any there is none. -/
def Script.commandLine? (commands : List String) : Option String :=
  if commands.isEmpty then none else some (Script.joinCommands commands)

/-- A value that is missing. -/
def Datum.isNull : Datum → Bool
  | null => true
  | _ => false

namespace Color

/-- A colour inside a script. -/
def scriptText : Color → Except Failure String
  | named name => name.quoted
  | rgb r g b => do
    return Script.quote ("#" ++ (← r.hexText) ++ (← g.hexText) ++ (← b.hexText))

/-- A value as a colour inside a script. -/
def directive (d : Datum) : Except Failure String :=
  match ofRecord? d with
  | some color => color.scriptText
  | none => .error (.style (.unwritableColor d.literal))

end Color

namespace Output

/-- The font of a terminal, where it has one. -/
def fontPart (font : Datum) : Except Failure String :=
  match font with
  | .null => .ok ""
  | font => font.quoted.map fun text => " font " ++ text

/-- The line that selects a terminal; `font` is its part for the font. -/
def terminalLine (terminal : Terminal) (font : String) : Except Failure String :=
  match terminal with
  | .wxt => .ok ("set terminal wxt persist" ++ font ++ "; unset output")
  | .x11 => .ok ("set terminal x11 persist" ++ font ++ "; unset output")
  | .qt => .ok ("set terminal qt persist" ++ font ++ "; unset output")
  | .png path => do
    return "set terminal pngcairo" ++ font ++ "; set output " ++ (← path.quoted)
  | .eps path => do
    return "set terminal postscript eps enhanced color" ++ font ++ "; set output "
      ++ (← path.quoted)

/-- The line of an output. -/
def directive (output : Datum) : Except Failure String := do
  let kind ← output.part "kind"
  let font ← fontPart (← output.part "font")
  match Terminal.ofRecord? kind with
  | some terminal => terminalLine terminal font
  | none => throw (.style (.notTerminal kind.literal))

end Output

namespace Filling

/-- A value as a filling, written by `write`. -/
def writeWith (write : Filling → Except Failure String) (d : Datum) : Except Failure String :=
  match ofRecord? d with
  | some filling => write filling
  | none => .error (.style (.notFilling d.literal))

/-- The line of a filling. -/
def directive : Datum → Except Failure String :=
  writeWith fun filling => match filling with
    | solid => .ok "set style fill solid"
    | pattern index => index.written.map fun text => "set style fill pattern " ++ text

/-- A filling inside the clause of a series. -/
def clause : Datum → Except Failure String :=
  writeWith fun filling => match filling with
    | solid => .ok "fs solid"
    | pattern index => index.written.map fun text => "fs pattern " ++ text

end Filling

namespace AxisRange

/-- Two bounds between brackets. -/
def span (lo hi : Datum) : Except Failure String := do
  return "[" ++ (← lo.scriptNumber) ++ ":" ++ (← hi.scriptNumber) ++ "]"

/-- The line of a range. -/
def scriptText : AxisRange → Except Failure String
  | x lo hi => do return "set xrange " ++ (← span lo hi)
  | y lo hi => do return "set yrange " ++ (← span lo hi)
  | xy xlo xhi ylo yhi => do
    return "set xrange " ++ (← span xlo xhi) ++ "; set yrange " ++ (← span ylo yhi)

/-- The line that leaves the axes of a range to the data again. -/
def resetText : AxisRange → String
  | x _ _ => "set autoscale x"
  | y _ _ => "set autoscale y"
  | xy _ _ _ _ => "set autoscale xy"

/-- A value as a range, written by `write`. -/
def writeWith (write : AxisRange → Except Failure String) (d : Datum) : Except Failure String :=
  match ofRecord? d with
  | some range => write range
  | none => .error (.style (.notRange d.literal))

/-- The line of a value as a range. -/
def directive : Datum → Except Failure String := writeWith scriptText

/-- The line that resets a value as a range. -/
def resetDirective : Datum → Except Failure String := writeWith fun range => .ok range.resetText

end AxisRange

namespace Labels

/-- The command for the label of one axis. -/
def command (axis : String) (label : Datum) : Except Failure (List String) :=
  match label with
  | .null => .ok []
  | label => label.quoted.map fun text => ["set " ++ axis ++ "label " ++ text]

/-- The line of labels; labels without texts have none. -/
def directive? (labels : Datum) : Except Failure (Option String) := do
  let x ← command "x" (← labels.part "x")
  let y ← command "y" (← labels.part "y")
  return Script.commandLine? (x ++ y)

/-- The line that removes labels: those of the axes that are mentioned,
or of both when none is. -/
def resetDirective (labels : Datum) : Except Failure String := do
  let x := !(← labels.part "x").isNull
  let y := !(← labels.part "y").isNull
  let both := !x && !y
  return Script.joinCommands
    ((if both || x then ["unset xlabel"] else []) ++ (if both || y then ["unset ylabel"] else []))

end Labels

namespace Titles

/-- Tick names with their positions, from `position` on. -/
def placed : Nat → List Datum → Except Failure (List String)
  | _, [] => .ok []
  | position, name :: rest => do
    let text ← name.quoted
    let others ← placed (position + 1) rest
    return (text ++ " " ++ toString position) :: others

/-- The part of a command for the names of ticks. -/
def namesPart (names : Datum) : Except Failure String := do
  match names with
  | .null => return ""
  | names => return " (" ++ ", ".intercalate (← placed 0 (← names.items)) ++ ")"

/-- The part of a command for the angle of ticks. -/
def anglePart (angle : Datum) : Except Failure String :=
  match angle with
  | .null => .ok ""
  | angle => angle.written.map fun text => " rotate by " ++ text

/-- The command for the ticks of an axis. -/
def command (axis : String) (names angle : Datum) : Except Failure (List String) := do
  if names.isNull && angle.isNull then return []
  return ["set " ++ axis ++ "tics" ++ (← namesPart names) ++ (← anglePart angle)]

/-- The line of tick labels; without any there is none. -/
def directive? (titles : Datum) : Except Failure (Option String) := do
  let x ← command "x" (← titles.part "x") (← titles.part "xrotate")
  let y ← command "y" (← titles.part "y") (← titles.part "yrotate")
  return Script.commandLine? (x ++ y)

/-- Something is said about the ticks of an axis. The angle is only
looked at when there are no names. -/
def isMentioned (titles : Datum) (names angle : String) : Except Failure Bool := do
  if (← titles.part names).isNull then return !(← titles.part angle).isNull else return true

/-- The line that restores the ticks of the axes that are mentioned, or
of both when none is. -/
def resetDirective (titles : Datum) : Except Failure String := do
  let x ← isMentioned titles "x" "xrotate"
  let y ← isMentioned titles "y" "yrotate"
  let both := !x && !y
  return Script.joinCommands
    ((if both || x then ["set xtics auto norotate"] else [])
      ++ (if both || y then ["set ytics auto norotate"] else []))

end Titles

/-- Write a setting that is asked for. -/
def Script.line (write : Datum → Except Failure String) (d : Datum) :
    Except Failure (List String) :=
  match d with
  | .null => .ok []
  | d => (write d).map fun line => [line]

/-- Write a setting that is asked for and may have nothing to say. -/
def Script.line? (write : Datum → Except Failure (Option String)) (d : Datum) :
    Except Failure (List String) :=
  match d with
  | .null => .ok []
  | d => (write d).map Option.toList

namespace Options

/-- The line of a title. -/
def titleDirective (title : Datum) : Except Failure String :=
  title.quoted.map fun text => "set title " ++ text

/-- The line of a grid that is on or off. -/
def gridDirective (grid : Datum) : Except Failure String :=
  grid.isSet.map fun on => if on then "set grid" else "unset grid"

/-- The lines of the settings, in a fixed order. -/
def directives (o : Options) : Except Failure (List String) := do
  let output ← Script.line Output.directive o.output
  let title ← Script.line titleDirective o.title
  let grid ← Script.line gridDirective o.grid
  let fill ← Script.line Filling.directive o.fill
  let range ← Script.line AxisRange.directive o.range
  let labels ← Script.line? Labels.directive? o.labels
  let titles ← Script.line? Titles.directive? o.titles
  return output ++ title ++ grid ++ fill ++ range ++ labels ++ titles

end Options

namespace Dimensions

/-- The lines that restore the defaults of the settings asked for. -/
def resetDirectives (d : Dimensions) : Except Failure (List String) := do
  let fill ← Script.line (fun _ => .ok "set style fill empty") d.fill
  let range ← Script.line AxisRange.resetDirective d.range
  let labels ← Script.line Labels.resetDirective d.labels
  let titles ← Script.line Titles.resetDirective d.titles
  return fill ++ range ++ labels ++ titles

end Dimensions

end PlotPipe
