import PlotPipe.Style.Basic
import PlotPipe.Text.Lowercase
/-!
# Styles — settings from values

The shorthands that stand for settings: a colour by its name or by three
components, a window by the name of its toolkit, a single tick label by
itself. Names are read without regard to case and to blanks around them.
Settings are collected from named values, each of which an operation has
to know.
-/

namespace PlotPipe

/-- A text in the form in which names are looked up. -/
def lookupForm (s : String) : String :=
  Text.lowercase (Text.trim s)

namespace Color

/-- The colours that have a name. -/
def names : List String :=
  ["black", "red", "green", "yellow", "blue", "magenta", "cyan", "white"]

/-- Three components as a colour. -/
def ofComponents (d : Datum) : Except Failure Color := do
  let length ← d.sequenceLength
  let components ← if length = some 3 then d.items else pure []
  match components with
  | [r, g, b] => return rgb (.int (← r.toInt)) (.int (← g.toInt)) (.int (← b.toInt))
  | _ => throw (.style (.notColor d.literal))

/-- A colour from a record, a name or a sequence of three components. -/
def ofDatum (d : Datum) : Except Failure Color :=
  match ofRecord? d with
  | some color => .ok color
  | none =>
    match d.text? with
    | some s =>
      if names.contains (lookupForm s) then .ok (named (.text (lookupForm s)))
      else .error (.style (.unknownColor d.literal))
    | none => ofComponents d

end Color

namespace Terminal

/-- The toolkits by name. -/
def windows : List (String × Terminal) := [("wxt", wxt), ("x11", x11), ("qt", qt)]

/-- A terminal from the name of a toolkit; `literal` shows the name as
it was given. -/
def ofName (literal name : String) : Except Failure Terminal :=
  match windows.lookup (lookupForm name) with
  | some terminal => .ok terminal
  | none => .error (.style (.unknownTerminal literal))

/-- A terminal from a record or from the name of a toolkit. -/
def ofDatum (d : Datum) : Except Failure Terminal :=
  match ofRecord? d with
  | some terminal => .ok terminal
  | none =>
    match d.text? with
    | some s => ofName d.literal s
    | none => .error (.style (.notTerminal d.literal))

end Terminal

/-- An output of a terminal or the name of a toolkit. -/
def Output.create (kind font : Datum) : Except Failure Datum := do
  return Output.record (← Terminal.ofDatum kind).toDatum font

namespace Titles

/-- The names of ticks: a single text is the only name, and anything else
is gone through. -/
def names (d : Datum) : Except Failure Datum := do
  match d with
  | .null => return .null
  | _ => if d.isText then return .tuple [d] else return .tuple (← d.items)

/-- Ticks from names and angles. -/
def create (x xrotate y yrotate : Datum) : Except Failure Datum := do
  let xnames ← names x
  let ynames ← names y
  return Titles.record xnames xrotate ynames yrotate

end Titles

/-- Named values. -/
abbrev Entries := List (String × Datum)

namespace Entries

/-- The value of a name, which is null where there is none. -/
def value (key : String) (entries : Entries) : Datum :=
  (Datum.lookup key entries).getD .null

/-- An operation knows all names. -/
def checkNames (operation : String) (known : List String) (entries : Entries) :
    Except Failure Unit :=
  match entries.find? fun entry => !known.contains entry.1 with
  | some entry => .error (.misuse (.strangeSetting operation entry.1))
  | none => .ok ()

end Entries

namespace Dimensions

/-- The names of the settings that can be reset. -/
def names : List String := ["fill", "range", "labels", "titles"]

/-- Settings from named values. -/
def ofValues (entries : Entries) : Dimensions where
  fill := entries.value "fill"
  range := entries.value "range"
  labels := entries.value "labels"
  titles := entries.value "titles"

/-- The settings that an operation is asked to reset. -/
def ofEntries (operation : String) (entries : Entries) : Except Failure Dimensions := do
  entries.checkNames operation names
  return ofValues entries

end Dimensions

namespace Options

/-- The names of the settings that go with a plot. -/
def names : List String := ["output", "title", "use_grid"] ++ Dimensions.names

/-- The settings that an operation is asked for. -/
def ofEntries (operation : String) (entries : Entries) : Except Failure Options := do
  entries.checkNames operation names
  return { Dimensions.ofValues entries with
    output := entries.value "output"
    title := entries.value "title"
    grid := entries.value "use_grid" }

end Options

end PlotPipe
