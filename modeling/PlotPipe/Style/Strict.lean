import PlotPipe.Datum.Order
import PlotPipe.Style.Basic
/-!
# Styles — strict checks

The checks of a strict session: colour components lie between 0 and 255,
both bounds of a range are finite and the lower one is the smaller, and
pattern indices are not negative. The checks compare values exactly as
they were given; values that cannot be compared do not pass either.
-/

namespace PlotPipe

namespace Datum

/-- A value is below zero. -/
def isNegative (d : Datum) : Except Failure Bool := isRelated .less d (.int 0)

end Datum

namespace Color

/-- A component has a place in a colour. -/
def isComponent (value : Datum) : Except Failure Bool := do
  if ← Datum.isRelated .atMost (.int 0) value then Datum.isRelated .atMost value (.int 255)
  else return false

/-- The strict check of a component. -/
def checkComponent (name : String) (value : Datum) : Except Failure Unit := do
  if !(← isComponent value) then throw (.strict (.component name (← value.written)))

/-- The strict check of a colour. -/
def check : Color → Except Failure Unit
  | named _ => .ok ()
  | rgb r g b => do
    checkComponent "r" r
    checkComponent "g" g
    checkComponent "b" b

/-- The strict check of a value as a colour; other values are not looked
at. -/
def checkDatum (d : Datum) : Except Failure Unit :=
  match ofRecord? d with
  | some color => color.check
  | none => .ok ()

end Color

namespace Filling

/-- The strict check of a filling. -/
def check : Filling → Except Failure Unit
  | pattern index => do
    if ← index.isNegative then throw (.strict (.patternIndex (← index.written)))
  | solid => .ok ()

/-- The strict check of a value as a filling; other values are not looked
at. -/
def checkDatum (d : Datum) : Except Failure Unit :=
  match ofRecord? d with
  | some filling => filling.check
  | none => .ok ()

end Filling

namespace AxisRange

/-- A bound is finite; an integer has to be one that a double can stand
for. -/
def isFiniteBound (bound : Datum) : Except Failure Bool :=
  bound.magnitude.map Binary64.isFinite

/-- The strict check of the bounds of one axis. The upper bound is not
looked at when the lower one is not finite. -/
def checkBounds (name : String) (lo hi : Datum) : Except Failure Unit := do
  let finite ← if ← isFiniteBound lo then isFiniteBound hi else pure false
  if !finite then throw (.strict (.boundsNotFinite name (← lo.written) (← hi.written)))
  if ← Datum.isRelated .atLeast lo hi then
    throw (.strict (.boundsNotOrdered name (← lo.written) (← hi.written)))

/-- The strict check of a range. -/
def check : AxisRange → Except Failure Unit
  | x lo hi => checkBounds "range" lo hi
  | y lo hi => checkBounds "range" lo hi
  | xy xlo xhi ylo yhi => do
    checkBounds "xrange" xlo xhi
    checkBounds "yrange" ylo yhi

/-- The strict check of a value as a range; other values do not pass. -/
def checkDatum (d : Datum) : Except Failure Unit :=
  match ofRecord? d with
  | some range => range.check
  | none => .error (.strict (.foreignRange d.literal))

end AxisRange

/-- Do something with a setting that is asked for. -/
def Datum.whenAsked (d : Datum) (act : Datum → Except Failure Unit) : Except Failure Unit :=
  match d with
  | null => .ok ()
  | d => act d

/-- The strict check of the settings of a plot: the filling before the
range. -/
def Options.check (o : Options) : Except Failure Unit := do
  o.fill.whenAsked Filling.checkDatum
  o.range.whenAsked AxisRange.checkDatum

end PlotPipe
