import PlotPipe.Datum.Items
/-!
# Styles — the settings of a plot

Colours, fillings, terminals, axis ranges, outputs, axis labels and tick
labels, and the collections of them that one operation takes. Settings
are records among the values of any kind: what stands in their fields is
only looked at when it is used. Colours, fillings, terminals and ranges
are told apart by the name of their record; outputs, labels and tick
labels by the parts they have.
-/

namespace PlotPipe

/-- A colour: one of the named ones or three components. -/
inductive Color where
  | named (name : Datum)
  | rgb (red green blue : Datum)

/-- How an area is filled. -/
inductive Filling where
  | solid
  | pattern (index : Datum)

/-- Where a plot is drawn: a window of one of three toolkits or a file
of one of two formats. -/
inductive Terminal where
  | wxt
  | x11
  | qt
  | png (path : Datum)
  | eps (path : Datum)

/-- The part of one axis or of both that is shown. -/
inductive AxisRange where
  | x (lo hi : Datum)
  | y (lo hi : Datum)
  | xy (xlo xhi ylo yhi : Datum)

namespace Color

/-- A colour as a record. -/
def toDatum : Color → Datum
  | named name => .record "NamedColor" [("name", name)]
  | rgb r g b => .record "Rgb" [("r", r), ("g", g), ("b", b)]

/-- The colour that a record stands for. -/
def ofRecord? : Datum → Option Color
  | .record "NamedColor" [(_, name)] => some (named name)
  | .record "Rgb" [(_, r), (_, g), (_, b)] => some (rgb r g b)
  | _ => none

end Color

namespace Filling

/-- A filling as a record. -/
def toDatum : Filling → Datum
  | solid => .record "Solid" []
  | pattern index => .record "Pattern" [("index", index)]

/-- The filling that a record stands for. -/
def ofRecord? : Datum → Option Filling
  | .record "Solid" _ => some solid
  | .record "Pattern" [(_, index)] => some (pattern index)
  | _ => none

end Filling

namespace Terminal

/-- A terminal as a record. -/
def toDatum : Terminal → Datum
  | wxt => .record "Wxt" []
  | x11 => .record "X11" []
  | qt => .record "Qt" []
  | png path => .record "Png" [("path", path)]
  | eps path => .record "Eps" [("path", path)]

/-- The terminal that a record stands for. -/
def ofRecord? : Datum → Option Terminal
  | .record "Wxt" _ => some wxt
  | .record "X11" _ => some x11
  | .record "Qt" _ => some qt
  | .record "Png" [(_, path)] => some (png path)
  | .record "Eps" [(_, path)] => some (eps path)
  | _ => none

end Terminal

namespace AxisRange

/-- A range as a record. -/
def toDatum : AxisRange → Datum
  | x lo hi => .record "XRange" [("min", lo), ("max", hi)]
  | y lo hi => .record "YRange" [("min", lo), ("max", hi)]
  | xy xlo xhi ylo yhi =>
    .record "XYRange" [("xmin", xlo), ("xmax", xhi), ("ymin", ylo), ("ymax", yhi)]

/-- The range that a record stands for. -/
def ofRecord? : Datum → Option AxisRange
  | .record "XRange" [(_, lo), (_, hi)] => some (x lo hi)
  | .record "YRange" [(_, lo), (_, hi)] => some (y lo hi)
  | .record "XYRange" [(_, xlo), (_, xhi), (_, ylo), (_, yhi)] => some (xy xlo xhi ylo yhi)
  | _ => none

end AxisRange

/-- A terminal with the font of its texts, as a record. -/
def Output.record (kind font : Datum) : Datum :=
  .record "Output" [("kind", kind), ("font", font)]

/-- Texts along the axes, as a record. -/
def Labels.record (x y : Datum) : Datum :=
  .record "Labels" [("x", x), ("y", y)]

/-- The ticks of the axes, as a record: names for the positions from zero
on, and an angle. -/
def Titles.record (x xrotate y yrotate : Datum) : Datum :=
  .record "Titles" [("x", x), ("xrotate", xrotate), ("y", y), ("yrotate", yrotate)]

/-- A setting that may be missing, as a value. -/
def Datum.ofOption {α : Type} (toDatum : α → Datum) : Option α → Datum
  | some value => toDatum value
  | none => .null

/-- The settings that can be set and reset; those that are null are not
asked for. -/
structure Dimensions where
  fill : Datum := .null
  range : Datum := .null
  labels : Datum := .null
  titles : Datum := .null

/-- The settings that go with a plot. -/
structure Options extends Dimensions where
  output : Datum := .null
  title : Datum := .null
  grid : Datum := .null

end PlotPipe
