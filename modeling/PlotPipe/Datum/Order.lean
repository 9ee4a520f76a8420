import PlotPipe.Datum.Convert
/-!
# Data — the order of values

Numbers are compared exactly as they were given, an integer never being
rounded first. Only the cells of arrays are compared among the numbers of
a common format, to which both are rounded before; among them complex
numbers are ordered too, by their real parts first. A decimal without a
value stands in no order, and neither do values that are no numbers.
Arrays are compared cell by cell, and the answer has to be a single one;
an array of objects compares them as the plain values they are. What an
array takes up from its right it compares from its own side, so a
complaint may name the opposite relation.
-/

namespace PlotPipe

/-- A relation between two numbers. -/
inductive Relation where
  | less
  | atMost
  | atLeast
  | more
  deriving DecidableEq

namespace Relation

/-- A relation as a message shows it. -/
def sign : Relation → String
  | less => "<"
  | atMost => "<="
  | atLeast => ">="
  | more => ">"

/-- The name that arrays have for a relation. -/
def loopName : Relation → String
  | less => "less"
  | atMost => "less_equal"
  | atLeast => "greater_equal"
  | more => "greater"

/-- The relation of the second number to the first. -/
def opposite : Relation → Relation
  | less => more
  | atMost => atLeast
  | atLeast => atMost
  | more => less

/-- Two numbers in an order are related. -/
def holds : Relation → Ordering → Bool
  | less, order => order = .lt
  | atMost, order => order ≠ .gt
  | atLeast, order => order ≠ .lt
  | more, order => order = .gt

end Relation

/-- A number as it is compared: an integer from an array has a width, a
double from an array has a format, and a pair is a complex number from an
array. -/
inductive Amount where
  | exact (x : Exact)
  | whole (i : Int) (bits : Option Nat)
  | real (x : Binary64) (format : Option BinaryFormat)
  | pair (re im : Binary64) (format : BinaryFormat)

namespace Amount

/-- The real part of a number. -/
def realPart : Amount → Amount
  | pair re _ format => real re (some format)
  | x => x

/-- The imaginary part of a number. -/
def imaginaryPart : Amount → Amount
  | pair _ im format => real im (some format)
  | _ => whole 0 none

/-- A number as a decimal; of a pair, its real part. -/
def toExact : Amount → Exact
  | exact x => x
  | whole i _ => .ofInt i
  | real x _ => .ofBinary64 x
  | pair re _ _ => .ofBinary64 re

/-- The format among whose numbers the integers of a width are compared
to doubles. -/
def wordFormat (bits : Nat) : BinaryFormat :=
  if bits ≤ 8 then .binary16 else if bits ≤ 16 then .binary32 else .binary64

/-- The more precise one of two formats. -/
def wider (f g : BinaryFormat) : BinaryFormat := if f.precision < g.precision then g else f

/-- The common format of two numbers, where they have to be rounded to
one. -/
def commonFormat? : Amount → Amount → Option BinaryFormat
  | exact _, _ | _, exact _ => none
  | real _ (some f), real _ (some g) => some (wider f g)
  | real _ (some f), whole _ (some bits) | whole _ (some bits), real _ (some f) =>
    some (wider f (wordFormat bits))
  | real _ (some f), _ | _, real _ (some f) => some f
  | whole _ (some _), real _ none | real _ none, whole _ (some _) => some .binary64
  | _, _ => none

/-- A number rounded to a format. -/
def rounded (f : BinaryFormat) : Amount → Exact
  | exact x => x
  | whole i _ => .ofBinary64 ((Binary64.ofIntQuotient i 1).narrow f)
  | real x _ | pair x _ _ => .ofBinary64 (x.narrow f)

/-- The order of two numbers, where they have one. -/
def order? (a b : Amount) : Option Ordering :=
  match a.commonFormat? b with
  | some f => (a.rounded f).order? (b.rounded f)
  | none => a.toExact.order? b.toExact

/-- Two complex numbers are related: by their real parts, or by their
imaginary parts where those are equal. -/
def isRelatedPair (r : Relation) (a b : Amount) : Bool :=
  match a.realPart.order? b.realPart, a.imaginaryPart.order? b.imaginaryPart with
  | some .eq, some order => r.holds order
  | some order, some _ => r.holds order
  | _, _ => false

/-- Two numbers are related. A double that is no number is related to
nothing; a decimal of that kind does not take part. -/
def isRelated (r : Relation) (a b : Amount) : Except Failure Bool :=
  match a, b with
  | pair _ _ _, _ | _, pair _ _ _ => .ok (isRelatedPair r a b)
  | _, _ =>
    match a.order? b, a, b with
    | some order, _, _ => .ok (r.holds order)
    | none, exact _, _ | none, _, exact _ => .error (.misuse .undefinedOrder)
    | none, _, _ => .ok false

end Amount

namespace Datum

/-- A value as it is compared, if it is a number. -/
def amount? : Datum → Option Amount
  | truth b => some (.whole (if b then 1 else 0) none)
  | int i => some (.whole i none)
  | real x => some (.real x none)
  | exact x => some (.exact x)
  | cell .truth (truth b) => some (.whole (if b then 1 else 0) (some 1))
  | cell (.integer bits) (int i) | cell (.natural bits) (int i) => some (.whole i (some bits))
  | cell (.floating bits) (real x) => some (.real x (some (CellType.format bits)))
  | cell (.complex bits) (complex re im) => some (.pair re im (CellType.format (bits / 2)))
  | _ => none

/-- Two ticks are related, whatever their units; without a time they are
not. -/
def isRelatedTick (r : Relation) (a b : Tick) : Bool :=
  match a.count, b.count with
  | some m, some n => r.holds (compare (Tick.countAttos a.unit m) (Tick.countAttos b.unit n))
  | _, _ => false

/-- Two texts are related, character by character. -/
def isRelatedText (r : Relation) (a b : String) : Bool :=
  r.holds (compareOfLessAndEq a b)

/-- The value is a cell of an array or an array, which compares in its own
way. Cells that are texts compare as texts. -/
def isOfArray : Datum → Bool
  | cell .text _ => false
  | cell _ _ | tick _ | array _ _ _ => true
  | _ => false

/-- The type of cell that arrays take a single value for. -/
def cellClass : Datum → String
  | truth _ | cell .truth _ => "numpy.dtypes.BoolDType"
  | int _ => "numpy.dtypes._PyLongDType"
  | real _ => "numpy.dtypes._PyFloatDType"
  | text _ | cell .text _ => "numpy.dtypes.StrDType"
  | tick _ => "numpy.dtypes.DateTime64DType"
  | cell (.natural bits) _ => s!"numpy.dtypes.UInt{bits}DType"
  | cell type _ => "numpy.dtypes." ++ type.name.capitalize ++ "DType"
  | _ => "numpy.dtypes.ObjectDType"

/-- A single value as a plain one, as an array of objects holds it. -/
def plainValue : Datum → Datum
  | cell type value => type.plain value
  | tick t => plainTick t
  | d => d

/-- Two single values are related as plain values. -/
def isRelatedPlainly (r : Relation) (a b : Datum) : Except Failure Bool :=
  match a.amount?, b.amount? with
  | some x, some y => x.isRelated r y
  | _, _ => .error (.misuse (.noOrder r.sign a.typeName b.typeName))

/-- Two single values are related as cells of arrays. A decimal is an
object, and makes one of the other value. -/
def isRelatedAsCells (r : Relation) (a b : Datum) : Except Failure Bool :=
  match a, b with
  | tick s, tick t => .ok (isRelatedTick r s t)
  | cell .text (text s), cell .text (text t) => .ok (isRelatedText r s t)
  | exact _, _ | _, exact _ => isRelatedPlainly r a.plainValue b.plainValue
  | _, _ =>
    match a.amount?, b.amount? with
    | some x, some y => x.isRelated r y
    | _, _ => .error (.misuse (.noLoop r.loopName a.cellClass b.cellClass))

/-- Two single values are related: if one of them is the cell of an array,
it does the comparing, the first one before the second. -/
def isRelatedSingly (r : Relation) (a b : Datum) : Except Failure Bool :=
  if a.isOfArray then isRelatedAsCells r a b
  else if b.isOfArray then isRelatedAsCells r.opposite b a
  else isRelatedPlainly r a b

/-- The one answer among the answers for the cells of an array. -/
def onlyAnswer : List Bool → Except Failure Bool
  | [answer] => .ok answer
  | [] => .error (.misuse (.ambiguous .noCells))
  | _ => .error (.misuse (.ambiguous .severalCells))

/-- Cells of a type that stand in no order with a value of another kind
do not, even when there are none of them. -/
def checkLoop (r : Relation) (type : CellType) (b : Datum) : Except Failure Unit :=
  let sample? : Option Datum := match type with
    | .text => some (cell .text (text ""))
    | .tick unit => some (tick ⟨unit, none⟩)
    | _ => none
  match sample? with
  | some sample => (isRelatedAsCells r sample b).map fun _ => ()
  | none => .ok ()

mutual

/-- A value is related to a single one. -/
def isRelatedTo (r : Relation) (b : Datum) : Datum → Except Failure Bool
  | array .object _ cells => do onlyAnswer (← areRelatedTo r b.plainValue cells)
  | array type _ cells => do
    checkLoop r type b
    onlyAnswer (← cells.mapM fun c => isRelatedAsCells r (type.element c) b)
  | column type _ cells => do
    checkColumn r b type cells
    throw (.misuse (.ambiguous .column))
  | frame columns => do
    checkColumns r b columns
    throw (.misuse (.ambiguous .frame))
  | a => isRelatedSingly r a b

/-- Each of several values is related to a single one. -/
def areRelatedTo (r : Relation) (b : Datum) : List Datum → Except Failure (List Bool)
  | [] => .ok []
  | a :: rest => do return (← isRelatedTo r b a) :: (← areRelatedTo r b rest)

/-- The cells of a column, except for missing ones, can be compared to a
single value. -/
def checkColumn (r : Relation) (b : Datum) (type : CellType) :
    List Datum → Except Failure Unit
  | [] =>
    match type with
    | .tick _ => .error (.misuse (.noColumnOrder type.name b.shortTypeName))
    | _ => .ok ()
  | a :: rest => do
    match type with
    | .object | .text | .optional .text =>
      if !a.isMissing then let _ ← isRelatedTo r b a
    | _ => pure ()
    checkColumn r b type rest

/-- The columns of a table can be compared to a single value. -/
def checkColumns (r : Relation) (b : Datum) :
    List (String × CellType × List Datum) → Except Failure Unit
  | [] => .ok ()
  | (_, type, cells) :: rest => do
    checkColumn r b type cells
    checkColumns r b rest

end

/-- The value is a collection of cells. -/
def isCollection : Datum → Bool
  | array _ _ _ | column _ _ _ | frame _ => true
  | _ => false

/-- Two values are related; one of them may be an array or a table, which
has no single answer. -/
def isRelated (r : Relation) (a b : Datum) : Except Failure Bool :=
  match a, b with
  | frame _, _ => isRelatedTo r b a
  | _, frame _ => isRelatedTo r.opposite a b
  | column _ _ _, _ => isRelatedTo r b a
  | _, column _ _ _ => isRelatedTo r.opposite a b
  | array .object _ _, array type _ [y] => isRelatedTo r (type.element y).plainValue a
  | array type _ [x], array .object _ _ =>
    isRelatedTo r.opposite (type.element x).plainValue b
  | array _ _ _, array type _ [y] => isRelatedTo r (type.element y) a
  | array _ _ _, _ => isRelatedTo r b a
  | _, array _ _ _ => isRelatedTo r.opposite a b
  | _, _ => isRelatedSingly r a b

end Datum

end PlotPipe
