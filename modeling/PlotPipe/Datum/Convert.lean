import PlotPipe.Datum.Literal
import PlotPipe.Number.Reading
import PlotPipe.Failure.Message
/-!
# Data — values as numbers

What a value is as a double, as an integer, as a magnitude and as a truth
value. A text is read as a number, but it is no magnitude; a value of a
kind that has no number is an error that names the kind, but a complex
number of an array counts by its real part. An array stands for a number
only when it has no axes, and for a truth value only when it is clear whose.
-/

namespace PlotPipe

namespace Datum

/-- Bytes as characters; bytes beyond ASCII become a character that no
number has. -/
def asciiText (bs : List UInt8) : String :=
  String.ofList (bs.map fun b => if b < 0x80 then Char.ofNat b.toNat else Char.ofNat 0xFFFD)

/-- A text as a double. -/
def readReal (literal text : String) : Except Failure Binary64 :=
  match Decimal.free? text with
  | some x => .ok x
  | none => .error (.conversion (.notRealText literal))

/-- The most digits that an integer text may have. -/
def digitLimit : Nat := 4300

/-- The least integer that has more digits than are written. -/
@[irreducible] def unwritable : Nat := Nat.pow 10 digitLimit

/-- A value as a part of a text; an integer has to have few enough
digits. -/
def written (d : Datum) : Except Failure String :=
  match d with
  | int i =>
    if unwritable ≤ i.natAbs then .error (.conversion .tooManyDigitsToWrite) else .ok (toString i)
  | _ => .ok d.display

mutual

/-- A value has a literal: every integer that the literal shows is short
enough to be written. Of long arrays and columns not all cells are
shown. -/
def isShowable : Datum → Bool
  | int i => i.natAbs < unwritable
  | range start stop step => [start, stop, step].all fun i => i.natAbs < unwritable
  | list items | tuple items => (showables items).all id
  | dict entries | record _ entries => entriesShowable entries
  | array _ shape cells =>
    (ArrayText.shownCells (ArrayText.fullSize < cells.length) shape (showables cells)).all id
  | column _ index cells =>
    (TableText.shown (showables index)).all id && (TableText.shown (showables cells)).all id
  | frame columns => columnsShowable columns
  | _ => true

/-- Which of several values have a literal. -/
def showables : List Datum → List Bool
  | [] => []
  | d :: rest => isShowable d :: showables rest

/-- Named values have literals. -/
def entriesShowable : List (String × Datum) → Bool
  | [] => true
  | (_, d) :: rest => isShowable d && entriesShowable rest

/-- The cells of the columns of a table have literals. -/
def columnsShowable : List (String × CellType × List Datum) → Bool
  | [] => true
  | (_, _, cells) :: rest => (TableText.shown (showables cells)).all id && columnsShowable rest

end

/-- A failure that shows a value. A value that cannot be shown fails in
its own way. -/
def showing (d : Datum) (failure : String → Failure) : Failure :=
  if d.isShowable then failure d.literal else .conversion .tooManyDigitsToWrite

/-- A text as an integer. -/
def readInt (literal text : String) : Except Failure Int :=
  match Decimal.freeInt digitLimit text with
  | .value i => .ok i
  | .tooManyDigits count => .error (.conversion (.tooManyDigits count))
  | .none => .error (.conversion (.notIntegerText literal))

/-- A text as an exact decimal. -/
def readExact (text : String) : Except Failure Datum :=
  match Exact.ofText? text with
  | some x => .ok (.exact x)
  | none => .error (.conversion .notExactText)

/-- An integer as a double. -/
def realOfInt (i : Int) : Except Failure Binary64 :=
  match Binary64.ofInt? i with
  | some x => .ok x
  | none => .error (.conversion .integerTooLarge)

/-- An exact decimal as a double. -/
def realOfExact (x : Exact) : Except Failure Binary64 :=
  match x.toBinary64? with
  | some y => .ok y
  | none => .error (.conversion .signallingDecimal)

/-- The integer part of a double. -/
def intOfReal (x : Binary64) : Except Failure Int :=
  match x.truncate? with
  | some i => .ok i
  | none => .error (.conversion (.realWithoutInteger (x = .nan)))

/-- The integer part of an exact decimal. -/
def intOfExact : Exact → Except Failure Int
  | .finite negative digits exponent => .ok (Exact.truncate negative digits exponent)
  | .infinite _ => .error (.conversion (.exactWithoutInteger false))
  | .undefined _ _ _ => .error (.conversion (.exactWithoutInteger true))

/-- A tick as a double: its count, where it has no plain value but
that. -/
def realOfTick (t : Tick) : Except Failure Binary64 :=
  match plainTick t with
  | int i => realOfInt i
  | other => .error (.conversion (.notReal other.typeName))

/-- A value as a double. -/
def toReal : Datum → Except Failure Binary64
  | truth b => realOfInt (if b then 1 else 0)
  | int i => realOfInt i
  | real x => .ok x
  | exact x => realOfExact x
  | text s => readReal (Text.literal s) s
  | bytes bs => readReal ("b" ++ Text.byteLiteral bs) (asciiText bs)
  | buffer bs => readReal ("bytearray(b" ++ Text.bufferLiteral bs ++ ")") (asciiText bs)
  | tick t => realOfTick t
  | cell .text (text s) => readReal ("np.str_(" ++ Text.literal s ++ ")") s
  | cell (.complex _) (complex re _) => .ok re
  | cell _ value => toReal value
  | array .text [] [text s] => readReal (Text.literal (withoutZeros s)) (withoutZeros s)
  | array _ [] [value] => toReal value
  | array _ _ _ => .error (.conversion .arrayToScalar)
  | value => .error (.conversion (.notReal value.typeName))

/-- A value as an integer, toward zero. -/
def toInt : Datum → Except Failure Int
  | truth b => .ok (if b then 1 else 0)
  | int i => .ok i
  | real x => intOfReal x
  | exact x => intOfExact x
  | text s => readInt (Text.literal s) s
  | bytes bs | buffer bs => readInt ("b" ++ Text.byteLiteral bs) (asciiText bs)
  | tick t =>
    match plainTick t with
    | int i => .ok i
    | other => .error (.conversion (.notInteger other.typeName))
  | cell .text (text s) => readInt ("np.str_(" ++ Text.literal s ++ ")") s
  | cell (.complex _) (complex re _) => intOfReal re
  | cell _ value => toInt value
  | array .text [] [text s] => readInt (Text.literal (withoutZeros s)) (withoutZeros s)
  | array _ [] [value] => toInt value
  | array _ _ _ => .error (.conversion .arrayToScalar)
  | value => .error (.conversion (.notInteger value.typeName))

/-- A value that is a number already, as a double: texts are not read. -/
def magnitude (d : Datum) : Except Failure Binary64 :=
  match d with
  | cell .text _ => .error (.conversion (.notMagnitude d.typeName))
  | truth _ | int _ | real _ | exact _ | tick _ | cell _ _ | array _ _ _ => d.toReal
  | _ => .error (.conversion (.notMagnitude d.typeName))

/-- A text or a cell that holds one. -/
def isText : Datum → Bool
  | text _ | cell .text _ => true
  | _ => false

/-- The text of a value that is one. -/
def text? : Datum → Option String
  | text s | cell .text (text s) => some s
  | _ => none

/-- A value counts as set: it is not zero, empty or missing. -/
def isSet : Datum → Except Failure Bool
  | null => .ok false
  | truth b => .ok b
  | int i => .ok (i ≠ 0)
  | real x => .ok (x.key? ≠ some 0)
  | exact x => .ok (!x.isZero)
  | complex re im => .ok (re.key? ≠ some 0 || im.key? ≠ some 0)
  | text s => .ok (!s.isEmpty)
  | bytes bs | buffer bs => .ok (!bs.isEmpty)
  | list items | tuple items => .ok (!items.isEmpty)
  | range start stop step => .ok (if 0 < step then start < stop else stop < start)
  | dict entries => .ok (!entries.isEmpty)
  | tick t => .ok (t.count ≠ some 0)
  | cell _ value => isSet value
  | array .text _ [text s] => .ok (!(withoutZeros s).isEmpty)
  | array _ _ [value] => isSet value
  | array _ _ [] => .error (.misuse (.ambiguous .noCells))
  | array _ _ _ => .error (.misuse (.ambiguous .severalCells))
  | column _ _ _ => .error (.misuse (.ambiguous .column))
  | frame _ => .error (.misuse (.ambiguous .frame))
  | _ => .ok true

end Datum

end PlotPipe
