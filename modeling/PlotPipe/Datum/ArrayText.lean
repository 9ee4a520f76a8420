import PlotPipe.Number.Spelling
/-!
# Data — the text of arrays

How the cells of an array are set: integers flush right in a common
width, doubles with a point in a common column and at most eight places,
or all of them with an exponent when one is too large or too small for
its format or their sizes are far apart. Cells fill lines of a common
width, rows of several axes start on lines of their own, and of a large
array only the cells near the ends of its axes are shown.
-/

namespace PlotPipe

namespace ArrayText

/-- Blanks in front of a text up to a width. -/
def padLeft (width : Nat) (s : List Char) : List Char :=
  List.replicate (width - s.length) ' ' ++ s

/-- The largest length in a list of texts. -/
def widest (texts : List (List Char)) : Nat :=
  texts.foldl (fun n s => max n s.length) 0

/-- Texts flush right. -/
def alignRight (texts : List (List Char)) : List (List Char) :=
  texts.map (padLeft (widest texts))

/-! ## Doubles in a column -/

/-- A finite number of an array, split at the point and at the
exponent. -/
structure Parts where
  whole : List Char
  fraction : List Char
  exponent : Int

/-- The digits of a number rounded to `places` decimal places, when it
has more of them. -/
def fixedPlaces (num den places : Nat) (d : Scaled) : Scaled :=
  if d.exponent < -(places : Int) then
    ⟨BinaryFormat.roundHalfEven (num * Nat.pow 10 places) den, -(places : Int)⟩
  else d

/-- The sign in front of a number, where a positive one may have one
too. -/
def signText (signed negative : Bool) : List Char :=
  if negative then ['-'] else if signed then ['+'] else []

/-- A magnitude with a point and no exponent. -/
def pointedParts (sign : List Char) (f : BinaryFormat) (rank : Nat) : Parts :=
  let q := f.quotient rank
  let d := fixedPlaces q.1 q.2 8 (f.shortest rank)
  let value := if 0 ≤ d.exponent then d.digits * Nat.pow 10 d.exponent.toNat else d.digits
  let places := (-d.exponent).toNat
  let digits := paddedDigits (places + 1) value
  { whole := sign ++ digits.take (digits.length - places)
    fraction := dropTrailingZeros (digits.drop (digits.length - places))
    exponent := 0 }

/-- A positive magnitude to `count` digits: the neighbour on their grid that
reads back as the number, or else the nearest one. -/
def toDigits (f : BinaryFormat) (rank count : Nat) : Scaled :=
  let q := f.quotient rank
  let decade := decade q.1 q.2
  match f.onGrid? rank decade count with
  | some d => d
  | none =>
    let s := scaleTen q.1 q.2 (decade - count)
    ⟨BinaryFormat.roundHalfEven s.1 s.2, decade - count⟩

/-- The most places of a number with an exponent. -/
def mostPlaces : Nat := 8

/-- The places that a magnitude needs with an exponent: those of its
shortest decimal, up to a limit. -/
def placesNeeded (f : BinaryFormat) (rank : Nat) : Nat :=
  let all := decimalDigits (f.shortest rank).digits
  let digits := if all.length ≤ mostPlaces + 1 then all
    else decimalDigits (toDigits f rank (mostPlaces + 1)).digits
  (dropTrailingZeros digits).length - 1

/-- A magnitude with one digit before the point, a number of places and an
exponent. Places beyond its shortest decimal show what it is exactly. -/
def scientificParts (sign : List Char) (f : BinaryFormat) (places rank : Nat) : Parts :=
  if rank = 0 then ⟨sign ++ ['0'], List.replicate places '0', 0⟩
  else
    let d := toDigits f rank (places + 1)
    let digits := decimalDigits d.digits
    { whole := sign ++ digits.take 1
      fraction := (digits.drop 1).take places
      exponent := d.exponent + digits.length - 1 }

/-- A finite double as a sign and a rank of a format. -/
def finite? (f : BinaryFormat) : Binary64 → Option (Bool × Nat)
  | .nan => none
  | .signed negative m =>
    if m.isFinite then some (negative, f.nearestRank m.quotient.1 m.quotient.2) else none

/-- The decimal digits that every number of a format keeps. -/
def keptDigits (f : BinaryFormat) : Nat := (f.precision - 1) * 30103 / 100000

/-- An exponent is needed: the largest number has more digits before the
point than are kept, the smallest is below a ten-thousandth, or one is
more than a thousand times the other. Sizes are compared as numbers of
the format. -/
def needsExponent (f : BinaryFormat) (ranks : List Nat) : Bool :=
  match (ranks.filter (0 < ·)).max?, (ranks.filter (0 < ·)).min? with
  | some top, some bottom =>
    let t := f.quotient top
    let b := f.quotient bottom
    f.nearestRank (Nat.pow 10 (min 8 (keptDigits f))) 1 ≤ top
      || bottom < f.nearestRank 1 10000
      || f.nearestRank 1000 1 < f.nearestRank (t.1 * b.2) (t.2 * b.1)
  | _, _ => false

/-- An exponent with a sign and at least `width` digits. -/
def exponentText (width : Nat) (e : Int) : List Char :=
  'e' :: (if e < 0 then '-' else '+') :: paddedDigits width e.natAbs

/-- A number without digits, by its name. -/
def nameText (signed : Bool) (x : Binary64) : List Char :=
  let name := (x.text .plain).toList
  if signed && name.head? ≠ some '-' then '+' :: name else name

/-- Doubles with their points in one column, where `signed` gives all of
them a sign. -/
def alignPoints (signed : Bool) (f : BinaryFormat) (numbers : List Binary64) : List (List Char) :=
  let finite := numbers.filterMap (finite? f)
  let exponents := needsExponent f (finite.map Prod.snd)
  let places := if exponents then (finite.map fun n => placesNeeded f n.2).foldl max 0 else 0
  let parts (negative : Bool) (rank : Nat) : Parts :=
    let sign := signText signed negative
    if exponents then scientificParts sign f places rank else pointedParts sign f rank
  let all := finite.map fun (negative, rank) => parts negative rank
  let left := widest (all.map Parts.whole)
  let right := widest (all.map Parts.fraction)
  let digits := (all.map fun p => (decimalDigits p.exponent.natAbs).length).foldl max 2
  let full :=
    if all.isEmpty then 0 else left + 1 + right + (if exponents then digits + 2 else 0)
  let names := numbers.filterMap fun x =>
    if x.isFinite then none else some (nameText signed x)
  let width := max full (widest names)
  numbers.map fun x =>
    match finite? f x with
    | none => padLeft width (nameText signed x)
    | some (negative, rank) =>
      let p := parts negative rank
      let filler := List.replicate (right - p.fraction.length) ' '
      padLeft width
        (padLeft left p.whole ++ '.' :: p.fraction ++ filler
          ++ (if exponents then exponentText digits p.exponent else []))

/-- Complex numbers with the points of their parts in two columns; the
unit stands right behind the second part. -/
def alignPairs (f : BinaryFormat) (numbers : List (Binary64 × Binary64)) : List (List Char) :=
  let unit (s : List Char) : List Char :=
    let after := s.reverse.takeWhile (· = ' ')
    s.take (s.length - after.length) ++ 'j' :: after
  List.zipWith (fun re im => re ++ unit im)
    (alignPoints false f (numbers.map Prod.fst)) (alignPoints true f (numbers.map Prod.snd))

/-- A number of a format by itself: positional from a ten-thousandth on,
as long as the format keeps all digits before the point. -/
def single (f : BinaryFormat) (x : Binary64) : String :=
  match finite? f x with
  | none => x.text .plain
  | some (negative, rank) =>
    let q := f.quotient rank
    let limit := Nat.pow 10 (if f.precision = 53 then 16 else keptDigits f)
    let positionally := rank = 0 || (q.2 ≤ 10000 * q.1 && q.1 < limit * q.2)
    let d := f.shortest rank
    let all := decimalDigits d.digits
    let e := d.exponent + (all.length : Int) - 1
    let ds := dropTrailingZeros all
    (if negative then "-" else "")
      ++ (if rank = 0 then "0.0"
        else String.ofList (if positionally then positional ds e else exponential ds e))

/-! ## Cells in lines -/

/-- How an array is set: what stands between cells, the width of its
lines, and the column of its cells. -/
structure Setting where
  separator : String
  width : Nat
  indent : Nat

/-- Drop the blanks at the end of a line. -/
def dropBlanksAtEnd (s : String) : String :=
  String.ofList ((s.toList.reverse.dropWhile (· = ' ')).reverse)

/-- Blanks up to a column. -/
def blanks (column : Nat) : String := String.ofList (List.replicate column ' ')

/-- Lines that are done, and the one under way. -/
structure Column where
  done : String
  line : String

/-- End the line under way and begin another one. -/
def Column.turn (c : Column) (line : String) : Column :=
  ⟨c.done ++ dropBlanksAtEnd c.line ++ "\n", line⟩

/-- Append a cell, on a new line when the line under way has cells and no
room. The lines of a cell of several lines stand below one another. -/
def Column.append (width indent : Nat) (c : Column) (cell : String) : Column :=
  let lines := (cell.splitOn "\n")
  let longest := lines.foldl (fun n s => max n s.length) 0
  let c := if width < c.line.length + longest && indent < c.line.length then c.turn (blanks indent)
    else c
  let column := c.line.length
  match lines with
  | [] => c
  | [_] => { c with line := c.line ++ cell }
  | first :: rest =>
    let c := rest.foldl (fun c s => c.turn (blanks column ++ s)) { c with line := c.line ++ first }
    { c with line := c.line ++ blanks (longest - (rest.getLastD "").length) }

/-- Cells between brackets, on as many lines as they need. -/
def row (separator : String) (indent width : Nat) (cells : List String) : String :=
  let separated := cells.dropLast.map fun s => (s, separator)
  let start : Column := ⟨"", blanks indent⟩
  let c := (separated ++ (cells.getLast?.map fun s => (s, "")).toList).foldl
    (fun c (s, after) =>
      let c := c.append (width - 1) indent s
      { c with line := c.line ++ after })
    start
  "[" ++ String.ofList ((c.done ++ c.line).toList.drop indent) ++ "]"

/-- The cells at each end of an axis that are shown of a large array. -/
def edge : Nat := 3

/-- The cells of an array beyond which only ends are shown. -/
def fullSize : Nat := 1000

/-- Put a mark between the two ends. -/
def markGap (gap : Bool) (items : List String) : List String :=
  if gap then items.take edge ++ "..." :: items.drop edge else items

/-- Cut a list into `count` pieces of one size. -/
def pieces {α : Type} (size : Nat) : Nat → List α → List (List α)
  | 0, _ => []
  | count + 1, cells => cells.take size :: pieces size count (cells.drop size)

/-- The axes of what is shown, each with whether cells are left out of
it. -/
def shownAxes (large : Bool) (shape : List Nat) : List (Nat × Bool) :=
  shape.map fun n => if large && 2 * edge < n then (2 * edge, true) else (n, false)

/-- What is shown of a list of items. -/
def ends {α : Type} (large : Bool) (items : List α) : List α :=
  if large && 2 * edge < items.length then
    items.take edge ++ items.drop (items.length - edge)
  else items

/-- The cells that are shown. -/
def shownCells {α : Type} (large : Bool) : List Nat → List α → List α
  | [], cells => cells
  | [_], cells => ends large cells
  | count :: rest, cells =>
    (ends large (pieces (rest.foldl (· * ·) 1) count cells)).flatMap (shownCells large rest)

/-- Cells between brackets, axis by axis. -/
def block (separator : String) (indent width : Nat) : List (Nat × Bool) → List String → String
  | [], cells => cells.headD ""
  | [(_, gap)], cells => row separator indent width (markGap gap cells)
  | (count, gap) :: rest, cells =>
    let turn := dropBlanksAtEnd separator ++ String.ofList (List.replicate rest.length '\n')
      ++ blanks indent
    let size := (rest.map Prod.fst).foldl (· * ·) 1
    let parts := (pieces size count cells).map (block separator (indent + 1) (width - 1) rest)
    "[" ++ turn.intercalate (markGap gap parts) ++ "]"

/-- The shown cells of an array as a text. -/
def layout (setting : Setting) (large : Bool) (shape : List Nat) (cells : List String) : String :=
  block setting.separator setting.indent setting.width (shownAxes large shape) cells

/-- The width of the lines of messages. -/
def lineWidth : Nat := 75

/-- Cells inside a literal, which starts with the word `array` and ends
with a bracket. -/
def inLiteral : Setting := ⟨", ", lineWidth - 1, 7⟩

/-- Cells of an array by themselves. -/
def bare : Setting := ⟨" ", lineWidth, 1⟩

/-- Notes after the cells of a literal: on the last line, or on one of
their own where there is no room. -/
def withNotes (body : String) (notes : List String) : String :=
  if notes.isEmpty then "array(" ++ body ++ ")"
  else
    let text := "array(" ++ body ++ ","
    let last := ((text.splitOn "\n").getLastD "").length
    let extra := ", ".intercalate notes ++ ")"
    text ++ (if lineWidth < last + extra.length + 1 then "\n" ++ blanks 6 else " ") ++ extra

end ArrayText

end PlotPipe
