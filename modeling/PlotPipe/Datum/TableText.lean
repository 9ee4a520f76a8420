import PlotPipe.Datum.ArrayText
import PlotPipe.Datum.Basic
/-!
# Data — the text of tables

How a column and a table are set: the index at the left, then the
columns flush right, and at the end the type of a column or the size of
a table that is not shown in full. Doubles have six places, less the
zeros that all of them end with, or an exponent when some are very small
or too long; times lose their clock when all of them are midnights. Of
more than sixty rows the first and the last five are shown.
-/

namespace PlotPipe

namespace TableText

/-! ## Numbers -/

/-- Places after the point. -/
def places : Nat := 6

/-- The sign of a number, where a positive one has `plus`. -/
def sign (plus : String) (negative : Bool) : String := if negative then "-" else plus

/-- A finite number with a fixed number of places. -/
def fixed (plus : String) (negative : Bool) (num den : Nat) : String :=
  let digits := paddedDigits (places + 1)
    (BinaryFormat.roundHalfEven (num * Nat.pow 10 places) den)
  sign plus negative ++ String.ofList (digits.take (digits.length - places)) ++ "."
    ++ String.ofList (digits.drop (digits.length - places))

/-- A finite number with one digit before the point, a fixed number of
places and an exponent. -/
def scientific (plus : String) (negative : Bool) (num den : Nat) : String :=
  let exponent : Int := if num = 0 then 0 else decade num den - 1
  let scaled (e : Int) : Nat :=
    let s := scaleTen num den (e - places)
    BinaryFormat.roundHalfEven s.1 s.2
  let exponent := if Nat.pow 10 (places + 1) ≤ scaled exponent then exponent + 1 else exponent
  let digits := paddedDigits (places + 1) (scaled exponent)
  sign plus negative ++ String.ofList (digits.take 1) ++ "." ++ String.ofList (digits.drop 1)
    ++ String.ofList (ArrayText.exponentText 2 exponent)

/-- A number in one of the two forms; what is missing has a name of its
own. -/
def number (form : String → Bool → Nat → Nat → String) (plus missing : String) : Binary64 → String
  | .nan => missing
  | .signed negative m =>
    if m.isFinite then form plus negative m.quotient.1 m.quotient.2
    else sign plus negative ++ "inf"

/-- A text of digits with a point among them. -/
def hasPoint (s : String) : Bool :=
  let cs := s.toList.dropWhile fun c => c = ' ' || c = '-' || c = '+'
  cs.contains '.' && cs.all fun c => c.isDigit || c = '.'

/-- The zeros at the end of a text of digits, after its point. -/
def zerosAtEnd (s : String) : Nat :=
  let fraction := (s.toList.reverse.takeWhile (· ≠ '.'))
  (fraction.takeWhile (· = '0')).length

/-- Drop characters at the end. -/
def dropEnd (n : Nat) (s : String) : String := String.ofList (s.toList.take (s.length - n))

/-- Drop the zeros that all numbers end with, but for one digit after the
point. -/
def trimZeros (texts : List String) : List String :=
  let zeros := (((texts.filter hasPoint).map zerosAtEnd).min?).getD 0
  texts.map fun s =>
    if hasPoint s then
      let s := dropEnd zeros s
      if s.endsWith "." then s ++ "0" else s
    else s

/-- Two doubles in order, by their size. -/
def exceeds (num den : Nat) (x : Binary64) : Bool :=
  match x with
  | .nan => false
  | .signed _ m => !m.isFinite || num * m.quotient.2 < m.quotient.1 * den

/-- Smaller than the last place, and not zero. -/
def isTiny (x : Binary64) : Bool :=
  match x with
  | .nan => false
  | .signed _ m =>
    m.isFinite && m.quotient.1 ≠ 0 && m.quotient.1 * Nat.pow 10 places < m.quotient.2

/-- The texts of doubles. -/
def doubles (plus missing : String) (xs : List Binary64) : List String :=
  let plain := trimZeros (xs.map (number fixed plus missing))
  let long := plain.any fun s => places + 6 < s.length
  if xs.any isTiny || (long && xs.any (exceeds 1000000 1)) then
    xs.map (number scientific plus missing)
  else plain

/-- The two parts of a complex number, cut at the last sign among them. -/
def complexParts (form : String → Bool → Nat → Nat → String) (re im : Binary64) :
    String × String :=
  let cs := (number form " " "NaN" re ++ number form "+" "+NaN" im).toList
  let after := (cs.reverse.takeWhile fun c => c ≠ '+' && c ≠ '-').length + 1
  (String.ofList (cs.take (cs.length - after)), String.ofList (cs.drop (cs.length - after)))

/-- Complex numbers in one form, the second parts flush right in the width
of the widest part. -/
def setPairs (form : String → Bool → Nat → Nat → String) (xs : List (Binary64 × Binary64)) :
    List String :=
  let parts := xs.map fun (re, im) => complexParts form re im
  let trimmed := trimZeros (parts.map Prod.fst ++ parts.map Prod.snd)
  let width := trimmed.foldl (fun n s => max n s.length) 0 - 1
  List.zipWith
    (fun re im =>
      let digits := im.toList.drop 1
      re ++ String.ofList (im.toList.take 1) ++ ArrayText.blanks (width - digits.length)
        ++ String.ofList digits ++ "j")
    (trimmed.take xs.length) (trimmed.drop xs.length)

/-- The square of the size of a complex number as a quotient, when both
parts are finite. -/
def sizeSquared? (x : Binary64 × Binary64) : Option (Nat × Nat) :=
  match x with
  | (.signed _ re, .signed _ im) =>
    if re.isFinite && im.isFinite then
      let p := re.quotient
      let q := im.quotient
      some (p.1 * p.1 * (q.2 * q.2) + q.1 * q.1 * (p.2 * p.2), p.2 * p.2 * (q.2 * q.2))
    else none
  | _ => none

/-- The texts of complex numbers. -/
def pairs (xs : List (Binary64 × Binary64)) : List String :=
  let plain := setPairs fixed xs
  let long := plain.any fun s => places + 6 < s.length
  let isTiny (x : Binary64 × Binary64) : Bool :=
    match sizeSquared? x with
    | some (num, den) => num ≠ 0 && num * Nat.pow 10 (2 * places) < den
    | none => false
  let isLarge (x : Binary64 × Binary64) : Bool :=
    match sizeSquared? x with
    | some (num, den) => 1000000000000 * den < num
    | none => (x.1 ≠ .nan && !x.1.isFinite) || (x.2 ≠ .nan && !x.2.isFinite)
  if xs.any isTiny || (long && xs.any isLarge) then setPairs scientific xs else plain

/-! ## Cells -/

/-- A double among cells of several kinds. -/
def singleDouble (x : Binary64) : String :=
  let s := (trimZeros [number fixed " " "NaN" x]).headD ""
  if x = .nan then " NaN" else s

/-- The instants of times, as stamps. -/
def stampOf? : Datum → Option Stamp
  | .tick t =>
    match Datum.tableTime t with
    | .stamp s => some s
    | _ => none
  | .stamp s => some s
  | .moment m => some ⟨m, 0⟩
  | _ => none

/-- Times in one form: dates alone when all of them are midnights, and as
many places of a second as one of them needs. -/
def times (cells : List Datum) : List String :=
  let stamps := cells.filterMap stampOf?
  let midnight (s : Stamp) : Bool :=
    s.moment.hour = 0 && s.moment.minute = 0 && s.moment.second = 0 && s.moment.micro = 0
      && s.nano = 0
  let digits := stamps.foldl (fun n s => max n
    (if s.nano ≠ 0 then 9 else if s.moment.micro % 1000 ≠ 0 then 6
      else if s.moment.micro ≠ 0 then 3 else 0)) 0
  let fraction (s : Stamp) : String :=
    if digits = 0 then ""
    else "." ++ String.ofList
      ((paddedDigits 9 (s.moment.micro * 1000 + s.nano)).take digits)
  let zone (s : Stamp) : String :=
    match s.moment.offset with
    | some offset => Moment.offsetText ":" offset
    | none => ""
  cells.map fun d => match stampOf? d with
    | none => "NaT"
    | some s =>
      if stamps.all midnight && s.moment.offset.isNone then s.moment.date.text
      else s.moment.date.text ++ " " ++ s.moment.clockText ++ fraction s ++ zone s

/-- The cells of a column with a leading blank; `texts` are those of
cells of several kinds. -/
def cellTexts (type : CellType) (cells : List Datum) (texts : List String) : List String :=
  match type with
  | .integer _ | .natural _ =>
    cells.map fun c => match c with
      | .int i => (if i < 0 then "" else " ") ++ toString i
      | _ => ""
  | .floating _ =>
    doubles " " "NaN" (cells.map fun c => match c with | .real x => x | _ => .nan)
  | .complex _ =>
    pairs (cells.map fun c => match c with | .complex re im => (re, im) | _ => (.nan, .nan))
  | .tick _ => times cells
  | _ =>
    (cells.zip texts).map fun (c, text) => match c with
      | .real x | .cell (.floating _) (.real x) => singleDouble x
      | _ => " " ++ text

/-- The greatest width of a cell. -/
def widthLimit : Nat := 50

/-- Blanks up to a width, before or after a text. -/
def justify (right : Bool) (width : Nat) (s : String) : String :=
  let fill := ArrayText.blanks (width - s.length)
  if right then fill ++ s else s ++ fill

/-- The width of a column of texts. -/
def width (texts : List String) : Nat := texts.foldl (fun n s => max n s.length) 0

/-- Texts in one width, cut where they are too long. -/
def fixWidth (least : Nat) (texts : List String) : List String :=
  let width := min (max least (width texts)) widthLimit
  texts.map fun s =>
    justify true width
      (if width < s.length then String.ofList (s.toList.take (width - 3)) ++ "..." else s)

/-! ## Index -/

/-- Drop the blanks that all texts begin with. -/
def trimFront (texts : List String) : List String :=
  let blanksOf (s : String) : Nat := (s.toList.takeWhile (· = ' ')).length
  let n := ((texts.map blanksOf).min?).getD 0
  texts.map fun s => String.ofList (s.toList.drop n)

/-- The texts of an index. -/
def indexTexts (index : List Datum) (texts : List String) : List String :=
  let isInt (d : Datum) : Bool := match d with | .int _ => true | _ => false
  let isReal (d : Datum) : Bool := match d with | .real _ => true | _ => false
  let isTime (d : Datum) : Bool := match d with | .stamp _ | .noTime => true | _ => false
  if index.all isTime then times index
  else if index.all isInt then
    trimFront (index.map fun d => match d with
      | .int i => (if i < 0 then "" else " ") ++ toString i
      | _ => "")
  else if index.all isReal then
    trimFront (doubles "" " NaN" (index.map fun d => match d with | .real x => x | _ => .nan))
  else
    trimFront ((index.zip texts).map fun (d, text) => match d with
      | .real x | .cell (.floating _) (.real x) => singleDouble x
      | _ => " " ++ text)

/-! ## Columns and tables -/

/-- Texts side by side, line by line: the columns but the last one are
filled up to their width and `gap` blanks. -/
def sideBySide (gap : Nat) : List (List String) → List String
  | [] => []
  | [last] =>
    let w := width last
    last.map (justify false w)
  | column :: rest =>
    let w := width column + gap
    List.zipWith (fun s t => justify false w s ++ t) column (sideBySide gap rest)

/-- The rows that are shown at each end of a long table, and the rows up
to which all are shown. -/
def shownRows : Nat := 5
def rowLimit : Nat := 60

/-- The items at both ends of a long list. -/
def shown {α : Type} (items : List α) : List α :=
  if rowLimit < items.length then
    items.take shownRows ++ items.drop (items.length - shownRows)
  else items

/-- Put a text between the two ends. -/
def insertGap (long : Bool) (gap : List String → String) (texts : List String) : List String :=
  if long then texts.take shownRows ++ gap texts :: texts.drop shownRows else texts

/-- Points for the rows that are left out, in a column of some width. -/
def points (width : Nat) : String := if 3 < width then "..." else ".."

/-- A text in the middle of a width. -/
def center (width : Nat) (s : String) : String :=
  let fill := width - s.length
  let left := fill / 2 + (if fill % 2 = 1 && width % 2 = 1 then 1 else 0)
  ArrayText.blanks left ++ s ++ ArrayText.blanks (fill - left)

/-- A column with its index. -/
def column (typeName : String) (type : CellType) (index : List Datum) (indexTexts' : List String)
    (cells : List Datum) (texts : List String) : String :=
  if cells.isEmpty then "Series([], dtype: " ++ typeName ++ ")"
  else
    let long := rowLimit < cells.length
    let values := fixWidth 0 (cellTexts type (shown cells) (shown texts))
    let values := insertGap long
      (fun texts => let w := ((texts[shownRows - 1]?).getD "").length
        center w (points w)) values
    let names := insertGap long (fun _ => "") (indexTexts (shown index) (shown indexTexts'))
    let lines := sideBySide 3 [names, values]
    let length := if long then s!"Length: {cells.length}, " else ""
    "\n".intercalate lines ++ "\n" ++ length ++ "dtype: " ++ typeName

/-- Breaks as a table shows them. -/
def escapeBreaks (s : String) : String :=
  String.join (s.toList.map fun c =>
    if c = '\t' then "\\t" else if c = '\n' then "\\n" else if c = '\r' then "\\r" else c.toString)

/-- The most entries that a table shows between brackets. -/
def shownEntries : Nat := 100

/-- Entries between brackets, not all of which are shown. -/
def entryList (before after : String) (texts : List String) : String :=
  if shownEntries < texts.length then
    before ++ ", ".intercalate (texts.take shownEntries) ++ ", ..." ++ after
  else before ++ ", ".intercalate texts ++ after

/-- The width of a page, which a table does not fill. -/
def pageWidth : Nat := 80

/-- Half of a number; between two halves the even one is taken. -/
def half (n : Nat) : Nat := if n % 4 = 3 then n / 2 + 1 else n / 2

/-- How many columns are left when columns are taken out of the middle,
at most `limit` of them, until those taken out are as wide as `excess`. -/
def columnsLeft (limit excess : Nat) (widths : List Nat) : Nat :=
  match limit with
  | 0 => widths.length
  | limit + 1 =>
    if excess = 0 || widths.length ≤ 1 then widths.length
    else
      let middle := half widths.length
      columnsLeft limit (excess - ((widths[middle]?).getD 0 + 1)) (widths.eraseIdx middle)

/-- How many columns of a table fit on a page beside its index, which is
the first column here. Two always do. -/
def columnsThatFit (columns : List (List String)) : Nat :=
  let widths := columns.map width
  let total := widths.foldl (· + ·) (widths.length - 1)
  max 2 (columnsLeft widths.length (total + 1 - pageWidth) widths - 1)

/-- The columns at both ends, with points between them. -/
def leaveOut (ends : Nat) (columns : List (List String)) : List (List String) :=
  let lines := ((columns.head?).map List.length).getD 0
  columns.take ends ++ List.replicate lines " ..." :: columns.drop (columns.length - ends)

/-- Columns of the type hold numbers. -/
def isNumeric : CellType → Bool
  | .integer _ | .natural _ | .floating _ | .complex _ | .truth => true
  | .optional type => isNumeric type
  | _ => false

/-- A column of a table under its name. -/
def namedColumn (name : String) (type : CellType) (cells : List Datum) (texts : List String) :
    List String :=
  let header := (if isNumeric type then " " else "") ++ escapeBreaks name
  let values := fixWidth header.length (cellTexts type (shown cells) (shown texts))
  let gap (texts : List String) : String :=
    let w := width texts
    justify true w (points w)
  justify true (max (width values) header.length) header
    :: insertGap (rowLimit < cells.length) gap values

/-- The numbers of rows as the index of a table. -/
def rowNumbers (count : Nat) : List String :=
  let rows := (shown (List.range count)).map fun n => toString n
  let gap (texts : List String) : String :=
    let w := width texts
    justify false w (points w)
  "" :: insertGap (rowLimit < count) gap (rows.map (justify false (width rows)))

/-- A table from its columns, each with its name, its type, its cells and
their texts. What does not fit on a page is left out in the middle, and
the size of the table is told then. -/
def frame (columns : List (String × CellType × List Datum × List String)) : String :=
  let count := ((columns.head?).map fun c => c.2.2.1.length).getD 0
  if columns.isEmpty || count = 0 then
    "Empty DataFrame\nColumns: " ++ entryList "[" "]" (columns.map fun c => escapeBreaks c.1)
      ++ "\nIndex: " ++ entryList "[" "]" ((List.range count).map fun n => toString n)
  else
    let index := rowNumbers count
    let body := columns.map fun (name, type, cells, texts) => namedColumn name type cells texts
    let tried := if pageWidth < body.length then leaveOut (pageWidth / 2) body else body
    let fitting := columnsThatFit (index :: tried)
    let isWide := fitting < body.length
    let body := if isWide then leaveOut (fitting / 2) body else body
    let size :=
      if isWide || rowLimit < count then s!"\n\n[{count} rows x {columns.length} columns]" else ""
    "\n".intercalate (sideBySide 1 (index :: body)) ++ size

end TableText

end PlotPipe
