import PlotPipe.Datum.Convert
/-!
# TOML — keys, texts, numbers and dates

The smallest parts of a TOML document. Every reader takes the characters
from its place to the end of the document and returns what it read with
the characters that follow. A flaw keeps the number of characters that
were left at its place, from which the line and the column can be told.
-/

namespace PlotPipe

namespace Toml

/-- What is wrong with a document. -/
inductive Flaw where
  /-- The rules are broken, with so many characters left. -/
  | broken (message : String) (left : Nat)
  | tooManyDigits (count : Nat)
  /-- Values are nested beyond the limit. -/
  | tooDeep
  deriving DecidableEq

/-- A flaw in front of `cs`. -/
def flaw {α : Type} (message : String) (cs : List Char) : Except Flaw α :=
  .error (.broken message cs.length)

/-- A blank inside a line. -/
def isBlank (c : Char) : Bool := c = ' ' || c = '\t'

/-- A blank or a line end. -/
def isGap (c : Char) : Bool := isBlank c || c = '\n'

/-- Drop the blanks at the front. -/
def skipBlanks (cs : List Char) : List Char := cs.dropWhile isBlank

/-- Drop blanks and line ends at the front. -/
def skipGaps (cs : List Char) : List Char := cs.dropWhile isGap

/-- A control character, which texts and comments may not hold; tabs are
allowed, and line ends in texts of several lines. -/
def isForbidden (multiline : Bool) (c : Char) : Bool :=
  (c.toNat < 32 || c.toNat = 127) && c ≠ '\t' && !(multiline && c = '\n')

/-- Find `mark` in `cs`: the characters before it, and those from it
on. -/
def splitBefore (mark : List Char) : List Char → Option (List Char × List Char)
  | [] => none
  | c :: rest =>
    if mark.isPrefixOf (c :: rest) then some ([], c :: rest)
    else (splitBefore mark rest).map fun (before, after) => (c :: before, after)

/-- Check that no character in front of the last `keep` ones of `cs` is
forbidden. -/
def checkSpan (multiline : Bool) (keep : Nat) : List Char → Except Flaw Unit
  | [] => .ok ()
  | c :: rest =>
    if rest.length < keep then .ok ()
    else if isForbidden multiline c then
      flaw ("Found invalid character " ++ Text.literal c.toString) (c :: rest)
    else checkSpan multiline keep rest

/-- Drop a comment, up to the end of its line. -/
def skipComment (cs : List Char) : Except Flaw (List Char) :=
  match cs with
  | '#' :: rest => do
    let after := rest.dropWhile (· ≠ '\n')
    checkSpan false after.length rest
    return after
  | _ => .ok cs

/-- Drop blanks, line ends and at most `fuel` comments. -/
def skipFiller : Nat → List Char → Except Flaw (List Char)
  | 0, cs => .ok cs
  | fuel + 1, cs =>
    match skipGaps cs with
    | '#' :: rest => do skipFiller fuel (← skipComment ('#' :: rest))
    | rest => .ok rest

/-- A literal text after its opening mark, up to the mark that closes
it. -/
def literalText (mark : List Char) (multiline : Bool) (cs : List Char) :
    Except Flaw (List Char × List Char) :=
  match splitBefore mark cs with
  | some (before, after) => do
    checkSpan multiline after.length cs
    return (before, after.drop mark.length)
  | none => flaw ("Expected " ++ Text.literal (String.ofList mark)) []

/-- The characters that short escapes stand for. -/
def escapes : List (Char × Nat) :=
  [('b', 8), ('t', 9), ('n', 10), ('f', 12), ('r', 13), ('"', 34), ('\\', 92)]

/-- A character given by hexadecimal digits. -/
def hexChar (count : Nat) (cs : List Char) : Except Flaw (List Char × List Char) :=
  let digits := (cs.take count).filterMap Text.hexDigit?
  if digits.length ≠ count then flaw "Invalid hex value" cs
  else
    let n := digits.foldl (fun n d => 16 * n + d) 0
    let rest := cs.drop count
    if n < 0xD800 ∨ (0xE000 ≤ n ∧ n < 0x110000) then .ok ([Char.ofNat n], rest)
    else flaw "Escaped character is not a Unicode scalar value" rest

/-- The rest of a line that ends with a backslash: the gap up to the next
character is dropped. -/
def lineJoin (cs : List Char) : Except Flaw (List Char × List Char) :=
  match skipBlanks cs with
  | [] => .ok ([], [])
  | '\n' :: rest => .ok ([], skipGaps rest)
  | rest => flaw "Unescaped '\\' in a string" rest

/-- What follows a backslash. -/
def escape (multiline : Bool) (cs : List Char) : Except Flaw (List Char × List Char) :=
  match cs with
  | [] => flaw "Unescaped '\\' in a string" []
  | c :: rest =>
    if multiline && isGap c then lineJoin cs
    else if c = 'u' then hexChar 4 rest
    else if c = 'U' then hexChar 8 rest
    else
      match escapes.lookup c with
      | some n => .ok ([Char.ofNat n], rest)
      | none => flaw "Unescaped '\\' in a string" rest

/-- A text with escapes after its opening mark. -/
def basicText (multiline : Bool) : Nat → List Char → Except Flaw (List Char × List Char)
  | 0, cs => flaw "Unterminated string" cs
  | fuel + 1, cs =>
    match cs with
    | [] => flaw "Unterminated string" []
    | '"' :: rest =>
      if !multiline then .ok ([], rest)
      else
        match rest with
        | '"' :: '"' :: rest => .ok ([], rest)
        | _ => (basicText multiline fuel rest).map fun (s, after) => ('"' :: s, after)
    | '\\' :: rest => do
      let (chars, rest) ← escape multiline rest
      let (s, after) ← basicText multiline fuel rest
      return (chars ++ s, after)
    | c :: rest =>
      if isForbidden multiline c then
        flaw ("Illegal character " ++ Text.literal c.toString) (c :: rest)
      else (basicText multiline fuel rest).map fun (s, after) => (c :: s, after)

/-- At most two more quotation marks that belong to a text of several
lines. -/
def trailingQuotes (quote : Char) (s rest : List Char) : List Char × List Char :=
  match rest with
  | a :: b :: more =>
    if a = quote then if b = quote then (s ++ [a, b], more) else (s ++ [a], b :: more)
    else (s, rest)
  | [a] => if a = quote then (s ++ [a], []) else (s, rest)
  | [] => (s, [])

/-- Drop the line end right after the opening mark of a text of several
lines. -/
def dropFirstLineEnd : List Char → List Char
  | '\n' :: rest => rest
  | cs => cs

/-- A text with its marks, of any of the four kinds, from at most `fuel`
characters. -/
def anyText (fuel : Nat) (cs : List Char) : Except Flaw (List Char × List Char) :=
  match cs with
  | '"' :: '"' :: '"' :: rest => do
    let (s, after) ← basicText true fuel (dropFirstLineEnd rest)
    return trailingQuotes '"' s after
  | '"' :: rest => basicText false fuel rest
  | '\'' :: '\'' :: '\'' :: rest => do
    let (s, after) ← literalText ['\'', '\'', '\''] true (dropFirstLineEnd rest)
    return trailingQuotes '\'' s after
  | '\'' :: rest => literalText ['\''] false rest
  | _ => flaw "Invalid value" cs

/-- A character of a bare key. -/
def isKeyChar (c : Char) : Bool :=
  c.isAlphanum || c = '-' || c = '_'

/-- One part of a key. -/
def keyPart (cs : List Char) : Except Flaw (String × List Char) :=
  match cs with
  | '\'' :: rest => (literalText ['\''] false rest).map fun (s, after) => (String.ofList s, after)
  | '"' :: rest =>
    (basicText false (rest.length + 1) rest).map fun (s, after) => (String.ofList s, after)
  | c :: _ =>
    if isKeyChar c then .ok (String.ofList (cs.takeWhile isKeyChar), cs.dropWhile isKeyChar)
    else flaw "Invalid initial character for a key part" cs
  | [] => flaw "Invalid initial character for a key part" []

/-- A key of one or more parts between points, with the blanks after
it. -/
def key : Nat → List Char → Except Flaw (List String × List Char)
  | 0, cs => flaw "Invalid initial character for a key part" cs
  | fuel + 1, cs => do
    let (part, rest) ← keyPart cs
    match skipBlanks rest with
    | '.' :: rest =>
      let (parts, rest) ← key fuel (skipBlanks rest)
      return (part :: parts, rest)
    | rest => return ([part], rest)

/-- Digits of a class with single underscores between them, after a first
digit. -/
def moreDigits (isDigit : Char → Bool) : List Char → List Char × List Char
  | '_' :: d :: rest =>
    if isDigit d then
      let (ds, after) := moreDigits isDigit rest
      (d :: ds, after)
    else ([], '_' :: d :: rest)
  | d :: rest =>
    if isDigit d then
      let (ds, after) := moreDigits isDigit rest
      (d :: ds, after)
    else ([], d :: rest)
  | [] => ([], [])

/-- One or more digits of a class. -/
def digits? (isDigit : Char → Bool) (cs : List Char) : Option (List Char × List Char) :=
  match cs with
  | d :: rest =>
    if isDigit d then
      let (ds, after) := moreDigits isDigit rest
      some (d :: ds, after)
    else none
  | [] => none

/-- The value of digits in a base. -/
def valueOf (base : Nat) (ds : List Char) : Nat :=
  ds.foldl (fun n d => base * n + (Text.hexDigit? d).getD 0) 0

/-- A number in a base other than ten. -/
def based? (cs : List Char) : Option (Nat × List Char) :=
  let read (base : Nat) (isDigit : Char → Bool) (rest : List Char) :=
    (digits? isDigit rest).map fun (ds, after) => (valueOf base ds, after)
  match cs with
  | '0' :: 'x' :: rest => read 16 (fun c => (Text.hexDigit? c).isSome) rest
  | '0' :: 'b' :: rest => read 2 (fun c => c = '0' || c = '1') rest
  | '0' :: 'o' :: rest => read 8 (fun c => '0' ≤ c && c ≤ '7') rest
  | _ => none

/-- The whole part of a decimal number. -/
def whole? (cs : List Char) : Option (List Char × List Char) :=
  match cs with
  | '0' :: rest => some (['0'], rest)
  | _ => digits? Char.isDigit cs

/-- A decimal number: an integer, or a double where there is a fraction
or an exponent. -/
def decimal? (cs : List Char) : Option (Except Flaw Datum × List Char) :=
  let (negative, unsigned) := Decimal.takeSign cs
  (whole? unsigned).map fun (ds, rest) =>
    let (places, rest') := match rest with
      | '.' :: after => (digits? Char.isDigit after).getD ([], rest)
      | _ => ([], rest)
    let exponent : Option (Int × List Char) := match rest' with
      | c :: after =>
        if c = 'e' || c = 'E' then
          let (down, after) := Decimal.takeSign after
          (digits? Char.isDigit after).map fun (es, after) =>
            (if down then -(valueOf 10 es : Int) else valueOf 10 es, after)
        else none
      | [] => none
    let value := valueOf 10 (ds ++ places)
    match exponent with
    | some (e, after) => (.ok (.real (Decimal.nearest negative value (e - places.length))), after)
    | none =>
      if places.isEmpty then
        if Datum.digitLimit < ds.length then (.error (.tooManyDigits ds.length), rest')
        else (.ok (.int (if negative then -(value : Int) else value)), rest')
      else (.ok (.real (Decimal.nearest negative value (-(places.length : Int)))), rest')

/-- A number of exactly two digits within bounds. -/
def two? (lo hi : Nat) (cs : List Char) : Option (Nat × List Char) :=
  match cs with
  | a :: b :: rest =>
    if a.isDigit && b.isDigit then
      let n := valueOf 10 [a, b]
      if lo ≤ n ∧ n ≤ hi then some (n, rest) else none
    else none
  | _ => none

/-- A character in front of something else. -/
def after? (c : Char) (cs : List Char) : Option (List Char) :=
  match cs with
  | d :: rest => if d = c then some rest else none
  | [] => none

/-- A fraction of a second in microseconds; further digits are
dropped. -/
def micros (cs : List Char) : Nat × List Char :=
  match cs with
  | '.' :: rest =>
    let ds := rest.takeWhile Char.isDigit
    if ds.isEmpty then (0, cs)
    else (valueOf 10 ((ds ++ List.replicate 6 '0').take 6), rest.dropWhile Char.isDigit)
  | _ => (0, cs)

/-- A time of day: hour, minute, second and microsecond. -/
def clock? (cs : List Char) : Option ((Nat × Nat × Nat × Nat) × List Char) := do
  let (hour, rest) ← two? 0 23 cs
  let (minute, rest) ← (after? ':' rest).bind (two? 0 59)
  let (second, rest) ← (after? ':' rest).bind (two? 0 59)
  let (micro, rest) := micros rest
  return ((hour, minute, second, micro), rest)

/-- The offset after a time of day, where there is one. -/
def offset (cs : List Char) : Option Int × List Char :=
  let clock (sign : Int) (rest : List Char) : Option Int × List Char :=
    match two? 0 23 rest with
    | some (h, rest) =>
      match (after? ':' rest).bind (two? 0 59) with
      | some (m, rest) => (some (sign * (h * 3600 + m * 60)), rest)
      | none => (none, cs)
    | none => (none, cs)
  match cs with
  | 'Z' :: rest | 'z' :: rest => (some 0, rest)
  | '+' :: rest => clock 1 rest
  | '-' :: rest => clock (-1) rest
  | _ => (none, cs)

/-- A date. -/
def date? (cs : List Char) : Option (Date × List Char) := do
  let year := cs.take 4
  if year.length ≠ 4 ∨ !year.all Char.isDigit then none
  let (month, rest) ← (after? '-' (cs.drop 4)).bind (two? 1 12)
  let (day, rest) ← (after? '-' rest).bind (two? 1 31)
  return (⟨valueOf 10 year, month, day⟩, rest)

/-- A date that the calendar has. -/
def isRealDate (d : Date) : Bool :=
  0 < d.year && Date.ofEpochDays d.epochDays = d

/-- A date, perhaps with a time of day after it. -/
def dateOrMoment? (cs : List Char) : Option (Datum × Date × List Char) :=
  (date? cs).map fun (date, rest) =>
    let timed := match rest with
      | c :: after => if c = 'T' || c = 't' || c = ' ' then clock? after else none
      | [] => none
    match timed with
    | some ((hour, minute, second, micro), rest) =>
      let (offset, rest) := offset rest
      (.moment ⟨date, hour, minute, second, micro, offset.map .ofSeconds⟩, date, rest)
    | none => (.date date, date, rest)

/-- The names of the doubles that are not finite. -/
def specials : List (String × Binary64) :=
  [("inf", .infinity false), ("nan", .nan), ("-inf", .infinity true), ("+inf", .infinity false),
    ("-nan", .nan), ("+nan", .nan)]

/-- A value that is neither a text nor a collection. -/
def scalar (cs : List Char) : Except Flaw (Datum × List Char) :=
  if "true".toList.isPrefixOf cs then .ok (.truth true, cs.drop 4)
  else if "false".toList.isPrefixOf cs then .ok (.truth false, cs.drop 5)
  else
    match dateOrMoment? cs with
    | some (d, date, rest) =>
      if isRealDate date then .ok (d, rest) else flaw "Invalid date or datetime" cs
    | none =>
      match clock? cs with
      | some (_, rest) => .ok (.record "time" [], rest)
      | none =>
        match based? cs with
        | some (n, rest) => .ok (.int n, rest)
        | none =>
          match decimal? cs with
          | some (value, rest) => value.map fun d => (d, rest)
          | none =>
            match specials.find? fun entry => entry.1.toList.isPrefixOf cs with
            | some (name, x) => .ok (.real x, cs.drop name.length)
            | none => flaw "Invalid value" cs

end Toml

end PlotPipe
