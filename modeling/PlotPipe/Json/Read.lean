import PlotPipe.Json.Basic
/-!
# JSON — reading

Reading one JSON value from a text. The grammar is the usual one, and
the names of the doubles that are not finite are allowed as numbers. A
text that breaks the grammar is malformed; nesting beyond a limit and
integers with too many digits are flaws of their own, which are found in
the order of the text.
-/

namespace PlotPipe

namespace Json

/-- What is wrong with a JSON text. -/
inductive Flaw where
  | malformed
  /-- Nesting beyond the limit, by arrays or by objects. -/
  | tooDeep (opener : String)
  | tooManyDigits (count : Nat)
  deriving DecidableEq

/-- A blank of JSON. -/
def isBlank (c : Char) : Bool :=
  c = ' ' || c = '\t' || c = '\n' || c = '\r'

/-- Drop the blanks at the front. -/
def skipBlanks (cs : List Char) : List Char := cs.dropWhile isBlank

/-- The characters of UTF-16 units. A surrogate that belongs to no pair is
no character: texts do not tell it from others of its kind, and have the
replacement character for all of them. -/
def ofUnits : List Nat → List Char
  | [] => []
  | [n] => [Char.ofNat (if 0xD800 ≤ n ∧ n < 0xE000 then 0xFFFD else n)]
  | hi :: lo :: rest =>
    if 0xD800 ≤ hi ∧ hi < 0xDC00 ∧ 0xDC00 ≤ lo ∧ lo < 0xE000 then
      Char.ofNat (0x10000 + (hi - 0xD800) * 0x400 + (lo - 0xDC00)) :: ofUnits rest
    else Char.ofNat (if 0xD800 ≤ hi ∧ hi < 0xE000 then 0xFFFD else hi) :: ofUnits (lo :: rest)

/-- The value of four hexadecimal digits. -/
def unit? (a b c d : Char) : Option Nat :=
  match Text.hexDigit? a, Text.hexDigit? b, Text.hexDigit? c, Text.hexDigit? d with
  | some a, some b, some c, some d => some (((a * 16 + b) * 16 + c) * 16 + d)
  | _, _, _, _ => none

/-- The character that a short escape stands for. -/
def shortEscape? (c : Char) : Option Nat :=
  if c = '"' ∨ c = '\\' ∨ c = '/' then some c.toNat
  else if c = 'b' then some 8
  else if c = 'f' then some 12
  else if c = 'n' then some 10
  else if c = 'r' then some 13
  else if c = 't' then some 9
  else none

/-- The units of a text up to its closing quotation mark, and what
follows it. -/
def units? : List Char → Option (List Nat × List Char)
  | [] => none
  | '"' :: rest => some ([], rest)
  | '\\' :: 'u' :: a :: b :: c :: d :: rest =>
    match unit? a b c d with
    | some n => (units? rest).map fun (ns, after) => (n :: ns, after)
    | none => none
  | '\\' :: c :: rest =>
    match shortEscape? c with
    | some n => (units? rest).map fun (ns, after) => (n :: ns, after)
    | none => none
  | ['\\'] => none
  | c :: rest =>
    if c.toNat < 0x20 then none
    else (units? rest).map fun (ns, after) => (c.toNat :: ns, after)

/-- A text, after its opening quotation mark. -/
def text? (cs : List Char) : Option (String × List Char) :=
  (units? cs).map fun (ns, after) => (String.ofList (ofUnits ns), after)

/-- The digits of a whole number: a zero by itself, or digits that start
with another one. -/
def whole? (cs : List Char) : Option (Nat × Nat × List Char) :=
  match cs with
  | '0' :: rest => some (0, 1, rest)
  | c :: _ => if c.isDigit then some (Decimal.takeDigits cs 0 0) else none
  | [] => none

/-- A point with digits after it, where there is one: the digits read on
from `value`, their count, and the rest. -/
def places (value : Nat) (cs : List Char) : Nat × Nat × List Char :=
  match cs with
  | '.' :: rest =>
    match Decimal.takeDigits rest value 0 with
    | (_, 0, _) => (value, 0, cs)
    | found => found
  | _ => (value, 0, cs)

/-- An exponent, where there is one. -/
def exponent? (cs : List Char) : Option (Int × List Char) :=
  match cs with
  | [] => none
  | c :: rest =>
    if c = 'e' ∨ c = 'E' then
      let (negative, rest) := Decimal.takeSign rest
      match Decimal.takeDigits rest 0 0 with
      | (_, 0, _) => none
      | (value, _, rest) => some (if negative then -(value : Int) else value, rest)
    else none

/-- The number after a sign. -/
def number (negative : Bool) (cs : List Char) : Except Flaw (Json × List Char) :=
  match whole? cs with
  | none => .error .malformed
  | some (value, count, rest) =>
    let (digits, decimals, rest) := places value rest
    match exponent? rest with
    | some (e, rest) => .ok (.real (Decimal.nearest negative digits (e - decimals)), rest)
    | none =>
      if 0 < decimals then .ok (.real (Decimal.nearest negative digits (-(decimals : Int))), rest)
      else if Datum.digitLimit < count then .error (.tooManyDigits count)
      else .ok (.int (if negative then -(value : Int) else value), rest)

/-- Values that are written as words. -/
def words : List (String × Json) :=
  [("null", null), ("true", truth true), ("false", truth false), ("NaN", real .nan),
    ("Infinity", real (.infinity false)), ("-Infinity", real (.infinity true))]

/-- A value that is a word or a number. -/
def scalar (cs : List Char) : Except Flaw (Json × List Char) :=
  match words.find? fun word => word.1.toList.isPrefixOf cs with
  | some (word, j) => .ok (j, cs.drop word.length)
  | none =>
    match cs with
    | '-' :: rest => number true rest
    | _ => number false cs

mutual

/-- A value at the front of a text. `depth` is the number of levels that
may still be opened; every step takes one unit of fuel. -/
def value : Nat → Nat → List Char → Except Flaw (Json × List Char)
  | 0, _, _ => .error .malformed
  | fuel + 1, depth, cs =>
    match cs with
    | '"' :: rest =>
      match text? rest with
      | some (s, rest) => .ok (.text s, rest)
      | none => .error .malformed
    | '[' :: rest =>
      if depth = 0 then .error (.tooDeep "array")
      else
        match skipBlanks rest with
        | ']' :: rest => .ok (.list [], rest)
        | rest => (items fuel (depth - 1) rest).map fun (xs, rest) => (.list xs, rest)
    | '\x7b' :: rest =>
      if depth = 0 then .error (.tooDeep "object")
      else
        match skipBlanks rest with
        | '\x7d' :: rest => .ok (.object [], rest)
        | rest =>
          (members fuel (depth - 1) rest).map fun (xs, rest) => (.object (lastWins xs), rest)
    | _ => scalar cs

/-- The items of an array up to its closing bracket. -/
def items : Nat → Nat → List Char → Except Flaw (List Json × List Char)
  | 0, _, _ => .error .malformed
  | fuel + 1, depth, cs =>
    match value fuel depth cs with
    | .error flaw => .error flaw
    | .ok (j, rest) =>
      match skipBlanks rest with
      | ']' :: rest => .ok ([j], rest)
      | ',' :: rest =>
        (items fuel depth (skipBlanks rest)).map fun (js, rest) => (j :: js, rest)
      | _ => .error .malformed

/-- The entries of an object up to its closing brace. -/
def members : Nat → Nat → List Char → Except Flaw (List (String × Json) × List Char)
  | 0, _, _ => .error .malformed
  | fuel + 1, depth, cs =>
    match cs with
    | '"' :: rest =>
      match text? rest with
      | none => .error .malformed
      | some (key, rest) =>
        match skipBlanks rest with
        | ':' :: rest =>
          match value fuel depth (skipBlanks rest) with
          | .error flaw => .error flaw
          | .ok (j, rest) =>
            match skipBlanks rest with
            | '\x7d' :: rest => .ok ([(key, j)], rest)
            | ',' :: rest =>
              (members fuel depth (skipBlanks rest)).map fun (js, rest) => ((key, j) :: js, rest)
            | _ => .error .malformed
        | _ => .error .malformed
    | _ => .error .malformed

end

/-- A text that is one value, with blanks around it, and opens at most so
many levels. -/
def readWithin (levels : Nat) (s : String) : Except Flaw Json :=
  let cs := skipBlanks s.toList
  match value (2 * cs.length + 2) levels cs with
  | .error flaw => .error flaw
  | .ok (j, rest) => if (skipBlanks rest).isEmpty then .ok j else .error .malformed

/-- A text that is one value, with blanks around it, however deep it is
nested: no text opens more levels than it has characters. -/
def read (s : String) : Except Flaw Json := readWithin s.length s

end Json

end PlotPipe
