import PlotPipe.Number.Binary64
import PlotPipe.Text.Blank
import PlotPipe.Text.Digit
/-!
# Numbers — reading decimal text

The decimal numbers that configuration, arguments and data files hold:
an optional sign, digits with an optional point, an optional exponent,
or the names of infinity and not-a-number in any case. The value is the
double nearest to the decimal. Free text may also have blanks around
the number, single underscores between digits and digits of any script;
cells of a data file may not.
-/

namespace PlotPipe

namespace Decimal

/-- The digits at the front of a text, with their value and count, and
the rest of the text. -/
def takeDigits : List Char → Nat → Nat → Nat × Nat × List Char
  | [], value, count => (value, count, [])
  | c :: rest, value, count =>
    match Text.asciiDigit? c with
    | some d => takeDigits rest (10 * value + d) (count + 1)
    | none => (value, count, c :: rest)

/-- The sign at the front of a text: whether it is a minus, and the rest
of the text. -/
def takeSign : List Char → Bool × List Char
  | '-' :: rest => (true, rest)
  | '+' :: rest => (false, rest)
  | cs => (false, cs)

/-- An exponent that fills the whole text, or no exponent at all. -/
def exponent? : List Char → Option Int
  | [] => some 0
  | c :: rest =>
    if c = 'e' ∨ c = 'E' then
      let (negative, rest) := takeSign rest
      match takeDigits rest 0 0 with
      | (value, count, []) =>
        if count = 0 then none else some (if negative then -(value : Int) else value)
      | _ => none
    else none

/-- Digits, an optional point with more digits, and an optional exponent,
as the digits read as one number and the exponent of the last one. At
least one digit stands before the exponent. -/
def unsigned? (cs : List Char) : Option (Nat × Int) :=
  let (whole, wholeCount, rest) := takeDigits cs 0 0
  let (value, places, rest) :=
    match rest with
    | '.' :: after => takeDigits after whole 0
    | _ => (whole, 0, rest)
  if wholeCount + places = 0 then none
  else (exponent? rest).map fun e => (value, e - places)

/-- The double nearest to `digits * 10 ^ exponent`. Exponents far beyond
the range of doubles are settled by the number of digits alone. -/
def nearest (negative : Bool) (digits : Nat) (exponent : Int) : Binary64 :=
  if digits = 0 then .signed negative .zero
  else
    let top := (digits.log2 : Int) * 30103 / 100000 + exponent
    if 320 < top then .infinity negative
    else if top < -340 then .signed negative .zero
    else if 0 ≤ exponent then .ofQuotient negative (digits * Nat.pow 10 exponent.toNat) 1
    else .ofQuotient negative digits (Nat.pow 10 (-exponent).toNat)

/-- A decimal number that fills the whole text, without blanks. -/
def plain? (cs : List Char) : Option Binary64 :=
  let (negative, cs) := takeSign cs
  let lower := cs.map Char.toLower
  if lower = "inf".toList ∨ lower = "infinity".toList then some (.infinity negative)
  else if lower = "nan".toList then some .nan
  else (unsigned? cs).map fun (digits, exponent) => nearest negative digits exponent

/-- A blank that numbers may have around them: the information
separators do not count. -/
def isMargin (c : Char) : Bool :=
  Text.isBlank c && !(28 ≤ c.toNat && c.toNat ≤ 31)

/-- Write the digits of every script as ASCII digits. -/
def foldDigits (cs : List Char) : List Char :=
  cs.map fun c =>
    if c.toNat < 0x80 then c
    else match Text.digitValue? c with
      | some d => Char.ofNat (48 + d)
      | none => c

/-- Remove underscores, each of which has a digit on both sides. The
argument `afterDigit` says whether a digit has just been passed. -/
def dropUnderscores? (afterDigit : Bool) : List Char → Option (List Char)
  | [] => some []
  | '_' :: d :: rest =>
    if afterDigit && d.isDigit then (dropUnderscores? true rest).map (d :: ·) else none
  | ['_'] => none
  | c :: rest => (dropUnderscores? c.isDigit rest).map (c :: ·)

/-- The characters of a number in free text: margins dropped, digits
folded, underscores removed. -/
def normalize? (s : String) : Option (List Char) :=
  dropUnderscores? false (foldDigits (Text.trimBy isMargin s.toList))

/-- A decimal number in free text. -/
def free? (s : String) : Option Binary64 :=
  (normalize? s).bind plain?

/-- The digits at the front of a text, between which single underscores
may stand, with their value and count, and the rest of the text. An
underscore in another place spoils the text. -/
def scanDigits? : List Char → Nat → Nat → Option (Nat × Nat × List Char)
  | [], value, count => some (value, count, [])
  | '_' :: c :: rest, value, count =>
    match Text.asciiDigit? c with
    | some d => if count = 0 then none else scanDigits? rest (10 * value + d) (count + 1)
    | none => none
  | ['_'], _, _ => none
  | c :: rest, value, count =>
    match Text.asciiDigit? c with
    | some d => scanDigits? rest (10 * value + d) (count + 1)
    | none => some (value, count, c :: rest)

/-- What a text is as an integer. -/
inductive IntReading where
  | value (i : Int)
  | tooManyDigits (count : Nat)
  | none

/-- An integer in free text: an optional sign and digits, of which there
are at most `limit`. The digits are counted before what follows them is
looked at. -/
def freeInt (limit : Nat) (s : String) : IntReading :=
  let (negative, cs) := takeSign (foldDigits (s.toList.dropWhile isMargin))
  match scanDigits? cs 0 0 with
  | none => .none
  | some (value, count, rest) =>
    if limit < count then .tooManyDigits count
    else if count = 0 || !rest.all isMargin then .none
    else .value (if negative then -(value : Int) else value)

end Decimal

end PlotPipe
