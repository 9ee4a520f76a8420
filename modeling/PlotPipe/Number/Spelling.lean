import PlotPipe.Number.Shortest
/-!
# Numbers — decimal spelling

The text of a number: its shortest decimal, written positionally while
the exponent `e` of the leading digit has `-4 ≤ e < 16`, always with a
digit after the point, and with an exponent of at least two digits
otherwise. What is not finite is spelled by name, and the name depends
on the reader.
-/

namespace PlotPipe

/-- The names of the numbers that are not finite. -/
structure Spelling where
  nan : String
  infinity : String

namespace Spelling

/-- Messages and configuration write the names in lower case. -/
def plain : Spelling := ⟨"nan", "inf"⟩

/-- Scripts write the names with capitals. -/
def script : Spelling := ⟨"NaN", "Inf"⟩

/-- The journal writes the names in full. -/
def journal : Spelling := ⟨"NaN", "Infinity"⟩

end Spelling

/-- Decimal digits of a natural number. -/
def decimalDigits (n : Nat) : List Char := Nat.toDigits 10 n

/-- A natural number in decimal digits, with zeros in front up to a
width. -/
def paddedDigits (width n : Nat) : List Char :=
  List.replicate (width - (decimalDigits n).length) '0' ++ decimalDigits n

/-- Drop the zeros at the end of a list of digits. -/
def dropTrailingZeros (ds : List Char) : List Char :=
  (ds.reverse.dropWhile (· == '0')).reverse

/-- Digits with the exponent of the leading one, in positional form. -/
def positional (ds : List Char) (e : Int) : List Char :=
  if e < 0 then '0' :: '.' :: (List.replicate (-e - 1).toNat '0' ++ ds)
  else
    let n := e.toNat + 1
    let after := ds.drop n
    ds.take n ++ List.replicate (n - ds.length) '0'
      ++ '.' :: (if after.isEmpty then ['0'] else after)

/-- Digits with the exponent of the leading one, in exponential form. -/
def exponential (ds : List Char) (e : Int) : List Char :=
  let mantissa :=
    match ds with
    | [] => ['0']
    | [d] => [d]
    | d :: rest => d :: '.' :: rest
  mantissa ++ 'e' :: (if e < 0 then '-' else '+') :: paddedDigits 2 e.natAbs

/-- The text of a positive decimal. -/
def Scaled.text (d : Scaled) : List Char :=
  let all := decimalDigits d.digits
  let e := d.exponent + (all.length : Int) - 1
  let ds := dropTrailingZeros all
  if -4 ≤ e ∧ e < 16 then positional ds e else exponential ds e

/-- The text of a finite magnitude. -/
def Magnitude.text (m : Magnitude) : List Char :=
  if m.rank = 0 then ['0', '.', '0'] else m.shortest.text

/-- The text of a number. -/
def Binary64.text (names : Spelling) : Binary64 → String
  | nan => names.nan
  | signed negative m =>
    (if negative then "-" else "") ++ (if m.isFinite then String.ofList m.text else names.infinity)

end PlotPipe
