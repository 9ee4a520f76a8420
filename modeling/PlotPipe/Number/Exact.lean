import PlotPipe.Number.Reading
import PlotPipe.Number.Spelling
/-!
# Numbers — exact decimals

Decimal numbers that keep their digits and their exponent, so that
`1.50` and `1.5` are two of them. The text of one is positional as long
as the exponent is not positive and the leading digit stands at most six
places after the point, and in scientific form otherwise. What has no
value is either quiet or signalling; a signalling one cannot be turned
into a double.
-/

namespace PlotPipe

/-- A decimal number with its own precision. -/
inductive Exact where
  | finite (negative : Bool) (digits : Nat) (exponent : Int)
  | infinite (negative : Bool)
  | undefined (negative signalling : Bool) (payload : Nat)

namespace Exact

/-- The digits of a finite decimal around the point, which stands after
`point` of them. -/
def pointed (digits : List Char) (point : Int) : List Char :=
  if point ≤ 0 then '0' :: '.' :: (List.replicate (-point).toNat '0' ++ digits)
  else if (digits.length : Int) ≤ point then
    digits ++ List.replicate (point - digits.length).toNat '0'
  else digits.take point.toNat ++ '.' :: digits.drop point.toNat

/-- A number with its sign, also when it is positive. -/
def signedDigits (i : Int) : List Char :=
  (if i < 0 then '-' else '+') :: decimalDigits i.natAbs

/-- The text of digits with an exponent. -/
def finiteText (digits : Nat) (exponent : Int) : List Char :=
  let ds := decimalDigits digits
  let leading := exponent + ds.length
  if exponent ≤ 0 ∧ -6 < leading then pointed ds leading
  else
    pointed ds 1 ++ (if leading = 1 then [] else 'E' :: signedDigits (leading - 1))

/-- The text of a decimal. -/
def text : Exact → String
  | finite negative digits exponent =>
    (if negative then "-" else "") ++ String.ofList (finiteText digits exponent)
  | infinite negative => (if negative then "-" else "") ++ "Infinity"
  | undefined negative signalling payload =>
    (if negative then "-" else "") ++ (if signalling then "sNaN" else "NaN")
      ++ (if payload = 0 then "" else toString payload)

/-- The name of an infinite or undefined decimal, in lower case: a
payload of digits may follow the latter. -/
def named? (negative : Bool) (lower : List Char) : Option Exact :=
  let undefined? (signalling : Bool) (payload : List Char) : Option Exact :=
    match Decimal.takeDigits payload 0 0 with
    | (value, _, []) => some (.undefined negative signalling value)
    | _ => none
  match lower with
  | 'i' :: 'n' :: 'f' :: rest =>
    if rest.isEmpty ∨ rest = "inity".toList then some (.infinite negative) else none
  | 'n' :: 'a' :: 'n' :: payload => undefined? false payload
  | 's' :: 'n' :: 'a' :: 'n' :: payload => undefined? true payload
  | _ => none

/-- Read a decimal: blanks around it and underscores anywhere do not
count. -/
def ofText? (s : String) : Option Exact :=
  let cs := (Decimal.foldDigits (Text.trimBy Text.isBlank s.toList)).filter (· ≠ '_')
  let (negative, cs) := Decimal.takeSign cs
  match named? negative (cs.map Char.toLower) with
  | some x => some x
  | none => (Decimal.unsigned? cs).map fun (digits, exponent) => .finite negative digits exponent

/-- The nearest double; a signalling decimal has none. -/
def toBinary64? : Exact → Option Binary64
  | finite negative digits exponent => some (Decimal.nearest negative digits exponent)
  | infinite negative => some (.infinity negative)
  | undefined _ signalling _ => if signalling then none else some .nan

/-- The integer part of a finite decimal, toward zero. -/
def truncate (negative : Bool) (digits : Nat) (exponent : Int) : Int :=
  let size := if 0 ≤ exponent then digits * Nat.pow 10 exponent.toNat
    else digits / Nat.pow 10 (min (-exponent).toNat (digits.log2 + 1))
  if negative then -(size : Int) else size

/-- An integer as a decimal. -/
def ofInt (i : Int) : Exact := finite (i < 0) i.natAbs 0

/-- A double as a decimal. Its denominator is a power of two, so that it
has as many places as that power has factors. -/
def ofBinary64 : Binary64 → Exact
  | .nan => undefined false false 0
  | .signed negative m =>
    if m.isFinite then
      let places := m.quotient.2.log2
      finite negative (m.quotient.1 * Nat.pow 5 places) (-(places : Int))
    else infinite negative

/-- The order of two sizes, each of digits with an exponent. Digits are
only lined up where the leading ones have the same place. -/
def orderSizes (a : Nat) (e : Int) (b : Nat) (f : Int) : Ordering :=
  let top := e + (decimalDigits a).length
  let other := f + (decimalDigits b).length
  if a = 0 || b = 0 then compare a b
  else if top ≠ other then compare top other
  else
    let last := min e f
    compare (a * Nat.pow 10 (e - last).toNat) (b * Nat.pow 10 (f - last).toNat)

/-- The order of two decimals; undefined ones stand in none. -/
def order? : Exact → Exact → Option Ordering
  | undefined _ _ _, _ | _, undefined _ _ _ => none
  | infinite m, infinite n => some (compare n.toNat m.toNat)
  | infinite negative, _ => some (if negative then .lt else .gt)
  | _, infinite negative => some (if negative then .gt else .lt)
  | finite m a e, finite n b f =>
    some (match m && a ≠ 0, n && b ≠ 0 with
      | false, false => orderSizes a e b f
      | true, true => orderSizes b f a e
      | true, false => .lt
      | false, true => .gt)

/-- Neither zero nor undefined in a way that stops the question: every
decimal but a finite zero counts as set. -/
def isZero : Exact → Bool
  | finite _ digits _ => digits == 0
  | _ => false

end Exact

end PlotPipe
