/-!
# Numbers — rounding to a binary format

A binary floating-point format lists its non-negative numbers in
increasing order: zero, the subnormal numbers, then one row of
`2 ^ (precision - 1)` numbers for each exponent. This file identifies a
non-negative number of the format with its place in that list, its
*rank*, and rounds any quotient of naturals to the nearest rank, a tie
going to the even one. Ranks do not stop at the largest finite number:
the rank after it stands for infinity, so that overflow is a comparison
of ranks.
-/

namespace PlotPipe

/-- A binary floating-point format: the bits of a significand, the
exponent of its last bit in the smallest numbers, and the rank at which
its numbers end. -/
structure BinaryFormat where
  precision : Nat
  minExponent : Int
  infinityRank : Nat

namespace BinaryFormat

/-- Double precision. -/
def binary64 : BinaryFormat := ⟨53, -1074, 2047 * Nat.pow 2 52⟩

/-- Single precision. -/
def binary32 : BinaryFormat := ⟨24, -149, 255 * Nat.pow 2 23⟩

/-- Half precision. -/
def binary16 : BinaryFormat := ⟨11, -24, 31 * Nat.pow 2 10⟩

/-- The length of one row of the list of numbers. -/
def row (f : BinaryFormat) : Nat := Nat.pow 2 (f.precision - 1)

/-- The significand of the number at a rank. -/
def significand (f : BinaryFormat) (rank : Nat) : Nat :=
  if rank < f.row then rank else f.row + rank % f.row

/-- The exponent of the last bit of the number at a rank, so that the
number is `significand * 2 ^ exponent`. -/
def exponent (f : BinaryFormat) (rank : Nat) : Int :=
  if rank < f.row then f.minExponent else f.minExponent + (rank / f.row - 1 : Nat)

/-- The quotient `num / den` in units of `2 ^ exponent`, as a numerator
and a denominator. -/
def scale (num den : Nat) (exponent : Int) : Nat × Nat :=
  if 0 ≤ exponent then (num, den * Nat.pow 2 exponent.toNat)
  else (num * Nat.pow 2 (-exponent).toNat, den)

/-- The nearest natural to `num / den`, a tie going to the even one. -/
def roundHalfEven (num den : Nat) : Nat :=
  let q := num / den
  let r := num % den
  if den < 2 * r ∨ (2 * r = den ∧ q % 2 = 1) then q + 1 else q

/-- The exponent of the last bit that a number near `num / den` has: the
quotient has `precision` bits before that bit's place, or one more. -/
def lastBit (f : BinaryFormat) (num den : Nat) : Int :=
  let guess := max ((num.log2 : Int) - den.log2 - f.precision) f.minExponent
  let s := scale num den guess
  if s.1 / s.2 < Nat.pow 2 f.precision then guess else guess + 1

/-- The rank nearest to `num / den`, a tie going to the even one. -/
def nearestRank (f : BinaryFormat) (num den : Nat) : Nat :=
  if num = 0 then 0
  else
    let e := f.lastBit num den
    let s := scale num den e
    (e - f.minExponent).toNat * f.row + roundHalfEven s.1 s.2

/-- The number at a rank as a quotient of naturals. -/
def quotient (f : BinaryFormat) (rank : Nat) : Nat × Nat :=
  let e := f.exponent rank
  if 0 ≤ e then (f.significand rank * Nat.pow 2 e.toNat, 1)
  else (f.significand rank, Nat.pow 2 (-e).toNat)

end BinaryFormat

end PlotPipe
