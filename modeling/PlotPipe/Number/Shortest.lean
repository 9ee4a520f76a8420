import PlotPipe.Number.Binary64
/-!
# Numbers — the shortest decimal that reads back

The decimal text of a number holds as few digits as let it be read
back: for one digit, two digits and so on, the two neighbours of the
number on the decimal grid with that many digits are tried, and the
first grid with a neighbour that rounds to the number wins; of two such
neighbours the nearer one is taken, and the even one at a tie. Should no
grid up to seventeen digits have one, the exact decimal expansion is
used, which always reads back.
-/

namespace PlotPipe

/-- Decimal digits with an exponent: `digits * 10 ^ exponent`. -/
structure Scaled where
  digits : Nat
  exponent : Int

/-- The quotient `num / den` divided by `10 ^ exponent`, as a numerator
and a denominator. -/
def scaleTen (num den : Nat) (exponent : Int) : Nat × Nat :=
  if 0 ≤ exponent then (num, den * Nat.pow 10 exponent.toNat)
  else (num * Nat.pow 10 (-exponent).toNat, den)

/-- The first power of ten above `num / den`, sought upward from `start`
in at most `fuel` steps. -/
def decadeFrom (num den : Nat) : Nat → Int → Int
  | 0, start => start
  | fuel + 1, start =>
    let s := scaleTen num den start
    if s.1 < s.2 then start else decadeFrom num den fuel (start + 1)

/-- The exponent of the first power of ten above a positive quotient.
The search starts from the logarithm of a power of two below the
quotient, so few steps are needed. -/
def decade (num den : Nat) : Int :=
  decadeFrom num den 8 ((((num.log2 : Int) - den.log2 - 1) * 30103) / 100000 - 1)

namespace BinaryFormat

/-- The rank that decimal digits read back as. -/
def rankOf (f : BinaryFormat) (d : Scaled) : Nat :=
  if 0 ≤ d.exponent then f.nearestRank (d.digits * Nat.pow 10 d.exponent.toNat) 1
  else f.nearestRank d.digits (Nat.pow 10 (-d.exponent).toNat)

/-- The neighbour of a number on the grid of `count` digits that reads
back as the number, if there is one. -/
def onGrid? (f : BinaryFormat) (rank : Nat) (decade : Int) (count : Nat) : Option Scaled :=
  let e := decade - count
  let q := f.quotient rank
  let s := scaleTen q.1 q.2 e
  let below : Scaled := ⟨s.1 / s.2, e⟩
  let above : Scaled := ⟨s.1 / s.2 + 1, e⟩
  let r := s.1 % s.2
  let preferBelow := 2 * r < s.2 ∨ (2 * r = s.2 ∧ below.digits % 2 = 0)
  if preferBelow then
    if f.rankOf below = rank then some below
    else if f.rankOf above = rank then some above
    else none
  else
    if f.rankOf above = rank then some above
    else if f.rankOf below = rank then some below
    else none

/-- The exact decimal expansion of a number. -/
def expansion (f : BinaryFormat) (rank : Nat) : Scaled :=
  let e := f.exponent rank
  let s := f.significand rank
  if 0 ≤ e then ⟨s * Nat.pow 2 e.toNat, 0⟩ else ⟨s * Nat.pow 5 (-e).toNat, e⟩

/-- Try `count`, `count + 1`, … digits, `fuel` grids in all. -/
def shortestFrom (f : BinaryFormat) (rank : Nat) (decade : Int) : Nat → Nat → Scaled
  | 0, _ => f.expansion rank
  | fuel + 1, count =>
    match f.onGrid? rank decade count with
    | some d => d
    | none => f.shortestFrom rank decade fuel (count + 1)

/-- The shortest decimal that reads back as the number at a rank. -/
def shortest (f : BinaryFormat) (rank : Nat) : Scaled :=
  if rank = 0 then ⟨0, 0⟩
  else
    let q := f.quotient rank
    f.shortestFrom rank (decade q.1 q.2) 17 1

end BinaryFormat

/-- The shortest decimal that reads back as a finite magnitude. -/
def Magnitude.shortest (m : Magnitude) : Scaled :=
  BinaryFormat.binary64.shortest m.rank

end PlotPipe
