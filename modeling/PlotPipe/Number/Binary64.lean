import PlotPipe.Number.Binary
/-!
# Numbers — double precision

The numbers that data rows are made of: double precision with signed
zeros, two infinities and one not-a-number. A number is a sign and a
rank; the order of two numbers is the order of their signed ranks.
Conversions into the type round once, to the nearest number.
-/

namespace PlotPipe

/-- A magnitude of double precision, infinity included, by its rank. -/
structure Magnitude where
  rank : Nat
  rank_le : rank ≤ BinaryFormat.binary64.infinityRank
  deriving DecidableEq

/-- A number of double precision. -/
inductive Binary64 where
  | nan
  | signed (negative : Bool) (magnitude : Magnitude)
  deriving DecidableEq

namespace Magnitude

/-- The magnitude zero. -/
def zero : Magnitude := ⟨0, by decide⟩

/-- The magnitude infinity. -/
def infinity : Magnitude := ⟨BinaryFormat.binary64.infinityRank, Nat.le_refl _⟩

/-- The magnitude of a rank; ranks past the end are infinity. -/
def ofRank (rank : Nat) : Magnitude :=
  ⟨min rank BinaryFormat.binary64.infinityRank, Nat.min_le_right _ _⟩

/-- The magnitude nearest to `num / den`. -/
def nearest (num den : Nat) : Magnitude :=
  ofRank (BinaryFormat.binary64.nearestRank num den)

/-- A magnitude below infinity. -/
def isFinite (m : Magnitude) : Bool :=
  m.rank < BinaryFormat.binary64.infinityRank

/-- A finite magnitude as a quotient of naturals. -/
def quotient (m : Magnitude) : Nat × Nat :=
  BinaryFormat.binary64.quotient m.rank

end Magnitude

namespace Binary64

/-- Positive zero. -/
def zero : Binary64 := .signed false .zero

/-- One of the infinities. -/
def infinity (negative : Bool) : Binary64 := .signed negative .infinity

/-- The number nearest to `num / den`, with a sign. -/
def ofQuotient (negative : Bool) (num den : Nat) : Binary64 :=
  .signed negative (.nearest num den)

/-- Neither infinite nor not-a-number. -/
def isFinite : Binary64 → Bool
  | nan => false
  | signed _ m => m.isFinite

/-- The number nearest to an integer, or `none` when it would be
infinite. -/
def ofInt? (i : Int) : Option Binary64 :=
  let x := ofQuotient (i < 0) i.natAbs 1
  if x.isFinite then some x else none

/-- The signed rank, which orders the numbers; the zeros share one. -/
def key? : Binary64 → Option Int
  | nan => none
  | signed negative m => some (if negative then -(m.rank : Int) else m.rank)

/-- The nearest number to a quotient of integers. -/
def ofIntQuotient (num : Int) (den : Nat) : Binary64 :=
  ofQuotient (num < 0) num.natAbs den

/-- The correctly rounded quotient of a number by a positive natural. -/
def divNat : Binary64 → Nat → Binary64
  | nan, _ => nan
  | signed negative m, n =>
    if m.isFinite then ofQuotient negative m.quotient.1 (m.quotient.2 * n)
    else signed negative m

/-- The integer part of a finite number, toward zero. -/
def truncate? : Binary64 → Option Int
  | nan => none
  | signed negative m =>
    if m.isFinite then
      let q := m.quotient.1 / m.quotient.2
      some (if negative then -(q : Int) else q)
    else none

/-- The number rounded to a narrower format and read back. -/
def narrow (f : BinaryFormat) : Binary64 → Binary64
  | nan => nan
  | signed negative m =>
    if m.isFinite then
      let rank := f.nearestRank m.quotient.1 m.quotient.2
      if rank < f.infinityRank then
        ofQuotient negative (f.quotient rank).1 (f.quotient rank).2
      else infinity negative
    else signed negative m

end Binary64

end PlotPipe
