import PlotPipe.Time.Moment
/-!
# Time — ticks

A tick is a whole number of one unit, counted from the start of 1970,
or no time at all. The count is a signed word of 64 bits: an instant
beyond its range wraps round. Ticks are written as dates in standard
form, cut off at the unit.
-/

namespace PlotPipe

/-- The nanoseconds of a second. -/
def nanosPerSecond : Nat := 1000000000

/-- The nanoseconds of a day. -/
def nanosPerDay : Nat := 86400 * nanosPerSecond

/-- The attoseconds of a nanosecond. -/
def attosPerNano : Nat := 1000000000

/-- The attoseconds of a second. -/
def attosPerSecond : Nat := nanosPerSecond * attosPerNano

/-- The units that ticks are counted in. -/
inductive TickUnit where
  | year | month | week | day | hour | minute | second | milli | micro | nano | pico | femto | atto
  deriving DecidableEq

namespace TickUnit

/-- The units by their short names, from the coarsest to the finest. -/
def byName : List (String × TickUnit) :=
  [("Y", year), ("M", month), ("W", week), ("D", day), ("h", hour), ("m", minute), ("s", second),
    ("ms", milli), ("us", micro), ("ns", nano), ("ps", pico), ("fs", femto), ("as", atto)]

/-- The unit with a short name. -/
def ofName? (name : String) : Option TickUnit :=
  byName.lookup name

/-- The short name of a unit. -/
def name (u : TickUnit) : String :=
  ((byName.find? fun entry => entry.2 = u).map Prod.fst).getD ""

/-- The place of a unit among all units, the finer the later. -/
def fineness (u : TickUnit) : Nat :=
  byName.findIdx fun entry => entry.2 = u

/-- The length of a unit in attoseconds; years and months have no fixed
length. -/
def attos? : TickUnit → Option Nat
  | year | month => none
  | week => some (7 * 86400 * attosPerSecond)
  | day => some (86400 * attosPerSecond)
  | hour => some (3600 * attosPerSecond)
  | minute => some (60 * attosPerSecond)
  | second => some attosPerSecond
  | milli => some 1000000000000000
  | micro => some 1000000000000
  | nano => some attosPerNano
  | pico => some 1000000
  | femto => some 1000
  | atto => some 1

end TickUnit

/-- A count of units from the start of 1970; without a count, no time
at all. -/
structure Tick where
  unit : TickUnit
  count : Option Int
  deriving DecidableEq

namespace Tick

/-- The least word of 64 bits, which stands for no time. -/
def noTimeCount : Int := -9223372036854775808

/-- A count wrapped round into a word of 64 bits. -/
def wrap (count : Int) : Int := count.bmod 18446744073709551616

/-- The tick of a count, wrapped round. -/
def ofCount (unit : TickUnit) (count : Int) : Tick :=
  let count := wrap count
  ⟨unit, if count = noTimeCount then none else some count⟩

/-- The attoseconds from the start of 1970 of a count of units. -/
def countAttos (unit : TickUnit) (count : Int) : Int :=
  match unit.attos? with
  | some n => count * n
  | none =>
    let date : Date :=
      match unit with
      | .month => ⟨1970 + count / 12, (count % 12).toNat + 1, 1⟩
      | _ => ⟨1970 + count, 1, 1⟩
    date.epochDays * (86400 * attosPerSecond : Nat)

/-- The nanoseconds of a tick, wrapped round. -/
def nanos (t : Tick) : Int :=
  match t.count with
  | none => noTimeCount
  | some count => wrap (countAttos t.unit count / attosPerNano)

/-- The instant in seconds: the count of nanoseconds as a double,
divided by the nanoseconds of a second. -/
def epochSeconds (t : Tick) : Binary64 :=
  (Binary64.ofIntQuotient t.nanos 1).divNat nanosPerSecond

/-- The tick of a unit at an instant in attoseconds. -/
def ofAttos (unit : TickUnit) (attos : Int) : Tick :=
  match unit.attos? with
  | some n => ofCount unit (attos / n)
  | none =>
    let date := Date.ofEpochDays (attos / (86400 * attosPerSecond : Nat))
    match unit with
    | .month => ofCount unit ((date.year - 1970) * 12 + date.month - 1)
    | _ => ofCount unit (date.year - 1970)

/-- The tick of another unit that holds the start of a tick. -/
def toUnit (unit : TickUnit) (t : Tick) : Tick :=
  match t.count with
  | none => ⟨unit, none⟩
  | some count => ofAttos unit (countAttos t.unit count)

/-- The moment at which a tick starts, to the microsecond. -/
def moment (unit : TickUnit) (count : Int) : Moment :=
  .ofEpochMicros (countAttos unit count / 1000000000000)

/-- The part of a second that a tick has, to a number of places. -/
def places (unit : TickUnit) (count : Int) (n : Nat) : String :=
  let attos := (countAttos unit count % attosPerSecond).toNat
  "." ++ String.ofList (paddedDigits n (attos / Nat.pow 10 (18 - n)))

/-- The text of a tick, cut off at its unit. -/
def text (t : Tick) : String :=
  match t.count with
  | none => "NaT"
  | some count =>
    let m := moment t.unit count
    let two (n : Nat) := String.ofList (paddedDigits 2 n)
    match t.unit with
    | .year => Date.yearText m.date.year
    | .month => Date.yearText m.date.year ++ "-" ++ two m.date.month
    | .week | .day => m.date.text
    | .hour => m.date.text ++ "T" ++ two m.hour
    | .minute => m.date.text ++ "T" ++ two m.hour ++ ":" ++ two m.minute
    | .second => m.date.text ++ "T" ++ m.clockText
    | unit =>
      m.date.text ++ "T" ++ m.clockText ++ places unit count (3 * (unit.fineness - 6))

/-- A tick as a literal; hours and no time leave their unit unclear and
name it. -/
def literal (t : Tick) : String :=
  if t.unit = .hour || t.count.isNone then s!"np.datetime64('{t.text}','{t.unit.name}')"
  else s!"np.datetime64('{t.text}')"

end Tick

end PlotPipe
