import PlotPipe.Time.Standard
/-!
# Time — stamps

A stamp is a moment to the nanosecond, as the columns of a table hold
it. Stamps are read from dates whose parts stand between separators of
one kind, or next to one another without any.
-/

namespace PlotPipe

/-- A moment to the nanosecond, as tables hold them. -/
structure Stamp where
  moment : Moment
  nano : Nat
  deriving DecidableEq

namespace Stamp

/-- A stamp as a text. -/
def text (s : Stamp) : String := s.moment.textWith s.nano ":"

/-- A stamp as a literal: an offset is shown and named. -/
def literal (s : Stamp) : String :=
  let shown := s.moment.textWith s.nano ""
  match s.moment.offset with
  | none => s!"Timestamp('{shown}')"
  | some offset =>
    let zone := if offset.micros = 0 then "UTC" else "UTC" ++ Moment.offsetText ":" offset
    s!"Timestamp('{shown}', tz='{zone}')"

/-- The stamp at an instant in nanoseconds, without an offset. -/
def ofNanos (nanos : Int) : Stamp :=
  ⟨.ofEpochMicros (nanos / 1000), (nanos % 1000).toNat⟩

/-- The instant of a stamp in nanoseconds. -/
def epochNanos (s : Stamp) : Int := s.moment.epochMicros * 1000 + s.nano

end Stamp

namespace StampText

open Standard

/-- A part of two digits, or of one where parts are separated. -/
def part? (separated : Bool) (cs : List Char) : Option (Nat × List Char) :=
  match cs with
  | a :: b :: rest =>
    if a.isDigit && b.isDigit then some (10 * digit a + digit b, rest)
    else if a.isDigit && separated then some (digit a, b :: rest)
    else none
  | [a] => if a.isDigit && separated then some (digit a, []) else none
  | [] => none

/-- An offset after its sign, in seconds. -/
def offset? (cs : List Char) : Option Int := do
  let (hours, rest) ← part? true cs
  match rest with
  | [] => return hours * 3600
  | _ =>
    let (minutes, rest) ← part? true (match rest with | ':' :: rest => rest | rest => rest)
    if rest.isEmpty then return hours * 3600 + minutes * 60 else failure

/-- The end of a text: nothing, the letter of universal time, or an
offset. -/
def zone? (cs : List Char) : Option (Option Int) :=
  match cs.dropWhile isMargin with
  | [] => some none
  | ['Z'] => some (some 0)
  | '+' :: rest => (offset? rest).map some
  | '-' :: rest => (offset? rest).map fun n => some (-n)
  | _ => none

/-- The seconds after a minute, in nanoseconds, and what follows them. -/
def seconds? (separated : Bool) (cs : List Char) : Option (Nat × List Char) := do
  let (second, rest) ← part? separated cs
  if 60 ≤ second then failure
  match rest with
  | '.' :: rest =>
    let digits := rest.takeWhile Char.isDigit
    let shown := digits.take 9
    let value := shown.foldl (fun n c => 10 * n + digit c) 0
    return (second * nanosPerSecond + value * Nat.pow 10 (9 - shown.length),
      rest.drop digits.length)
  | rest => return (second * nanosPerSecond, rest)

/-- The time of day in nanoseconds, and the offset after it. -/
def clock? (cs : List Char) : Option (Nat × Option Int) := do
  let (hour, rest) ← part? true cs
  if 24 ≤ hour then failure
  let separated := rest.head? = some ':'
  if rest.isEmpty || !(separated || rest.head?.any Char.isDigit) then
    return (hour * 3600 * nanosPerSecond, ← zone? rest)
  let (minute, rest) ← part? separated (if separated then rest.drop 1 else rest)
  if 60 ≤ minute then failure
  let start := (hour * 60 + minute) * 60 * nanosPerSecond
  let further := if separated then rest.head? = some ':' else rest.head?.any Char.isDigit
  if !further then return (start, ← zone? rest)
  let (seconds, rest) ← seconds? separated (if separated then rest.drop 1 else rest)
  return (start + seconds, ← zone? rest)

/-- A time of day that may follow a date. -/
def afterDate? (date : Date) (cs : List Char) : Option (Date × Nat × Option Int) :=
  match cs with
  | [] => some (date, 0, none)
  | 'T' :: rest | ' ' :: rest => (clock? rest).map fun (nanos, offset) => (date, nanos, offset)
  | _ => none

/-- The month, the day and what follows them. -/
def afterYear? (year : Int) (cs : List Char) : Option (Date × Nat × Option Int) :=
  match cs with
  | [] => some (⟨year, 1, 1⟩, 0, none)
  | c :: after => do
    let separated := ['-', '.', '/', '\\', ' '].contains c
    let (month, rest) ← part? separated (if separated then after else c :: after)
    if month < 1 || 12 < month then failure
    if rest.isEmpty then
      if separated then return (⟨year, month, 1⟩, 0, none) else failure
    if separated && rest.head? ≠ some c then failure
    let (day, rest) ← part? separated (if separated then rest.drop 1 else rest)
    if day < 1 || daysInMonth year month < day then failure
    afterDate? ⟨year, month, day⟩ rest

/-- The parts of a stamp: the date, the nanoseconds of the day, and the
offset. -/
def parts? (s : String) : Option (Date × Nat × Option Int) :=
  let cs := s.toList.dropWhile isMargin
  let year := cs.take 4
  if year.length = 4 && year.all Char.isDigit then
    afterYear? (year.foldl (fun n c => 10 * n + digit c) 0 : Nat) (cs.drop 4)
  else none

end StampText

/-- Read a stamp. -/
def Stamp.ofText? (s : String) : Option Stamp :=
  (StampText.parts? s).map fun (date, nanos, offset) =>
    let stamp := Stamp.ofNanos (date.epochDays * nanosPerDay + nanos)
    { stamp with moment := { stamp.moment with offset := offset.map .ofSeconds } }

end PlotPipe
