import PlotPipe.Time.Calendar
/-!
# Time — moments

A moment is a date with a time of day, to the microsecond, and perhaps
an offset from universal time. The instant of a moment is its count of
microseconds from the start of 1970 in universal time; a moment without
an offset is read as universal time. Seconds come from that count by one
division, rounded once.
-/

namespace PlotPipe

/-- The seconds of a day. -/
def secondsPerDay : Nat := 86400

/-- An offset from universal time: by how much a clock is ahead, in
microseconds. -/
structure Offset where
  micros : Int
  deriving DecidableEq

namespace Offset

/-- An offset of whole seconds. -/
def ofSeconds (seconds : Int) : Offset := ⟨seconds * 1000000⟩

/-- An integer stands for an offset of as many seconds. -/
instance : Coe Int Offset := ⟨ofSeconds⟩

end Offset

/-- A date and time of day, with an offset from universal time where one
is known. -/
structure Moment where
  date : Date
  hour : Nat
  minute : Nat
  second : Nat
  micro : Nat
  offset : Option Offset
  deriving DecidableEq

namespace Moment

/-- Midnight at the start of a date, with no offset. -/
def ofDate (d : Date) : Moment := ⟨d, 0, 0, 0, 0, none⟩

/-- The microseconds by which the clock is ahead of universal time. -/
def ahead (m : Moment) : Int := m.offset.elim 0 Offset.micros

/-- The instant in microseconds. -/
def epochMicros (m : Moment) : Int :=
  (m.date.epochDays * secondsPerDay + m.hour * 3600 + m.minute * 60 + m.second) * 1000000
    + m.micro - m.ahead

/-- The moment of universal time, without an offset, at an instant in
microseconds. -/
def ofEpochMicros (micros : Int) : Moment :=
  let seconds := micros / 1000000
  let inDay := (seconds % secondsPerDay).toNat
  { date := .ofEpochDays (seconds / secondsPerDay)
    hour := inDay / 3600
    minute := inDay / 60 % 60
    second := inDay % 60
    micro := (micros % 1000000).toNat
    offset := none }

/-- The instant in seconds. -/
def epochSeconds (m : Moment) : Binary64 :=
  .ofIntQuotient m.epochMicros 1000000

/-- The time of day to the second. -/
def clockText (m : Moment) : String :=
  ":".intercalate ([m.hour, m.minute, m.second].map fun n => String.ofList (paddedDigits 2 n))

/-- An offset as a sign, hours and minutes, with seconds only where
there are any, and with microseconds only where there are any. -/
def offsetText (separator : String) (offset : Offset) : String :=
  let micros := offset.micros.natAbs
  let n := micros / 1000000
  let parts := [n / 3600, n / 60 % 60] ++ (if micros % 60000000 = 0 then [] else [n % 60])
  (if offset.micros < 0 then "-" else "+")
    ++ separator.intercalate (parts.map fun n => String.ofList (paddedDigits 2 n))
    ++ (if micros % 1000000 = 0 then ""
      else "." ++ String.ofList (paddedDigits 6 (micros % 1000000)))

/-- A length of time as whole days and the seconds and microseconds left
over. -/
def durationLiteral (micros : Int) : String :=
  let seconds := micros / 1000000
  let parts := [("days", seconds / secondsPerDay), ("seconds", seconds % secondsPerDay),
    ("microseconds", micros % 1000000)].filter fun part => part.2 ≠ 0
  "datetime.timedelta("
    ++ (if parts.isEmpty then "0"
      else ", ".intercalate (parts.map fun (name, n) => s!"{name}={n}")) ++ ")"

/-- An offset as a literal; universal time has a name. -/
def zoneLiteral (offset : Offset) : String :=
  if offset.micros = 0 then "datetime.timezone.utc"
  else s!"datetime.timezone({durationLiteral offset.micros})"

/-- A moment as a literal: seconds and microseconds are left out where
they are zero. -/
def literal (m : Moment) : String :=
  let clock := [m.date.month, m.date.day, m.hour, m.minute]
    ++ (if m.micro ≠ 0 then [m.second, m.micro] else if m.second ≠ 0 then [m.second] else [])
  let zone := match m.offset with
    | some offset => [s!"tzinfo={zoneLiteral offset}"]
    | none => []
  "datetime.datetime("
    ++ ", ".intercalate (toString m.date.year :: clock.map (fun n => toString n) ++ zone) ++ ")"

/-- A moment as a text: a fraction has six digits, or nine where there
are nanoseconds, and is left out where it is zero. -/
def textWith (m : Moment) (nano : Nat) (offsetSeparator : String) : String :=
  let fraction :=
    if nano ≠ 0 then "." ++ String.ofList (paddedDigits 9 (m.micro * 1000 + nano))
    else if m.micro ≠ 0 then "." ++ String.ofList (paddedDigits 6 m.micro)
    else ""
  let zone := match m.offset with
    | some offset => offsetText offsetSeparator offset
    | none => ""
  m.date.text ++ " " ++ m.clockText ++ fraction ++ zone

/-- A moment as a text. -/
def text (m : Moment) : String := m.textWith 0 ":"

end Moment

/-- A date as a literal. -/
def Date.literal (d : Date) : String :=
  s!"datetime.date({d.year}, {d.month}, {d.day})"

end PlotPipe
