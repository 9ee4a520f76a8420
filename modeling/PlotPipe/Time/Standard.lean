import PlotPipe.Failure.Cause
import PlotPipe.Time.Tick
/-!
# Time — ticks from standard dates

The texts that name a tick: a year of any number of digits, then month,
day, hour, minute and second of two digits each, a fraction, and an
offset from universal time. Parts may be left out from the end. A text
may be finer than the unit of the tick, and what is finer is dropped
toward the past. The first character that does not belong is found out
by its position.
-/

namespace PlotPipe

namespace Standard

/-- The instant that the parts of a date name, in attoseconds. -/
structure Parts where
  date : Date
  hour : Nat := 0
  minute : Nat := 0
  second : Nat := 0
  atto : Nat := 0
  /-- The minutes by which the clock is ahead of universal time. -/
  ahead : Int := 0

namespace Parts

/-- The instant in attoseconds from the start of 1970. -/
def attos (p : Parts) : Int :=
  (p.date.epochDays * 86400 + p.hour * 3600 + p.minute * 60 + p.second - p.ahead * 60)
    * (attosPerSecond : Nat) + p.atto

end Parts

/-- A blank that may stand around a date. -/
def isMargin (c : Char) : Bool := c = ' ' || (9 ≤ c.toNat && c.toNat ≤ 13)

/-- The value of a digit. -/
def digit (c : Char) : Nat := c.toNat - 48

/-- The text does not go on as a date where `rest` is left of it. -/
def unread {α : Type} (text : String) (rest : List Char) : Except DateFault α :=
  .error (.unread text (text.utf8ByteSize - (String.ofList rest).utf8ByteSize))

/-- A part of two digits within bounds. -/
def part (text name : String) (least greatest : Nat) (cs : List Char) :
    Except DateFault (Nat × List Char) :=
  match cs with
  | a :: b :: rest =>
    if a.isDigit && b.isDigit then
      let n := 10 * digit a + digit b
      if least ≤ n && n ≤ greatest then .ok (n, rest) else .error (.outOfRange name text)
    else unread text cs
  | _ => unread text cs

/-- A part of one digit or two, below a bound. -/
def shortPart (text name : String) (bound : Nat) (cs : List Char) :
    Except DateFault (Nat × List Char) :=
  match cs with
  | a :: b :: rest =>
    if a.isDigit && b.isDigit then part text name 0 (bound - 1) cs
    else if a.isDigit then .ok (digit a, b :: rest)
    else unread text cs
  | [a] => if a.isDigit then .ok (digit a, []) else unread text cs
  | [] => unread text cs

/-- The days of a month. -/
def daysInMonth (year : Int) (month : Nat) : Nat :=
  let leap := Date.isLeapYear year
  if month = 12 then 31 else Date.daysBeforeMonth leap (month + 1) - Date.daysBeforeMonth leap month

/-- What may end a date: blanks only. -/
def finish (text : String) (p : Parts) (cs : List Char) : Except DateFault Parts :=
  match cs.dropWhile isMargin with
  | [] => .ok p
  | rest => unread text rest

/-- An offset after its sign. -/
def offset (text : String) (behind : Bool) (p : Parts) (cs : List Char) :
    Except DateFault Parts := do
  let (hours, rest) ← shortPart text "Timezone hours offset" 24 cs
  let signed (minutes : Nat) : Parts :=
    { p with ahead := if behind then -(hours * 60 + minutes : Int) else hours * 60 + minutes }
  match rest with
  | [] => return signed 0
  | c :: after =>
    let (minutes, rest) ←
      shortPart text "Timezone minutes offset" 60 (if c = ':' then after else rest)
    finish text (signed minutes) rest

/-- What may follow the time of day: the letter of universal time or an
offset. -/
def zone (text : String) (p : Parts) (cs : List Char) : Except DateFault Parts :=
  match cs.dropWhile isMargin with
  | 'Z' :: rest => finish text p rest
  | '+' :: rest => offset text false p rest
  | '-' :: rest => offset text true p rest
  | rest => finish text p rest

/-- A fraction of a second: the first eighteen digits. -/
def fraction (text : String) (p : Parts) (cs : List Char) : Except DateFault Parts :=
  let digits := (cs.take 18).takeWhile Char.isDigit
  let value := digits.foldl (fun n c => 10 * n + digit c) 0
  zone text { p with atto := value * Nat.pow 10 (18 - digits.length) } (cs.drop digits.length)

/-- The time of day. -/
def clock (text : String) (date : Date) (cs : List Char) : Except DateFault Parts := do
  let (hour, rest) ← part text "Hours" 0 23 cs
  let p : Parts := { date, hour }
  match rest with
  | ':' :: rest =>
    let (minute, rest) ← part text "Minutes" 0 59 rest
    let p := { p with minute }
    match rest with
    | ':' :: rest =>
      let (second, rest) ← part text "Seconds" 0 59 rest
      let p := { p with second }
      match rest with
      | '.' :: rest => fraction text p rest
      | rest => zone text p rest
    | rest => zone text p rest
  | rest => zone text p rest

/-- The day of a month and what follows it. -/
def day (text : String) (year : Int) (month : Nat) (cs : List Char) : Except DateFault Parts := do
  let (day, rest) ← part text "Day" 1 (daysInMonth year month) cs
  match rest with
  | [] => return { date := ⟨year, month, day⟩ }
  | 'T' :: rest | ' ' :: rest => clock text ⟨year, month, day⟩ rest
  | rest => unread text rest

/-- The month of a year and what follows it. -/
def month (text : String) (year : Int) (cs : List Char) : Except DateFault Parts := do
  let (month, rest) ← part text "Month" 1 12 cs
  match rest with
  | [] => return { date := ⟨year, month, 1⟩ }
  | '-' :: rest => day text year month rest
  | rest => unread text rest

/-- A date. A year counts as negative only when its sign comes first in
the text. -/
def parts (text : String) : Except DateFault Parts :=
  let cs := text.toList.dropWhile isMargin
  let cs := match cs with | '-' :: rest => rest | cs => cs
  let digits := cs.takeWhile Char.isDigit
  let value : Int := digits.foldl (fun n c => 10 * n + digit c) 0
  let year := if text.startsWith "-" then -value else value
  match cs.dropWhile Char.isDigit with
  | [] => if cs.isEmpty then unread text [] else .ok { date := ⟨year, 1, 1⟩ }
  | '-' :: rest => month text year rest
  | rest => unread text rest

end Standard

/-- Read a tick; nothing, and the name of no time in any case, are no
time. -/
def Tick.read (unit : TickUnit) (s : String) : Except Failure Tick :=
  if s.isEmpty || s.toLower = "nat" then .ok ⟨unit, none⟩
  else
    match Standard.parts s with
    | .ok p => .ok (.ofAttos unit p.attos)
    | .error fault => .error (.date fault)

end PlotPipe
