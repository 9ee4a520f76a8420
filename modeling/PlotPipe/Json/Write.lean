import PlotPipe.Json.Basic
/-!
# JSON — writing

A JSON value on one line of ASCII, without blanks, with the keys of
every object in order. Characters beyond ASCII are written as their
UTF-16 units, and doubles by their shortest decimals.
-/

namespace PlotPipe

namespace Json

/-- A UTF-16 unit as an escape. -/
def unitEscape (n : Nat) : String := "\\u" ++ Text.hex 4 n

/-- One character inside quotation marks. -/
def escapeChar (c : Char) : String :=
  let n := c.toNat
  if c = '"' then "\\\""
  else if c = '\\' then "\\\\"
  else if c = '\n' then "\\n"
  else if c = '\r' then "\\r"
  else if c = '\t' then "\\t"
  else if n = 8 then "\\b"
  else if n = 12 then "\\f"
  else if 0x20 ≤ n ∧ n < 0x7F then c.toString
  else if n < 0x10000 then unitEscape n
  else unitEscape (0xD800 + (n - 0x10000) / 0x400) ++ unitEscape (0xDC00 + (n - 0x10000) % 0x400)

/-- A text between quotation marks. -/
def writeText (s : String) : String :=
  "\"" ++ String.join (s.toList.map escapeChar) ++ "\""

mutual

/-- A value on one line. -/
def write : Json → String
  | null => "null"
  | truth b => if b then "true" else "false"
  | int i => toString i
  | real x => x.text .journal
  | text s => writeText s
  | list items => "[" ++ ",".intercalate (writeAll items) ++ "]"
  | object entries =>
    "\x7b" ++ ",".intercalate ((sortKeys (writeEntries entries)).map Prod.snd) ++ "\x7d"

/-- Several values. -/
def writeAll : List Json → List String
  | [] => []
  | j :: rest => write j :: writeAll rest

/-- The entries of an object, each with its key beside it. -/
def writeEntries : List (String × Json) → List (String × String)
  | [] => []
  | (key, j) :: rest => (key, writeText key ++ ":" ++ write j) :: writeEntries rest

end

end Json

end PlotPipe
