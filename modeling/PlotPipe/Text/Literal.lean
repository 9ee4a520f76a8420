import PlotPipe.Text.Printable
import PlotPipe.Text.Digit
import PlotPipe.Text.Blank
/-!
# Text — quoted literals

How messages quote a text or a byte string: between apostrophes, or
between quotation marks when the content has an apostrophe and no
quotation mark; with a backslash before the quote in use and the
backslash itself, names for tab, line feed and carriage return, and
hexadecimal escapes for what is not printable.
-/

namespace PlotPipe

namespace Text

/-- The quote for a content with these characters. -/
def quoteFor (cs : List Char) : Char :=
  if cs.contains '\'' && !cs.contains '"' then '"' else '\''

/-- The escapes that texts and byte strings share. -/
def commonEscape? (quote c : Char) : Option String :=
  if c = quote then some ("\\" ++ quote.toString)
  else if c = '\\' then some "\\\\"
  else if c = '\n' then some "\\n"
  else if c = '\r' then some "\\r"
  else if c = '\t' then some "\\t"
  else none

/-- One character of a quoted text: an escape is as short as the code
point allows. -/
def escapeChar (quote c : Char) : String :=
  match commonEscape? quote c with
  | some e => e
  | none =>
    if isPrintable c then c.toString
    else if c.toNat < 0x100 then "\\x" ++ hex 2 c.toNat
    else if c.toNat < 0x10000 then "\\u" ++ hex 4 c.toNat
    else "\\U" ++ hex 8 c.toNat

/-- A text as a quoted literal. -/
def literal (s : String) : String :=
  let quote := quoteFor s.toList
  quote.toString ++ String.join (s.toList.map (escapeChar quote)) ++ quote.toString

/-- One byte of a quoted byte string. -/
def escapeByte (quote : Char) (b : UInt8) : String :=
  let c := Char.ofNat b.toNat
  match commonEscape? quote c with
  | some e => e
  | none => if 0x20 ≤ b.toNat && b.toNat < 0x7F then c.toString else "\\x" ++ hex 2 b.toNat

/-- A byte string as a quoted literal, without the letter before it. -/
def byteLiteral (bs : List UInt8) : String :=
  let quote := quoteFor (bs.map fun b => Char.ofNat b.toNat)
  quote.toString ++ String.join (bs.map (escapeByte quote)) ++ quote.toString

/-- One byte of a quoted byte string that can be changed in place: an
apostrophe is escaped whichever quote is in use, a quotation mark never. -/
def escapeBufferByte (b : UInt8) : String :=
  if b.toNat = 0x22 then "\"" else escapeByte '\'' b

/-- A byte string that can be changed in place as a quoted literal, without
the word before it. -/
def bufferLiteral (bs : List UInt8) : String :=
  let quote := quoteFor (bs.map fun b => Char.ofNat b.toNat)
  quote.toString ++ String.join (bs.map escapeBufferByte) ++ quote.toString

/-- At most `limit` characters of a literal, for messages that keep it
short. -/
def clip (limit : Nat) (s : String) : String :=
  String.ofList (s.toList.take limit)

end Text

end PlotPipe
