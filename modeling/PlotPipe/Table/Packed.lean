import PlotPipe.Failure.Cause
import PlotPipe.Text.Literal
/-!
# Tables — packed files

A data file may be packed, which the ending of its name tells. What is
packed begins with a header. Its bytes are looked at in order, and the
first one that does not belong there decides what is wrong; a file that
is out of bytes before that ends early.

What is packed is handed out piece by piece, so that a file which is
broken somewhere has a content up to there. How it is unpacked is up to
the machine (`Unpacked` says what comes of it). The plain machine unpacks
nothing that was really packed: it says what is wrong with a file that
holds a text all the same, and takes a text that begins with a whole
header for a stream that ends behind it.
-/

namespace PlotPipe

/-- How a data file is packed. -/
inductive Packing where
  | gzip
  | bzip
  | lzma
  deriving DecidableEq

/-- What comes out of a packed file: the bytes of the lines that are handed
out, and the failure that breaks the reading off behind them, if one
does. -/
structure Unpacked where
  content : ByteArray
  failure : Option Failure := none

namespace Packing

/-- The endings of packed files, in the order in which they are tried. -/
def endings : List (String × Packing) :=
  [(".bz2", bzip), (".gz", gzip), (".xz", lzma), (".lzma", lzma)]

/-- The last dot of a name with what stands behind it. The dots in front
of a name begin no ending. -/
def ending (name : String) : String :=
  let cs := name.toList.dropWhile fun c => c = '.'
  if cs.contains '.' then
    String.ofList ('.' :: (cs.reverse.takeWhile fun c => c ≠ '.').reverse)
  else ""

/-- How a file of a name is packed, if it is. -/
def ofName? (name : String) : Option Packing := endings.lookup (ending name)

/-- What a byte of a header may be. -/
abbrev ByteTest := UInt8 → Bool

/-- One byte and no other. -/
def exactly (n : Nat) : ByteTest := fun b => b.toNat = n

/-- The bytes of a word. -/
def spelled (word : String) : List ByteTest :=
  word.toList.map fun c => exactly c.toNat

/-- Any bytes, so many of them. -/
def anyBytes (count : Nat) : List ByteTest := List.replicate count fun _ => true

/-- What stands behind a header in order. -/
def afterHeader (flaw : PackingFault) : List ByteTest → List UInt8 →
    Except PackingFault (List UInt8)
  | [], rest => .ok rest
  | _ :: _, [] => .error .endsEarly
  | test :: tests, b :: rest => if test b then afterHeader flaw tests rest else .error flaw

/-- The number that four bytes of a block spell after their first bit: the
row of the block that is the first one of the text. -/
def firstRow (a b c d : UInt8) : Nat :=
  a.toNat % 128 * Nat.pow 2 17 + b.toNat * Nat.pow 2 9 + c.toNat * 2 + d.toNat / 128

/-- The flaw of a block with rows up to a limit: its mark, four bytes of a
checksum, and the first row. -/
def blockFlaw (limit : Nat) (bytes : List UInt8) : PackingFault :=
  match afterHeader .badStream (spelled "1AY&SY" ++ anyBytes 4) bytes with
  | .error flaw => flaw
  | .ok (a :: b :: c :: d :: _) => if firstRow a b c d > limit then .badStream else .endsEarly
  | .ok _ => .endsEarly

/-- The flaw of a text that is packed in blocks: a mark with the size of
the blocks, and then a block, or the mark of the end. -/
def bzipFlaw (bytes : List UInt8) : PackingFault :=
  let isSize : ByteTest := fun b => 0x31 ≤ b.toNat && b.toNat ≤ 0x39
  match afterHeader .badStream (spelled "BZh") bytes with
  | .error flaw => flaw
  | .ok [] => .endsEarly
  | .ok (size :: body) =>
    if !isSize size then .badStream
    else if body.head? = some 0x17 then
      match afterHeader .badStream (spelled "\x17rE8P" ++ [exactly 0x90]) body with
      | .error flaw => flaw
      | .ok _ => .endsEarly
    else blockFlaw (10 + (size.toNat - 0x30) * 100000) body

/-- The number that bytes spell, the lowest one first. -/
def littleEndian (bytes : List UInt8) : Nat :=
  bytes.foldr (fun b n => b.toNat + 256 * n) 0

/-- A byte that tells how bits are predicted: three counts, of which the
first two add up to no more than four. -/
def isPrediction : ByteTest := fun b => b.toNat < 225 && b.toNat % 9 + b.toNat / 9 % 5 ≤ 4

/-- A size of a table that is in use: a power of two, the half more than
one, or no size at all. -/
def isTableSize (n : Nat) : Bool :=
  n = 0 || n = 0xFFFFFFFF
    || (List.range 32).any fun places => n = Nat.pow 2 places || n = 3 * Nat.pow 2 places

/-- A length of a text that is in use: less than a quarter of a tera, or
left open. -/
def isTextLength (n : Nat) : Bool := n < Nat.pow 2 38 || n = Nat.pow 2 64 - 1

/-- The flaw of a text that is packed by prediction: how bits are
predicted, the size of the table, the length of the text, and a zero
before the first bits. -/
def lzmaFlaw (bytes : List UInt8) : PackingFault :=
  let number (count : Nat) (isInUse : Nat → Bool) (bytes : List UInt8) := do
    let rest ← afterHeader .badFormat (anyBytes count) bytes
    if isInUse (littleEndian (bytes.take count)) then pure rest else throw PackingFault.badFormat
  let flaw := do
    let rest ← afterHeader .badFormat [isPrediction] bytes
    let rest ← number 4 isTableSize rest
    let rest ← number 8 isTextLength rest
    afterHeader .corrupt (exactly 0 :: anyBytes 4) rest
  match flaw with
  | .error flaw => flaw
  | .ok _ => .endsEarly

/-- The flaw of a text that is packed after two bytes of its own. An
empty one has none. -/
def gzipFlaw? (bytes : List UInt8) : Option PackingFault :=
  match bytes.take 2 with
  | [] => none
  | [0x1f, 0x8b] => some .endsEarly
  | mark => some (.strangeHeader ("b" ++ Text.byteLiteral mark))

/-- The flaw of a packed text, if it has one. -/
def flaw? (p : Packing) (bytes : List UInt8) : Option PackingFault :=
  match p with
  | gzip => gzipFlaw? bytes
  | bzip => some (bzipFlaw bytes)
  | lzma => some (lzmaFlaw bytes)

/-- What comes out of a packed file on the plain machine, which is
nothing. Only a file that holds nothing can do without a flaw. -/
def unpack (p : Packing) (content : ByteArray) : Unpacked :=
  { content := .empty, failure := (p.flaw? content.data.toList).map .packing }

end Packing

end PlotPipe
