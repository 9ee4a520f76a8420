import PlotPipe.Failure.Message
/-!
# Text — surrogates and encoding

Texts are sent as UTF-8, which has a form for every character and none
for a surrogate, a code point between D800 and DFFF. A text from outside
can hold surrogates that belong to no pair, although no character is one.
An alphabet therefore says which characters stand for surrogates where
texts are used. In the plain alphabet none does: texts are texts of
characters, and every text can be encoded. The words of a command line and
the contents of files are texts of that kind.
-/

namespace PlotPipe

/-- The number of surrogates, and the first of them. -/
def Surrogate.count : Nat := 0x800

def Surrogate.first : Nat := 0xD800

/-- What the characters of texts stand for: themselves, or a surrogate,
which is given by its distance from the first. -/
structure Alphabet where
  surrogate? : Char → Option (Fin Surrogate.count) := fun _ => none

namespace Alphabet

/-- The character stands for a surrogate. -/
def isSurrogate (a : Alphabet) (c : Char) : Bool := (a.surrogate? c).isSome

/-- The first run of surrogates in what is left of a text from a
position on. -/
def faultFrom? (a : Alphabet) (position : Nat) : List Char → Option EncodingFault
  | [] => none
  | c :: rest =>
    match a.surrogate? c with
    | some distance =>
      some ⟨Surrogate.first + distance, position, (rest.takeWhile a.isSurrogate).length + 1⟩
    | none => a.faultFrom? (position + 1) rest

/-- The bytes of a text in UTF-8. -/
def encode (a : Alphabet) (text : String) : Except Failure ByteArray :=
  match a.faultFrom? 0 text.toList with
  | some fault => .error (.unencodable fault)
  | none => .ok text.toUTF8

/-- The text can be encoded. -/
def encodes (a : Alphabet) (text : String) : Bool := (a.encode text).isOk

end Alphabet

end PlotPipe
