/-!
# Scripts — quoted text

A text inside a script stands between apostrophes. An apostrophe in the
text is written twice, and every line end becomes one blank, so that a
quoted text never leaves its line and ends at the first apostrophe that
is not followed by another.
-/

namespace PlotPipe

namespace Script

/-- Write a blank for each line end. -/
def flatten : List Char → List Char
  | [] => []
  | '\r' :: '\n' :: rest => ' ' :: flatten rest
  | '\n' :: rest => ' ' :: flatten rest
  | '\r' :: rest => ' ' :: flatten rest
  | c :: rest => c :: flatten rest

/-- Write each apostrophe twice. -/
def doubleQuotes : List Char → List Char
  | [] => []
  | '\'' :: rest => '\'' :: '\'' :: doubleQuotes rest
  | c :: rest => c :: doubleQuotes rest

/-- A text as a quoted text of a script. -/
def quote (s : String) : String :=
  String.ofList ('\'' :: (doubleQuotes (flatten s.toList) ++ ['\'']))

end Script

end PlotPipe
