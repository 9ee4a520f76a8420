import PlotPipe.Text.Blank
import PlotPipe.Text.Digit
/-!
# Command line — words

What the words of a command line are, before anything is made of them. A
word with two hyphens in front names an option of the command, in full or
by a beginning that no other option shares; a value may be attached to it
after an equals sign, or follow as a word of its own. The letter `h`
behind one hyphen asks for help, alone or several times over. Two hyphens
by themselves divide: all words after them are operands, as are negative
numbers and words that hold a space and name no option.

Words are told apart before the first of them is acted upon, so an option
that could be several ends the reading wherever it stands. Everything
else happens in the order of the words.
-/

namespace PlotPipe

namespace CommandLine

/-- Why there is nothing to do after the words were read: help was asked
for, or they break the rules. -/
inductive Stop where
  | help
  | misuse
  deriving DecidableEq

/-- What an option takes. -/
inductive Takes where
  | nothing
  | value
  | oneOf (choices : List String)
  deriving DecidableEq

/-- A word of a command line. -/
inductive Word where
  | operand (text : String)
  /-- The first two hyphens by themselves. -/
  | divider
  | flag (name : String)
  /-- An option with a value, which may be attached. -/
  | setting (name : String) (takes : Takes) (attached : Option String)
  /-- A word that ends the reading when it is reached. -/
  | halt (stop : Stop)
  /-- A word that looks like an option and is none. -/
  | unknown
  deriving DecidableEq

/-- The option that every command has. -/
def helpName : String := "help"

/-- The options of a command, besides the one for help. -/
abbrev Grammar := List (String × Takes)

/-- What stands behind the letter that asks for help, perhaps after an
equals sign: more of the same letter, and nothing else is in order. -/
def afterHelpLetter : List Char → Stop
  | [] => .help
  | '=' :: rest | rest => if !rest.isEmpty && rest.all (· = 'h') then .help else .misuse

/-- A decimal digit of any script. -/
def isDigit (c : Char) : Bool := (Text.digitValue? c).isSome

/-- Drop one line end at the end. -/
def dropLineEnd (cs : List Char) : List Char :=
  if cs.getLast? = some '\n' then cs.dropLast else cs

/-- A number without a sign: digits, or a point with digits after it and
perhaps before it. -/
def isNumber (cs : List Char) : Bool :=
  let cs := dropLineEnd cs
  match cs.dropWhile isDigit with
  | [] => !cs.isEmpty
  | '.' :: places => !places.isEmpty && places.all isDigit
  | _ => false

namespace Grammar

/-- The word for an option that has been found. -/
def named (name : String) (takes : Takes) (attached : Option String) : Word :=
  match takes, attached with
  | .nothing, none => if name = helpName then .halt .help else .flag name
  | .nothing, some _ => .halt .misuse
  | takes, attached => .setting name takes attached

/-- The options of a command, with the one for help. -/
def all (g : Grammar) : Grammar := (helpName, .nothing) :: g

/-- The options that a name can mean: the one that has it in full, or
else all that begin with it. -/
def candidates (g : Grammar) (name : String) : Grammar :=
  match g.all.find? fun option => option.1 = name with
  | some option => [option]
  | none => g.all.filter fun option => name.toList.isPrefixOf option.1.toList

/-- A word that begins with a hyphen and names no option. -/
def nameless (cs : List Char) : Word :=
  if cs.contains ' ' then .operand (String.ofList cs) else .unknown

/-- The word behind two hyphens. -/
def long (g : Grammar) (body : List Char) : Except Stop Word :=
  let (name, attached) := match Text.cutAt? '=' body with
    | some (name, value) => (String.ofList name, some (String.ofList value))
    | none => (String.ofList body, none)
  match g.candidates name with
  | [] => .ok (nameless ('-' :: '-' :: body))
  | [(name, takes)] => .ok (named name takes attached)
  | _ => .error .misuse

/-- A word that stands before any divider. -/
def word (g : Grammar) (s : String) : Except Stop Word :=
  match s.toList with
  | '-' :: '-' :: body => g.long body
  | '-' :: 'h' :: rest => .ok (.halt (afterHelpLetter rest))
  | '-' :: rest =>
    if rest.isEmpty || isNumber rest then .ok (.operand s) else .ok (nameless ('-' :: rest))
  | _ => .ok (.operand s)

/-- The words of a command line. -/
def words (g : Grammar) : List String → Except Stop (List Word)
  | [] => .ok []
  | s :: rest =>
    if s = "--" then .ok (.divider :: rest.map .operand)
    else do
      let w ← g.word s
      let ws ← g.words rest
      return w :: ws

end Grammar

/-- A value that an option takes. -/
def Takes.admits (takes : Takes) (value : String) : Bool :=
  match takes with
  | .nothing => false
  | .value => true
  | .oneOf choices => choices.contains value

/-- How many operands a command has. -/
inductive Operands where
  | one
  | many
  deriving DecidableEq

/-- Where the reading of a command is with its operands, which stand next
to one another. -/
inductive Stage where
  | before
  | among
  | after
  deriving DecidableEq

/-- The stage after a word that is no operand. -/
def Stage.leave : Stage → Stage
  | before => before
  | _ => after

/-- What the words of a command say. -/
structure Arguments where
  operands : List String := []
  flags : List String := []
  /-- Values by option; the last one counts. -/
  values : List (String × String) := []
  /-- There were words that have no place. -/
  surplus : Bool := false
  deriving DecidableEq

namespace Arguments

/-- Take an operand, or find that there are too many of them. -/
def operand (a : Arguments) (shape : Operands) (stage : Stage) (text : String) : Arguments :=
  match stage, shape with
  | .before, _ | .among, .many => { a with operands := a.operands ++ [text] }
  | _, _ => { a with surplus := true }

/-- Take the value of an option. -/
def value (a : Arguments) (name text : String) : Arguments :=
  { a with values := a.values ++ [(name, text)] }

/-- Read the words of a command after what `a` has of them. -/
def read (shape : Operands) (a : Arguments) (stage : Stage) : List Word → Except Stop Arguments
  | [] => if a.operands.isEmpty || a.surplus then .error .misuse else .ok a
  | .operand text :: rest =>
    (a.operand shape stage text).read shape (if stage = .before then .among else stage) rest
  | .divider :: rest => read shape { a with surplus := a.surplus || stage = .after } stage rest
  | .flag name :: rest => read shape { a with flags := a.flags ++ [name] } stage.leave rest
  | .setting name takes (some text) :: rest =>
    if takes.admits text then (a.value name text).read shape stage.leave rest
    else .error .misuse
  | .setting name takes none :: .operand text :: rest =>
    if takes.admits text then (a.value name text).read shape stage.leave rest
    else .error .misuse
  | .setting _ _ none :: _ => .error .misuse
  | .halt stop :: _ => .error stop
  | .unknown :: rest => read shape { a with surplus := true } stage.leave rest

/-- The arguments of a command. -/
def ofWords (shape : Operands) (ws : List Word) : Except Stop Arguments :=
  read shape {} .before ws

/-- An option without a value is given. -/
def has (a : Arguments) (name : String) : Bool := a.flags.contains name

/-- The last value of an option. -/
def get? (a : Arguments) (name : String) : Option String := a.values.reverse.lookup name

end Arguments

end CommandLine

end PlotPipe
