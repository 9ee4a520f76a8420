import PlotPipe.Config.Toml.Lexeme
import PlotPipe.Datum.Items
/-!
# TOML — documents

A document is read statement by statement into a nest of tables. A table
may be opened once by its own header; keys with several parts open tables
on their way, which no later header may open again; arrays and inline
tables can never be added to. A header between double brackets adds a
table to an array and frees the names below it.
-/

namespace PlotPipe

namespace Toml

/-- The parts of a key from the top of the document. -/
abbrev Key := List String

/-- The entries of a table. -/
abbrev Table := List (String × Datum)

/-- Set the value of a name. -/
def put (name : String) (value : Datum) : Table → Table
  | [] => [(name, value)]
  | (k, v) :: rest => if k = name then (k, value) :: rest else (k, v) :: put name value rest

/-- Change the table behind a key, making tables on the way. Where
`throughArrays` says so, an array stands for its last table. `none` when
something else is in the way or the change is refused. -/
def changeNest? (throughArrays : Bool) (change : Table → Option Table) :
    Key → Table → Option Table
  | [], table => change table
  | name :: rest, table =>
    match Datum.lookup name table with
    | none => (changeNest? throughArrays change rest []).map fun t => put name (.dict t) table
    | some (.dict inner) =>
      (changeNest? throughArrays change rest inner).map fun t => put name (.dict t) table
    | some (.list items) =>
      match throughArrays, items.getLast? with
      | true, some (.dict inner) =>
        (changeNest? throughArrays change rest inner).map fun t =>
          put name (.list (items.dropLast ++ [.dict t])) table
      | _, _ => none
    | some _ => none

/-- Add an empty table to the array behind a name. -/
def appendTable? (name : String) (table : Table) : Option Table :=
  match Datum.lookup name table with
  | none => some (put name (.list [.dict []]) table)
  | some (.list items) => some (put name (.list (items ++ [.dict []])) table)
  | some _ => none

/-- A name that a table does not have yet, with its value. -/
def addNew? (name : String) (value : Datum) (table : Table) : Option Table :=
  match Datum.lookup name table with
  | none => some (put name value table)
  | some _ => none

/-- A key as messages show it. -/
def keyLiteral (key : Key) : String := (Datum.tuple (key.map .text)).literal

/-- An array or a table, which cannot be added to after it was given. -/
def isCollection : Datum → Bool
  | .dict _ | .list _ => true
  | _ => false

/-- The key is inside a collection that cannot be added to. -/
def isFrozen (frozen : List Key) (key : Key) : Bool :=
  !key.isEmpty && frozen.any fun outer => outer.isPrefixOf key

/-- Put a value into an inline table. -/
def addInline (key : Key) (value : Datum) (frozen : List Key) (table : Table) (rest : List Char) :
    Except Flaw Table :=
  if isFrozen frozen key then flaw ("Cannot mutate immutable namespace " ++ keyLiteral key) rest
  else
    let name := key.getLast?.getD ""
    match changeNest? false some key.dropLast table with
    | none => flaw "Cannot overwrite a value" rest
    | some table =>
      match changeNest? false (addNew? name value) key.dropLast table with
      | none => flaw ("Duplicate inline table key " ++ Text.literal name) rest
      | some table => .ok table

/-- The depth that is left inside a collection that counts for some
levels: an array for two and an inline table for three. -/
def deeper (levels depth : Nat) : Except Flaw Nat :=
  if depth < levels then .error .tooDeep else .ok (depth - levels)

mutual

/-- A value of any kind; `depth` is what is left to nest others in it. -/
def value : Nat → Nat → List Char → Except Flaw (Datum × List Char)
  | 0, _, cs => flaw "Invalid value" cs
  | fuel + 1, depth, cs =>
    match cs with
    | '"' :: _ | '\'' :: _ =>
      (anyText fuel cs).map fun (s, rest) => (.text (String.ofList s), rest)
    | '[' :: rest => do
      let depth ← deeper 2 depth
      match ← skipFiller fuel rest with
      | ']' :: rest => return (.list [], rest)
      | rest =>
        let (items, rest) ← arrayItems fuel depth rest
        return (.list items, rest)
    | '\x7b' :: rest => do
      let depth ← deeper 3 depth
      match skipBlanks rest with
      | '\x7d' :: rest => return (.dict [], rest)
      | rest =>
        let (table, rest) ← inlineEntries fuel depth [] [] rest
        return (.dict table, rest)
    | _ => scalar cs

/-- The items of an array up to its closing bracket. -/
def arrayItems : Nat → Nat → List Char → Except Flaw (List Datum × List Char)
  | 0, _, cs => flaw "Unclosed array" cs
  | fuel + 1, depth, cs => do
    let (item, rest) ← value fuel depth cs
    match ← skipFiller fuel rest with
    | ']' :: rest => return ([item], rest)
    | ',' :: rest =>
      match ← skipFiller fuel rest with
      | ']' :: rest => return ([item], rest)
      | rest =>
        let (items, rest) ← arrayItems fuel depth rest
        return (item :: items, rest)
    | rest => flaw "Unclosed array" rest

/-- A key with its value. -/
def keyValue : Nat → Nat → List Char → Except Flaw ((Key × Datum) × List Char)
  | 0, _, cs => flaw "Invalid value" cs
  | fuel + 1, depth, cs => do
    let (key, rest) ← key (fuel + 1) cs
    match rest with
    | '=' :: rest =>
      let (d, rest) ← value fuel depth (skipBlanks rest)
      return ((key, d), rest)
    | rest => flaw "Expected '=' after a key in a key/value pair" rest

/-- The entries of an inline table up to its closing brace, added to
those that it has. -/
def inlineEntries : Nat → Nat → List Key → Table → List Char → Except Flaw (Table × List Char)
  | 0, _, _, _, cs => flaw "Unclosed inline table" cs
  | fuel + 1, depth, frozen, table, cs => do
    let ((key, d), rest) ← keyValue fuel depth cs
    let table ← addInline key d frozen table rest
    match skipBlanks rest with
    | '\x7d' :: rest => return (table, rest)
    | ',' :: rest =>
      let frozen := if isCollection d then key :: frozen else frozen
      inlineEntries fuel depth frozen table (skipBlanks rest)
    | rest => flaw "Unclosed inline table" rest

end

/-- What has been read of a document. -/
structure Document where
  table : Table := []
  /-- The table that the last header opened. -/
  header : Key := []
  /-- Tables that no header may open again. -/
  opened : List Key := []
  /-- Tables that will be such ones from the next header on. -/
  pending : List Key := []
  /-- Collections that cannot be added to. -/
  frozen : List Key := []

namespace Document

/-- The keys on the way to the last part of a key inside the present
table. -/
def wayPoints (header key : Key) : List Key :=
  (List.range (key.length - 1)).map fun i => header ++ key.take (i + 1)

/-- Add a key with its value to the present table. -/
def addPair (d : Document) (key : Key) (value : Datum) (rest : List Char) :
    Except Flaw Document :=
  let way := wayPoints d.header key
  match way.find? fun k => d.opened.contains k with
  | some k => flaw ("Cannot redefine namespace " ++ keyLiteral k) rest
  | none =>
    let parent := d.header ++ key.dropLast
    let name := key.getLast?.getD ""
    if isFrozen d.frozen parent then
      flaw ("Cannot mutate immutable namespace " ++ keyLiteral parent) rest
    else
      match changeNest? true (addNew? name value) parent d.table with
      | none => flaw "Cannot overwrite a value" rest
      | some table =>
        .ok { d with
              table
              pending := way ++ d.pending
              frozen := if isCollection value then (d.header ++ key) :: d.frozen else d.frozen }

/-- Settle what was pending, at a header. -/
def settle (d : Document) : Document :=
  { d with opened := d.pending ++ d.opened, pending := [] }

/-- Open a table by its header. -/
def openTable (d : Document) (key : Key) (rest : List Char) : Except Flaw Document :=
  if d.opened.contains key || isFrozen d.frozen key then
    flaw ("Cannot declare " ++ keyLiteral key ++ " twice") rest
  else
    match changeNest? true some key d.table with
    | none => flaw "Cannot overwrite a value" rest
    | some table => .ok { d with table, header := key, opened := key :: d.opened }

/-- Add a table to an array by its header. -/
def openItem (d : Document) (key : Key) (rest : List Char) : Except Flaw Document :=
  if isFrozen d.frozen key then
    flaw ("Cannot mutate immutable namespace " ++ keyLiteral key) rest
  else
    let keep := fun other : Key => !key.isPrefixOf other
    match changeNest? true (appendTable? (key.getLast?.getD "")) key.dropLast d.table with
    | none => flaw "Cannot overwrite a value" rest
    | some table =>
      .ok { d with
            table
            header := key
            opened := key :: d.opened.filter keep
            frozen := d.frozen.filter keep }

/-- A character that a key can start with. -/
def startsKey (c : Char) : Bool := isKeyChar c || c = '"' || c = '\''

/-- One statement at the start of a line. -/
def statement (depth : Nat) (d : Document) (cs : List Char) :
    Except Flaw (Document × List Char) :=
  match cs with
  | '[' :: '[' :: rest => do
    let (key, rest) ← Toml.key (rest.length + 1) (skipBlanks rest)
    let d ← d.settle.openItem key rest
    match rest with
    | ']' :: ']' :: rest => return (d, skipBlanks rest)
    | _ => flaw "Expected ']]' at the end of an array declaration" rest
  | '[' :: rest => do
    let (key, rest) ← Toml.key (rest.length + 1) (skipBlanks rest)
    let d ← d.settle.openTable key rest
    match rest with
    | ']' :: rest => return (d, skipBlanks rest)
    | _ => flaw "Expected ']' at the end of a table declaration" rest
  | '#' :: _ => .ok (d, cs)
  | c :: _ =>
    if startsKey c then do
      let ((key, value), rest) ← keyValue (3 * cs.length + 3) depth cs
      return (← d.addPair key value rest, skipBlanks rest)
    else flaw "Invalid statement" cs
  | [] => .ok (d, [])

/-- All statements of a document, each of which ends its line. -/
def statements (depth : Nat) : Nat → Document → List Char → Except Flaw Document
  | 0, d, _ => .ok d
  | fuel + 1, d, cs =>
    match skipBlanks cs with
    | [] => .ok d
    | '\n' :: rest => statements depth fuel d rest
    | cs => do
      let (d, rest) ← d.statement depth cs
      match ← skipComment rest with
      | [] => return d
      | '\n' :: rest => statements depth fuel d rest
      | rest => flaw "Expected newline or end of document after a statement" rest

end Document

/-- Write every pair of carriage return and line feed as a line feed. -/
def joinLineEnds : List Char → List Char
  | '\r' :: '\n' :: rest => '\n' :: joinLineEnds rest
  | c :: rest => c :: joinLineEnds rest
  | [] => []

/-- The place in a document with so many characters left. -/
def place (cs : List Char) (left : Nat) : String :=
  if left = 0 then "end of document"
  else
    let before := cs.take (cs.length - left)
    let line := before.count '\n' + 1
    let column := (before.reverse.takeWhile (· ≠ '\n')).length + 1
    s!"line {line}, column {column}"

/-- Read a document whose values may open so many levels. -/
def read (levels : Nat) (s : String) : Except Failure Table :=
  let cs := joinLineEnds s.toList
  match Document.statements levels (cs.length + 1) {} cs with
  | .ok d => .ok d.table
  | .error (.broken message left) =>
    .error (.configText (message ++ " (at " ++ place cs left ++ ")"))
  | .error (.tooManyDigits count) => .error (.conversion (.tooManyDigits count))
  | .error .tooDeep => .error (.nestedTooDeep none)

end Toml

end PlotPipe
