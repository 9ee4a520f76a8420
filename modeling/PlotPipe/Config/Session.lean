import PlotPipe.Channel.Pipe
import PlotPipe.Datum.Items
/-!
# Configuration — session settings

The settings of a session from a table of values: the program and its
arguments, the two switches, and the place of the journal. The table is
the one under the key `session`, where there is one, and the whole of
the values otherwise. Fields of the table that are not known are errors,
as are values of the wrong kind; fields are checked in a fixed order.
-/

namespace PlotPipe

/-- The settings of a session. -/
structure SessionConfig where
  path : String := Launch.defaultProgram
  args : List String := []
  verbose : Bool := false
  strict : Bool := false
  journalPath : Option String := none
  deriving DecidableEq

namespace SessionConfig

/-- The fields that a table may have. -/
def knownFields : List String := ["path", "args", "verbose", "strict", "transcript_path"]

/-- The keys of a table that are not known, in order. -/
def unknownFields (table : List (String × Datum)) : List String :=
  ((table.map Prod.fst).filter fun key => !knownFields.contains key).mergeSort
    fun a b => decide (a ≤ b)

/-- A field that holds a text or nothing. -/
def optionalText (field : String) (table : List (String × Datum)) :
    Except Failure (Option String) :=
  match Datum.lookup field table with
  | none | some .null => .ok none
  | some d =>
    match d.text? with
    | some s => .ok (some s)
    | none => .error (.config (.notText field))

/-- The texts of a list of texts. -/
def texts (field : String) : List Datum → Except Failure (List String)
  | [] => .ok []
  | d :: rest =>
    match d.text? with
    | some s => (texts field rest).map fun others => s :: others
    | none => .error (.config (.notTextEntries field))

/-- A field that holds a list of texts, and none of them when it is
missing. -/
def textList (field : String) (table : List (String × Datum)) : Except Failure (List String) :=
  match Datum.lookup field table with
  | none => .ok []
  | some (.list items) => texts field items
  | some _ => .error (.config (.notList field))

/-- A field that holds a truth value, false when it is missing. -/
def switch (field : String) (table : List (String × Datum)) : Except Failure Bool :=
  match Datum.lookup field table with
  | none => .ok false
  | some (.truth b) => .ok b
  | some _ => .error (.config (.notBoolean field))

/-- The settings of a table. -/
def ofTable (table : List (String × Datum)) : Except Failure SessionConfig := do
  let unknown := unknownFields table
  if !unknown.isEmpty then throw (.config (.unknownFields unknown))
  let path ← optionalText "path" table
  let args ← textList "args" table
  let verbose ← switch "verbose" table
  let strict ← switch "strict" table
  let journalPath ← optionalText "transcript_path" table
  return { path := Launch.programOr path, args, verbose, strict, journalPath }

/-- The settings of a set of values. -/
def parse (values : List (String × Datum)) : Except Failure SessionConfig :=
  match Datum.lookup "session" values with
  | none => ofTable values
  | some (.dict table) => ofTable table
  | some _ => .error (.config .notTable)

/-- The settings of a value, which has to be a collection of named values.
Of a column only the cell under the name of the session could be a table. -/
def ofDatum (d : Datum) : Except Failure SessionConfig :=
  match d with
  | .dict values => parse values
  | .column _ index cells =>
    match Datum.cellUnder? "session" index cells with
    | some (.dict table) => ofTable table
    | _ => .error (.config .notTable)
  | .frame _ => .error (.config .notTable)
  | d => .error (.misuse (.noPart d.typeName "get"))

/-- The settings as a table again. -/
def toTable (c : SessionConfig) : List (String × Datum) :=
  [("path", .text c.path), ("args", .list (c.args.map .text)), ("verbose", .truth c.verbose),
    ("strict", .truth c.strict)]
    ++ (c.journalPath.map fun path => ("transcript_path", Datum.text path)).toList

/-- How the program is started. -/
def launch (c : SessionConfig) : Launch := .ofTexts c.path c.args

end SessionConfig

end PlotPipe
