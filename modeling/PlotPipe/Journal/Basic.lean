import PlotPipe.Json.Read
import PlotPipe.Json.Write
import PlotPipe.Session
import PlotPipe.Workspace
/-!
# Journal — the file of entries

The journal is a file of lines, each of which is one JSON object. New
lines are only ever appended. Reading keeps the objects in the order of
the file and passes over lines that are blank, cannot be read or hold
something else. Pruning keeps the newest objects and leaves nothing else
in the file.

How many levels a line may open depends on the machine and on how deep
the calls stand that read or write it: entries are read by themselves, by
a summary or by pruning, and written when they come in or when pruning
writes them again.
-/

namespace PlotPipe

/-- An entry as a JSON object. -/
def Entry.toJson (e : Entry) : Json :=
  .object
    [("ts_ns", .int e.time), ("operation", .text e.operation), ("bytes", .int e.bytes),
      ("script", .text e.script)]

namespace Journal

/-- The entries of one object, by key. -/
abbrev Row := List (String × Json)

/-- A JSON value as a line of the file. -/
def line (j : Json) : String := j.write ++ "\n"

/-- A value of any kind as a line of the file. -/
def encode (levels : Nat) (d : Datum) : Except Failure String :=
  (Json.ofDatum levels d).map line

/-- The failure that a flaw of a line is, if it is one. -/
def flawFailure? : Json.Flaw → Option Failure
  | .malformed => none
  | .tooDeep opener => some (.nestedTooDeep (some opener))
  | .tooManyDigits count => some (.conversion (.tooManyDigits count))

/-- The object on a line, if there is one. -/
def readLine (levels : Nat) (s : String) : Except Failure (Option Row) :=
  let s := Text.trim s
  if s.isEmpty then .ok none
  else
    match Json.readWithin levels s with
    | .ok (.object row) => .ok (some row)
    | .ok _ => .ok none
    | .error flaw =>
      match flawFailure? flaw with
      | some failure => .error failure
      | none => .ok none

/-- The objects on several lines. -/
def readLines (levels : Nat) : List String → Except Failure (List Row)
  | [] => .ok []
  | s :: rest => do
    let row ← readLine levels s
    let rows ← readLines levels rest
    return row.toList ++ rows

/-- The objects of a file. -/
def rows (levels : Nat) (content : ByteArray) : Except Failure (List Row) := do
  readLines levels ((Text.lines (← Workspace.decode content)).map String.ofList)

/-- What a journal adds up to. -/
structure Summary where
  total : Nat
  bytes : Int
  byOperation : List (String × Nat)

/-- A value as a plain text: texts stand for themselves. -/
def plainText (j : Json) : String :=
  match j with
  | .text s => s
  | j => j.toDatum.literal

/-- Count one more of a name. -/
def countOne (name : String) (counts : List (String × Nat)) : List (String × Nat) :=
  Json.put name (((counts.find? fun entry => entry.1 = name).map Prod.snd).getD 0 + 1) counts

/-- Add one object to a summary. An object without an operation counts
under the empty name, one without a size as nothing. -/
def Summary.add (s : Summary) (row : Row) : Except Failure Summary := do
  let object := Json.object row
  let operation := ((object.get? "operation").map plainText).getD ""
  let size ← match object.get? "bytes" with
    | some j => j.toDatum.toInt
    | none => pure 0
  return ⟨s.total + 1, s.bytes + size, countOne operation s.byOperation⟩

/-- Add up objects. -/
def summarize (rows : List Row) : Except Failure Summary :=
  rows.foldlM Summary.add ⟨0, 0, []⟩

/-- Objects as the lines of a file, each written again. -/
def rewrite (levels : Nat) : List Row → Except Failure String
  | [] => .ok ""
  | row :: rest => do
    let first ← encode levels (Json.object row).toDatum
    let others ← rewrite levels rest
    return first ++ others

end Journal

/-- A journal at a place in a workspace. -/
structure Journal where
  path : Path
  workspace : Workspace

namespace Journal

/-- Open a journal; the folder of its file is made. -/
def create (path : Path) (workspace : Workspace) : Except Failure Journal := do
  return ⟨path, ← workspace.makeFolder path.parent⟩

/-- The objects of a journal, whose file may be missing. -/
def load (levels : Nat) (j : Journal) : Except Failure (List Row) := do
  if ← j.workspace.exists? j.path then rows levels (← j.workspace.read j.path)
  else return []

/-- The machine that a journal is kept on. -/
def machine (j : Journal) : Machine := j.workspace.machine

/-- The objects of a journal. -/
def entries (j : Journal) : Except Failure (List Row) := j.load j.machine.levels

/-- Append a line. -/
def append (j : Journal) (line : String) : Except Failure Journal := do
  return { j with workspace := ← j.workspace.append j.path line.toUTF8 }

/-- Append a value of any kind. A value that JSON cannot hold changes
nothing. -/
def log (j : Journal) (value : Datum) : Except Failure Journal := do
  j.append (← encode j.machine.writeLevels value)

/-- The sum of a journal. -/
def summary (j : Journal) : Except Failure Summary := do
  summarize (← j.load j.machine.innerReadLevels)

/-- Keep the newest objects, at most `limit` of them, and say how many
were dropped. Without a positive limit, or when there are no more objects
than that, the file stays as it is. -/
def prune (j : Journal) (limit : Option Int) : Except Failure (Nat × Journal) := do
  match limit with
  | none => return (0, j)
  | some limit =>
    if limit ≤ 0 then return (0, j)
    let rows ← j.load j.machine.innerReadLevels
    let dropped := rows.length - limit.toNat
    if dropped = 0 then return (0, j)
    let content ← rewrite j.machine.rewriteLevels (rows.drop dropped)
    return (dropped, { j with workspace := j.workspace.put j.path content.toUTF8 })

end Journal

instance : Recorder Journal where
  record entry j :=
    match j.log entry.toJson.toDatum with
    | .ok j => (.ok (), j)
    | .error failure => (.error failure, j)

/-- A recorder that keeps the entries themselves. -/
structure EntryList where
  entries : List Entry := []

instance : Recorder EntryList where
  record entry list := (.ok (), ⟨list.entries ++ [entry]⟩)

/-- A recorder that refuses every entry. -/
structure RefusingRecorder where
  failure : Failure

instance : Recorder RefusingRecorder where
  record _ recorder := (.error recorder.failure, recorder)

end PlotPipe
