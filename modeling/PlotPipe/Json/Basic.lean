import PlotPipe.Datum.Convert
/-!
# JSON — values

The values that a line of the journal can hold. Numbers without point
and exponent are integers of any size, all others are doubles, which may
also be infinite or no number at all. Objects keep the order of their
keys; a key that is written again takes the new value in the old place.
-/

namespace PlotPipe

/-- A JSON value. -/
inductive Json where
  | null
  | truth (value : Bool)
  | int (value : Int)
  | real (value : Binary64)
  | text (value : String)
  | list (items : List Json)
  | object (entries : List (String × Json))
  deriving Inhabited

namespace Json

/-- Set the value of a key. -/
def put {α : Type} (key : String) (value : α) : List (String × α) → List (String × α)
  | [] => [(key, value)]
  | (k, v) :: rest => if k = key then (k, value) :: rest else (k, v) :: put key value rest

/-- Entries with one value for each key, the last one given. -/
def lastWins {α : Type} (entries : List (String × α)) : List (String × α) :=
  entries.foldl (fun seen entry => put entry.1 entry.2 seen) []

/-- The value of a key. -/
def get? (key : String) : Json → Option Json
  | object entries => (entries.find? fun entry => entry.1 = key).map Prod.snd
  | _ => none

/-- Entries in the order of their keys, which is by code points. -/
def sortKeys {α : Type} (entries : List (String × α)) : List (String × α) :=
  entries.mergeSort fun a b => decide (a.1 ≤ b.1)

mutual

/-- A JSON value among the values of any kind. -/
def toDatum : Json → Datum
  | null => .null
  | truth b => .truth b
  | int i => .int i
  | real x => .real x
  | text s => .text s
  | list items => .list (toData items)
  | object entries => .dict (toEntries entries)

/-- Several JSON values among the values of any kind. -/
def toData : List Json → List Datum
  | [] => []
  | j :: rest => toDatum j :: toData rest

/-- The entries of an object among the values of any kind. -/
def toEntries : List (String × Json) → List (String × Datum)
  | [] => []
  | (key, j) :: rest => (key, toDatum j) :: toEntries rest

end

/-- The first failure among the entries in the order of their keys, or
the values of all. -/
def settle (entries : List (String × Except Failure Json)) :
    Except Failure (List (String × Json)) :=
  (sortKeys entries).mapM fun entry => entry.2.map fun j => (entry.1, j)

mutual

/-- A value of any kind as JSON that opens at most so many levels. Tuples
are lists, and the entries of a dictionary are taken in the order of
their keys. Integers have to have few enough digits. -/
def ofDatum (levels : Nat) : Datum → Except Failure Json
  | .null => .ok null
  | .truth b => .ok (truth b)
  | .int i =>
    if Datum.unwritable ≤ i.natAbs then .error (.conversion .tooManyDigitsToWrite)
    else .ok (int i)
  | .real x | .cell (.floating 64) (.real x) => .ok (real x)
  | .text s | .cell .text (.text s) => .ok (text s)
  | .list items | .tuple items =>
    match levels with
    | 0 => .error .writtenTooDeep
    | levels + 1 => (ofData levels items).map list
  | .dict entries =>
    match levels with
    | 0 => .error .writtenTooDeep
    | levels + 1 => (settle (ofEntries levels entries)).map object
  | d => .error (.notSerializable d.shortTypeName)

/-- Several values as JSON. -/
def ofData (levels : Nat) : List Datum → Except Failure (List Json)
  | [] => .ok []
  | d :: rest => do
    let j ← ofDatum levels d
    let js ← ofData levels rest
    return j :: js

/-- The entries of a dictionary, each by itself. -/
def ofEntries (levels : Nat) : List (String × Datum) → List (String × Except Failure Json)
  | [] => []
  | (key, d) :: rest => (key, ofDatum levels d) :: ofEntries levels rest

end

end Json

end PlotPipe
