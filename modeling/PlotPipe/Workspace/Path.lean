/-!
# Workspace — paths

A path leads from the working directory, or from the root, along a list
of names. Empty names and single dots do not count; two dots lead to the
folder above. A path that begins with exactly two slashes keeps both of
them, and any other number of slashes is as good as one.

The place that a path leads to is known without a look at the folders on
the way: it is the working directory, a folder above it or the root,
with names below that.
-/

namespace PlotPipe

/-- Where a path begins. -/
inductive Path.Origin where
  | here
  | root
  | doubleRoot
  deriving DecidableEq

/-- A path. -/
structure Path where
  origin : Path.Origin := .here
  names : List String
  deriving DecidableEq

/-- Where a place is counted from. -/
inductive Place.Base where
  | root
  /-- The folder so many levels above the working directory. -/
  | above (levels : Nat)
  deriving DecidableEq

/-- A place for a file or a folder. -/
structure Place where
  base : Place.Base
  names : List String
  deriving DecidableEq

/-- The name that leads to the folder above. -/
def upward : String := ".."

namespace Place

/-- The folder above a place; nothing is above the root. -/
def up (p : Place) : Place :=
  match p.base, p.names with
  | .root, [] => p
  | .above levels, [] => ⟨.above (levels + 1), []⟩
  | base, names => ⟨base, names.dropLast⟩

/-- The place that a name leads to. -/
def enter (p : Place) (name : String) : Place :=
  if name = upward then p.up else { p with names := p.names ++ [name] }

/-- A place lies below another one. -/
def isBelow (p folder : Place) : Bool :=
  p ≠ folder && p.base = folder.base && folder.names.isPrefixOf p.names

end Place

namespace Path

/-- The pieces of a text between slashes. -/
def pieces (word : List Char) : List Char → List (List Char)
  | [] => [word.reverse]
  | c :: rest => if c = '/' then word.reverse :: pieces [] rest else pieces (c :: word) rest

/-- The names in a text between slashes. -/
def namesIn (cs : List Char) : List String :=
  ((pieces [] cs).map String.ofList).filter fun name => name ≠ "" && name ≠ "."

/-- Where a path begins that has so many slashes in front. -/
def Origin.ofSlashes : Nat → Origin
  | 0 => here
  | 2 => doubleRoot
  | _ => root

/-- What stands in front of the names. -/
def Origin.text : Origin → String
  | here => ""
  | root => "/"
  | doubleRoot => "//"

/-- Read a path. -/
def ofText (s : String) : Path where
  origin := .ofSlashes (s.toList.takeWhile fun c => c = '/').length
  names := namesIn s.toList

/-- A path as a text; the working directory is a single dot. -/
def text (p : Path) : String :=
  match p.origin, p.names with
  | .here, [] => "."
  | origin, names => origin.text ++ "/".intercalate names

/-- The last name of a path. -/
def name (p : Path) : String := p.names.getLast?.getD ""

/-- The path without its last name. -/
def parent (p : Path) : Path := { p with names := p.names.dropLast }

/-- The place where a path begins. -/
def start (p : Path) : Place :=
  match p.origin with
  | .here => ⟨.above 0, []⟩
  | .root | .doubleRoot => ⟨.root, []⟩

/-- The place that a path leads to. -/
def place (p : Path) : Place := p.names.foldl Place.enter p.start

end Path

end PlotPipe
