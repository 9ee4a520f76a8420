import PlotPipe.Table.Packed
import PlotPipe.Text.Blank
import PlotPipe.Workspace
/-!
# Tables — where a data file is

A data file is looked for under its path, and under the path with an
ending of a packed file behind it, unless the path has such an ending
already. The first of these that leads to something is the one.

Paths are read as addresses too. An address may have a scheme, a host and
marks behind its path, and its home is below the working directory: the
host's name with the path, without whatever leads out of there. A path
counts as leading to something when its home does, but it is the path
itself that is opened; only when there is no such path, a packed file at
home is.
-/

namespace PlotPipe

/-- An address: a host, which may be missing, and a path. -/
structure Address where
  host : List Char
  path : List Char
  deriving DecidableEq

namespace Address

/-- The schemes with parameters behind the path; an address without a
scheme has them too. -/
def schemesWithParameters : List String :=
  ["", "ftp", "hdl", "prospero", "http", "https", "shttp", "rtsp", "rtspu", "sip", "sips", "mms",
    "sftp", "tel"]

/-- A character of the name of a scheme. -/
def isSchemeChar (c : Char) : Bool := c.isAlphanum || c = '+' || c = '-' || c = '.'

/-- The scheme of an address, and what stands behind its colon. -/
def cutScheme (cs : List Char) : String × List Char :=
  match Text.cutAt? ':' cs with
  | some (c :: word, rest) =>
    if c.isAlpha && word.all isSchemeChar then
      (String.ofList ((c :: word).map Char.toLower), rest)
    else ("", cs)
  | _ => ("", cs)

/-- The host behind two slashes, and what stands behind it. -/
def cutHost : List Char → List Char × List Char
  | '/' :: '/' :: rest =>
    let isInside (c : Char) : Bool := c ≠ '/' && c ≠ '?' && c ≠ '#'
    (rest.takeWhile isInside, rest.dropWhile isInside)
  | cs => ([], cs)

/-- A path without the parameters of its last name. -/
def withoutParameters (path : List Char) : List Char :=
  let last := (path.reverse.takeWhile fun c => c ≠ '/').reverse
  path.take (path.length - last.length) ++ last.takeWhile fun c => c ≠ ';'

/-- Read an address. Control characters and spaces in front do not count,
and neither do tabs and line ends anywhere. The brackets around a host
come in pairs. -/
def ofText (s : String) : Except Failure Address := do
  let cs := (s.toList.dropWhile fun c => c.toNat ≤ 32).filter fun c =>
    c ≠ '\t' && c ≠ '\n' && c ≠ '\r'
  let (scheme, rest) := cutScheme cs
  let (host, rest) := cutHost rest
  if host.contains '[' ≠ host.contains ']' then throw (.refusedValue "Invalid IPv6 URL")
  let path := rest.takeWhile fun c => c ≠ '#' && c ≠ '?'
  return ⟨host, if schemesWithParameters.contains scheme then withoutParameters path else path⟩

/-- The names of a path where each step upward has taken the name before
it away; `before` has those in front, the last one first. -/
def settle (before : List String) : List String → List String
  | [] => before.reverse
  | name :: rest => if name = upward then settle before.tail rest else settle (name :: before) rest

/-- Names without the dots in front of the first one. -/
def withoutDots : List String → List String
  | [] => []
  | name :: rest =>
    match name.toList.dropWhile fun c => c = '.' with
    | [] => withoutDots rest
    | cs => String.ofList cs :: rest

/-- The names of a path that lead inward. -/
def inward (path : List Char) : List String := withoutDots (settle [] (Path.namesIn path))

/-- The home of an address. -/
def home (a : Address) : Path := { names := inward a.host ++ inward a.path }

/-- There is something at the home of an address. Without a path it has
to be a folder. -/
def isAtHome (workspace : Workspace) (a : Address) : Bool :=
  match workspace.look a.home with
  | .ok .folder => true
  | .ok (.file _) => !(inward a.path).isEmpty
  | _ => false

end Address

namespace Table

/-- The endings under which a file of a name is looked for. -/
def endingsFor (name : String) : List String :=
  if (Packing.ofName? name).isSome then [""] else "" :: Packing.endings.map Prod.fst

/-- The paths under which a data file is looked for. -/
def candidates (path : Path) : List Path :=
  (endingsFor path.name).map fun ending => .ofText (path.text ++ ending)

/-- The paths of the packed files at the home of an address. -/
def homeCandidates (a : Address) : List Path :=
  if (Address.inward a.path).isEmpty then
    Packing.endings.map fun (ending, _) => { names := a.home.names ++ [ending] }
  else
    (endingsFor a.home.name).map fun ending =>
      { names := a.home.parent.names ++ [a.home.name ++ ending] }

/-- A path counts as leading to something. -/
def isFound (workspace : Workspace) (path : Path) : Bool :=
  workspace.has path
    || match Address.ofText path.text with
      | .ok a => a.isAtHome workspace
      | .error _ => false

/-- The path of a data file, if it is found. -/
def find? (workspace : Workspace) (path : Path) : Except Failure (Option Path) := do
  let address ← Address.ofText path.text
  return ((candidates path).find? (isFound workspace)).or
    ((homeCandidates address).find? workspace.has)

/-- The bytes of a data file as they are, and how they are packed. The
file has to be found. -/
def fetch (workspace : Workspace) (path : Path) : Except Failure (ByteArray × Option Packing) := do
  match ← find? workspace path with
  | none => throw (.system .notFound (.said (path.text ++ " not found.")))
  | some found => return (← workspace.read found, Packing.ofName? found.name)

end Table

end PlotPipe
