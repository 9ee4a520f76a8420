import PlotPipe.Failure.Message
import PlotPipe.Machine
import PlotPipe.Workspace.Path
/-!
# Workspace

The files and folders that the program works with. A folder is there as
soon as something is in it, or once it has been made; the working
directory, the root and everything between them are there always.

Whoever follows a path has to find a folder at each step but the last,
under names that are not too long. A path that cannot be followed has a
flaw; whether that is a failure, or only means that nothing is there, is
up to the operation.

A workspace belongs to a machine, which has its part in what can be read
and written.
-/

namespace PlotPipe

/-- Why a path does not lead to what it is asked for. -/
inductive PathFlaw where
  /-- A name with a zero character. -/
  | zeroCharacter
  | nameTooLong
  /-- Nothing is there. -/
  | missing
  /-- A file is there, and not a folder. -/
  | notFolder
  /-- A folder is there, and not a file. -/
  | folder
  /-- A file is where a folder is to be made. -/
  | taken
  deriving DecidableEq

/-- A flaw as the failure of an operation on a path. -/
def PathFlaw.failure (flaw : PathFlaw) (p : Path) : Failure :=
  match flaw with
  | zeroCharacter => .refusedValue "embedded null byte"
  | nameTooLong => .system .other (.about 36 "File name too long" p.text)
  | missing => .system .notFound (.about 2 "No such file or directory" p.text)
  | notFolder => .system .notDirectory (.about 20 "Not a directory" p.text)
  | folder => .system .isDirectory (.about 21 "Is a directory" p.text)
  | taken => .system .exists (.about 17 "File exists" p.text)

/-- What is at a place. -/
inductive Node where
  | nothing
  | file (content : ByteArray)
  | folder

/-- Files by place, and folders that were made. -/
structure Workspace where
  files : List (Place × ByteArray) := []
  folders : List Place := []
  machine : Machine := {}

namespace Workspace

/-- The bytes that a name has at most. -/
def nameLimit : Nat := 255

/-- The bytes that no path reaches. -/
def pathLimit : Nat := 4096

/-- What is at a place. -/
def node (w : Workspace) (p : Place) : Node :=
  match w.files.find? fun entry => entry.1 = p with
  | some (_, content) => .file content
  | none =>
    if p.names.isEmpty || w.folders.contains p || w.folders.any (·.isBelow p)
        || w.files.any (fun entry => entry.1.isBelow p) then .folder
    else .nothing

/-- What a list of names leads to from a place. -/
def walk (w : Workspace) (here : Place) : List String → Except PathFlaw Node
  | [] => .ok (w.node here)
  | name :: rest =>
    match w.node here with
    | .nothing => .error .missing
    | .file _ => .error .notFolder
    | .folder =>
      if name.utf8ByteSize > nameLimit then .error .nameTooLong
      else w.walk (here.enter name) rest

/-- What a path leads to. -/
def look (w : Workspace) (p : Path) : Except PathFlaw Node :=
  if p.names.any fun name => name.toList.contains '\x00' then .error .zeroCharacter
  else if p.text.utf8ByteSize ≥ pathLimit then .error .nameTooLong
  else w.walk p.start p.names

/-- A path leads to a file or a folder. A path with a flaw does not. -/
def has (w : Workspace) (p : Path) : Bool :=
  match w.look p with
  | .ok .nothing | .error _ => false
  | .ok _ => true

/-- A path leads to a file or a folder, asked with more care: a name that
is too long is a failure. -/
def exists? (w : Workspace) (p : Path) : Except Failure Bool :=
  match w.look p with
  | .error .nameTooLong => .error (PathFlaw.nameTooLong.failure p)
  | _ => .ok (w.has p)

/-- The content of the file at a path, if there is one. -/
def file? (w : Workspace) (p : Path) : Option ByteArray :=
  match w.look p with
  | .ok (.file content) => some content
  | _ => none

/-- Read the file at a path. -/
def read (w : Workspace) (p : Path) : Except Failure ByteArray :=
  match w.look p with
  | .ok (.file content) => .ok content
  | .ok .folder => .error (PathFlaw.folder.failure p)
  | .ok .nothing => .error (PathFlaw.missing.failure p)
  | .error flaw => .error (flaw.failure p)

/-- Bytes as text. -/
def decode (content : ByteArray) : Except Failure String :=
  match String.fromUTF8? content with
  | some s => .ok s
  | none => .error .notText

/-- Put a file with its content at the end of a path. -/
def put (w : Workspace) (p : Path) (content : ByteArray) : Workspace :=
  { w with files := w.files.filter (fun entry => entry.1 ≠ p.place) ++ [(p.place, content)] }

/-- Append to the file at a path, which is made if it is missing. -/
def append (w : Workspace) (p : Path) (content : ByteArray) : Except Failure Workspace :=
  match w.look p with
  | .ok (.file before) => .ok (w.put p (before ++ content))
  | .ok .nothing => .ok (w.put p content)
  | .ok .folder => .error (PathFlaw.folder.failure p)
  | .error flaw => .error (flaw.failure p)

/-- Make the last folder of a path, if it is not there. -/
def makeLast (w : Workspace) (p : Path) : Except PathFlaw Workspace :=
  match w.look p with
  | .ok .nothing => .ok { w with folders := w.folders ++ [p.place] }
  | .ok .folder => .ok w
  | .ok (.file _) => .error .taken
  | .error flaw => .error flaw

/-- Make the last folder of a path, and the last `pending` ones above it
where they are missing. -/
def makeFolders (w : Workspace) (pending : Nat) (p : Path) : Except Failure Workspace :=
  match w.makeLast p, pending with
  | .ok w, _ => .ok w
  | .error .missing, pending + 1 => do
    let w ← w.makeFolders pending p.parent
    (w.makeLast p).mapError fun flaw => flaw.failure p
  | .error flaw, _ => .error (flaw.failure p)

/-- Make the folder that a path leads to, with the folders above it. -/
def makeFolder (w : Workspace) (p : Path) : Except Failure Workspace :=
  w.makeFolders p.names.length p

end Workspace

end PlotPipe
