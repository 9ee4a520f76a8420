import PlotPipe.Config.Session
import PlotPipe.Config.Toml.Document
import PlotPipe.Workspace
/-!
# Configuration — files

The settings of a session from a file of a workspace. The file has to be
there, its bytes have to be text, and the text has to be a document of
tables.
-/

namespace PlotPipe

namespace SessionConfig

/-- The settings that the bytes of a file spell out. -/
def ofBytes (machine : Machine) (content : ByteArray) : Except Failure SessionConfig := do
  let text ← Workspace.decode content
  parse (← Toml.read (machine.documentLevels text) text)

/-- The settings of the file at a path. -/
def load (workspace : Workspace) (path : Path) : Except Failure SessionConfig := do
  if ← workspace.exists? path then ofBytes workspace.machine (← workspace.read path)
  else throw (.system .notFound (.said ("session config not found: " ++ path.text)))

end SessionConfig

end PlotPipe
