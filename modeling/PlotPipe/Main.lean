import PlotPipe.CommandLine.Run
/-!
# The program

Reads the command line and the files that it names, and carries out what
comes of the run. A script goes to standard output, for a plotting
program behind a pipe; notices and the echo of a verbose session go to
standard error.
-/

namespace PlotPipe

/-- Put the file at a path into a workspace, if it can be read. -/
def Workspace.fetch (w : Workspace) (p : Path) : IO Workspace := do
  try return w.put p (← IO.FS.readBinFile p.text)
  catch _ => return w

/-- Write a file of a workspace with the folder that holds it. -/
def Workspace.store (w : Workspace) (p : Path) : IO Unit := do
  match w.file? p with
  | some content =>
    IO.FS.createDirAll p.parent.text
    IO.FS.writeBinFile p.text content
  | none => pure ()

namespace CommandLine

/-- The files that an invocation may name. -/
def Invocation.paths (i : Invocation) : List Path :=
  match i.source with
  | .expressions _ => i.config.toList
  | .file path _ => Table.candidates path ++ i.config.toList

/-- What a run has sent to its program. -/
def Report.sent (r : Report) : String :=
  match r.channel with
  | none => ""
  | some channel =>
    String.join (channel.events.map fun event =>
      match event with
      | .write data => data
      | _ => "")

/-- The help text. -/
def help : String :=
  "usage: [--log-level LEVEL] func EXPRESSION... [OPTION...]\n"
    ++ "       [--log-level LEVEL] data FILE [OPTION...]\n"

/-- Carry out an invocation. -/
def Invocation.carryOut (i : Invocation) : IO UInt32 := do
  let mut workspace : Workspace := {}
  for path in i.paths do
    workspace ← workspace.fetch path
  let journalPath := match i.sessionConfig workspace with
    | .ok config => config.journalPath.map Path.ofText
    | .error _ => none
  if let some path := journalPath then
    workspace ← workspace.fetch path
  let host : Host :=
    { workspace, start := fun _ => .ok { pid := 0, pipe := some {} }, clock := ← IO.monoNanosNow }
  let report := i.run host
  if i.dryRun then
    IO.print report.output
  else
    IO.eprint report.output
    IO.print report.sent
    if let some path := journalPath then
      report.workspace.store path
  IO.eprint (Notice.render i.level report.allNotices)
  match report.result, report.code? with
  | .error failure, none =>
    IO.eprintln failure.message
    return 1
  | _, code => return (code.getD 0).toUInt32

end CommandLine

end PlotPipe

/-- The program. -/
def main (arguments : List String) : IO UInt32 := do
  match PlotPipe.CommandLine.Invocation.parse arguments with
  | .ok invocation => invocation.carryOut
  | .error stop =>
    IO.eprint PlotPipe.CommandLine.help
    return stop.code.toUInt32
