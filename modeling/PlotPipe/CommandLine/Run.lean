import PlotPipe.Channel.Pipe
import PlotPipe.CommandLine.Plan
import PlotPipe.Journal.Basic
/-!
# Command line — runs

What comes of an invocation on a host, as one value: the outcome, the
text for standard output, the notices, and what was done to the program
and to the files. A dry run shows the script and starts nothing; a live
run starts the program, sends the script within a session, and closes it
in any case.

Most failures are reported, as a last notice and by the exit code; the
others are left to whoever asked for the run.
-/

namespace PlotPipe

namespace CommandLine

/-- The surroundings of a run. -/
structure Host where
  workspace : Workspace := {}
  /-- Start a program. -/
  start : Launch → Except Failure PipeChannel
  clock : Int := 0

/-- What has come of a run. -/
structure Report where
  result : Except Failure Unit
  /-- The text for standard output. -/
  output : String := ""
  notices : List Notice := []
  /-- The words of the command that was to be started. -/
  command : Option (List Datum) := none
  channel : Option PipeChannel := none
  workspace : Workspace := {}

namespace Report

/-- The failure that a run reports. -/
def reported? (r : Report) : Option Failure :=
  match r.result with
  | .ok () => none
  | .error failure => if failure.kind.isReported then some failure else none

/-- The exit code of a run; there is none when its failure is left to
others. -/
def code? (r : Report) : Option Nat :=
  match r.result with
  | .ok () => some 0
  | .error _ => r.reported?.map fun _ => 1

/-- All notices of a run, the reported failure last. -/
def allNotices (r : Report) : List Notice :=
  r.notices ++ (r.reported?.map fun failure => .commandLine .error failure.message).toList

end Report

namespace Plan

/-- The journal that a plan asks for. -/
def openJournal (p : Plan) (workspace : Workspace) : Except Failure (Option Journal) :=
  match p.config.journalPath with
  | none => .ok none
  | some path => (Journal.create (.ofText path) workspace).map some

/-- The session of a plan over a channel to its program. -/
def session (p : Plan) (channel : PipeChannel) (journal : Option Journal) (clock : Int) :
    Session PipeChannel Journal where
  channel := channel
  recorder := journal
  verbose := p.config.verbose
  strict := p.config.strict
  notices := [p.config.launch.notice channel.pid]
  clock := clock

/-- Show what a plan would send. -/
def preview (p : Plan) (workspace : Workspace) : Report :=
  match p.script with
  | .ok script => { result := .ok (), output := script, workspace }
  | .error failure => { result := .error failure, workspace }

/-- Perform a plan, with its journal open. -/
def performWith (p : Plan) (journal : Option Journal) (host : Host) : Report :=
  let command := some p.config.launch.command
  let files (journal : Option Journal) := (journal.map Journal.workspace).getD host.workspace
  match host.start p.config.launch with
  | .error failure =>
    { result := .error (p.config.launch.ofFailure failure), command, workspace := files journal }
  | .ok channel =>
    let (result, s) := (p.session channel journal host.clock).within fun s => s.perform p.request
    { result, output := s.echo, notices := s.notices, command, channel := some s.channel,
      workspace := files s.recorder }

/-- Perform a plan. The journal is opened before the program is started. -/
def perform (p : Plan) (host : Host) : Report :=
  match p.openJournal host.workspace with
  | .ok journal => p.performWith journal host
  | .error failure => { result := .error failure, workspace := host.workspace }

end Plan

/-- Run an invocation. -/
def Invocation.run (i : Invocation) (host : Host) : Report :=
  match i.plan host.workspace with
  | .error failure => { result := .error failure, workspace := host.workspace }
  | .ok plan => if i.dryRun then plan.preview host.workspace else plan.perform host

/-- The exit code after words that leave nothing to do. -/
def Stop.code : Stop → Nat
  | help => 0
  | misuse => 2

end CommandLine

end PlotPipe
