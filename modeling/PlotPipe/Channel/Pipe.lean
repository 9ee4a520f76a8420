import PlotPipe.Channel.Basic
import PlotPipe.Datum.Items
/-!
# Channels — the pipe to a program

A plotting program is started with a pipe to its standard input. A write
sends the script and flushes the pipe; closing the channel closes the
pipe, which ends the program. The pipe keeps its events in order, and a
fault can be set at each kind of event, which happens once, after the
event has been noted. Complaints of the system about a write or a flush
are failed writes; about closing, they are only noted, since the program
may have ended by itself.
-/

namespace PlotPipe

/-- What happens to the standard input of a program. -/
inductive PipeEvent where
  | write (data : String)
  | flush
  | close
  deriving DecidableEq

/-- A pipe with its history and its pending faults. -/
structure Pipe where
  events : List PipeEvent := []
  onWrite : Option Failure := none
  onFlush : Option Failure := none
  onClose : Option Failure := none

namespace Pipe

/-- Fail as it is pending. -/
def raise : Option Failure → Except Failure Unit
  | some failure => .error failure
  | none => .ok ()

/-- Send data. -/
def write (data : String) (p : Pipe) : Except Failure Unit × Pipe :=
  (raise p.onWrite, { p with events := p.events ++ [.write data], onWrite := none })

/-- Hand over what has been sent. -/
def flush (p : Pipe) : Except Failure Unit × Pipe :=
  (raise p.onFlush, { p with events := p.events ++ [.flush], onFlush := none })

/-- Close the pipe. -/
def close (p : Pipe) : Except Failure Unit × Pipe :=
  (raise p.onClose, { p with events := p.events ++ [.close], onClose := none })

/-- Send data and hand it over; the second only after the first. -/
def send (data : String) (p : Pipe) : Except Failure Unit × Pipe :=
  match p.write data with
  | (.error failure, p) => (.error failure, p)
  | (.ok (), p) => p.flush

end Pipe

/-- A channel to a started program, which may lack a standard input. -/
structure PipeChannel where
  pid : Nat
  pipe : Option Pipe
  closed : Bool := false

namespace PipeChannel

/-- The failure of a write after a failure of the pipe: complaints of the
system and refused values are failed writes, others stay as they are. -/
def ofPipeFailure (failure : Failure) : Failure :=
  if failure.isRefusal then .write (.pipe failure.message) else failure

/-- Send a script to the program. -/
def write (data : String) (c : PipeChannel) : Except Failure Unit × PipeChannel :=
  if c.closed then (.error (.write .pipeClosed), c)
  else
    match c.pipe with
    | none => (.error (.write .noInput), c)
    | some pipe =>
      let (result, pipe) := pipe.send data
      (result.mapError ofPipeFailure, { c with pipe := some pipe })

/-- The outcome of closing the pipe: complaints of the system become a
notice. -/
def closeOutcome (result : Except Failure Unit) : Except Failure (List Notice) :=
  match result with
  | .ok () => .ok []
  | .error failure =>
    if failure.kind.isSystem then
      .ok [.channel .warning ("closing gnuplot stdin failed: " ++ failure.message)]
    else .error failure

/-- Close the pipe, once. -/
def close (c : PipeChannel) : Except Failure (List Notice) × PipeChannel :=
  if c.closed then (.ok [], c)
  else
    match c.pipe with
    | none => (.ok [], { c with closed := true })
    | some pipe =>
      let (result, pipe) := pipe.close
      (closeOutcome result, { c with pipe := some pipe, closed := true })

/-- The identity of the program while the channel is open. -/
def pid? (c : PipeChannel) : Option Nat := if c.closed then none else some c.pid

/-- The events of the pipe. -/
def events (c : PipeChannel) : List PipeEvent := (c.pipe.map Pipe.events).getD []

end PipeChannel

instance : Channel PipeChannel where
  write := PipeChannel.write
  close := PipeChannel.close

/-- How a program is started: its name, arguments, and variables that
are added to the environment. Whether the words are texts is left to the
system. -/
structure Launch where
  program : Datum
  arguments : List Datum
  environment : Option (List (String × Datum)) := none

namespace Launch

/-- The program that is started when none is named. -/
def defaultProgram : String := "gnuplot"

/-- The name of a program, or of the default one. -/
def programOr (name : Option String) : String :=
  match name with
  | some name => if name.isEmpty then defaultProgram else name
  | none => defaultProgram

/-- The start of a program with arguments. -/
def ofTexts (program : String) (arguments : List String) : Launch :=
  { program := .text program, arguments := arguments.map .text }

/-- The variables that a value stands for. -/
def environmentOf : Datum → Except Failure (Option (List (String × Datum)))
  | .null => .ok none
  | .dict entries => .ok (some entries)
  | d => .error (.misuse (.notMapping d.typeName))

/-- The start of a program that a value names, with the items of another
one as arguments. A name that does not count as set stands for the
default program. -/
def ofValues (program arguments environment : Datum) : Except Failure Launch := do
  let program := if ← program.isSet then program else .text defaultProgram
  let arguments ← arguments.spread
  return { program, arguments, environment := ← environmentOf environment }

/-- The words of the command. -/
def command (l : Launch) : List Datum := l.program :: l.arguments

/-- The failure of a start: what the system or a check of the words says
is a failed start, others stay as they are. -/
def ofFailure (l : Launch) (failure : Failure) : Failure :=
  if failure.isRefusal then .launch l.program.literal failure.message else failure

/-- The notice of a program that has started. -/
def notice (l : Launch) (pid : Nat) : Notice :=
  .channel .info
    ("started gnuplot process pid=" ++ toString pid
      ++ " command=" ++ (Datum.list l.command).literal)

end Launch

end PlotPipe
