import PlotPipe.Channel.Basic
import PlotPipe.Script.Plot
import PlotPipe.Text.Alphabet
/-!
# Sessions

A session owns one channel. Each request is turned into a complete
script first; only then is the script encoded and handed to the channel,
in one piece. A request that cannot be turned into a script leaves no
trace. A failed write is final: the session can only be closed after it.
A strict session checks the settings and series of a request before it
writes their script.

What a session shows of its work is kept with it: the script last sent,
the echo of a verbose session, and notices. A recorder, where there is
one, gets an entry for each script that was sent. The session remembers
whether the last plot left the x axis in time mode. A script is shown
before it is encoded, so that one that cannot be is shown and goes no
further.
-/

namespace PlotPipe

/-- A record of a script that was sent. -/
structure Entry where
  time : Int
  operation : String
  bytes : Nat
  script : String
  deriving DecidableEq

/-- States of a recorder of entries. -/
class Recorder (ρ : Type) where
  /-- Take an entry. -/
  record : Entry → ρ → Except Failure Unit × ρ

/-- What a session can be asked for. -/
inductive Request where
  | set (options : Options)
  | unset (dimensions : Dimensions)
  | plot (series : Series) (options : Options)
  | plotMany (series : List Series) (options : Options)
  | plotExpression (expression : Datum) (options : Options)

namespace Request

/-- The name of a request. -/
def name : Request → String
  | set _ => "set"
  | unset _ => "unset"
  | plot _ _ => "plot"
  | plotMany _ _ => "plot_many"
  | plotExpression _ _ => "plot_func"

/-- The series of a request to plot, with its settings. -/
def plotted? : Request → Option (List Series × Options)
  | set _ | unset _ => none
  | plot series options => some ([series], options)
  | plotMany series options => some (series, options)
  | plotExpression expression options =>
    some ([{ style := .lines, trace := .expression expression }], options)

/-- The axis mode that a request leaves: time or numbers, or as it was. -/
def timeAxis? (r : Request) : Option Bool :=
  r.plotted?.map fun (series, _) => series.any fun s => s.trace.isTime

/-- The strict check of the series of a plot, in order. -/
def checkSeries : List Series → Except Failure Unit
  | [] => .ok ()
  | s :: rest => do
    s.check
    checkSeries rest

/-- The strict check of a request; there is nothing to check in a
reset. -/
def check (r : Request) : Except Failure Unit := do
  match r with
  | set options => options.check
  | unset _ => pure ()
  | r =>
    match r.plotted? with
    | some (series, options) =>
      options.check
      checkSeries series
    | none => pure ()

/-- A plot of no series is refused. -/
def permit (r : Request) : Except Failure Unit :=
  match r.plotted? with
  | some ([], _) => .error (.emptySeries r.name)
  | _ => .ok ()

/-- The script of a request, when the x axis is in time mode or not. -/
def script (timeAxis : Bool) (r : Request) : Except Failure String :=
  match r with
  | set options => Script.set options
  | unset dimensions => Script.unset dimensions
  | r =>
    match r.plotted? with
    | some (series, options) => Script.plot timeAxis series options
    | none => .ok ""

end Request

/-- A session over a channel, with a recorder or without. -/
structure Session (σ ρ : Type) where
  channel : σ
  recorder : Option ρ
  verbose : Bool := false
  strict : Bool := false
  closed : Bool := false
  /-- What the failed write said. -/
  failure : Option String := none
  lastScript : Option String := none
  timeAxis : Bool := false
  echo : String := ""
  notices : List Notice := []
  /-- The time that goes into the next entry. -/
  clock : Int := 0
  /-- What the characters of scripts stand for. -/
  alphabet : Alphabet := {}

namespace Session

variable {σ ρ : Type}

/-- The session takes requests: it is open and no write has failed. -/
def permit (s : Session σ ρ) : Except Failure Unit :=
  if s.closed then .error .sessionClosed
  else
    match s.failure with
    | some message => .error (.write (.unusable message))
    | none => .ok ()

/-- The script that a request would send. -/
def prepare (s : Session σ ρ) (r : Request) : Except Failure String := do
  s.permit
  r.permit
  if s.strict then r.check
  r.script s.timeAxis

/-- Note something. -/
def note (s : Session σ ρ) (level : Notice.Level) (text : String) : Session σ ρ :=
  { s with notices := s.notices ++ [.session level text] }

/-- Show a script that is about to be sent. -/
def display (s : Session σ ρ) (script : String) : Session σ ρ :=
  if s.verbose then { s with echo := s.echo ++ script } else s

/-- Take a failure of the channel. Failed writes and complaints of the
system make the session unusable, other failures do not. -/
def fail (s : Session σ ρ) (operation : String) (failure : Failure) :
    Except Failure Unit × Session σ ρ :=
  let noted := s.note .warning ("gnuplot " ++ operation ++ " write failed: " ++ failure.message)
  match failure.kind with
  | .write => (.error failure, { noted with failure := some failure.message })
  | .system _ =>
    let cause : WriteFault := .channel failure.message
    (.error (.write cause), { noted with failure := some cause.message })
  | _ => (.error failure, s)

/-- Record a script that was sent. -/
def record [Recorder ρ] (s : Session σ ρ) (operation script : String) :
    Except Failure Unit × Session σ ρ :=
  match s.recorder with
  | none => (.ok (), s)
  | some recorder =>
    let entry : Entry := ⟨s.clock, operation, script.utf8ByteSize, script⟩
    let (result, recorder) := Recorder.record entry recorder
    (result, { s with recorder := some recorder })

/-- Send a script; an empty one is not sent. The script is shown first,
and encoded before the channel is called for it. -/
def deliver [Channel σ] [Recorder ρ] (s : Session σ ρ) (operation script : String) :
    Except Failure Unit × Session σ ρ :=
  if script.isEmpty then
    (.ok (), s.note .debug (operation ++ " rendered no directives; nothing written"))
  else
    let s := s.display script
    match s.alphabet.encode script with
    | .error failure => (.error failure, s)
    | .ok data =>
      let (result, channel) := Channel.write script s.channel
      let s := { s with channel }
      match result with
      | .error failure => s.fail operation failure
      | .ok () =>
        let s := { s with lastScript := some script }
        let size := toString data.size
        let s := s.note .debug ("gnuplot " ++ operation ++ " wrote " ++ size ++ " bytes")
        s.record operation script

/-- Perform a request. The axis mode changes when everything else has
gone well. -/
def perform [Channel σ] [Recorder ρ] (s : Session σ ρ) (r : Request) :
    Except Failure Unit × Session σ ρ :=
  match s.prepare r with
  | .error failure => (.error failure, s)
  | .ok script =>
    match s.deliver r.name script with
    | (.error failure, s) => (.error failure, s)
    | (.ok (), s) => (.ok (), { s with timeAxis := r.timeAxis?.getD s.timeAxis })

/-- Close the session and its channel, once. -/
def close [Channel σ] (s : Session σ ρ) : Except Failure Unit × Session σ ρ :=
  if s.closed then (.ok (), s)
  else
    let s := { s with closed := true }.note .debug "closing gnuplot session"
    let (result, channel) := Channel.close s.channel
    let s := { s with channel }
    match result with
    | .ok notices => (.ok (), { s with notices := s.notices ++ notices })
    | .error failure => (.error failure, s)

/-- Do something with a session and close it in any case. A failure to
close hides a failure before it. -/
def within [Channel σ] {α : Type} (s : Session σ ρ)
    (body : Session σ ρ → Except Failure α × Session σ ρ) : Except Failure α × Session σ ρ :=
  let (result, s) := body s
  match s.close with
  | (.error failure, s) => (.error failure, s)
  | (.ok (), s) => (result, s)

end Session

end PlotPipe
