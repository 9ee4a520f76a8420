import PlotPipe.Session
/-!
# Sessions — runs and what is seen of them

A run is a list of actions: requests, closings, and things that happen to
the channel between them. What an action comes to is an `Event`: its
result, the calls it makes of the channel, the entries it hands to the
recorder, and what it adds to the echo. These are taken down by listening
in (`Tapped`, `Tallied`), and listening changes nothing (`watch_eq_act`).

`Step` states everything one action can do. Every statement about runs is
read off it, by induction on `Runs`.
-/

namespace PlotPipe

/-- A call of a channel with what came of it. -/
inductive ChannelCall where
  | write (script : String) (result : Except Failure Unit)
  | close (result : Except Failure (List Notice))

namespace ChannelCall

/-- The script of a write that was accepted. -/
def accepted? : ChannelCall → Option String
  | write script (.ok ()) => some script
  | _ => none

/-- The script of a write that was refused. -/
def refused? : ChannelCall → Option String
  | write script (.error _) => some script
  | _ => none

/-- The script of a write, whatever became of it. -/
def written? : ChannelCall → Option String
  | write script _ => some script
  | close _ => none

/-- The call is a write. -/
def isWrite : ChannelCall → Bool
  | write _ _ => true
  | close _ => false

/-- The call is a closing. -/
def isClose : ChannelCall → Bool
  | write _ _ => false
  | close _ => true

variable (script : String) (f : Failure) (result : Except Failure (List Notice))

@[simp] theorem accepted?_write_ok : (write script (.ok ())).accepted? = some script := rfl

@[simp] theorem accepted?_write_error : (write script (.error f)).accepted? = none := rfl

@[simp] theorem accepted?_close : (close result).accepted? = none := rfl

@[simp] theorem refused?_write_ok : (write script (.ok ())).refused? = none := rfl

@[simp] theorem refused?_write_error : (write script (.error f)).refused? = some script := rfl

@[simp] theorem refused?_close : (close result).refused? = none := rfl

@[simp] theorem written?_write (outcome : Except Failure Unit) :
    (write script outcome).written? = some script := rfl

@[simp] theorem written?_close : (close result).written? = none := rfl

end ChannelCall

/-- A channel with the calls that are made of it. -/
structure Tapped (σ : Type) where
  inner : σ
  calls : List ChannelCall := []

instance {σ : Type} [Channel σ] : Channel (Tapped σ) where
  write script c :=
    let (result, inner) := Channel.write script c.inner
    (result, ⟨inner, c.calls ++ [.write script result]⟩)
  close c :=
    let (result, inner) := Channel.close c.inner
    (result, ⟨inner, c.calls ++ [.close result]⟩)

/-- A recorder with the entries that are handed to it. -/
structure Tallied (ρ : Type) where
  inner : ρ
  entries : List Entry := []

instance {ρ : Type} [Recorder ρ] : Recorder (Tallied ρ) where
  record entry r :=
    let (result, inner) := Recorder.record entry r.inner
    (result, ⟨inner, r.entries ++ [entry]⟩)

/-- Something that is done with a session, or that happens to its channel
in the meantime. -/
inductive Action (ε : Type) where
  | request (r : Request)
  | close
  | disturb (e : ε)

/-- What an action comes to. -/
structure Event (ε : Type) where
  action : Action ε
  result : Except Failure Unit
  calls : List ChannelCall := []
  entries : List Entry := []
  echoed : String := ""

namespace Event

variable {ε : Type}

/-- The scripts of an event that the channel took. -/
def accepted (e : Event ε) : List String := e.calls.filterMap ChannelCall.accepted?

/-- The scripts of an event that the channel refused. -/
def refused (e : Event ε) : List String := e.calls.filterMap ChannelCall.refused?

/-- The action came to a regular end. -/
def isOk (e : Event ε) : Bool := e.result.isOk

end Event

namespace Request

/-- The axis mode after a request that found the mode `timed`. -/
def axisAfter (r : Request) (timed : Bool) : Bool := r.timeAxis?.getD timed

end Request

namespace Failure

/-- A failure that a session takes for a failed write: one that says so,
or a complaint of the system. -/
def isFailedWrite (f : Failure) : Bool := f.kind = .write || f.kind.isSystem

/-- The failure that a session shows for a failure of its channel. -/
def surfaced (f : Failure) : Failure :=
  if f.kind.isSystem then .write (.channel f.message) else f

end Failure

namespace Session

variable {σ ρ ε : Type}

/-- Listen in on the channel, the recorder and the echo. -/
def tapped (s : Session σ ρ) : Session (Tapped σ) (Tallied ρ) :=
  { s with
    channel := ⟨s.channel, []⟩
    recorder := s.recorder.map fun r => ⟨r, []⟩
    echo := "" }

/-- Stop listening; `before` is the echo from before. -/
def untapped (before : String) (t : Session (Tapped σ) (Tallied ρ)) : Session σ ρ :=
  { t with
    channel := t.channel.inner
    recorder := t.recorder.map Tallied.inner
    echo := before ++ t.echo }

/-- What is shown of a script. -/
def shown (s : Session σ ρ) (script : String) : String := if s.verbose then script else ""

/-- The entry of a script. -/
def entry (s : Session σ ρ) (operation script : String) : Entry :=
  ⟨s.clock, operation, script.utf8ByteSize, script⟩

variable [Channel σ] [Recorder ρ] (env : ε → σ → σ)

/-- Carry out an action; `env` says what a disturbance does to the
channel. -/
def act (s : Session σ ρ) : Action ε → Except Failure Unit × Session σ ρ
  | .request r => s.perform r
  | .close => s.close
  | .disturb e => (.ok (), { s with channel := env e s.channel })

/-- Carry out an action while listening. -/
def watch (s : Session σ ρ) (a : Action ε) : Event ε × Session σ ρ :=
  let (result, t) := s.tapped.act (fun e c => { c with inner := env e c.inner }) a
  (⟨a, result, t.channel.calls, (t.recorder.map Tallied.entries).getD [], t.echo⟩,
    t.untapped s.echo)

/-- The session after several actions. -/
def run (s : Session σ ρ) (actions : List (Action ε)) : Session σ ρ :=
  actions.foldl (fun s a => (s.act env a).2) s

/-- The events of several actions, in order. -/
def trace (s : Session σ ρ) : List (Action ε) → List (Event ε)
  | [] => []
  | a :: rest => (s.watch env a).1 :: trace (s.watch env a).2 rest

/-- The events of several actions, each with the session that it
finds. -/
def history (s : Session σ ρ) : List (Action ε) → List (Session σ ρ × Event ε)
  | [] => []
  | a :: rest => (s, (s.watch env a).1) :: history (s.watch env a).2 rest

/-! ## Everything one action can do -/

/-- **What one action can do** to a session, with the event it makes. A
request is turned down, or has nothing to send, or its script cannot be
encoded, or is refused by the channel, or it is sent, with a recorder or
without; a closing finds the session closed or open. -/
inductive Step (s : Session σ ρ) : Event ε → Session σ ρ → Prop
  /-- The request is turned down before anything is shown. -/
  | turnedDown {r : Request} {f : Failure} :
      s.prepare r = .error f → Step s ⟨.request r, .error f, [], [], ""⟩ s
  /-- The script of the request is empty. -/
  | silent {r : Request} {notices : List Notice} :
      s.prepare r = .ok "" →
      Step s ⟨.request r, .ok (), [], [], ""⟩
        { s with notices, timeAxis := r.axisAfter s.timeAxis }
  /-- The script is shown, and cannot be encoded. -/
  | unencodable {r : Request} {script : String} {f : Failure} :
      s.prepare r = .ok script → script ≠ "" → s.alphabet.encode script = .error f →
      Step s ⟨.request r, .error f, [], [], s.shown script⟩
        { s with echo := s.echo ++ s.shown script }
  /-- The channel refuses the script. -/
  | refused {r : Request} {script : String} {data : ByteArray} {f : Failure} {channel : σ}
      {notices : List Notice} :
      s.prepare r = .ok script → script ≠ "" → s.alphabet.encode script = .ok data →
      Channel.write script s.channel = (.error f, channel) →
      Step s ⟨.request r, .error f.surfaced, [.write script (.error f)], [], s.shown script⟩
        { s with
          channel, notices
          echo := s.echo ++ s.shown script
          failure := if f.isFailedWrite then some f.surfaced.message else s.failure }
  /-- The script is sent, and nobody records it. -/
  | sent {r : Request} {script : String} {data : ByteArray} {channel : σ}
      {notices : List Notice} :
      s.prepare r = .ok script → script ≠ "" → s.alphabet.encode script = .ok data →
      Channel.write script s.channel = (.ok (), channel) →
      s.recorder = none →
      Step s ⟨.request r, .ok (), [.write script (.ok ())], [], s.shown script⟩
        { s with
          channel, notices
          echo := s.echo ++ s.shown script
          lastScript := some script
          timeAxis := r.axisAfter s.timeAxis }
  /-- The script is sent and recorded; the axis mode is only changed when
  the recorder has come to a regular end. -/
  | recorded {r : Request} {script : String} {data : ByteArray} {channel : σ}
      {notices : List Notice} {keeper keeper' : ρ} {result : Except Failure Unit} :
      s.prepare r = .ok script → script ≠ "" → s.alphabet.encode script = .ok data →
      Channel.write script s.channel = (.ok (), channel) →
      s.recorder = some keeper →
      Recorder.record (s.entry r.name script) keeper = (result, keeper') →
      Step s ⟨.request r, result, [.write script (.ok ())], [s.entry r.name script],
          s.shown script⟩
        { s with
          channel, notices
          recorder := some keeper'
          echo := s.echo ++ s.shown script
          lastScript := some script
          timeAxis := if result.isOk then r.axisAfter s.timeAxis else s.timeAxis }
  /-- The session was closed before. -/
  | closedBefore : s.closed = true → Step s ⟨.close, .ok (), [], [], ""⟩ s
  /-- The session is closed, and its channel with it. -/
  | closing {result : Except Failure (List Notice)} {channel : σ} {notices : List Notice} :
      s.closed = false → Channel.close s.channel = (result, channel) →
      Step s ⟨.close, result.map fun _ => (), [.close result], [], ""⟩
        { s with channel, notices, closed := true }
  /-- Something happens to the channel. -/
  | disturbed {e : ε} :
      Step s ⟨.disturb e, .ok (), [], [], ""⟩ { s with channel := env e s.channel }

/-- Several steps, one after the other. -/
inductive Runs : Session σ ρ → List (Event ε) → Session σ ρ → Prop
  | nil {s : Session σ ρ} : Runs s [] s
  | cons {s s₁ s' : Session σ ρ} {e : Event ε} {t : List (Event ε)} :
      Step env s e s₁ → Runs s₁ t s' → Runs s (e :: t) s'

end Session

end PlotPipe
