import PlotPipe.Channel.Pipe
import PlotPipe.Journal.Basic
import PlotPipe.Proofs.Session.Calls
/-!
# Sessions — the events of a pipe

What the standard input of a program hears in a run. `Heard` gives the
events that each call of the channel makes, for every way in which a
fault can cut a call short. Since the calls of a run are in order, so are
its events (`Disciplined`): each script that was accepted, written and
flushed; what was heard of the one that was refused; and one closing, if
there was one.
-/

namespace PlotPipe

/-- A failure that the standard input of a program can raise: a complaint
of the system, a refused value, or a failed write. -/
def Failure.isPipeFault (f : Failure) : Bool := f.isRefusal || f.kind = .write

/-- The kinds of events of a pipe. -/
inductive PipePlace where
  | write | flush | close

/-- A fault that is set at one kind of event. -/
structure PipeFault where
  place : PipePlace
  failure : Failure
  raised : failure.isPipeFault

namespace Pipe

/-- Set a fault. -/
def await (fault : PipeFault) (p : Pipe) : Pipe :=
  match fault.place with
  | .write => { p with onWrite := some fault.failure }
  | .flush => { p with onFlush := some fault.failure }
  | .close => { p with onClose := some fault.failure }

/-- The faults that are pending for a write or a flush are faults of
pipes. -/
structure Sound (p : Pipe) : Prop where
  onWrite : ∀ f, p.onWrite = some f → f.isPipeFault
  onFlush : ∀ f, p.onFlush = some f → f.isPipeFault

variable {p p' : Pipe} {script : String} {f : Failure}

/-- What sending a script comes to, with the events that it makes. -/
theorem send_cases (script : String) (p : Pipe) :
    (∃ f, p.onWrite = some f ∧ p.send script =
      (.error f, { p with events := p.events ++ [.write script], onWrite := none })) ∨
    (∃ f, p.onWrite = none ∧ p.onFlush = some f ∧ p.send script = (.error f,
      { p with events := p.events ++ [.write script, .flush], onFlush := none })) ∨
    (p.onWrite = none ∧ p.onFlush = none ∧ p.send script =
      (.ok (), { p with events := p.events ++ [.write script, .flush] })) := by
  obtain ⟨events, onWrite, onFlush, onClose⟩ := p
  rcases onWrite with _ | f
  · rcases onFlush with _ | f
    · exact .inr (.inr ⟨rfl, rfl, by simp [send, write, flush, raise]⟩)
    · exact .inr (.inl ⟨f, rfl, rfl, by simp [send, write, flush, raise]⟩)
  · exact .inl ⟨f, rfl, rfl⟩

theorem Sound.send (h : p.Sound) (script : String) : (p.send script).2.Sound := by
  rcases p.send_cases script with ⟨f, -, hsend⟩ | ⟨f, hwrite, -, hsend⟩ | ⟨hwrite, hflush, hsend⟩
  · rw [hsend]
    exact ⟨by simp, h.onFlush⟩
  · rw [hsend]
    exact ⟨h.onWrite, by simp⟩
  · rw [hsend]
    exact ⟨h.onWrite, h.onFlush⟩

theorem Sound.await (h : p.Sound) (fault : PipeFault) : (p.await fault).Sound := by
  obtain ⟨place, failure, hraised⟩ := fault
  have hnew : ∀ f, some failure = some f → f.isPipeFault := by
    rintro f hf
    rwa [← Option.some.inj hf]
  cases place with
  | write => exact ⟨hnew, h.onFlush⟩
  | flush => exact ⟨h.onWrite, hnew⟩
  | close => exact ⟨h.onWrite, h.onFlush⟩

end Pipe

/-- **What a pipe hears** of several calls. A write that is refused may
have been cut short by the write itself or by the flush. -/
inductive Heard : List ChannelCall → List PipeEvent → Prop
  | nil : Heard [] []
  | accepted {calls : List ChannelCall} {events : List PipeEvent} {script : String} :
      Heard calls events →
      Heard (.write script (.ok ()) :: calls) (.write script :: .flush :: events)
  | unwritten {calls : List ChannelCall} {events : List PipeEvent} {script : String}
      {f : Failure} : Heard calls events →
      Heard (.write script (.error f) :: calls) (.write script :: events)
  | unflushed {calls : List ChannelCall} {events : List PipeEvent} {script : String}
      {f : Failure} : Heard calls events →
      Heard (.write script (.error f) :: calls) (.write script :: .flush :: events)
  | close {calls : List ChannelCall} {events : List PipeEvent}
      {result : Except Failure (List Notice)} : Heard calls events →
      Heard (.close result :: calls) (.close :: events)

namespace Heard

variable {calls calls' : List ChannelCall} {events events' : List PipeEvent}

theorem append (h : Heard calls events) (h' : Heard calls' events') :
    Heard (calls ++ calls') (events ++ events') := by
  induction h with
  | nil => exact h'
  | accepted _ ih => exact .accepted ih
  | unwritten _ ih => exact .unwritten ih
  | unflushed _ ih => exact .unflushed ih
  | close _ ih => exact .close ih

/-- What a pipe hears of a closing that may be missing. -/
theorem eq_of_closing {closing : Option (Except Failure (List Notice))}
    (h : Heard (closing.map .close).toList events) :
    events = if closing.isSome then [.close] else [] := by
  rcases closing with _ | result
  · cases h
    rfl
  · cases h with
    | close hrest =>
      cases hrest
      rfl

/-- **What a pipe hears of calls in order**: a write and a flush for each
script that was accepted, a write, or a write and a flush, for the one
that was refused, and the closing. -/
theorem eq_of_inOrder {scripts : List String} {refusal : Option (String × Failure)}
    {closing : Option (Except Failure (List Notice))}
    (h : Heard (ChannelCall.inOrder scripts refusal closing) events) :
    ∃ broken, events = scripts.flatMap (fun script => [.write script, .flush]) ++ broken ++
        (if closing.isSome then [.close] else []) ∧
      match refusal with
      | none => broken = []
      | some (script, _) => broken = [.write script] ∨ broken = [.write script, .flush] := by
  induction scripts generalizing events with
  | nil =>
    rcases refusal with _ | ⟨script, f⟩
    · exact ⟨[], eq_of_closing h, rfl⟩
    · cases h with
      | unwritten hrest => exact ⟨[.write script], by rw [eq_of_closing hrest]; rfl, .inl rfl⟩
      | unflushed hrest =>
        exact ⟨[.write script, .flush], by rw [eq_of_closing hrest]; rfl, .inr rfl⟩
  | cons script scripts ih =>
    -- The first call is an accepted write, which is heard in one way only.
    cases h with
    | accepted hrest =>
      obtain ⟨broken, hevents, hbroken⟩ := ih hrest
      exact ⟨broken, by rw [hevents]; rfl, hbroken⟩

end Heard

namespace PipeChannel

/-- Set a fault at the pipe of a channel. -/
def await (fault : PipeFault) (c : PipeChannel) : PipeChannel :=
  { c with pipe := c.pipe.map (Pipe.await fault) }

/-- The pending faults of a channel are faults of pipes. -/
def Sound (c : PipeChannel) : Prop := ∀ p, c.pipe = some p → p.Sound

variable {c c' : PipeChannel} {p : Pipe} {script : String} {f : Failure}

/-- A fault of a pipe shows as a failed write. -/
theorem isFailedWrite_ofPipeFailure (h : f.isPipeFault) : (ofPipeFailure f).isFailedWrite := by
  unfold ofPipeFailure
  unfold Failure.isPipeFault at h
  rcases hrefusal : f.isRefusal with _ | _
  · simp only [hrefusal, Bool.false_or, decide_eq_true_eq] at h
    simp [Failure.isFailedWrite, h]
  · rfl

theorem write_of_closed (hclosed : c.closed = true) :
    Channel.write script c = (.error (.write .pipeClosed), c) := by
  show c.write script = _
  unfold write
  rw [if_pos hclosed]

theorem write_of_none (hopen : c.closed = false) (hp : c.pipe = none) :
    Channel.write script c = (.error (.write .noInput), c) := by
  show c.write script = _
  unfold write
  rw [if_neg (by simp [hopen]), hp]

theorem events_await (fault : PipeFault) (c : PipeChannel) : (c.await fault).events = c.events := by
  obtain ⟨pid, pipe, closed⟩ := c
  obtain ⟨place, failure, hraised⟩ := fault
  rcases pipe with _ | p
  · rfl
  · cases place <;> rfl

/-- A write to an open channel is sent to its pipe. -/
theorem write_of_pipe (hopen : c.closed = false) (hp : c.pipe = some p) :
    Channel.write script c = ((p.send script).1.mapError ofPipeFailure,
      { c with pipe := some (p.send script).2 }) := by
  show c.write script = _
  unfold write
  rw [if_neg (by simp [hopen]), hp]

/-- A closing of an open channel is a closing of its pipe. -/
theorem close_of_pipe (hopen : c.closed = false) (hp : c.pipe = some p) :
    Channel.close c = (closeOutcome p.close.1,
      { c with pipe := some p.close.2, closed := true }) := by
  show c.close = _
  unfold close
  rw [if_neg (by simp [hopen]), hp]

/-- **Everything that a pipe refuses is a failed write**, as long as its
faults are faults of pipes; and they stay so. -/
theorem refusesAsWrite : Channel.RefusesAsWrite await Sound where
  refused {script c c' f} hsound h := by
    rcases hclosed : c.closed with _ | _
    · rcases hp : c.pipe with _ | p
      · rw [write_of_none hclosed hp] at h
        cases h
        rfl
      · rw [write_of_pipe hclosed hp] at h
        have hresult := (Prod.ext_iff.1 h).1
        rcases p.send_cases script with ⟨f', hf', hsend⟩ | ⟨f', -, hf', hsend⟩ | ⟨-, -, hsend⟩
        · rw [hsend] at hresult
          obtain rfl : ofPipeFailure f' = f := Except.error.inj hresult
          exact isFailedWrite_ofPipeFailure ((hsound p hp).onWrite f' hf')
        · rw [hsend] at hresult
          obtain rfl : ofPipeFailure f' = f := Except.error.inj hresult
          exact isFailedWrite_ofPipeFailure ((hsound p hp).onFlush f' hf')
        · rw [hsend] at hresult
          cases hresult
    · rw [write_of_closed hclosed] at h
      cases h
      rfl
  write {script c c' result} hsound h := by
    rcases hclosed : c.closed with _ | _
    · rcases hp : c.pipe with _ | p
      · rw [write_of_none hclosed hp] at h
        cases h
        exact hsound
      · rw [write_of_pipe hclosed hp] at h
        cases h
        rintro _ ⟨⟩
        exact (hsound p hp).send script
    · rw [write_of_closed hclosed] at h
      cases h
      exact hsound
  close {c c' result} hsound h := by
    rcases hclosed : c.closed with _ | _
    · rcases hp : c.pipe with _ | p
      · have hclose : c.close = (result, c') := h
        simp only [close, hclosed, hp, Bool.false_eq_true, if_false] at hclose
        cases hclose
        exact fun p' hp' => hsound p' (by rw [hp]; exact hp')
      · rw [close_of_pipe hclosed hp] at h
        cases h
        rintro _ ⟨⟩
        exact ⟨(hsound p hp).onWrite, (hsound p hp).onFlush⟩
    · have hclose : c.close = (result, c') := h
      simp only [close, hclosed, if_true] at hclose
      cases hclose
      exact hsound
  disturbed {fault c} hsound := by
    rintro p hp
    obtain ⟨p', hp', rfl⟩ := Option.map_eq_some_iff.1 hp
    exact (hsound p' hp').await fault

/-- What the pipe of an open channel hears of a write. -/
theorem heard_of_write {result : Except Failure Unit} (hopen : c.closed = false)
    (hp : c.pipe = some p) (h : Channel.write script c = (result, c')) :
    ∃ events, Heard [.write script result] events ∧ c'.events = c.events ++ events ∧
      c'.closed = false ∧ c'.pipe.isSome := by
  rw [write_of_pipe hopen hp] at h
  obtain ⟨rfl, rfl⟩ := Prod.ext_iff.1 h
  rcases p.send_cases script with ⟨f, -, hsend⟩ | ⟨f, -, -, hsend⟩ | ⟨-, -, hsend⟩
  · exact ⟨[.write script], by rw [hsend]; exact .unwritten .nil, by simp [events, hp, hsend],
      hopen, rfl⟩
  · exact ⟨[.write script, .flush], by rw [hsend]; exact .unflushed .nil,
      by simp [events, hp, hsend], hopen, rfl⟩
  · exact ⟨[.write script, .flush], by rw [hsend]; exact .accepted .nil,
      by simp [events, hp, hsend], hopen, rfl⟩

/-- What the pipe of an open channel hears of a closing. -/
theorem heard_of_close {result : Except Failure (List Notice)} (hopen : c.closed = false)
    (hp : c.pipe = some p) (h : Channel.close c = (result, c')) :
    ∃ events, Heard [.close result] events ∧ c'.events = c.events ++ events ∧
      c'.closed = true ∧ c'.pipe.isSome := by
  rw [close_of_pipe hopen hp] at h
  obtain ⟨rfl, rfl⟩ := Prod.ext_iff.1 h
  exact ⟨[.close], .close .nil, by simp [events, hp, Pipe.close], rfl, rfl⟩

end PipeChannel

namespace Session

variable {ρ : Type} [Recorder ρ] {s s' : Session PipeChannel ρ}
  {e : Event PipeFault} {t : List (Event PipeFault)}

/-- A session over a channel with a pipe, which is closed when the session
is. -/
structure Piped (s : Session PipeChannel ρ) : Prop where
  pipe : s.channel.pipe.isSome
  closed : s.channel.closed = s.closed

/-- **What the pipe hears of one step** are the calls of the step. -/
theorem Step.heard (hs : s.Piped) (h : Step PipeChannel.await s e s') :
    ∃ events, Heard e.calls events ∧ s'.channel.events = s.channel.events ++ events ∧
      s'.Piped := by
  obtain ⟨p, hp⟩ := Option.isSome_iff_exists.1 hs.pipe
  -- A script is only written in an open session, so to an open channel.
  have hwritten : ∀ {r : Request} {script : String} {result : Except Failure Unit}
      {channel : PipeChannel}, s.prepare r = .ok script →
      Channel.write script s.channel = (result, channel) →
      ∃ events, Heard [.write script result] events ∧
        channel.events = s.channel.events ++ events ∧
        channel.pipe.isSome ∧ channel.closed = s.closed := by
    intro r script result channel hprep hw
    have hopen := (open_of_prepare hprep).1
    obtain ⟨events, hheard, hevents, hclosed, hpipe⟩ :=
      PipeChannel.heard_of_write (hs.closed.trans hopen) hp hw
    exact ⟨events, hheard, hevents, hpipe, hclosed.trans hopen.symm⟩
  cases h with
  | refused hprep _ _ hw =>
    obtain ⟨events, hheard, hevents, hpipe, hclosed⟩ := hwritten hprep hw
    exact ⟨events, hheard, hevents, hpipe, hclosed⟩
  | sent hprep _ _ hw =>
    obtain ⟨events, hheard, hevents, hpipe, hclosed⟩ := hwritten hprep hw
    exact ⟨events, hheard, hevents, hpipe, hclosed⟩
  | recorded hprep _ _ hw =>
    obtain ⟨events, hheard, hevents, hpipe, hclosed⟩ := hwritten hprep hw
    exact ⟨events, hheard, hevents, hpipe, hclosed⟩
  | closing hopen hc =>
    obtain ⟨events, hheard, hevents, hclosed, hpipe⟩ :=
      PipeChannel.heard_of_close (hs.closed.trans hopen) hp hc
    exact ⟨events, hheard, hevents, hpipe, hclosed⟩
  | @disturbed fault =>
    refine ⟨[], .nil, ?_, ?_, hs.closed⟩
    · rw [List.append_nil]
      exact PipeChannel.events_await fault s.channel
    · simpa [PipeChannel.await] using hs.pipe
  | _ => exact ⟨[], .nil, (List.append_nil _).symm, hs.pipe, hs.closed⟩

/-- What the pipe hears of a run. -/
theorem Runs.heard (hs : s.Piped) (h : Runs PipeChannel.await s t s') :
    ∃ events, Heard (t.flatMap Event.calls) events ∧
      s'.channel.events = s.channel.events ++ events := by
  induction h with
  | nil => exact ⟨[], .nil, (List.append_nil _).symm⟩
  | cons hstep _ ih =>
    obtain ⟨events, hheard, hevents, hs₁⟩ := hstep.heard hs
    obtain ⟨rest, hrest, hevents'⟩ := ih hs₁
    exact ⟨events ++ rest, hheard.append hrest, by rw [hevents', hevents, List.append_assoc]⟩

/-- **The discipline of a pipe.** Each request writes once at most, and
the pipe hears a write and a flush of each script that was accepted, in
order; then, if a script was refused, which happens once at most, the
write of it, or the write and the flush; then one closing if the session
was closed at all, and nothing after it. -/
structure Disciplined (actions : List (Action PipeFault)) (t : List (Event PipeFault))
    (events : List PipeEvent) : Prop where
  calledOnce : ∀ e ∈ t, e.calls.length ≤ 1
  grammar : ∃ broken closing,
    events = (t.flatMap Event.accepted).flatMap (fun script => [.write script, .flush]) ++
      broken ++ closing ∧
    ((t.flatMap Event.refused = [] ∧ broken = []) ∨
      ∃ script, t.flatMap Event.refused = [script] ∧
        (broken = [.write script] ∨ broken = [.write script, .flush])) ∧
    ((.close ∉ actions ∧ closing = []) ∨ (.close ∈ actions ∧ closing = [.close]))

/-- **Every run keeps the discipline of its pipe**, for a session over a
program that has been started, and with faults of pipes set at any
time. -/
theorem disciplined_run (s : Session PipeChannel ρ) {pid : Nat}
    (hchannel : s.channel = { pid, pipe := some {} }) (hopen : s.closed = false)
    (actions : List (Action PipeFault)) :
    Disciplined actions (s.trace PipeChannel.await actions)
      (s.run PipeChannel.await actions).channel.events := by
  have hruns := runs_trace PipeChannel.await s actions
  have hpiped : s.Piped := ⟨by rw [hchannel]; rfl, by rw [hchannel, hopen]⟩
  have hsound : s.channel.Sound := by
    rw [hchannel]
    rintro _ ⟨⟩
    exact ⟨by simp, by simp⟩
  obtain ⟨events, hheard, hevents⟩ := hruns.heard hpiped
  obtain ⟨scripts, refusal, closing, hcalls⟩ :=
    hruns.orderly_calls PipeChannel.refusesAsWrite hsound
  rw [hcalls] at hheard
  obtain ⟨broken, rfl, hbroken⟩ := hheard.eq_of_inOrder
  -- The calls hold one closing or none, and a run closes once or never.
  have hclosing : closing.isSome ↔ .close ∈ actions := by
    have hcount := hruns.countP_close
    rw [hcalls, ChannelCall.countP_isClose_inOrder, hopen] at hcount
    have hsome : closing.isSome = (s.trace PipeChannel.await actions).any Event.isClosing := by
      revert hcount
      rcases closing.isSome with _ | _ <;>
        rcases (s.trace PipeChannel.await actions).any Event.isClosing with _ | _ <;> simp
    rw [hsome]
    exact any_isClosing_trace
  refine ⟨hruns.calls_length_le, broken, if closing.isSome then [.close] else [], ?_, ?_, ?_⟩
  · rw [hevents, flatMap_accepted, hcalls, ChannelCall.accepted_inOrder]
    rw [show s.channel.events = [] by rw [hchannel]; rfl, List.nil_append]
  · rw [flatMap_refused, hcalls, ChannelCall.refused_inOrder]
    rcases refusal with _ | ⟨script, f⟩
    · exact .inl ⟨rfl, hbroken⟩
    · exact .inr ⟨script, rfl, hbroken⟩
  · by_cases hclose : .close ∈ actions
    · exact .inr ⟨hclose, if_pos (hclosing.2 hclose)⟩
    · exact .inl ⟨hclose, if_neg fun hsome => hclose (hclosing.1 hsome)⟩

/-- A session over a program that has been started. -/
def started : Session PipeChannel EntryList :=
  { channel := { pid := 1, pipe := some {} }, recorder := none }

/-- A run in which the second plot is written but not flushed, the third
one comes after the fault is gone, and the pipe fails to close. -/
def flushFails : List (Action PipeFault) :=
  [.request plainPlot, .disturb ⟨.flush, .system .brokenPipe (.said "gone"), rfl⟩,
    .request plainPlot, .request plainPlot,
    .disturb ⟨.close, .refusedValue "closing failed", rfl⟩, .close, .close]

/-- The run in which a flush fails keeps the discipline, with one script
accepted and one refused. -/
theorem disciplined_flushFails :
    Disciplined flushFails (started.trace PipeChannel.await flushFails)
        (started.run PipeChannel.await flushFails).channel.events ∧
      (started.run PipeChannel.await flushFails).channel.events =
        [.write "plot x with lines notitle\n", .flush, .write "plot x with lines notitle\n",
          .flush, .close] :=
  ⟨disciplined_run started rfl rfl flushFails, rfl⟩

end Session

end PlotPipe
