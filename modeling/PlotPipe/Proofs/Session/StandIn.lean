import PlotPipe.Proofs.Session.Account
import PlotPipe.Proofs.Session.PipeEvents
import PlotPipe.Proofs.Session.Strictness
/-!
# Sessions — one channel in the place of another

When a session cannot tell two channels apart. Up to notices a step is
determined by the session and the action (`Step.unique`), so that a
session over one channel is compared with a session over another by
giving, for each step of the first, one step of the second that shows the
same (`Step.alike`). What is asked of the channels is `AnswerAlike`:
where one accepts, the other does, until both refuse with a failed write.

A channel in memory and the pipe to a program answer alike. The one goes
on complaining while the fault of the other is gone after it has been
raised once, and the one knows that it has been closed while the other
lets go of its program; but a session that was refused once does not ask
again, and a closed one does not ask at all.
-/

namespace PlotPipe

/-- A fault that cuts the sending of a script short, at the write or at
the flush. -/
structure SendFault extends PipeFault where
  sending : place ≠ .close

namespace Event

variable {ε : Type}

/-- What an event shows: how the action ended, up to what is said about a
failure, the scripts that were accepted, and the entries. -/
def shown (e : Event ε) : Except Failure.Kind Unit × List String × List Entry :=
  (e.result.mapError Failure.kind, e.accepted, e.entries)

/-- The same event where disturbances have other names. -/
def map {ε' : Type} (f : ε → ε') (e : Event ε) : Event ε' where
  action := match e.action with
    | .request r => .request r
    | .close => .close
    | .disturb cause => .disturb (f cause)
  result := e.result
  calls := e.calls
  entries := e.entries
  echoed := e.echoed

end Event

/-- **Channels that answer alike.** `Whole` relates them as long as every
write was accepted, `Spent` also after one was refused, by both with a
failed write, and after they have been closed. -/
structure Channel.AnswerAlike {σ σ' ε : Type} [Channel σ] [Channel σ'] (env : ε → σ → σ)
    (env' : ε → σ' → σ') (Whole Spent : σ → σ' → Prop) : Prop where
  spent : ∀ {c c'}, Whole c c' → Spent c c'
  write : ∀ {c c'} (script : String), Whole c c' →
    (∃ d d', Channel.write script c = (.ok (), d) ∧ Channel.write script c' = (.ok (), d') ∧
      Whole d d') ∨
    (∃ f f' d d', Channel.write script c = (.error f, d) ∧
      Channel.write script c' = (.error f', d') ∧ f.kind = .write ∧ f'.kind = .write ∧ Spent d d')
  close : ∀ {c c'}, Spent c c' → ∃ notices notices' d d',
    Channel.close c = (.ok notices, d) ∧ Channel.close c' = (.ok notices', d') ∧ Spent d d'
  disturbed : ∀ {c c'} (e : ε), Spent c c' → Spent (env e c) (env' e c')
  disturbedWhole : ∀ {c c'} (e : ε), Whole c c' → Whole (env e c) (env' e c')

namespace Session

variable {σ σ' ρ ε : Type}

/-! ## What a session shows without its channel -/

/-- A session without its notices. -/
def quiet (s : Session σ ρ) : Session σ ρ := { s with notices := [] }

/-- A session without its channel and its notices, and of a failed write
only that there was one. -/
def outline (s : Session σ ρ) : Session Unit ρ :=
  { s with channel := (), notices := [], failure := s.failure.map fun _ => "" }

theorem outline_quiet (s : Session σ ρ) : s.quiet.outline = s.outline := rfl

theorem outline_eq_iff {s : Session σ ρ} {s' : Session σ' ρ} :
    s.outline = s'.outline ↔
      s.recorder = s'.recorder ∧ s.verbose = s'.verbose ∧ s.strict = s'.strict ∧
        s.closed = s'.closed ∧ s.failure.isSome = s'.failure.isSome ∧
        s.lastScript = s'.lastScript ∧ s.timeAxis = s'.timeAxis ∧ s.echo = s'.echo ∧
        s.clock = s'.clock ∧ s.alphabet = s'.alphabet := by
  have hfailure : s.failure.map (fun _ => "") = s'.failure.map (fun _ => "") ↔
      s.failure.isSome = s'.failure.isSome := by
    rcases s.failure with _ | message <;> rcases s'.failure with _ | message' <;> simp
  simp [outline, hfailure]

/-- Sessions with one outline let the same requests through, with the same
scripts, and turn the others down for reasons of one kind. -/
theorem mapError_prepare {s : Session σ ρ} {s' : Session σ' ρ} (h : s.outline = s'.outline)
    (r : Request) :
    (s.prepare r).mapError Failure.kind = (s'.prepare r).mapError Failure.kind := by
  obtain ⟨-, -, hstrict, hclosed, hfailure, -, htime, -⟩ := outline_eq_iff.1 h
  rcases hopen : s.closed
  · rcases hf : s.failure with _ | message
    · have hf' : s'.failure = none := by simpa [hf] using hfailure.symm
      have hpermit : s.permit = s'.permit := by
        rw [permit, permit, hf, hf', ← hclosed]
      rw [prepare, prepare, hpermit, hstrict, htime]
    · obtain ⟨message', hf'⟩ : ∃ message', s'.failure = some message' :=
        Option.isSome_iff_exists.1 (by rw [← hfailure, hf]; rfl)
      rw [prepare_of_failure hopen hf, prepare_of_failure (hclosed ▸ hopen) hf']
      rfl
  · rw [prepare_of_closed hopen, prepare_of_closed (hclosed ▸ hopen)]

section Outline

variable {s : Session σ ρ} {s' : Session σ' ρ} {r : Request}

theorem prepare_ok_of_outline {script : String} (h : s.outline = s'.outline)
    (hprep : s.prepare r = .ok script) : s'.prepare r = .ok script := by
  have hmap := mapError_prepare h r
  rw [hprep] at hmap
  rcases hprep' : s'.prepare r with f' | script'
  · rw [hprep'] at hmap
    cases hmap
  · rw [hprep'] at hmap
    exact congrArg _ (Except.ok.inj hmap).symm

theorem prepare_error_of_outline {f : Failure} (h : s.outline = s'.outline)
    (hprep : s.prepare r = .error f) : ∃ f', s'.prepare r = .error f' ∧ f'.kind = f.kind := by
  have hmap := mapError_prepare h r
  rw [hprep] at hmap
  rcases hprep' : s'.prepare r with f' | script'
  · rw [hprep'] at hmap
    exact ⟨f', rfl, (Except.error.inj hmap).symm⟩
  · rw [hprep'] at hmap
    cases hmap

end Outline

/-! ## Steps, compared -/

variable [Channel σ] [Channel σ'] [Recorder ρ] {env : ε → σ → σ} {env' : ε → σ' → σ'}
  {s s₁ s₂ : Session σ ρ} {s' : Session σ' ρ} {e e' : Event ε}
  {Whole Spent : σ → σ' → Prop}

/-- **A step is determined** by the session and the action, up to
notices. -/
theorem Step.unique (h : Step env s e s₁) (h' : Step env s e' s₂) (ha : e.action = e'.action) :
    e = e' ∧ s₁.quiet = s₂.quiet := by
  -- What tells the constructors apart are values of one function at one place.
  cases h <;> cases h' <;> simp_all [quiet]

/-- Sessions over two channels that show the same and whose channels can
go on alike. -/
structure Alike (Whole Spent : σ → σ' → Prop) (s : Session σ ρ) (s' : Session σ' ρ) : Prop where
  outline : s.outline = s'.outline
  spent : Spent s.channel s'.channel
  whole : s.closed = false → s.failure = none → Whole s.channel s'.channel

omit [Channel σ] [Channel σ'] [Recorder ρ] in
/-- A request that gets as far as its script finds channels that have
accepted every write. -/
theorem Alike.whole_of_prepare {r : Request} {script : String} (hs : Alike Whole Spent s s')
    (hprep : s.prepare r = .ok script) : Whole s.channel s'.channel :=
  hs.whole (open_of_prepare hprep).1 (open_of_prepare hprep).2

/-- A failed write shows as it is. -/
theorem surfaced_of_write {f : Failure} (h : f.kind = .write) :
    f.surfaced = f ∧ f.isFailedWrite = true := by
  simp [Failure.surfaced, Failure.isFailedWrite, h, Failure.Kind.isSystem]

/-- **Each step over one channel is matched over the other.** -/
theorem Step.alike (hc : Channel.AnswerAlike env env' Whole Spent) (hs : Alike Whole Spent s s')
    (h : Step env s e s₁) :
    ∃ e' s₁', Step env' s' e' s₁' ∧ e'.action = e.action ∧ e'.shown = e.shown ∧
      Alike Whole Spent s₁ s₁' := by
  obtain ⟨hrecorder, hverbose, hstrict, hclosed, hfailure, hlast, htime, hecho, hclock,
    halphabet⟩ := outline_eq_iff.1 hs.outline
  have hencode : ∀ script, s'.alphabet.encode script = s.alphabet.encode script :=
    fun script => by rw [halphabet]
  cases h with
  | turnedDown hprep =>
    obtain ⟨f', hprep', hkind⟩ := prepare_error_of_outline hs.outline hprep
    refine ⟨_, _, .turnedDown hprep', rfl, ?_, hs⟩
    simp [Event.shown, Event.accepted, mapError_error, hkind]
  | @silent r notices hprep =>
    have hstep := @Step.silent _ _ _ _ _ env' s' r [] (prepare_ok_of_outline hs.outline hprep)
    refine ⟨_, _, hstep, rfl, rfl, ?_, hs.spent, hs.whole⟩
    simp [outline_eq_iff, *]
  | @unencodable r script f hprep hne henc =>
    have hstep := @Step.unencodable _ _ _ _ _ env' s' r script f
      (prepare_ok_of_outline hs.outline hprep) hne ((hencode script).trans henc)
    refine ⟨_, _, hstep, rfl, rfl, ?_, hs.spent, hs.whole⟩
    simp [outline_eq_iff, shown, *]
  | @refused r script data f channel notices hprep hne henc hw =>
    rcases hc.write script (hs.whole_of_prepare hprep) with
      ⟨d, d', hd, -, -⟩ | ⟨g, f', d, d', hd, hw', hkind, hkind', hspent⟩
    · rw [hw] at hd
      cases hd
    · rw [hw] at hd
      obtain ⟨rfl, rfl⟩ : f = g ∧ channel = d := by simpa using hd
      obtain ⟨hshown, hfailed⟩ := surfaced_of_write hkind
      obtain ⟨hshown', hfailed'⟩ := surfaced_of_write hkind'
      have hstep := @Step.refused _ _ _ _ _ env' s' r script data f' d' []
        (prepare_ok_of_outline hs.outline hprep) hne ((hencode script).trans henc) hw'
      refine ⟨_, _, hstep, rfl, ?_, ?_, hspent, ?_⟩
      · simp [Event.shown, Event.accepted, mapError_error, hshown, hshown', hkind, hkind',
          List.filterMap_cons]
      · simp [outline_eq_iff, shown, *]
      · simp [hfailed]
  | @sent r script data channel notices hprep hne henc hw hnone =>
    rcases hc.write script (hs.whole_of_prepare hprep) with
      ⟨d, d', hd, hw', hwhole⟩ | ⟨g, f', d, d', hd, -⟩
    · rw [hw] at hd
      obtain rfl : channel = d := by simpa using hd
      have hstep := @Step.sent _ _ _ _ _ env' s' r script data d' []
        (prepare_ok_of_outline hs.outline hprep) hne ((hencode script).trans henc) hw'
        (hrecorder ▸ hnone)
      refine ⟨_, _, hstep, rfl, rfl, ?_, hc.spent hwhole, fun _ _ => hwhole⟩
      simp [outline_eq_iff, shown, *]
    · rw [hw] at hd
      cases hd
  | @recorded r script data channel notices keeper keeper' result hprep hne henc hw hr hk =>
    rcases hc.write script (hs.whole_of_prepare hprep) with
      ⟨d, d', hd, hw', hwhole⟩ | ⟨g, f', d, d', hd, -⟩
    · rw [hw] at hd
      obtain rfl : channel = d := by simpa using hd
      -- An entry depends on the session by its clock only.
      have hentry : s'.entry r.name script = s.entry r.name script := by rw [entry, entry, hclock]
      have hstep := @Step.recorded _ _ _ _ _ env' s' r script data d' [] keeper keeper' result
        (prepare_ok_of_outline hs.outline hprep) hne ((hencode script).trans henc) hw'
        (hrecorder ▸ hr) (hentry.symm ▸ hk)
      refine ⟨_, _, hstep, rfl, ?_, ?_, hc.spent hwhole, fun _ _ => hwhole⟩
      · simp [Event.shown, Event.accepted, hentry]
      · simp [outline_eq_iff, shown, *]
    · rw [hw] at hd
      cases hd
  | closedBefore hbefore => exact ⟨_, _, .closedBefore (hclosed ▸ hbefore), rfl, rfl, hs⟩
  | @closing result channel notices hopen hclose =>
    obtain ⟨said, said', d, d', hd, hd', hspent⟩ := hc.close hs.spent
    rw [hclose] at hd
    obtain ⟨rfl, rfl⟩ : result = .ok said ∧ channel = d := by simpa using hd
    have hstep := @Step.closing _ _ _ _ _ env' s' (.ok said') d' [] (hclosed ▸ hopen) hd'
    refine ⟨_, _, hstep, rfl, rfl, ?_, hspent, ?_⟩
    · simp [outline_eq_iff, *]
    · simp
  | @disturbed cause =>
    exact ⟨_, _, .disturbed (e := cause), rfl, rfl, hs.outline, hc.disturbed cause hs.spent,
      fun hopen hnone => hc.disturbedWhole cause (hs.whole hopen hnone)⟩

omit [Channel σ] [Channel σ'] [Recorder ρ] in
/-- Notices make no difference. -/
theorem Alike.of_quiet {s₁' s₂' : Session σ' ρ} (hs : Alike Whole Spent s s₁')
    (h : s₁'.quiet = s₂'.quiet) : Alike Whole Spent s s₂' := by
  have hchannel : s₁'.channel = s₂'.channel := congrArg (fun t => t.channel) h
  exact ⟨by rw [hs.outline, ← outline_quiet s₁', h, outline_quiet], hchannel ▸ hs.spent,
    fun hopen hnone => hchannel ▸ hs.whole hopen hnone⟩

/-- One action does and shows the same over both channels. -/
theorem watch_alike (hc : Channel.AnswerAlike env env' Whole Spent) (hs : Alike Whole Spent s s')
    (a : Action ε) :
    (s'.watch env' a).1.shown = (s.watch env a).1.shown ∧
      Alike Whole Spent (s.watch env a).2 (s'.watch env' a).2 := by
  obtain ⟨e', s₁', hstep, haction, hshown, halike⟩ := (step_watch env s a).alike hc hs
  obtain ⟨hevent, hquiet⟩ := hstep.unique (step_watch env' s' a) haction
  exact ⟨hevent ▸ hshown, halike.of_quiet hquiet⟩

/-- **A run does and shows the same over channels that answer alike.** -/
theorem run_alike (hc : Channel.AnswerAlike env env' Whole Spent) (hs : Alike Whole Spent s s')
    (actions : List (Action ε)) :
    (s'.trace env' actions).map Event.shown = (s.trace env actions).map Event.shown ∧
      Alike Whole Spent (s.run env actions) (s'.run env' actions) := by
  induction actions generalizing s s' with
  | nil => exact ⟨rfl, hs⟩
  | cons a rest ih =>
    obtain ⟨hshown, halike⟩ := watch_alike hc hs a
    obtain ⟨htrace, hrun⟩ := ih halike
    rw [run_cons, run_cons, trace, trace, List.map_cons, List.map_cons, hshown, htrace]
    exact ⟨rfl, hrun⟩

/-! ## Other names for disturbances -/

theorem Step.map {ε' : Type} (f : ε → ε') {env : ε' → σ → σ}
    (h : Step (fun cause => env (f cause)) s e s₁) : Step env s (e.map f) s₁ := by
  cases h with
  | turnedDown hprep => exact .turnedDown hprep
  | silent hprep => exact .silent hprep
  | unencodable hprep hne henc => exact .unencodable hprep hne henc
  | refused hprep hne henc hw => exact .refused hprep hne henc hw
  | sent hprep hne henc hw hr => exact .sent hprep hne henc hw hr
  | recorded hprep hne henc hw hr hk => exact .recorded hprep hne henc hw hr hk
  | closedBefore hclosed => exact .closedBefore hclosed
  | closing hopen hc => exact .closing hopen hc
  | disturbed => exact .disturbed

theorem Runs.map {ε' : Type} (f : ε → ε') {env : ε' → σ → σ} {t : List (Event ε)}
    (h : Runs (fun cause => env (f cause)) s t s₁) : Runs env s (t.map (Event.map f)) s₁ := by
  induction h with
  | nil => exact .nil
  | cons hstep _ ih => exact .cons (hstep.map f) ih

end Session

/-! ## A channel in memory and the pipe to a program -/

namespace MemoryChannel

/-- Complain about every write from now on. -/
def suffer (fault : SendFault) (c : MemoryChannel) : MemoryChannel :=
  c.complain (some fault.failure)

variable {c : MemoryChannel} {script : String}

theorem write_of_closed (hclosed : c.closed = true) :
    Channel.write script c = (.error (.write .memoryClosed), c) := by
  show c.write script = _
  rw [write, if_pos hclosed]

theorem write_of_none (hopen : c.closed = false) (hnone : c.complaint = none) :
    Channel.write script c = (.ok (), { c with chunks := c.chunks ++ [script] }) := by
  show c.write script = _
  rw [write, if_neg (by simp [hopen]), hnone]

theorem write_of_some {f : Failure} (hopen : c.closed = false) (hf : c.complaint = some f) :
    Channel.write script c = (.error (.write (.memory f.message)), c) := by
  show c.write script = _
  rw [write, if_neg (by simp [hopen]), hf]

end MemoryChannel

namespace Pipe

/-- The pipe takes a script: the write and the flush both come to a
regular end. -/
def takes (script : String) (p : Pipe) : Bool :=
  (p.write script).1.isOk && (p.write script).2.flush.1.isOk

theorem isOk_send (script : String) (p : Pipe) : (p.send script).1.isOk = p.takes script := by
  unfold send takes
  rcases p.write script with ⟨f | _, p'⟩ <;> rfl

end Pipe

namespace PipeChannel

/-- Fail once, at the next write or at the next flush. -/
def suffer (fault : SendFault) (c : PipeChannel) : PipeChannel := c.await fault.toPipeFault

/-- What a fault of a pipe shows as is a failed write of either name. -/
theorem kind_ofPipeFailure {f : Failure} (h : f.isPipeFault) :
    (ofPipeFailure f).kind = .write := by
  unfold ofPipeFailure
  unfold Failure.isPipeFault at h
  split
  · rfl
  · rename_i hrefusal
    simpa [hrefusal] using h

end PipeChannel

/-- A channel in memory and a pipe that are closed at one time, with no
fault set for the closing. -/
structure Paired (c : MemoryChannel) (c' : PipeChannel) : Prop where
  closed : c.closed = c'.closed
  pipe : ∃ p, c'.pipe = some p ∧ p.Sound ∧ p.onClose = none

/-- A channel in memory and a pipe that are both open, of which the one
complains exactly when a fault is set for the other. -/
structure InStep (c : MemoryChannel) (c' : PipeChannel) : Prop extends Paired c c' where
  isOpen : c'.closed = false
  complaint : ∀ p, c'.pipe = some p → (c.complaint = none ↔ p.onWrite = none ∧ p.onFlush = none)

variable {c : MemoryChannel} {c' : PipeChannel}

/-- A fault leaves channels paired. -/
theorem Paired.suffer (h : Paired c c') (fault : SendFault) :
    Paired (c.suffer fault) (c'.suffer fault) := by
  obtain ⟨p, hp, hsound, hclose⟩ := h.pipe
  refine ⟨h.closed, p.await fault.toPipeFault, ?_, hsound.await fault.toPipeFault, ?_⟩
  · rw [PipeChannel.suffer, PipeChannel.await, hp, Option.map_some]
  · obtain ⟨⟨place, failure, hraised⟩, hsending⟩ := fault
    cases place with
    | write => exact hclose
    | flush => exact hclose
    | close => exact absurd rfl hsending

/-- A fault makes the one channel complain and is set for the other. -/
theorem InStep.suffer (h : InStep c c') (fault : SendFault) :
    InStep (c.suffer fault) (c'.suffer fault) := by
  refine ⟨h.toPaired.suffer fault, h.isOpen, fun p hp => ?_⟩
  obtain ⟨p', -, rfl⟩ := Option.map_eq_some_iff.1 hp
  obtain ⟨⟨place, failure, hraised⟩, hsending⟩ := fault
  cases place with
  | write => simp [MemoryChannel.suffer, MemoryChannel.complain, Pipe.await]
  | flush => simp [MemoryChannel.suffer, MemoryChannel.complain, Pipe.await]
  | close => exact absurd rfl hsending

/-- Channels in step both take a script, or both refuse it. -/
theorem InStep.write (h : InStep c c') (script : String) :
    (∃ d d', Channel.write script c = (.ok (), d) ∧ Channel.write script c' = (.ok (), d') ∧
      InStep d d') ∨
    (∃ f f' d d', Channel.write script c = (.error f, d) ∧
      Channel.write script c' = (.error f', d') ∧ f.kind = .write ∧ f'.kind = .write ∧
      Paired d d') := by
  obtain ⟨p, hp, hsound, hclose⟩ := h.pipe
  have hopen : c.closed = false := h.closed.trans h.isOpen
  have hwrite' := @PipeChannel.write_of_pipe _ _ script h.isOpen hp
  rcases hcomplaint : c.complaint with _ | f
  · obtain ⟨hwrite, hflush⟩ := (h.complaint p hp).1 hcomplaint
    have hsend : p.send script =
        (.ok (), { p with events := p.events ++ [.write script, .flush] }) := by
      rcases p.send_cases script with ⟨f, hf, -⟩ | ⟨f, -, hf, -⟩ | ⟨-, -, hsend⟩
      · simp [hwrite] at hf
      · simp [hflush] at hf
      · exact hsend
    rw [hsend] at hwrite'
    refine .inl ⟨_, _, MemoryChannel.write_of_none hopen hcomplaint, hwrite',
      ⟨h.closed, _, rfl, ⟨hsound.onWrite, hsound.onFlush⟩, hclose⟩, h.isOpen, ?_⟩
    rintro _ ⟨⟩
    exact h.complaint p hp
  · -- The fault of the pipe is raised at the write or, where none is set there, at the flush.
    have hfault : ∃ f', f'.isPipeFault ∧ ∃ p', p.send script = (.error f', p') ∧
        p'.onClose = none := by
      rcases p.send_cases script with ⟨f', hf', hsend⟩ | ⟨f', -, hf', hsend⟩ | ⟨hwrite, hflush, -⟩
      · exact ⟨f', hsound.onWrite f' hf', _, hsend, hclose⟩
      · exact ⟨f', hsound.onFlush f' hf', _, hsend, hclose⟩
      · rw [(h.complaint p hp).2 ⟨hwrite, hflush⟩] at hcomplaint
        cases hcomplaint
    obtain ⟨f', hraised, p', hsend, hclose'⟩ := hfault
    have hsound' := hsound.send script
    rw [hsend] at hwrite' hsound'
    exact .inr ⟨_, _, _, _, MemoryChannel.write_of_some hopen hcomplaint, hwrite', rfl,
      PipeChannel.kind_ofPipeFailure hraised, h.closed, p', rfl, hsound', hclose'⟩

/-- Paired channels are closed without a failure. -/
theorem Paired.close (h : Paired c c') : ∃ notices notices' d d',
    Channel.close c = (.ok notices, d) ∧ Channel.close c' = (.ok notices', d') ∧ Paired d d' := by
  obtain ⟨p, hp, hsound, hclose⟩ := h.pipe
  rcases hclosed : c'.closed
  · have hclose' : Channel.close c' =
        (.ok [], { c' with pipe := some p.close.2, closed := true }) := by
      rw [PipeChannel.close_of_pipe hclosed hp, Pipe.close, hclose]
      rfl
    exact ⟨[], [], c.close, _, rfl, hclose', rfl, p.close.2, rfl,
      ⟨hsound.onWrite, hsound.onFlush⟩, rfl⟩
  · refine ⟨[], [], c.close, c', rfl, ?_, hclosed.symm, p, hp, hsound, hclose⟩
    show c'.close = _
    rw [PipeChannel.close, if_pos hclosed]

/-- **A channel in memory and the pipe to a program answer alike.** -/
theorem memory_answersAlike :
    Channel.AnswerAlike MemoryChannel.suffer PipeChannel.suffer InStep Paired where
  spent h := h.toPaired
  write script h := h.write script
  close h := h.close
  disturbed fault h := h.suffer fault
  disturbedWhole fault h := h.suffer fault

namespace Session

variable {ρ : Type} [Recorder ρ]

/-- A session over a channel, as it is opened. -/
def opened {σ : Type} (channel : σ) (recorder : Option ρ) (verbose strict : Bool) (clock : Int)
    (alphabet : Alphabet) : Session σ ρ :=
  { channel, recorder, verbose, strict, clock, alphabet }

section Delivered

variable {ε : Type} {s s' : Session PipeChannel ρ} {e : Event PipeFault}

/-- The scripts of an event of which the pipe took both the write and the
flush, in the state in which the event found it. -/
def delivered (s : Session PipeChannel ρ) (e : Event ε) : List String :=
  (e.calls.filterMap ChannelCall.written?).filter fun script => s.channel.pipe.any (·.takes script)

/-- The pipe channel accepts what its pipe takes. -/
theorem Step.delivered (hs : s.Piped) (h : Step PipeChannel.await s e s') :
    s.delivered e = e.accepted := by
  obtain ⟨p, hp⟩ := Option.isSome_iff_exists.1 hs.pipe
  have htakes : ∀ {r : Request} {script : String} {result : Except Failure Unit}
      {channel : PipeChannel}, s.prepare r = .ok script →
      Channel.write script s.channel = (result, channel) → p.takes script = result.isOk := by
    intro r script result channel hprep hw
    rw [PipeChannel.write_of_pipe (hs.closed.trans (open_of_prepare hprep).1) hp] at hw
    obtain rfl := (Prod.ext_iff.1 hw).1
    rw [← p.isOk_send]
    rcases (p.send script).1 with f | _ <;> rfl
  cases h with
  | refused hprep _ _ hw =>
    simp [Session.delivered, Event.accepted, hp, htakes hprep hw, Except.isOk, Except.toBool,
      List.filterMap_cons]
  | sent hprep _ _ hw =>
    simp [Session.delivered, Event.accepted, hp, htakes hprep hw, Except.isOk, Except.toBool]
  | recorded hprep _ _ hw =>
    simp [Session.delivered, Event.accepted, hp, htakes hprep hw, Except.isOk, Except.toBool]
  | _ => simp [Session.delivered, Event.accepted, List.filterMap_cons]

/-- A step under faults of sending is one under faults of pipes. -/
theorem step_watch_suffer (s : Session PipeChannel ρ) (a : Action SendFault) :
    Step PipeChannel.await s ((s.watch PipeChannel.suffer a).1.map SendFault.toPipeFault)
      (s.watch PipeChannel.suffer a).2 :=
  Step.map SendFault.toPipeFault (step_watch PipeChannel.suffer s a)

/-- What the pipe took in a run is what the channel accepted. -/
theorem delivered_history (hs : s.Piped) (actions : List (Action SendFault)) :
    ((s.history PipeChannel.suffer actions).flatMap fun (s, e) => s.delivered e) =
      (s.trace PipeChannel.suffer actions).flatMap Event.accepted := by
  induction actions generalizing s with
  | nil => rfl
  | cons a rest ih =>
    have hstep := step_watch_suffer s a
    obtain ⟨-, -, -, hs'⟩ := hstep.heard hs
    rw [history, trace, List.flatMap_cons, List.flatMap_cons, ih hs']
    exact congrArg (· ++ _) (hstep.delivered hs)

end Delivered

/-- The chunks in memory are what the channel accepted. -/
theorem chunks_run (s : Session MemoryChannel ρ) (actions : List (Action SendFault)) :
    (s.run MemoryChannel.suffer actions).channel.chunks =
      s.channel.chunks ++ (s.trace MemoryChannel.suffer actions).flatMap Event.accepted := by
  have hruns : Runs MemoryChannel.complain s _ (s.run MemoryChannel.suffer actions) :=
    Runs.map (fun fault : SendFault => some fault.failure)
      (runs_trace MemoryChannel.suffer s actions)
  rw [hruns.chunks, List.flatMap_map]
  rfl

/-- A pipe is closed when the session is, in every run. -/
theorem piped_run {s : Session PipeChannel ρ} (hs : s.Piped) (actions : List (Action SendFault)) :
    (s.run PipeChannel.suffer actions).Piped := by
  induction actions generalizing s with
  | nil => exact hs
  | cons a rest ih =>
    have hstep := step_watch_suffer s a
    obtain ⟨-, -, -, hs'⟩ := hstep.heard hs
    rw [run_cons]
    exact ih hs'

/-- **A run in memory in the place of a run over a pipe.** Every action
shows the same, the sessions end with the same script, flag, recorder and
echo, the chunks in memory are what the pipe took, and once the sessions
are closed, their channels refuse whatever is written to them. -/
structure StoodIn (m : Session MemoryChannel ρ) (p : Session PipeChannel ρ)
    (actions : List (Action SendFault)) : Prop where
  shown : (m.trace MemoryChannel.suffer actions).map Event.shown =
    (p.trace PipeChannel.suffer actions).map Event.shown
  lastScript : (m.run MemoryChannel.suffer actions).lastScript =
    (p.run PipeChannel.suffer actions).lastScript
  closed : (m.run MemoryChannel.suffer actions).closed = (p.run PipeChannel.suffer actions).closed
  recorder : (m.run MemoryChannel.suffer actions).recorder =
    (p.run PipeChannel.suffer actions).recorder
  echo : (m.run MemoryChannel.suffer actions).echo = (p.run PipeChannel.suffer actions).echo
  chunks : (m.run MemoryChannel.suffer actions).channel.chunks =
    (p.history PipeChannel.suffer actions).flatMap fun (s, e) => s.delivered e
  shut : (p.run PipeChannel.suffer actions).closed → ∀ script,
    Channel.write script (m.run MemoryChannel.suffer actions).channel =
        (.error (.write .memoryClosed), (m.run MemoryChannel.suffer actions).channel) ∧
      Channel.write script (p.run PipeChannel.suffer actions).channel =
        (.error (.write .pipeClosed), (p.run PipeChannel.suffer actions).channel)

/-- **A channel in memory is a faithful stand-in.** For every recorder,
every setting of the sessions and every list of actions, with faults set
at any time for a write or for a flush, the session in memory shows and
keeps what the session over a started program shows and keeps. -/
theorem memory_standsIn (recorder : Option ρ) (verbose strict : Bool) (clock : Int)
    (alphabet : Alphabet) (pid : Nat) (actions : List (Action SendFault)) :
    StoodIn (opened {} recorder verbose strict clock alphabet)
      (opened { pid, pipe := some {} } recorder verbose strict clock alphabet) actions := by
  have hpaired : InStep {} { pid, pipe := some {} } := by
    refine ⟨⟨rfl, {}, rfl, ⟨by simp, by simp⟩, rfl⟩, rfl, ?_⟩
    rintro _ ⟨⟩
    exact ⟨fun _ => ⟨rfl, rfl⟩, fun _ => rfl⟩
  have hpiped : (opened { pid, pipe := some {} } recorder verbose strict clock alphabet).Piped :=
    ⟨rfl, rfl⟩
  obtain ⟨hshown, halike⟩ := run_alike memory_answersAlike
    (⟨rfl, hpaired.toPaired, fun _ _ => hpaired⟩ :
      Alike InStep Paired (opened {} recorder verbose strict clock alphabet)
        (opened { pid, pipe := some {} } recorder verbose strict clock alphabet)) actions
  obtain ⟨hrecorder, -, -, hclosed, -, hlast, -, hecho, -⟩ := outline_eq_iff.1 halike.outline
  have hpiped' := piped_run hpiped actions
  refine ⟨hshown.symm, hlast, hclosed, hrecorder, hecho, ?_, fun hshut script => ?_⟩
  · -- Both channels accepted the same, since events that show the same have accepted the same.
    have haccepted := congrArg (List.flatMap fun shown => shown.2.1) hshown
    rw [List.flatMap_map, List.flatMap_map] at haccepted
    rw [chunks_run, delivered_history hpiped]
    exact haccepted.symm
  · have hshut' := hpiped'.closed.trans hshut
    exact ⟨MemoryChannel.write_of_closed (halike.spent.closed.trans hshut'),
      PipeChannel.write_of_closed hshut'⟩

/-- A plot, a fault at the flush of the next one, and a plot that finds it
gone. -/
example :
    let actions : List (Action SendFault) :=
      [.request plainPlot, .disturb ⟨⟨.flush, .refusedValue "gone", rfl⟩, nofun⟩,
        .request plainPlot, .request plainPlot, .close]
    ((opened { pid := 1, pipe := some {} } (none : Option EntryList) false false 0 {}).history
        PipeChannel.suffer actions).map (fun (s, e) => s.delivered e) =
      [["plot x with lines notitle\n"], [], [], [], []] :=
  rfl

end Session

end PlotPipe
