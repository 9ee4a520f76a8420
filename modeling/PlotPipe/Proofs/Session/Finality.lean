import PlotPipe.Channel.Memory
import PlotPipe.Journal.Basic
import PlotPipe.Proofs.Session.Step
import PlotPipe.Proofs.Text.Encoding
/-!
# Sessions — failed writes are final

A session takes two kinds of failure of its channel for a failed write:
failures that say so, and complaints of the system. After one of them it
never calls the channel for a request again; what is left is to close it,
and that closes the channel once. Any other failure of a channel goes
through as it is and leaves the session as usable as before, so that
`FailsForGood` holds of a write exactly when its failure `isFailedWrite`.
-/

namespace PlotPipe

namespace Event

variable {ε : Type}

/-- The event is a closing. -/
def isClosing (e : Event ε) : Bool := e.action matches .close

theorem isClosing_iff {e : Event ε} : e.isClosing ↔ e.action = .close := by
  obtain ⟨action, _⟩ := e
  cases action <;> simp [isClosing]

end Event

namespace Session

variable {σ ρ ε : Type} [Channel σ] [Recorder ρ] {env : ε → σ → σ}
variable {s s' : Session σ ρ} {e : Event ε} {t : List (Event ε)} {message : String}

/-! ## Closing happens once -/

/-- A step calls for the closing of the channel when it closes an open
session, and in no other case. -/
theorem Step.countP_close (h : Step env s e s') :
    e.calls.countP ChannelCall.isClose = (if !s.closed && e.isClosing then 1 else 0) ∧
      s'.closed = (s.closed || e.isClosing) := by
  cases h with
  | closedBefore hclosed => simp [hclosed]
  | closing hclosed hc => simp [hclosed, Event.isClosing, ChannelCall.isClose]
  | _ => simp [Event.isClosing, ChannelCall.isClose]

/-- **A run closes the channel at most once**: when the session was open
and one of its actions is a closing. -/
theorem Runs.countP_close (h : Runs env s t s') :
    (t.flatMap Event.calls).countP ChannelCall.isClose =
      if !s.closed && t.any Event.isClosing then 1 else 0 := by
  induction h with
  | nil => simp
  | @cons s s₁ s' e t hstep hruns ih =>
    obtain ⟨hcalls, hclosed⟩ := hstep.countP_close
    rw [List.flatMap_cons, List.countP_append, hcalls, ih, hclosed, List.any_cons]
    rcases s.closed <;> rcases e.isClosing <;> simp

theorem Runs.countP_close_le (h : Runs env s t s') :
    (t.flatMap Event.calls).countP ChannelCall.isClose ≤ 1 := by
  rw [h.countP_close]
  split <;> omega

/-- A trace has a closing when one of its actions is one. -/
theorem any_isClosing_trace {actions : List (Action ε)} :
    (s.trace env actions).any Event.isClosing ↔ .close ∈ actions := by
  rw [List.any_eq_true]
  simp only [Event.isClosing_iff]
  rw [← List.mem_map, map_action_trace]

/-! ## After a failed write -/

/-- **A step of a failed session** writes nothing, and leaves the failure
and the last script as they are. A request fails as a failed write while
the session is open. -/
theorem Step.of_failure (h : Step env s e s') (hf : s.failure = some message) :
    s'.failure = some message ∧ s'.lastScript = s.lastScript ∧
      (∀ c ∈ e.calls, c.isWrite = false) ∧
      ∀ r, e.action = .request r → s.closed = false →
        e.result = .error (.write (.unusable message)) := by
  cases h with
  | turnedDown hprep =>
    refine ⟨hf, rfl, by simp, fun r' _ hopen => ?_⟩
    rw [prepare_of_failure hopen hf] at hprep
    cases hprep
    rfl
  -- The other requests got past the check that a failed session does not pass.
  | silent hprep => simp [(open_of_prepare hprep).2] at hf
  | unencodable hprep => simp [(open_of_prepare hprep).2] at hf
  | refused hprep => simp [(open_of_prepare hprep).2] at hf
  | sent hprep => simp [(open_of_prepare hprep).2] at hf
  | recorded hprep => simp [(open_of_prepare hprep).2] at hf
  | closedBefore => simp [hf]
  | closing => simp [hf, ChannelCall.isWrite]
  | disturbed => simp [hf]

/-- A run of a failed session writes nothing and leaves the last script
as it is. -/
theorem Runs.of_failure (h : Runs env s t s') (hf : s.failure = some message) :
    s'.lastScript = s.lastScript ∧ ∀ e ∈ t, ∀ c ∈ e.calls, c.isWrite = false := by
  induction h with
  | nil => simp
  | cons hstep _ ih =>
    obtain ⟨hf', hlast, hcalls, -⟩ := hstep.of_failure hf
    obtain ⟨hlast', hcalls'⟩ := ih hf'
    refine ⟨hlast'.trans hlast, fun e he => ?_⟩
    rcases List.mem_cons.1 he with rfl | he
    · exact hcalls
    · exact hcalls' e he

/-- **Every request to a failed session fails** until the session is
closed, with what it says about the failure. -/
theorem Runs.result_of_failure (h : Runs env s t s') (hf : s.failure = some message)
    (hopen : s.closed = false) (hnone : ∀ e ∈ t, e.isClosing = false) :
    ∀ e ∈ t, ∀ r, e.action = .request r → e.result = .error (.write (.unusable message)) := by
  induction h with
  | nil => simp
  | cons hstep _ ih =>
    intro e' he'
    obtain ⟨hf', -, -, hresult⟩ := hstep.of_failure hf
    rcases List.mem_cons.1 he' with rfl | he'
    · exact fun r hr => hresult r hr hopen
    · refine ih hf' ?_ (fun e he => hnone e (List.mem_cons_of_mem _ he)) e' he'
      rw [hstep.countP_close.2, hopen, hnone _ List.mem_cons_self]
      rfl

/-! ## Which failures are final -/

/-- Something ended as a failed write. -/
def EndsAsFailedWrite (result : Except Failure Unit) : Prop :=
  ∃ f, result = .error f ∧ f.kind = .write

/-- The calls that a request makes of the channel. -/
def calls (s : Session σ ρ) (r : Request) : List ChannelCall :=
  (s.watch (id : (σ → σ) → σ → σ) (.request r)).1.calls

/-- **A request fails for good**: it ends as a failed write, and whatever
becomes of the channel afterwards, no request writes to it again, every
request before the closing ends as a failed write, the last script stays
what it was, and closing the session closes the channel once. -/
structure FailsForGood (s : Session σ ρ) (r : Request) : Prop where
  fails : EndsAsFailedWrite (s.perform r).1
  failsAgain : ∀ actions : List (Action (σ → σ)), .close ∉ actions →
    ∀ e ∈ (s.perform r).2.trace id actions, ∀ r', e.action = .request r' →
      EndsAsFailedWrite e.result
  writesNothing : ∀ actions : List (Action (σ → σ)),
    ∀ e ∈ (s.perform r).2.trace id actions, ∀ c ∈ e.calls, c.isWrite = false
  keepsLastScript : ∀ actions : List (Action (σ → σ)),
    ((s.perform r).2.run id actions).lastScript = s.lastScript
  closesOnce : ∀ actions : List (Action (σ → σ)), .close ∈ actions →
    (((s.perform r).2.trace id actions).flatMap Event.calls).countP ChannelCall.isClose = 1

/-- What a step comes to in which the channel refuses a script. -/
theorem Step.of_refused {script : String} {f : Failure} (h : Step env s e s')
    (hcall : .write script (.error f) ∈ e.calls) :
    e.result = .error f.surfaced ∧ s'.closed = false ∧ s'.lastScript = s.lastScript ∧
      s'.failure = if f.isFailedWrite then some f.surfaced.message else none := by
  cases h with
  | refused hprep hne henc hw =>
    obtain ⟨hopen, hf⟩ := open_of_prepare hprep
    simp only [List.mem_singleton, ChannelCall.write.injEq, Except.error.injEq] at hcall
    obtain ⟨-, rfl⟩ := hcall
    exact ⟨rfl, hopen, rfl, by rw [hf]⟩
  | _ => simp at hcall

/-- A failure shows as a failed write when it is taken for one. -/
theorem kind_surfaced_eq_write_iff {f : Failure} :
    f.surfaced.kind = .write ↔ f.isFailedWrite := by
  unfold Failure.surfaced Failure.isFailedWrite
  split
  · rename_i hsystem
    exact iff_of_true rfl (by rw [hsystem, Bool.or_true])
  · rename_i hsystem
    simp [hsystem]

/-- What the channel refuses is final where it is taken for a failed
write. -/
theorem failsForGood_of_isFailedWrite {r : Request} {script : String} {f : Failure}
    (hcall : .write script (.error f) ∈ s.calls r)
    (hf : f.isFailedWrite) : s.FailsForGood r := by
  obtain ⟨hresult, hopen, hlast, hfailure⟩ :=
    (step_watch (id : (σ → σ) → σ → σ) s (.request r)).of_refused hcall
  have hact : (_, _) = s.perform r := watch_eq_act (id : (σ → σ) → σ → σ) s (.request r)
  -- What was watched is what the request does, so the step speaks of the request.
  obtain ⟨hfst, hsnd⟩ := Prod.ext_iff.1 hact
  simp only at hfst hsnd
  rw [hfst] at hresult
  rw [hsnd] at hopen hlast hfailure
  rw [if_pos hf] at hfailure
  have hruns := fun actions => runs_trace (id : (σ → σ) → σ → σ) (s.perform r).2 actions
  refine ⟨⟨_, hresult, kind_surfaced_eq_write_iff.2 hf⟩, ?_, ?_, ?_, ?_⟩
  · intro actions hnone e he r' hr'
    have hall : ∀ e ∈ (s.perform r).2.trace id actions, e.isClosing = false := by
      intro e he
      rcases hclosing : e.isClosing with _ | _
      · rfl
      · exact absurd (any_isClosing_trace.1 (List.any_eq_true.2 ⟨e, he, hclosing⟩)) hnone
    exact ⟨_, (hruns actions).result_of_failure hfailure hopen hall e he r' hr', rfl⟩
  · exact fun actions => ((hruns actions).of_failure hfailure).2
  · exact fun actions => ((hruns actions).of_failure hfailure).1.trans hlast
  · intro actions hclose
    rw [(hruns actions).countP_close, hopen, any_isClosing_trace.2 hclose]
    rfl

/-- A request that fails for good ends as a failed write, which the
session makes of nothing but what it takes for one. -/
theorem isFailedWrite_of_failsForGood {r : Request} {script : String} {f : Failure}
    (hcall : .write script (.error f) ∈ s.calls r)
    (h : s.FailsForGood r) : f.isFailedWrite := by
  have hresult := ((step_watch (id : (σ → σ) → σ → σ) s (.request r)).of_refused hcall).1
  have hact : (_, _) = s.perform r := watch_eq_act (id : (σ → σ) → σ → σ) s (.request r)
  obtain ⟨f', hf', hkind⟩ := h.fails
  rw [← hact, hresult, Except.error.injEq] at hf'
  exact kind_surfaced_eq_write_iff.1 (hf' ▸ hkind)

/-- **Failed writes are final, and nothing else is.** When the channel
fails during a request, the request fails for good exactly when the
failure says that a write failed or is a complaint of the system. -/
theorem failsForGood_iff (s : Session σ ρ) (r : Request) {script : String} {f : Failure}
    (hcall : .write script (.error f) ∈ s.calls r) :
    s.FailsForGood r ↔ f.isFailedWrite :=
  ⟨isFailedWrite_of_failsForGood hcall, failsForGood_of_isFailedWrite hcall⟩

/-- What a request calls for when its script is refused. -/
theorem calls_of_refused {r : Request} {script : String} {data : ByteArray} {f : Failure}
    {channel : σ} (hprep : s.prepare r = .ok script) (hne : script ≠ "")
    (henc : s.alphabet.encode script = .ok data)
    (hw : Channel.write script s.channel = (.error f, channel)) :
    s.calls r = [.write script (.error f)] := by
  have hstep := step_watch_request (id : (σ → σ) → σ → σ) s r
  have haction : (s.watch (id : (σ → σ) → σ → σ) (.request r)).1.action = .request r := rfl
  unfold calls
  -- The event has to be a variable for the cases of a step to be told apart.
  revert hstep haction
  generalize s.watch (id : (σ → σ) → σ → σ) (.request r) = watched
  intro hstep haction
  obtain ⟨e, s'⟩ := watched
  cases hstep <;> simp_all

/-- A session whose channel passes on a failure at its next write. -/
def awaiting (f : Failure) : Session FaultyChannel EntryList :=
  { channel := { pending := some f }, recorder := none }

/-- The plot of one expression, without settings. -/
def plainPlot : Request := .plotExpression (.text "x") {}

theorem script_plainPlot : plainPlot.script false = .ok "plot x with lines notitle\n" :=
  rfl

/-- The channel of such a session refuses the script. -/
theorem refused_awaiting (f : Failure) :
    .write "plot x with lines notitle\n" (.error f) ∈ (awaiting f).calls plainPlot := by
  have hprep : (awaiting f).prepare plainPlot = .ok "plot x with lines notitle\n" :=
    script_plainPlot
  rw [calls_of_refused hprep (by decide) (Alphabet.encode_plain _) rfl]
  exact List.mem_singleton_self _

/-- A broken pipe is final. -/
theorem failsForGood_brokenPipe :
    .write "plot x with lines notitle\n" (.error (.system .brokenPipe (.said "gone"))) ∈
      (awaiting (.system .brokenPipe (.said "gone"))).calls plainPlot ∧
    (awaiting (.system .brokenPipe (.said "gone"))).FailsForGood plainPlot :=
  ⟨refused_awaiting _, (failsForGood_iff _ _ (refused_awaiting _)).2 rfl⟩

/-- **A value that the channel refuses is not final**: the request ends
as the refusal does, and the session goes on. -/
theorem not_failsForGood_refusedValue :
    .write "plot x with lines notitle\n" (.error (.refusedValue "write to closed file")) ∈
      (awaiting (.refusedValue "write to closed file")).calls plainPlot ∧
    ¬ (awaiting (.refusedValue "write to closed file")).FailsForGood plainPlot := by
  refine ⟨refused_awaiting _, fun h => ?_⟩
  have hf := isFailedWrite_of_failsForGood (refused_awaiting _) h
  exact absurd hf (by decide)

end Session

end PlotPipe
