import PlotPipe.Proofs.Outcome
import PlotPipe.Proofs.Session.Run
/-!
# Sessions — every action is a step

What the functions of a session do, one equation for each way they can
go, and from these the two facts that runs rest on: every action is a
`Step` (`step_watch`), and listening in on a session changes nothing
(`watch_eq_act`). Notices are left open in the equations, since nothing
that is said about runs looks at them.
-/

namespace PlotPipe

namespace Session

variable {σ ρ ε : Type} {s s' : Session σ ρ} {operation script : String} {r : Request} {f : Failure}

/-- What a session makes of a failure of its channel. -/
theorem fail_eq (s : Session σ ρ) (operation : String) (f : Failure) :
    ∃ notices, s.fail operation f = (.error f.surfaced,
      { s with
        notices
        failure := if f.isFailedWrite then some f.surfaced.message else s.failure }) := by
  unfold fail Failure.surfaced Failure.isFailedWrite
  cases h : f.kind with
  | write => exact ⟨_, rfl⟩
  | system kind => exact ⟨_, rfl⟩
  | _ => exact ⟨s.notices, rfl⟩

theorem display_eq (s : Session σ ρ) (script : String) :
    s.display script = { s with echo := s.echo ++ s.shown script } := by
  obtain ⟨_, _, verbose, _⟩ := s
  cases verbose <;> simp [display, shown]

theorem note_eq (s : Session σ ρ) (level : Notice.Level) (text : String) :
    s.note level text = { s with notices := s.notices ++ [.session level text] } := rfl

@[simp] theorem untapped_tapped (s : Session σ ρ) : s.tapped.untapped s.echo = s := by
  obtain ⟨_, recorder⟩ := s
  cases recorder <;> simp [tapped, untapped]

/-! ## What a session lets through -/

/-- A closed session turns every request down. -/
theorem prepare_of_closed (h : s.closed = true) : s.prepare r = .error .sessionClosed := by
  unfold prepare permit
  rw [if_pos h]
  rfl

/-- An open session that has failed turns every request down, and says
what failed. -/
theorem prepare_of_failure {message : String} (h : s.closed = false)
    (hf : s.failure = some message) : s.prepare r = .error (.write (.unusable message)) := by
  unfold prepare permit
  rw [h, hf]
  rfl

/-- A request gets as far as its script only in an open session that has
not failed. -/
theorem open_of_prepare (h : s.prepare r = .ok script) :
    s.closed = false ∧ s.failure = none := by
  rcases hclosed : s.closed
  · rcases hf : s.failure with _ | message
    · exact ⟨rfl, rfl⟩
    · rw [prepare_of_failure hclosed hf] at h
      cases h
  · rw [prepare_of_closed hclosed] at h
    cases h

/-- What a request would send is its script in the axis mode that the
session remembers. -/
theorem script_of_prepare (h : s.prepare r = .ok script) :
    r.script s.timeAxis = .ok script := by
  unfold prepare at h
  obtain ⟨_, -, h⟩ := bind_eq_ok.1 h
  obtain ⟨_, -, h⟩ := bind_eq_ok.1 h
  split at h
  · obtain ⟨_, -, h⟩ := bind_eq_ok.1 h
    exact h
  · exact h

/-! ## Delivering a script -/

variable [Channel σ] [Recorder ρ]

/-- Nothing is sent where there is nothing to send. -/
theorem deliver_empty (s : Session σ ρ) (operation : String) :
    ∃ notices, s.deliver operation "" = (.ok (), { s with notices }) :=
  ⟨_, rfl⟩

/-- A script that cannot be encoded has been shown, and nothing else has
been done with it. -/
theorem deliver_unencodable (operation : String) (hne : script ≠ "")
    (henc : s.alphabet.encode script = .error f) :
    s.deliver operation script = (.error f, { s with echo := s.echo ++ s.shown script }) := by
  have hempty : script.isEmpty = false := by simpa using hne
  unfold deliver
  simp only [hempty, display_eq, henc, Bool.false_eq_true, if_false]

/-- A script that the channel refuses has been shown, and is not the last
one that was sent. -/
theorem deliver_refused {data : ByteArray} {channel : σ} (operation : String) (hne : script ≠ "")
    (henc : s.alphabet.encode script = .ok data)
    (hw : Channel.write script s.channel = (.error f, channel)) :
    ∃ notices, s.deliver operation script = (.error f.surfaced,
      { s with
        channel, notices
        echo := s.echo ++ s.shown script
        failure := if f.isFailedWrite then some f.surfaced.message else s.failure }) := by
  have hempty : script.isEmpty = false := by simpa using hne
  unfold deliver
  simp only [hempty, display_eq, henc, hw, Bool.false_eq_true, if_false]
  exact fail_eq _ operation f

/-- A script that the channel takes is the last one that was sent. -/
theorem deliver_sent {data : ByteArray} {channel : σ} (operation : String) (hne : script ≠ "")
    (henc : s.alphabet.encode script = .ok data)
    (hw : Channel.write script s.channel = (.ok (), channel)) (hr : s.recorder = none) :
    ∃ notices, s.deliver operation script = (.ok (),
      { s with
        channel, notices
        echo := s.echo ++ s.shown script
        lastScript := some script }) := by
  have hempty : script.isEmpty = false := by simpa using hne
  unfold deliver
  simp only [hempty, display_eq, henc, hw, note_eq, record, hr, Bool.false_eq_true, if_false]
  exact ⟨_, rfl⟩

/-- With a recorder, what the recorder comes to is what the delivery
comes to. -/
theorem deliver_recorded {data : ByteArray} {channel : σ} {keeper keeper' : ρ}
    {result : Except Failure Unit} (hne : script ≠ "")
    (henc : s.alphabet.encode script = .ok data)
    (hw : Channel.write script s.channel = (.ok (), channel))
    (hr : s.recorder = some keeper)
    (hk : Recorder.record (s.entry operation script) keeper = (result, keeper')) :
    ∃ notices, s.deliver operation script = (result,
      { s with
        channel, notices
        recorder := some keeper'
        echo := s.echo ++ s.shown script
        lastScript := some script }) := by
  have hempty : script.isEmpty = false := by simpa using hne
  unfold deliver
  simp only [hempty, display_eq, henc, hw, note_eq, record, hr, Bool.false_eq_true, if_false]
  rw [entry] at hk
  rw [hk]
  exact ⟨_, rfl⟩

/-! ## Performing a request -/

theorem perform_of_turnedDown (h : s.prepare r = .error f) : s.perform r = (.error f, s) := by
  rw [perform, h]

theorem perform_of_failed (h : s.prepare r = .ok script)
    (hd : s.deliver r.name script = (.error f, s')) : s.perform r = (.error f, s') := by
  simp only [perform, h, hd]

theorem perform_of_done (h : s.prepare r = .ok script)
    (hd : s.deliver r.name script = (.ok (), s')) :
    s.perform r = (.ok (), { s' with timeAxis := r.axisAfter s'.timeAxis }) := by
  simp only [perform, h, hd, Request.axisAfter]

/-! ## Closing -/

omit [Recorder ρ] in
theorem close_of_closed (h : s.closed = true) : s.close = (.ok (), s) := by
  rw [close, if_pos h]

omit [Recorder ρ] in
theorem close_of_open {result : Except Failure (List Notice)} {channel : σ}
    (h : s.closed = false) (hc : Channel.close s.channel = (result, channel)) :
    ∃ notices, s.close =
      (result.map fun _ => (), { s with channel, notices, closed := true }) := by
  unfold close
  simp only [h, note_eq, hc, Bool.false_eq_true, if_false]
  cases result <;> exact ⟨_, rfl⟩

/-! ## Every action is a step -/

theorem write_tapped (script : String) (c : Tapped σ) :
    Channel.write script c = ((Channel.write script c.inner).1,
      ⟨(Channel.write script c.inner).2, c.calls ++ [.write script (Channel.write script c.inner).1]⟩) :=
  rfl

theorem close_tapped (c : Tapped σ) :
    Channel.close c = ((Channel.close c.inner).1,
      ⟨(Channel.close c.inner).2, c.calls ++ [.close (Channel.close c.inner).1]⟩) :=
  rfl

theorem record_tallied (entry : Entry) (keeper : Tallied ρ) :
    Recorder.record entry keeper = ((Recorder.record entry keeper.inner).1,
      ⟨(Recorder.record entry keeper.inner).2, keeper.entries ++ [entry]⟩) :=
  rfl

variable (env : ε → σ → σ)

/-- A request does one of the things that a step can do. -/
theorem step_watch_request (s : Session σ ρ) (r : Request) :
    Step env s (s.watch env (.request r)).1 (s.watch env (.request r)).2 := by
  simp only [watch, act]
  -- The cases are the exits of a request, in the order in which it comes to them.
  rcases hprep : s.prepare r with f | script
  · rw [perform_of_turnedDown (s := s.tapped) hprep, untapped_tapped]
    -- The entries that were taken down are none, with a recorder or without.
    obtain ⟨_, recorder⟩ := s
    cases recorder <;> exact .turnedDown hprep
  by_cases hne : script = ""
  · subst hne
    obtain ⟨notices, hd⟩ := deliver_empty s.tapped r.name
    rw [perform_of_done (s := s.tapped) hprep hd]
    simp only [tapped, untapped, String.append_empty]
    obtain ⟨_, recorder⟩ := s
    cases recorder <;> exact .silent hprep
  -- From here on the script has been shown.
  rcases henc : s.alphabet.encode script with f | data
  · have hdeliver := deliver_unencodable (s := s.tapped) r.name hne henc
    rw [perform_of_failed (s := s.tapped) hprep hdeliver]
    simp only [tapped, untapped, String.empty_append]
    obtain ⟨_, recorder⟩ := s
    cases recorder <;> exact .unencodable hprep hne henc
  have ht := write_tapped script s.tapped.channel
  rcases hw : Channel.write script s.channel with ⟨f | ⟨⟨⟩⟩, channel⟩ <;>
    rw [show s.tapped.channel.inner = s.channel from rfl, hw] at ht
  · obtain ⟨notices, hd⟩ := deliver_refused (s := s.tapped) r.name hne henc ht
    rw [perform_of_failed (s := s.tapped) hprep hd]
    simp only [tapped, untapped, String.empty_append]
    obtain ⟨_, recorder⟩ := s
    cases recorder <;> exact .refused hprep hne henc hw
  rcases hr : s.recorder with _ | keeper
  · have htr : s.tapped.recorder = none := by rw [tapped, hr]; rfl
    obtain ⟨notices, hd⟩ := deliver_sent (s := s.tapped) r.name hne henc ht htr
    rw [perform_of_done (s := s.tapped) hprep hd]
    simp only [tapped, untapped, String.empty_append]
    obtain ⟨_, recorder⟩ := s
    subst hr
    exact .sent hprep hne henc hw rfl
  · have htr : s.tapped.recorder = some ⟨keeper, []⟩ := by rw [tapped, hr]; rfl
    have htk := record_tallied (s.entry r.name script) (⟨keeper, []⟩ : Tallied ρ)
    rcases hk : Recorder.record (s.entry r.name script) keeper with ⟨result, keeper'⟩
    rw [hk] at htk
    obtain ⟨notices, hd⟩ := deliver_recorded (s := s.tapped) hne henc ht htr htk
    -- Whether the recorder came to a regular end decides about the axis mode alone.
    cases result with
    | error f =>
      rw [perform_of_failed (s := s.tapped) hprep hd]
      simp only [tapped, untapped, String.empty_append]
      exact .recorded hprep hne henc hw hr hk
    | ok _ =>
      rw [perform_of_done (s := s.tapped) hprep hd]
      simp only [tapped, untapped, String.empty_append]
      exact .recorded hprep hne henc hw hr hk

/-- **Every action is a step.** -/
theorem step_watch (s : Session σ ρ) (a : Action ε) :
    Step env s (s.watch env a).1 (s.watch env a).2 := by
  cases a with
  | request r => exact step_watch_request env s r
  | close =>
    simp only [watch, act]
    rcases hclosed : s.closed
    · have ht := close_tapped s.tapped.channel
      rcases hc : Channel.close s.channel with ⟨result, channel⟩
      rw [show s.tapped.channel.inner = s.channel from rfl, hc] at ht
      obtain ⟨notices, hd⟩ := close_of_open (s := s.tapped) hclosed ht
      rw [hd]
      simp only [tapped, untapped, String.append_empty]
      obtain ⟨_, recorder⟩ := s
      cases recorder <;> exact .closing hclosed hc
    · rw [close_of_closed (s := s.tapped) hclosed, untapped_tapped]
      obtain ⟨_, recorder⟩ := s
      cases recorder <;> exact .closedBefore hclosed
  | disturb e =>
    simp only [watch, act, tapped, untapped, String.append_empty]
    obtain ⟨_, recorder⟩ := s
    cases recorder <;> exact .disturbed

/-! ## Listening changes nothing -/

variable (before : String)

omit [Channel σ] [Recorder ρ] in
theorem fail_untapped (t : Session (Tapped σ) (Tallied ρ)) (operation : String) (f : Failure) :
    (t.fail operation f).map id (untapped before) = (t.untapped before).fail operation f := by
  unfold fail
  cases f.kind <;> rfl

omit [Channel σ] in
theorem record_untapped (t : Session (Tapped σ) (Tallied ρ)) (operation script : String) :
    (t.record operation script).map id (untapped before) =
      (t.untapped before).record operation script := by
  obtain ⟨_, recorder⟩ := t
  cases recorder <;> rfl

omit [Channel σ] [Recorder ρ] in
/-- What is shown while listening comes after what was shown before. -/
theorem display_untapped (t : Session (Tapped σ) (Tallied ρ)) (script : String) :
    (t.display script).untapped before = (t.untapped before).display script := by
  rw [display_eq, display_eq]
  simp only [untapped, String.append_assoc]
  rfl

theorem deliver_untapped (t : Session (Tapped σ) (Tallied ρ)) (operation script : String) :
    (t.deliver operation script).map id (untapped before) =
      (t.untapped before).deliver operation script := by
  unfold deliver
  split
  · rfl
  · simp only [← display_untapped, write_tapped]
    rw [show ((t.display script).untapped before).alphabet = (t.display script).alphabet from rfl]
    rcases (t.display script).alphabet.encode script with f | data
    · rfl
    rw [show ((t.display script).untapped before).channel = (t.display script).channel.inner
      from rfl]
    rcases Channel.write script (t.display script).channel.inner with ⟨f | _, channel⟩
    · exact fail_untapped ..
    · exact record_untapped ..

theorem perform_untapped (t : Session (Tapped σ) (Tallied ρ)) (r : Request) :
    (t.perform r).map id (untapped before) = (t.untapped before).perform r := by
  unfold perform
  rw [show (t.untapped before).prepare r = t.prepare r from rfl]
  rcases t.prepare r with f | script
  · rfl
  · simp only [← deliver_untapped]
    rcases t.deliver r.name script with ⟨f | _, t'⟩ <;> rfl

omit [Recorder ρ] in
theorem close_untapped (t : Session (Tapped σ) (Tallied ρ)) :
    t.close.map id (untapped before) = (t.untapped before).close := by
  unfold close
  rw [show (t.untapped before).closed = t.closed from rfl]
  split
  · rfl
  · simp only [note_eq, close_tapped]
    rw [show (t.untapped before).channel = t.channel.inner from rfl]
    rcases Channel.close t.channel.inner with ⟨f | _, channel⟩ <;> rfl

/-- **Listening changes nothing**: an action comes to the same result and
the same session. -/
theorem watch_eq_act (s : Session σ ρ) (a : Action ε) :
    ((s.watch env a).1.result, (s.watch env a).2) = s.act env a := by
  cases a with
  | request r =>
    exact (perform_untapped s.echo s.tapped r).trans (by rw [untapped_tapped]; rfl)
  | close => exact (close_untapped s.echo s.tapped).trans (by rw [untapped_tapped]; rfl)
  | disturb e =>
    simp only [watch, act, tapped, untapped, String.append_empty]
    obtain ⟨_, recorder⟩ := s
    cases recorder <;> rfl

/-- A run goes on from the session that its first action leaves. -/
theorem run_cons (s : Session σ ρ) (a : Action ε) (actions : List (Action ε)) :
    s.run env (a :: actions) = (s.watch env a).2.run env actions := by
  have hact : (s.act env a).2 = (s.watch env a).2 := by rw [← watch_eq_act]
  rw [run, List.foldl_cons, hact]
  rfl

/-- **A trace is a run of steps** that ends where the actions lead. -/
theorem runs_trace (s : Session σ ρ) (actions : List (Action ε)) :
    Runs env s (s.trace env actions) (s.run env actions) := by
  induction actions generalizing s with
  | nil => exact .nil
  | cons a rest ih =>
    rw [run_cons]
    exact .cons (step_watch env s a) (ih (s.watch env a).2)

theorem map_snd_history (s : Session σ ρ) (actions : List (Action ε)) :
    (s.history env actions).map Prod.snd = s.trace env actions := by
  induction actions generalizing s with
  | nil => rfl
  | cons a rest ih => rw [history, trace, List.map_cons, ih]

/-- The events of a trace are those of its actions, in order. -/
theorem map_action_trace (s : Session σ ρ) (actions : List (Action ε)) :
    (s.trace env actions).map Event.action = actions := by
  induction actions generalizing s with
  | nil => rfl
  | cons a rest ih => rw [trace, List.map_cons, ih]; rfl

end Session

end PlotPipe
