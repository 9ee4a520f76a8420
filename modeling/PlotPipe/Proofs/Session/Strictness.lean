import PlotPipe.Proofs.Session.Rejection
/-!
# Sessions — strict and lax

A strict session and a lax one differ in one place: the strict one checks
a request before it writes the script. So the strict run is the lax run
of the actions that the check does not bar (`lax_trace_and_run`): the
check reads nothing that a run leaves behind, and a request that it bars
leaves nothing.
-/

namespace PlotPipe

namespace Session

variable {σ ρ ε : Type} {s : Session σ ρ} {r : Request} {operation script : String} {f : Failure}

/-- The same session without the strict check. -/
def lax (s : Session σ ρ) : Session σ ρ := { s with strict := false }

/-- **The strict check bars an action**: it is a request that gets as far
as the check and does not pass it. -/
def bars (s : Session σ ρ) : Action ε → Bool
  | .request r => s.permit.isOk && r.permit.isOk && s.strict && !r.check.isOk
  | _ => false

theorem isOk_iff {x : Except Failure Unit} : x.isOk = true ↔ x = .ok () := by
  rcases x with f | ⟨⟨⟩⟩ <;> simp [Except.isOk, Except.toBool]

/-- What is barred is a request of a session that takes requests, and
something is wrong with it. -/
theorem bars_iff : s.bars (.request r : Action ε) ↔
    s.Ready ∧ ¬ r.IsEmptyPlot ∧ s.strict = true ∧ ∃ f, r.Invalid f := by
  have hcheck : (!r.check.isOk) = true ↔ ∃ f, r.Invalid f := by
    simp only [← Request.check_eq_error_iff]
    rcases r.check with f | _ <;> simp [Except.isOk, Except.toBool]
  rw [bars, Bool.and_eq_true, Bool.and_eq_true, Bool.and_eq_true, hcheck, isOk_iff, isOk_iff,
    permit_eq_ok_iff, Request.permit_eq_ok_iff, and_assoc, and_assoc]

theorem not_bars_of_valid (h : r.Valid) : s.bars (.request r : Action ε) = false := by
  rw [bars, Request.check_eq_ok_iff.2 h]
  simp [Except.isOk, Except.toBool]

/-- What the check bars is rejected. -/
theorem isRejected_of_bars {e : Event ε} (he : e.action = .request r)
    (h : s.bars (.request r : Action ε)) : IsRejected s e := by
  obtain ⟨hready, hne, hstrict, f, hf⟩ := bars_iff.1 h
  exact ⟨r, f, he, .invalid hready hne hstrict hf⟩

/-- Where nothing is barred, the check makes no difference: a request that
does not get as far is turned down for a reason that comes before it. -/
theorem prepare_lax (h : s.bars (.request r : Action ε) = false) : s.lax.prepare r = s.prepare r := by
  have hpermit : s.lax.permit = s.permit := rfl
  unfold prepare
  rw [hpermit]
  rcases hs : s.permit with f | _
  · rfl
  rcases hr : r.permit with f | _
  · rfl
  rcases hstrict : s.strict
  · rfl
  rcases hc : r.check with f | _
  · rw [bars, hs, hr, hstrict, hc] at h
    cases h
  · rfl

/-! ## Nothing else looks at strictness -/

theorem fail_lax (s : Session σ ρ) (operation : String) (f : Failure) :
    (s.fail operation f).map id lax = s.lax.fail operation f := by
  unfold fail
  cases f.kind <;> rfl

theorem record_lax [Recorder ρ] (s : Session σ ρ) (operation script : String) :
    (s.record operation script).map id lax = s.lax.record operation script := by
  obtain ⟨_, recorder⟩ := s
  cases recorder <;> rfl

variable [Channel σ] [Recorder ρ]

theorem deliver_lax (s : Session σ ρ) (operation script : String) :
    (s.deliver operation script).map id lax = s.lax.deliver operation script := by
  unfold deliver
  split
  · rfl
  · simp only [display_eq]
    rw [show s.lax.alphabet = s.alphabet from rfl]
    rcases s.alphabet.encode script with f | data
    · rfl
    rw [show s.lax.channel = s.channel from rfl]
    rcases Channel.write script s.channel with ⟨f | _, channel⟩
    · exact fail_lax ..
    · exact record_lax ..

theorem perform_lax (h : s.lax.prepare r = s.prepare r) :
    (s.perform r).map id lax = s.lax.perform r := by
  unfold perform
  rw [h]
  rcases s.prepare r with f | script
  · rfl
  · simp only [← deliver_lax]
    rcases s.deliver r.name script with ⟨f | _, s'⟩ <;> rfl

omit [Recorder ρ] in
theorem close_lax (s : Session σ ρ) : s.close.map id lax = s.lax.close := by
  unfold close
  rw [show s.lax.closed = s.closed from rfl]
  split
  · rfl
  · simp only [note_eq]
    rw [show s.lax.channel = s.channel from rfl]
    rcases Channel.close s.channel with ⟨f | _, channel⟩ <;> rfl

variable (env : ε → σ → σ)

/-- **An action that is not barred does the same to both sessions.** -/
theorem watch_lax {a : Action ε} (h : s.bars a = false) :
    s.lax.watch env a = (s.watch env a).map id lax := by
  cases a with
  | request r =>
    have hprep : s.lax.prepare r = s.prepare r := prepare_lax h
    have hperform : (s.tapped.perform r).map id lax = s.tapped.lax.perform r := perform_lax hprep
    rw [watch, show s.lax.tapped = s.tapped.lax from rfl, act, ← hperform]
    rfl
  | close =>
    rw [watch, show s.lax.tapped = s.tapped.lax from rfl, act, ← close_lax s.tapped]
    rfl
  | disturb e => rfl

/-- An action that is barred leaves the session as it is. -/
theorem watch_of_bars {a : Action ε} (h : s.bars a = true) : (s.watch env a).2 = s := by
  cases a with
  | request r => exact ((step_watch env s (.request r)).of_isRejected (isRejected_of_bars rfl h)).1
  | close => cases h
  | disturb e => cases h

/-! ## Runs -/

/-- What is left of a run without the actions that are barred in it. -/
def unbarred (s : Session σ ρ) (actions : List (Action ε)) : List (Event ε) :=
  ((s.history env actions).filter fun p => !p.1.bars p.2.action).map Prod.snd

variable {env} {a : Action ε} {actions : List (Action ε)}

theorem unbarred_cons_of_bars (h : s.bars a = true) :
    s.unbarred env (a :: actions) = s.unbarred env actions := by
  have hnot : ¬ (!s.bars (s.watch env a).1.action) = true := by
    rw [show (s.watch env a).1.action = a from rfl, h]
    decide
  rw [unbarred, history, List.filter_cons, if_neg hnot, watch_of_bars env h, unbarred]

theorem unbarred_cons (h : s.bars a = false) :
    s.unbarred env (a :: actions) =
      (s.watch env a).1 :: (s.watch env a).2.unbarred env actions := by
  have hkept : (!s.bars (s.watch env a).1.action) = true := by
    rw [show (s.watch env a).1.action = a from rfl, h]
    rfl
  rw [unbarred, history, List.filter_cons, if_pos hkept, List.map_cons, unbarred]

variable (env)

/-- **The lax run of what is left is the strict run.** -/
theorem lax_run_unbarred (s : Session σ ρ) (actions : List (Action ε)) :
    s.lax.trace env ((s.unbarred env actions).map Event.action) = s.unbarred env actions ∧
      s.lax.run env ((s.unbarred env actions).map Event.action) = (s.run env actions).lax := by
  induction actions generalizing s with
  | nil => exact ⟨rfl, rfl⟩
  | cons a rest ih =>
    rw [run_cons]
    rcases h : s.bars a
    · have hwatch := watch_lax env h
      obtain ⟨htrace, hrun⟩ := ih (s.watch env a).2
      have haction : (s.watch env a).1.action = a := rfl
      rw [unbarred_cons h, List.map_cons, haction, trace, run_cons, hwatch]
      exact ⟨congrArg (_ :: ·) htrace, hrun⟩
    · rw [unbarred_cons_of_bars h, watch_of_bars env h]
      exact ih s

/-- Nothing is left out of a run of valid requests. -/
theorem unbarred_of_valid (s : Session σ ρ) (h : ∀ r, .request r ∈ actions → r.Valid) :
    s.unbarred env actions = s.trace env actions := by
  induction actions generalizing s with
  | nil => rfl
  | cons a rest ih =>
    have ha : s.bars a = false := by
      cases a with
      | request r => exact not_bars_of_valid (h r List.mem_cons_self)
      | _ => rfl
    rw [unbarred_cons ha, trace, ih _ fun r hr => h r (List.mem_cons_of_mem _ hr)]

/-- **A strict session only leaves requests out.** A run of it is the run
of the lax session without the requests that its check bars: the results,
calls and entries of all other actions are the same, and so is everything
that the session shows in the end. A run in which every request is valid
is the same run in both sessions, and a reset is the same step. -/
theorem lax_trace_and_run (s : Session σ ρ) :
    (∀ actions : List (Action ε),
      s.lax.trace env ((s.unbarred env actions).map Event.action) = s.unbarred env actions ∧
        s.lax.run env ((s.unbarred env actions).map Event.action) = (s.run env actions).lax) ∧
    (∀ actions : List (Action ε), (∀ r, .request r ∈ actions → r.Valid) →
      s.lax.trace env actions = s.trace env actions ∧
        s.lax.run env actions = (s.run env actions).lax) ∧
    ∀ dimensions, s.lax.watch env (.request (.unset dimensions)) =
      (s.watch env (.request (.unset dimensions))).map id lax := by
  refine ⟨lax_run_unbarred env s, fun actions hvalid => ?_, fun dimensions => ?_⟩
  · have h := lax_run_unbarred env s actions
    rw [unbarred_of_valid env s hvalid, map_action_trace] at h
    exact h
  · exact watch_lax env (not_bars_of_valid (Request.valid_unset dimensions))

/-- A strict session is asked for something that its check bars, next to
plots that are sent, refused or turned down for other reasons. -/
theorem lax_run_turnedDownInBetween :
    let s := verboseOver {} ({} : EntryList) true 0
    let rest := s.unbarred MemoryChannel.complain turnedDownInBetween
    rest.length + 1 = turnedDownInBetween.length ∧
      rest.map Event.isOk = [false, true, false, true, false, false, true, false] ∧
      s.lax.trace MemoryChannel.complain (rest.map Event.action) = rest ∧
      (∀ r, .request r ∈ interrupted → r.Valid) ∧
      s.lax.run MemoryChannel.complain interrupted =
        (s.run MemoryChannel.complain interrupted).lax := by
  intro s rest
  obtain ⟨hbarred, hvalid, -⟩ := lax_trace_and_run MemoryChannel.complain s
  have hplain : ∀ r, .request r ∈ interrupted → r.Valid := by
    intro r hr
    obtain rfl : r = plainPlot := by simpa [interrupted] using hr
    exact Request.check_eq_ok_iff.1 rfl
  exact ⟨by decide +kernel, by decide +kernel, (hbarred turnedDownInBetween).1, hplain,
    (hvalid interrupted hplain).2⟩

end Session

end PlotPipe
