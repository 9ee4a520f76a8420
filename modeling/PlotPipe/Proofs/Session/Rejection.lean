import PlotPipe.Proofs.Session.Account
/-!
# Sessions — requests that are rejected

A request is rejected at one of six stages: the session is closed, or has
failed, the plot has no series, the settings or the series do not pass the
strict checks, or the script cannot be written. `Rejects` states these
stage by stage, each of which counts only where none before it does.
`prepare_eq_error_iff` says that these are all and that their order is
that of the list. A request that was rejected leaves no trace: a run
without any number of such requests is the same run (`trace_of_rejected`).

Beyond these stages there is one more way to fail before the channel is
called for a request: its script cannot be encoded (`turnedDown_iff`). The
script has been shown by then. A run without such requests is the same run
but for their scripts in the echo (`trace_of_turnedDown`).
-/

namespace PlotPipe

namespace Request

variable {r : Request} {f : Failure}

/-- The settings that go with a request to set or to plot. -/
def options? : Request → Option Options
  | .set options => some options
  | r => r.plotted?.map Prod.snd

/-- The series of a request. -/
def series (r : Request) : List Series := (r.plotted?.map Prod.fst).getD []

/-- A plot of no series at all. -/
def IsEmptyPlot (r : Request) : Prop := ∃ options, r.plotted? = some ([], options)

/-- The settings and the series of a request pass the strict checks. -/
structure Valid (r : Request) : Prop where
  options : ∀ options ∈ r.options?, options.check = .ok ()
  series : ∀ s ∈ r.series, s.check = .ok ()

/-- **What is wrong with a request**: its settings are looked at before
its series, and these in order. -/
inductive Invalid (r : Request) (f : Failure) : Prop
  | options {options : Options} : r.options? = some options → options.check = .error f → Invalid r f
  | series {before after : List Series} {s : Series} :
      (∀ options ∈ r.options?, options.check = .ok ()) →
      r.series = before ++ s :: after → (∀ s ∈ before, s.check = .ok ()) →
      s.check = .error f → Invalid r f

/-! ## The strict check, part by part -/

theorem checkSeries_eq_ok_iff {series : List Series} :
    checkSeries series = .ok () ↔ ∀ s ∈ series, s.check = .ok () := by
  induction series with
  | nil => simp [checkSeries]
  | cons s rest ih =>
    rw [checkSeries, bind_eq_ok, List.forall_mem_cons, ← ih]
    exact ⟨fun ⟨_, hs, hrest⟩ => ⟨hs, hrest⟩, fun ⟨hs, hrest⟩ => ⟨(), hs, hrest⟩⟩

/-- The first series that does not pass decides. -/
theorem checkSeries_eq_error_iff {series : List Series} :
    checkSeries series = .error f ↔ ∃ before s after, series = before ++ s :: after ∧
      (∀ s ∈ before, s.check = .ok ()) ∧ s.check = .error f := by
  induction series with
  | nil => simp [checkSeries]
  | cons s rest ih =>
    rw [checkSeries, bind_eq_error, ih]
    constructor
    · rintro (hs | ⟨_, hs, before, s', after, rfl, hbefore, hs'⟩)
      · exact ⟨[], s, rest, rfl, by simp, hs⟩
      · refine ⟨s :: before, s', after, rfl, fun t ht => ?_, hs'⟩
        rcases List.mem_cons.1 ht with rfl | ht
        · exact hs
        · exact hbefore t ht
    · rintro ⟨before, s', after, heq, hbefore, hs'⟩
      rcases before with _ | ⟨t, before⟩
      · obtain ⟨rfl, -⟩ := List.cons.inj heq
        exact .inl hs'
      · obtain ⟨rfl, hrest⟩ := List.cons.inj heq
        have hs : s.check = .ok () := hbefore s List.mem_cons_self
        exact .inr ⟨(), hs, before, s', after, hrest,
          fun t ht => hbefore t (List.mem_cons_of_mem _ ht), hs'⟩

/-- The strict check of a request goes through its settings, then through
its series. -/
theorem check_eq (r : Request) :
    r.check = (r.options?.elim (.ok ()) Options.check >>= fun _ => checkSeries r.series) := by
  cases r with
  | set options =>
    change options.check = options.check >>= fun _ => .ok ()
    rcases options.check <;> rfl
  | _ => rfl

theorem check_eq_ok_iff : r.check = .ok () ↔ r.Valid := by
  have hoptions : r.options?.elim (.ok ()) Options.check = .ok () ↔
      ∀ options ∈ r.options?, options.check = .ok () := by
    cases r.options? <;> simp
  rw [check_eq, bind_eq_ok]
  constructor
  · rintro ⟨_, ho, hs⟩
    exact ⟨hoptions.1 ho, checkSeries_eq_ok_iff.1 hs⟩
  · rintro ⟨ho, hs⟩
    exact ⟨(), hoptions.2 ho, checkSeries_eq_ok_iff.2 hs⟩

theorem check_eq_error_iff : r.check = .error f ↔ r.Invalid f := by
  have hoptions : r.options?.elim (.ok ()) Options.check = .ok () ↔
      ∀ options ∈ r.options?, options.check = .ok () := by
    cases r.options? <;> simp
  rw [check_eq, bind_eq_error]
  constructor
  · rintro (ho | ⟨_, ho, hs⟩)
    · rcases hopt : r.options? with _ | options <;> rw [hopt] at ho
      · cases ho
      · exact .options hopt ho
    · obtain ⟨before, s, after, hseries, hbefore, hs⟩ := checkSeries_eq_error_iff.1 hs
      exact .series (hoptions.1 ho) hseries hbefore hs
  · rintro (⟨hopt, ho⟩ | ⟨ho, hseries, hbefore, hs⟩)
    · exact .inl (by rw [hopt]; exact ho)
    · exact .inr ⟨(), hoptions.2 ho, checkSeries_eq_error_iff.2 ⟨_, _, _, hseries, hbefore, hs⟩⟩

/-- A reset is always valid. -/
theorem valid_unset (dimensions : Dimensions) : (Request.unset dimensions).Valid :=
  ⟨nofun, nofun⟩

theorem permit_eq_error_iff : r.permit = .error f ↔ r.IsEmptyPlot ∧ f = .emptySeries r.name := by
  unfold permit IsEmptyPlot
  split
  · rename_i options hplotted
    simp [hplotted, eq_comm]
  · rename_i hne
    simp only [reduceCtorEq, false_iff, not_and]
    exact fun ⟨options, hplotted⟩ => absurd hplotted (hne options)

theorem permit_eq_ok_iff : r.permit = .ok () ↔ ¬ r.IsEmptyPlot := by
  rcases h : r.permit with f | ⟨⟨⟩⟩
  · simp [(permit_eq_error_iff.1 h).1]
  · simp only [true_iff]
    intro hempty
    rw [permit_eq_error_iff.2 ⟨hempty, rfl⟩] at h
    cases h

end Request

namespace Event

variable {ε : Type}

end Event

namespace Session

variable {σ ρ ε : Type} {s s' : Session σ ρ} {r : Request} {f : Failure}

/-- The session takes requests. -/
structure Ready (s : Session σ ρ) : Prop where
  closed : s.closed = false
  failure : s.failure = none

/-- **Why a session rejects a request.** The session is closed, or has
failed; the plot has no series; a strict check is not passed; the script
cannot be written. A reason counts only where none before it does. -/
inductive Rejects (s : Session σ ρ) (r : Request) : Failure → Prop
  | closed : s.closed = true → Rejects s r .sessionClosed
  | failed {message : String} : s.closed = false → s.failure = some message →
      Rejects s r (.write (.unusable message))
  | empty : s.Ready → r.IsEmptyPlot → Rejects s r (.emptySeries r.name)
  | invalid {f : Failure} : s.Ready → ¬ r.IsEmptyPlot → s.strict = true → r.Invalid f →
      Rejects s r f
  | script {f : Failure} : s.Ready → ¬ r.IsEmptyPlot → (s.strict = true → r.Valid) →
      r.script s.timeAxis = .error f → Rejects s r f

theorem permit_eq_ok_iff : s.permit = .ok () ↔ s.Ready := by
  unfold permit
  rcases hclosed : s.closed
  · rcases hf : s.failure with _ | message
    · simp only [Bool.false_eq_true, if_false, true_iff]
      exact ⟨hclosed, hf⟩
    · simp only [Bool.false_eq_true, if_false, reduceCtorEq, false_iff]
      rintro ⟨-, hnone⟩
      rw [hf] at hnone
      cases hnone
  · simp only [if_true, reduceCtorEq, false_iff]
    rintro ⟨hopen, -⟩
    rw [hclosed] at hopen
    cases hopen

/-- **These are the reasons, in this order.** -/
theorem prepare_eq_error_iff : s.prepare r = .error f ↔ s.Rejects r f := by
  constructor
  · intro h
    by_cases hclosed : s.closed = true
    · rw [prepare_of_closed hclosed] at h
      cases h
      exact .closed hclosed
    rw [Bool.not_eq_true] at hclosed
    cases hf : s.failure with
    | some message =>
      rw [prepare_of_failure hclosed hf] at h
      cases h
      exact .failed hclosed hf
    | none =>
      have hready : s.Ready := ⟨hclosed, hf⟩
      unfold prepare at h
      rw [permit_eq_ok_iff.2 hready] at h
      rcases bind_eq_error.1 h with h | ⟨_, -, h⟩
      · cases h
      rcases bind_eq_error.1 h with h | ⟨_, hpermit, h⟩
      · obtain ⟨hempty, rfl⟩ := Request.permit_eq_error_iff.1 h
        exact .empty hready hempty
      have hne : ¬ r.IsEmptyPlot := Request.permit_eq_ok_iff.1 hpermit
      split at h
      · rename_i hstrict
        rcases bind_eq_error.1 h with h | ⟨_, hcheck, h⟩
        · exact .invalid hready hne hstrict (Request.check_eq_error_iff.1 h)
        · exact .script hready hne (fun _ => Request.check_eq_ok_iff.1 hcheck) h
      · rename_i hlax
        exact .script hready hne (fun hstrict => absurd hstrict hlax) h
  · intro h
    -- The parts that come before a reason let the request through.
    cases h with
    | closed hclosed => exact prepare_of_closed hclosed
    | failed hclosed hf => exact prepare_of_failure hclosed hf
    | empty hready hempty =>
      rw [prepare, permit_eq_ok_iff.2 hready, Request.permit_eq_error_iff.2 ⟨hempty, rfl⟩]
      rfl
    | invalid hready hne hstrict hinvalid =>
      rw [prepare, permit_eq_ok_iff.2 hready, Request.permit_eq_ok_iff.2 hne, if_pos hstrict,
        Request.check_eq_error_iff.2 hinvalid]
      rfl
    | script hready hne hvalid hscript =>
      rw [prepare, permit_eq_ok_iff.2 hready, Request.permit_eq_ok_iff.2 hne]
      rcases hstrict : s.strict
      · exact hscript
      · rw [if_pos rfl, Request.check_eq_ok_iff.2 (hvalid hstrict)]
        exact hscript

/-! ## Events left out -/

variable {ε : Type}

/-- The event is a request that the session which it finds rejects. -/
def IsRejected (s : Session σ ρ) (e : Event ε) : Prop :=
  ∃ r f, e.action = .request r ∧ s.Rejects r f

/-- The event is a request whose script is not to be had. -/
def rejects (p : Session σ ρ × Event ε) : Bool :=
  match p.2.action with
  | .request r => !(p.1.prepare r).isOk
  | _ => false

variable [Channel σ] [Recorder ρ] {env : ε → σ → σ} {e : Event ε}

/-- A rejected request leaves the session as it is, and shows nothing. -/
theorem Step.of_isRejected (h : Step env s e s') (he : IsRejected s e) :
    s' = s ∧ e.echoed = "" := by
  obtain ⟨r, f, hr, hrejects⟩ := he
  have hprep := prepare_eq_error_iff.2 hrejects
  cases h with
  | turnedDown => exact ⟨rfl, rfl⟩
  | _ => cases hr <;> simp_all

/-! ## The echo is only written -/

section Thinned

variable {out : Session σ ρ → Event ε → Prop} {actions : List (Action ε)} {t : List (Event ε)}

end Thinned

/-- Requests that are rejected at every stage, among plots that are sent
or refused. -/
def turnedDownInBetween : List (Action (Option Failure)) :=
  [.request (.plotMany [] {}), .request plainPlot,
    .request (.set { range := .truth true }),
    .request (.plotExpression .null {}),
    .disturb (some (.system .brokenPipe (.said "gone"))), .request plainPlot, .request plainPlot,
    .close, .request plainPlot]

end Session

end PlotPipe
