import PlotPipe.Channel.Memory
import PlotPipe.Journal.Basic
import PlotPipe.Proofs.Script.Layout
import PlotPipe.Proofs.Session.Step
/-!
# Sessions — the time axis

Whether the x axis is in time mode is held in two places: the session
remembers it (`Session.timeAxis`), and the far side learns it from the
lines that it reads (`Script.modeAfter`). The session remembers the mode
of a plot only once the recorder has come to a regular end, the far side
once it has the script, so the two can part: after a plot over time whose
entry was refused (`Drawn.Lapses`). Apart from that, every plot line
meets the mode that its plot needs.
-/

namespace PlotPipe

/-- The axis mode of the far side after a line. -/
def Script.modeAfter (mode : Bool) (line : String) : Bool :=
  if line = timeAxis then true else if line = numericAxis then false else mode

/-- **The axis agrees**: where a line plots, the mode is that of the plot.
Each line stands with the request that it is of. -/
def AxisAgrees : Bool → List (Request × String) → Prop
  | _, [] => True
  | mode, (r, line) :: rest =>
    (Script.Opens "plot " line → r.timeAxis? = some mode) ∧
      AxisAgrees (Script.modeAfter mode line) rest

/-- A plot that the far side has: whether it is over time, and whether
its request came to a regular end. -/
structure Drawn where
  time : Bool
  returned : Bool
  deriving DecidableEq

namespace Event

variable {ε : Type}

/-- The lines that the far side reads, with the request they are of. -/
def farLines (e : Event ε) : List (Request × String) :=
  match e.action with
  | .request r => e.accepted.flatMap fun script => (Script.lines script).map fun line => (r, line)
  | _ => []

/-- The plots that the far side has from an event. -/
def drawn (e : Event ε) : List Drawn :=
  match e.action with
  | .request r =>
    match r.timeAxis? with
    | some time => e.accepted.map fun _ => ⟨time, e.isOk⟩
    | none => []
  | _ => []

/-- A plot that the far side has was accepted, and came to the end that
its event came to. -/
theorem of_mem_drawn {e : Event ε} {p : Drawn} (h : p ∈ e.drawn) :
    e.accepted ≠ [] ∧ p.returned = e.isOk := by
  unfold drawn at h
  split at h
  · split at h
    · obtain ⟨script, hscript, rfl⟩ := List.mem_map.1 h
      exact ⟨List.ne_nil_of_mem hscript, rfl⟩
    · cases h
  · cases h

end Event

/-- The axis mode that a session remembers after several plots. -/
def Drawn.remembered (mode : Bool) : List Drawn → Bool
  | [] => mode
  | p :: rest => remembered (if p.returned then p.time else mode) rest

/-- **The memory of a session lapses**: a plot over time is drawn without
its request coming to a regular end, while the session remembers an axis
of numbers, and the next plot is one of numbers. -/
def Drawn.Lapses (plots : List Drawn) : Prop :=
  ∃ before p q after, plots = before ++ p :: q :: after ∧
    p.time ∧ ¬ p.returned ∧ ¬ q.time ∧ remembered false before = false

namespace Drawn

variable {memory mode : Bool} {plots before rest : List Drawn} {p q : Drawn}

/-- Every plot is over time, or turns the axis back, or finds it among
numbers. `memory` is what the session remembers, `mode` is the mode of
the far side. -/
def Agree : Bool → Bool → List Drawn → Prop
  | _, _, [] => True
  | memory, mode, p :: rest =>
    (p.time ∨ memory ∨ mode = false) ∧
      Agree (if p.returned then p.time else memory) p.time rest

theorem remembered_append :
    remembered memory (before ++ rest) = remembered (remembered memory before) rest := by
  induction before generalizing memory with
  | nil => rfl
  | cons p before ih => exact ih

/-- The mode of the last plot. -/
def lastMode (mode : Bool) : List Drawn → Bool
  | [] => mode
  | p :: rest => lastMode p.time rest

theorem lastMode_append_singleton : lastMode mode (before ++ [p]) = p.time := by
  induction before generalizing mode with
  | nil => rfl
  | cons q before ih => exact ih

/-- Agreement, plot by plot. -/
theorem agree_iff : Agree memory mode plots ↔ ∀ before q after, plots = before ++ q :: after →
    q.time ∨ remembered memory before ∨ lastMode mode before = false := by
  induction plots generalizing memory mode with
  | nil => simp [Agree]
  | cons p rest ih =>
    rw [Agree, ih]
    constructor
    · rintro ⟨hp, hrest⟩ before q after hplots
      rcases before with _ | ⟨p', before⟩
      · obtain ⟨rfl, -⟩ := List.cons.inj hplots
        exact hp
      · obtain ⟨rfl, hafter⟩ := List.cons.inj hplots
        exact hrest before q after hafter
    · intro h
      refine ⟨h [] p rest rfl, fun before q after hrest => ?_⟩
      exact h (p :: before) q after (congrArg _ hrest)

/-- **Where the memory does not lapse, every plot agrees**, and only
there: a plot of numbers that finds the axis in time mode comes right
after one over time that the session does not remember. -/
theorem agree_iff_not_lapses : Agree false false plots ↔ ¬ Lapses plots := by
  rw [agree_iff]
  constructor
  · -- `q` finds the mode of `p`, and a memory from before `p`.
    rintro h ⟨before, p, q, after, rfl, hp, hreturned, hq, hmemory⟩
    have hagree := h (before ++ [p]) q after (by simp)
    rw [remembered_append, lastMode_append_singleton, hmemory] at hagree
    simp_all [remembered]
  · intro hlapse before q after hplots
    rcases List.eq_nil_or_concat before with rfl | ⟨before, p, rfl⟩
    · exact .inr (.inr rfl)
    · rw [List.concat_eq_append] at hplots ⊢
      rw [remembered_append, lastMode_append_singleton]
      rcases hq : q.time with _ | _
      · rcases hp : p.time with _ | _
        · exact .inr (.inr rfl)
        rcases hreturned : p.returned with _ | _
        · -- Only what was remembered before `p` can be remembered after it.
          rcases hmemory : remembered false before with _ | _
          · exact absurd ⟨before, p, q, after, by simpa using hplots, hp, by simp [hreturned],
              by simp [hq], hmemory⟩ hlapse
          · exact .inr (.inl (by simp [remembered, hreturned]))
        · exact .inr (.inl (by simp [remembered, hreturned, hp]))
      · exact .inl rfl

end Drawn

/-! ## Reading the lines of one request -/

section Lines

variable {mode resetTimeAxis : Bool} {r : Request} {ls : List String}
  {rest : List (Request × String)}

/-- Neutral lines are read over. -/
theorem axisAgrees_neutral (h : ∀ line ∈ ls, Script.Neutral line) :
    AxisAgrees mode (ls.map (fun line => (r, line)) ++ rest) ↔ AxisAgrees mode rest := by
  induction ls with
  | nil => rfl
  | cons line ls ih =>
    obtain ⟨hplot, htime, hnumeric⟩ := h line List.mem_cons_self
    have hmode : Script.modeAfter mode line = mode := by
      rw [Script.modeAfter, if_neg htime, if_neg hnumeric]
    rw [List.map_cons, List.cons_append, AxisAgrees, hmode,
      ih fun line hline => h line (List.mem_cons_of_mem _ hline)]
    exact and_iff_right fun hopens => absurd hopens hplot

/-- The line that turns the axis turns it. -/
theorem axisAgrees_axisLines {time : Bool} :
    AxisAgrees mode ((Series.axisLines resetTimeAxis time).map (fun line => (r, line)) ++ rest) ↔
      AxisAgrees (if time then true else if resetTimeAxis then false else mode) rest := by
  have htime : ¬ Script.Opens "plot " Script.timeAxis := by decide
  have hnumeric : ¬ Script.Opens "plot " Script.numericAxis := by decide
  have hne : Script.numericAxis ≠ Script.timeAxis := by decide
  cases time with
  | true => simp [Series.axisLines, AxisAgrees, Script.modeAfter, htime]
  | false =>
    cases resetTimeAxis with
    | true => simp [Series.axisLines, AxisAgrees, Script.modeAfter, hnumeric, hne]
    | false => simp [Series.axisLines]

/-- A line that plots does not turn the axis. -/
theorem modeAfter_of_opens {line : String} (h : Script.Opens "plot " line) :
    Script.modeAfter mode line = mode := by
  have htime : line ≠ Script.timeAxis := by
    rintro rfl
    exact absurd h (by decide)
  have hnumeric : line ≠ Script.numericAxis := by
    rintro rfl
    exact absurd h (by decide)
  rw [Script.modeAfter, if_neg htime, if_neg hnumeric]

/-- The lines of settings and resets are read over. -/
theorem axisAgrees_settings (hr : r.timeAxis? = none) (h : r.HasLines resetTimeAxis ls) :
    AxisAgrees mode ((ls ++ [""]).map (fun line => (r, line)) ++ rest) ↔ AxisAgrees mode rest := by
  cases h with
  | settings _ hls =>
    refine axisAgrees_neutral fun line hline => ?_
    rcases List.mem_append.1 hline with hline | hline
    · exact (hls line hline).2
    · rw [List.mem_singleton.1 hline]
      decide
  | plot hr' => simp [hr] at hr'

/-- **The lines of a plot** agree when it is over time, or turns the axis
back, or finds it among numbers. The mode is its own afterwards. -/
theorem axisAgrees_plot {time : Bool} (hr : r.timeAxis? = some time)
    (h : r.HasLines resetTimeAxis ls) :
    AxisAgrees mode ((ls ++ [""]).map (fun line => (r, line)) ++ rest) ↔
      (time ∨ resetTimeAxis ∨ mode = false) ∧ AxisAgrees time rest := by
  cases h with
  | settings hr' => simp [hr] at hr'
  | @plot settings data plotLine time' hr' hneutral hline hopens =>
    obtain rfl : time' = time := by simpa [hr] using hr'.symm
    have hsettings : ∀ line ∈ settings, Script.Neutral line :=
      fun line h => (hneutral line (List.mem_append_left _ h)).2
    have hdata : ∀ line ∈ data ++ [""], Script.Neutral line := by
      intro line h
      rcases List.mem_append.1 h with h | h
      · exact (hneutral line (List.mem_append_right _ h)).2
      · rw [List.mem_singleton.1 h]
        decide
    have hlines : (settings ++ Series.axisLines resetTimeAxis time' ++ plotLine :: data
          ++ [""]).map (fun line => (r, line)) ++ rest =
        settings.map (fun line => (r, line)) ++
          ((Series.axisLines resetTimeAxis time').map (fun line => (r, line)) ++
            (r, plotLine) :: ((data ++ [""]).map (fun line => (r, line)) ++ rest)) := by
      simp
    rw [hlines, axisAgrees_neutral hsettings, axisAgrees_axisLines, AxisAgrees, hr',
      modeAfter_of_opens hopens, axisAgrees_neutral hdata]
    cases time' <;> cases resetTimeAxis <;> cases mode <;> simp [hopens]

end Lines

/-! ## Agreement along a run -/

namespace Session

variable {σ ρ ε : Type} [Channel σ] [Recorder ρ] {env : ε → σ → σ}
variable {s s' : Session σ ρ} {e : Event ε} {t : List (Event ε)}

/-- What an event adds to the plots that are drawn and to what the far
side reads, and what the session remembers after it: nothing is added, or
one plot. -/
inductive AxisStep (memory : Bool) (e : Event ε) : Bool → Prop
  | none : e.drawn = [] →
      (∀ mode rest, AxisAgrees mode (e.farLines ++ rest) ↔ AxisAgrees mode rest) →
      AxisStep memory e memory
  | plot {p : Drawn} : e.drawn = [p] →
      (∀ mode rest, AxisAgrees mode (e.farLines ++ rest) ↔
        (p.time ∨ memory ∨ mode = false) ∧ AxisAgrees p.time rest) →
      AxisStep memory e (if p.returned then p.time else memory)

/-- Where nothing is accepted, nothing is added. -/
theorem axisStep_of_accepted_eq_nil {memory : Bool} (h : e.accepted = []) :
    AxisStep memory e memory := by
  obtain ⟨action, result, calls, entries, echoed⟩ := e
  cases action with
  | request r =>
    refine .none ?_ fun mode rest => ?_
    · rcases htime : r.timeAxis? <;> simp [Event.drawn, htime, h]
    · simp [Event.farLines, h]
  | _ => exact .none rfl fun mode rest => Iff.rfl

/-- An accepted script is read line by line. -/
theorem axisStep_of_accepted {r : Request} {script : String} {memory : Bool}
    (haction : e.action = .request r) (haccepted : e.accepted = [script]) (hr : r.OnOneLine)
    (hscript : r.script memory = .ok script) :
    AxisStep memory e (if e.isOk then r.axisAfter memory else memory) := by
  obtain ⟨ls, rfl, hls⟩ := Request.hasLines_of_script hr hscript
  have hfar : e.farLines = (ls ++ [""]).map fun line => (r, line) := by
    simp [Event.farLines, haction, haccepted, hls.lines_ofLines]
  rcases htime : r.timeAxis? with _ | time
  · rw [Request.axisAfter, htime, Option.getD_none, ite_self]
    refine .none (by simp [Event.drawn, haction, htime]) fun mode rest => ?_
    rw [hfar]
    exact axisAgrees_settings htime hls
  · rw [Request.axisAfter, htime, Option.getD_some]
    refine .plot (p := ⟨time, e.isOk⟩) ?_ fun mode rest => ?_
    · simp [Event.drawn, haction, htime, haccepted]
    · rw [hfar]
      exact axisAgrees_plot htime hls

/-- **Every step is a step of the axis.** -/
theorem Step.axisStep (h : Step env s e s') (hline : ∀ r, e.action = .request r → r.OnOneLine) :
    AxisStep s.timeAxis e s'.timeAxis := by
  cases h with
  | @silent r notices hprep =>
    obtain ⟨ls, hempty, hls⟩ := Request.hasLines_of_script (hline r rfl) (script_of_prepare hprep)
    -- A plot is never silent, so that there is no mode to change.
    rcases htime : r.timeAxis? with _ | time
    · simp only [Request.axisAfter, htime, Option.getD_none]
      exact axisStep_of_accepted_eq_nil rfl
    · exact absurd hempty.symm (hls.ofLines_ne_empty htime)
  | @sent r script data channel notices hprep hne henc hw hr =>
    exact axisStep_of_accepted rfl (by simp [Event.accepted]) (hline r rfl)
      (script_of_prepare hprep)
  | @recorded r script data channel notices keeper keeper' result hprep hne henc hw hr hk =>
    exact axisStep_of_accepted (e := ⟨.request r, result, _, _, _⟩) rfl (by simp [Event.accepted])
      (hline r rfl) (script_of_prepare hprep)
  | unencodable => exact axisStep_of_accepted_eq_nil rfl
  | refused hprep => exact axisStep_of_accepted_eq_nil (by simp [Event.accepted])
  | turnedDown hprep => exact axisStep_of_accepted_eq_nil rfl
  | closedBefore => exact axisStep_of_accepted_eq_nil rfl
  | closing => exact axisStep_of_accepted_eq_nil (by simp [Event.accepted])
  | disturbed => exact axisStep_of_accepted_eq_nil rfl

/-- **The far side agrees along a run** exactly when its plots do. -/
theorem Runs.agree_iff (h : Runs env s t s')
    (hline : ∀ e ∈ t, ∀ r, e.action = .request r → r.OnOneLine) {mode : Bool} :
    AxisAgrees mode (t.flatMap Event.farLines) ↔
      Drawn.Agree s.timeAxis mode (t.flatMap Event.drawn) := by
  induction h generalizing mode with
  | nil => exact Iff.rfl
  | @cons s s₁ s' e t hstep _ ih =>
    have hrest : ∀ mode, AxisAgrees mode (t.flatMap Event.farLines) ↔
        Drawn.Agree s₁.timeAxis mode (t.flatMap Event.drawn) :=
      fun _ => ih fun e he => hline e (List.mem_cons_of_mem _ he)
    have haxis := hstep.axisStep (hline e List.mem_cons_self)
    -- What the step leaves is known by the mode it remembers, and by nothing else.
    revert haxis hrest
    generalize s₁.timeAxis = memory
    rintro hrest (⟨hdrawn, hagrees⟩ | ⟨hdrawn, hagrees⟩)
    · rw [List.flatMap_cons, List.flatMap_cons, hagrees, hrest, hdrawn]
      rfl
    · rw [List.flatMap_cons, List.flatMap_cons, hagrees, hrest, hdrawn]
      rfl

/-- The far side agrees along a trace exactly when its plots do. -/
theorem axisAgrees_trace (s : Session σ ρ) (actions : List (Action ε))
    (hline : ∀ r, .request r ∈ actions → r.OnOneLine) {mode : Bool} :
    AxisAgrees mode ((s.trace env actions).flatMap Event.farLines) ↔
      Drawn.Agree s.timeAxis mode ((s.trace env actions).flatMap Event.drawn) := by
  refine (runs_trace env s actions).agree_iff fun e he r hr => hline r ?_
  rw [← map_action_trace env s actions, ← hr]
  exact List.mem_map_of_mem he

/-- **The axis agrees exactly when the memory of the session does not
lapse.** For every channel and recorder, and whatever happens to the
channel in between: every plot line that the far side reads finds the
axis in the mode of its plot, unless a plot over time was drawn without
its request coming to a regular end, while the session remembered an axis
of numbers, and the next plot that was drawn is one of numbers. Requests
of declared types stay on their line where their expressions do
(`Request.Declared.onOneLine`). -/
theorem axisAgrees_iff (s : Session σ ρ) (actions : List (Action ε)) (haxis : s.timeAxis = false)
    (hline : ∀ r, .request r ∈ actions → r.OnOneLine) :
    AxisAgrees false ((s.trace env actions).flatMap Event.farLines) ↔
      ¬ Drawn.Lapses ((s.trace env actions).flatMap Event.drawn) := by
  rw [axisAgrees_trace s actions hline, haxis]
  exact Drawn.agree_iff_not_lapses

/-- Where every script that was sent comes to a regular end, the axis
agrees. -/
theorem axisAgrees_of_isOk {s : Session σ ρ} {actions : List (Action ε)}
    (haxis : s.timeAxis = false) (hline : ∀ r, .request r ∈ actions → r.OnOneLine)
    (hok : ∀ e ∈ s.trace env actions, e.accepted ≠ [] → e.isOk) :
    AxisAgrees false ((s.trace env actions).flatMap Event.farLines) := by
  rw [axisAgrees_trace s actions hline, haxis, Drawn.agree_iff_not_lapses]
  rintro ⟨before, p, q, after, hdrawn, -, hreturned, -, -⟩
  have hp : p ∈ (s.trace env actions).flatMap Event.drawn := by simp [hdrawn]
  obtain ⟨e, he, hpe⟩ := List.mem_flatMap.1 hp
  obtain ⟨hne, hisOk⟩ := Event.of_mem_drawn hpe
  exact hreturned (hisOk ▸ hok e he hne)

/-- A session in memory, with a recorder. -/
def keptBy (keeper : ρ) : Session MemoryChannel ρ := { channel := {}, recorder := some keeper }

/-- A plot over time and one of numbers. -/
def timeThenNumbers : List (Action Unit) :=
  [.request (.plot { style := .points, trace := .timeline [(.zero, .zero)] } {}),
    .request (.plot { style := .points, trace := .heights [.zero] } {})]

theorem onOneLine_timeThenNumbers : ∀ r, .request r ∈ timeThenNumbers → r.OnOneLine := by
  have hoptions : Options.Declared {} := ⟨.inl rfl, .inl rfl, .inl rfl, .inl rfl, .inl rfl⟩
  have hdata : ∀ trace : Trace, trace.isInline →
      Request.OnOneLine (.plot { style := .points, trace } {}) := by
    intro trace htrace
    refine Request.Declared.onOneLine
      ⟨⟨fun value hvalue => ?_, .inl rfl, by simp, .inl rfl, .inl rfl⟩, hoptions⟩ ?_
    · obtain rfl : trace = .expression value := hvalue
      cases htrace
    · rintro _ _ ⟨⟩ s hs text htext
      rw [List.mem_singleton.1 hs] at htext
      obtain rfl : trace = .expression (.text text) := htext
      cases htrace
  intro r hr
  simp only [timeThenNumbers, List.mem_cons, Action.request.injEq, List.not_mem_nil,
    or_false] at hr
  rcases hr with rfl | rfl
  · exact hdata _ rfl
  · exact hdata _ rfl

/-- With a recorder that takes every entry the axis is turned back. -/
theorem axisAgrees_timeThenNumbers :
    AxisAgrees false (((keptBy ({} : EntryList)).trace (fun _ c => c) timeThenNumbers).flatMap
      Event.farLines) := by
  refine (axisAgrees_iff _ timeThenNumbers rfl onOneLine_timeThenNumbers).2 ?_
  have hdrawn : ((keptBy ({} : EntryList)).trace (fun _ c => c) timeThenNumbers).flatMap
      Event.drawn = [⟨true, true⟩, ⟨false, true⟩] := by
    rfl
  rw [hdrawn, ← Drawn.agree_iff_not_lapses]
  simp [Drawn.Agree]

/-- **A refused entry leaves the axis in time mode**: the next plot, of
numbers, is drawn over time. -/
theorem not_axisAgrees_refusedEntry :
    ¬ AxisAgrees false (((keptBy (⟨.breakdown "transcript sink failed"⟩ : RefusingRecorder)).trace
      (fun _ c => c) timeThenNumbers).flatMap Event.farLines) := by
  have hdrawn : ((keptBy (⟨.breakdown "transcript sink failed"⟩ : RefusingRecorder)).trace
      (fun _ c => c) timeThenNumbers).flatMap Event.drawn = [⟨true, false⟩, ⟨false, false⟩] := by
    rfl
  rw [axisAgrees_trace _ _ onOneLine_timeThenNumbers, hdrawn]
  simp [Drawn.Agree, keptBy]

end Session

end PlotPipe
