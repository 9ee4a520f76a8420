import PlotPipe.Proofs.Session.Finality
/-!
# Sessions — the order of calls

What a session calls for in a whole run. Where everything that the
channel refuses is a failed write, the calls of a run are `Orderly`: the
writes that were accepted, after them at most one that was refused, and
after that at most one closing (`Runs.orderly_calls`).
-/

namespace PlotPipe

/-- **A condition on channels that lasts**, whatever is done with them,
and under which everything that they refuse is a failed write. -/
structure Channel.RefusesAsWrite {σ ε : Type} [Channel σ] (env : ε → σ → σ) (P : σ → Prop) :
    Prop where
  refused : ∀ {script c c' f}, P c → Channel.write script c = (.error f, c') → f.isFailedWrite
  write : ∀ {script c c' result}, P c → Channel.write script c = (result, c') → P c'
  close : ∀ {c c' result}, P c → Channel.close c = (result, c') → P c'
  disturbed : ∀ {e c}, P c → P (env e c)

namespace ChannelCall

/-- **Calls in order**: writes that were accepted, perhaps one that was
refused, perhaps a closing. -/
def inOrder (scripts : List String) (refusal : Option (String × Failure))
    (closing : Option (Except Failure (List Notice))) : List ChannelCall :=
  scripts.map (fun script => .write script (.ok ())) ++
    (refusal.map fun (script, f) => .write script (.error f)).toList ++ (closing.map close).toList

/-- The calls are in order. -/
def Orderly (calls : List ChannelCall) : Prop :=
  ∃ scripts refusal closing, calls = inOrder scripts refusal closing

variable {calls : List ChannelCall} {script : String} {f : Failure}

theorem orderly_nil : Orderly [] := ⟨[], none, none, rfl⟩

/-- An accepted write comes first. -/
theorem Orderly.accepted (h : Orderly calls) : Orderly (.write script (.ok ()) :: calls) := by
  obtain ⟨scripts, refusal, closing, rfl⟩ := h
  exact ⟨script :: scripts, refusal, closing, rfl⟩

/-- Only a closing comes after a refused write. -/
theorem orderly_refused (hclose : ∀ c ∈ calls, c.isWrite = false)
    (honce : calls.countP isClose ≤ 1) : Orderly (.write script (.error f) :: calls) := by
  match calls with
  | [] => exact ⟨[], some (script, f), none, rfl⟩
  | [.close result] => exact ⟨[], some (script, f), some result, rfl⟩
  | .write _ _ :: _ => simp [isWrite] at hclose
  | .close _ :: .write _ _ :: _ => simp [isWrite] at hclose
  | .close _ :: .close _ :: rest =>
    simp only [List.countP_cons, isClose, if_true] at honce
    omega

section InOrder

variable (scripts : List String) (refusal : Option (String × Failure))
  (closing : Option (Except Failure (List Notice)))

@[simp] theorem accepted_inOrder :
    (inOrder scripts refusal closing).filterMap accepted? = scripts := by
  induction scripts with
  | nil => rcases refusal with _ | ⟨script, f⟩ <;> rcases closing with _ | result <;> rfl
  | cons script scripts ih => exact congrArg (script :: ·) ih

@[simp] theorem refused_inOrder :
    (inOrder scripts refusal closing).filterMap refused? = (refusal.map Prod.fst).toList := by
  induction scripts with
  | nil => rcases refusal with _ | ⟨script, f⟩ <;> rcases closing with _ | result <;> rfl
  | cons script scripts ih => exact ih

@[simp] theorem written_inOrder :
    (inOrder scripts refusal closing).filterMap written? =
      scripts ++ (refusal.map Prod.fst).toList := by
  induction scripts with
  | nil => rcases refusal with _ | ⟨script, f⟩ <;> rcases closing with _ | result <;> rfl
  | cons script scripts ih => exact congrArg (script :: ·) ih

@[simp] theorem countP_isClose_inOrder :
    (inOrder scripts refusal closing).countP isClose = if closing.isSome then 1 else 0 := by
  induction scripts with
  | nil => rcases refusal with _ | ⟨script, f⟩ <;> rcases closing with _ | result <;> rfl
  | cons script scripts ih => exact ih

end InOrder

end ChannelCall

namespace Session

open ChannelCall

variable {σ ρ ε : Type} [Channel σ] [Recorder ρ] {env : ε → σ → σ}
variable {s s' : Session σ ρ} {e : Event ε} {t : List (Event ε)} {P : σ → Prop}

/-- A condition that lasts holds of the channel after every step. -/
theorem Step.channel (hP : Channel.RefusesAsWrite env P) (h : Step env s e s')
    (hs : P s.channel) : P s'.channel := by
  cases h with
  | refused _ _ _ hw => exact hP.write hs hw
  | sent _ _ _ hw => exact hP.write hs hw
  | recorded _ _ _ hw => exact hP.write hs hw
  | closing _ hc => exact hP.close hs hc
  | disturbed => exact hP.disturbed hs
  | _ => exact hs

/-- One step calls for one thing at most. -/
theorem Step.calls_length_le (h : Step env s e s') : e.calls.length ≤ 1 := by
  cases h <;> simp

theorem Runs.calls_length_le (h : Runs env s t s') : ∀ e ∈ t, e.calls.length ≤ 1 := by
  induction h with
  | nil => simp
  | cons hstep _ ih =>
    intro e he
    rcases List.mem_cons.1 he with rfl | he
    · exact hstep.calls_length_le
    · exact ih e he

/-- A closed session makes no calls. -/
theorem Step.of_closed (h : Step env s e s') (hclosed : s.closed = true) :
    e.calls = [] ∧ s'.closed = true := by
  cases h with
  | turnedDown => exact ⟨rfl, hclosed⟩
  | silent hprep => simp [(open_of_prepare hprep).1] at hclosed
  | unencodable hprep => simp [(open_of_prepare hprep).1] at hclosed
  | refused hprep => simp [(open_of_prepare hprep).1] at hclosed
  | sent hprep => simp [(open_of_prepare hprep).1] at hclosed
  | recorded hprep => simp [(open_of_prepare hprep).1] at hclosed
  | closedBefore => exact ⟨rfl, hclosed⟩
  | closing hopen => simp [hopen] at hclosed
  | disturbed => exact ⟨rfl, hclosed⟩

theorem Runs.calls_of_closed (h : Runs env s t s') (hclosed : s.closed = true) :
    t.flatMap Event.calls = [] := by
  induction h with
  | nil => rfl
  | cons hstep _ ih =>
    obtain ⟨hcalls, hclosed'⟩ := hstep.of_closed hclosed
    rw [List.flatMap_cons, hcalls, ih hclosed']
    rfl

/-- **The calls of a run are in order.** -/
theorem Runs.orderly_calls (hP : Channel.RefusesAsWrite env P) (h : Runs env s t s')
    (hs : P s.channel) : Orderly (t.flatMap Event.calls) := by
  induction h with
  | nil => exact orderly_nil
  | @cons s s₁ s' e t hstep hruns ih =>
    replace ih := ih (hstep.channel hP hs)
    rw [List.flatMap_cons]
    cases hstep with
    | turnedDown => exact ih
    | silent => exact ih
    | unencodable => exact ih
    | @refused r script data f channel notices hprep hne henc hw =>
      -- The session has failed, so that all that can follow is one closing.
      have hf : f.isFailedWrite := hP.refused hs hw
      have hwrites := (hruns.of_failure (if_pos hf)).2
      refine orderly_refused (fun c hc => ?_) hruns.countP_close_le
      obtain ⟨e, he, hc⟩ := List.mem_flatMap.1 hc
      exact hwrites e he c hc
    | sent => exact ih.accepted
    | recorded => exact ih.accepted
    | closedBefore => exact ih
    | @closing result channel notices hopen hc =>
      -- A closed session makes no calls.
      rw [hruns.calls_of_closed rfl]
      exact ⟨[], none, some result, rfl⟩
    | disturbed => exact ih

/-- The scripts that were accepted and refused, from the calls. -/
theorem flatMap_accepted (t : List (Event ε)) :
    t.flatMap Event.accepted = (t.flatMap Event.calls).filterMap accepted? := by
  rw [List.filterMap_flatMap]
  rfl

theorem flatMap_refused (t : List (Event ε)) :
    t.flatMap Event.refused = (t.flatMap Event.calls).filterMap refused? := by
  rw [List.filterMap_flatMap]
  rfl

end Session

end PlotPipe
