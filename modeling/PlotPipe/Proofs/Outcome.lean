import Mathlib.Data.List.Forall2
import PlotPipe.Failure.Message
/-!
# Outcomes

When a computation that can fail has a result: every part of it has one.
With these equations a computation in several parts is taken apart into
what its parts came to. It fails in some way (`FailsWith`) when one of
its parts does, after those before it. Two computations end alike
(`EndAlike`) when both fail for one reason or both have results, and
these stand in a relation.
-/

namespace PlotPipe

variable {ε α β : Type} {x : Except ε α} {b : β}

/-- One computation after another has a result when both have. -/
theorem bind_eq_ok {f : α → Except ε β} : (x >>= f) = .ok b ↔ ∃ a, x = .ok a ∧ f a = .ok b := by
  cases x with
  | error e => exact ⟨nofun, nofun⟩
  | ok a => exact ⟨fun h => ⟨a, rfl, h⟩, fun ⟨_, rfl, h⟩ => h⟩

/-- It fails when the first one does, or when the second one does after
it. -/
theorem bind_eq_error {f : α → Except ε β} {e : ε} :
    (x >>= f) = .error e ↔ x = .error e ∨ ∃ a, x = .ok a ∧ f a = .error e := by
  cases x with
  | error e' =>
    constructor
    · exact fun h => .inl (congrArg _ (Except.error.inj h))
    · rintro (h | ⟨_, h, -⟩)
      · exact congrArg _ (Except.error.inj h)
      · cases h
  | ok a =>
    constructor
    · exact fun h => .inr ⟨a, rfl, h⟩
    · rintro (h | ⟨_, h, hf⟩)
      · cases h
      · cases h
        exact hf

theorem map_eq_ok {f : α → β} : x.map f = .ok b ↔ ∃ a, x = .ok a ∧ f a = b := by
  cases x with
  | error e => exact ⟨nofun, nofun⟩
  | ok a => exact ⟨fun h => ⟨a, rfl, Except.ok.inj h⟩, fun ⟨_, rfl, h⟩ => congrArg _ h⟩

theorem map_eq_error {f : α → β} {e : ε} : x.map f = .error e ↔ x = .error e := by
  cases x with
  | error e' => exact ⟨fun h => congrArg _ (Except.error.inj h), fun h => congrArg _ (Except.error.inj h)⟩
  | ok a => exact ⟨nofun, nofun⟩

theorem mapError_error {ε' : Type} (f : ε → ε') (e : ε) :
    (.error e : Except ε α).mapError f = .error (f e) := rfl

theorem exists_of_isOk (h : x.isOk) : ∃ a, x = .ok a := by
  cases x with
  | error e => cases h
  | ok a => exact ⟨a, rfl⟩

theorem pure_eq_ok {a b : α} : (pure a : Except ε α) = .ok b ↔ a = b :=
  ⟨fun h => Except.ok.inj h, fun h => congrArg _ h⟩

/-- Several values have results when each of them has one. -/
theorem exists_forall₂_iff {α β : Type} {R : α → β → Prop} {values : List α} :
    (∃ xs, List.Forall₂ R values xs) ↔ ∀ a ∈ values, ∃ x, R a x := by
  induction values with
  | nil => exact iff_of_true ⟨[], .nil⟩ nofun
  | cons a values ih =>
    rw [List.forall_mem_cons, ← ih]
    simp only [List.forall₂_cons_left_iff]
    constructor
    · rintro ⟨_, x, xs, hx, hxs, -⟩
      exact ⟨⟨x, hx⟩, xs, hxs⟩
    · rintro ⟨⟨x, hx⟩, xs, hxs⟩
      exact ⟨_, x, xs, hx, hxs, rfl⟩

/-- A computation fails for one of some reasons. -/
def FailsWith (P : ε → Prop) (x : Except ε α) : Prop := ∃ e, x = .error e ∧ P e

section FailsWith

variable {P : ε → Prop} {e : ε}

theorem not_failsWith_ok (a : α) : ¬ FailsWith P (.ok a : Except ε α) := nofun

theorem failsWith_error : FailsWith P (.error e : Except ε α) ↔ P e :=
  ⟨fun ⟨_, h, he⟩ => Except.error.inj h ▸ he, fun h => ⟨e, rfl, h⟩⟩

/-- One computation after another fails when the first one does, or the
second one after it. -/
theorem failsWith_bind {f : α → Except ε β} :
    FailsWith P (x >>= f) ↔ FailsWith P x ∨ ∃ a, x = .ok a ∧ FailsWith P (f a) := by
  cases x with
  | error e => simp [failsWith_error, bind, Except.bind]
  | ok a => simp [not_failsWith_ok, bind, Except.bind]

theorem failsWith_map {f : α → β} : FailsWith P (x.map f) ↔ FailsWith P x := by
  simp only [FailsWith, map_eq_error]

end FailsWith

/-- Two computations fail for one reason, or their results stand in a
relation. -/
inductive EndAlike (R : α → β → Prop) : Except ε α → Except ε β → Prop where
  | error (e : ε) : EndAlike R (.error e) (.error e)
  | ok {a : α} {b : β} : R a b → EndAlike R (.ok a) (.ok b)

namespace EndAlike

variable {α' β' : Type} {R : α → β → Prop} {S : α' → β' → Prop} {y : Except ε β}

/-- Parts that end alike go on alike. -/
theorem bind {f : α → Except ε α'} {g : β → Except ε β'} (h : EndAlike R x y)
    (hfg : ∀ {a b}, R a b → EndAlike S (f a) (g b)) : EndAlike S (x >>= f) (y >>= g) := by
  cases h with
  | error e => exact .error e
  | ok hab => exact hfg hab

theorem map {f : α → α'} {g : β → β'} (h : EndAlike R x y) (hfg : ∀ {a b}, R a b → S (f a) (g b)) :
    EndAlike S (x.map f) (y.map g) := by
  cases h with
  | error e => exact .error e
  | ok hab => exact .ok (hfg hab)

/-- What is made alike of related results is the same. -/
theorem map_eq_map {γ : Type} {f : α → γ} {g : β → γ} (h : EndAlike R x y)
    (hfg : ∀ {a b}, R a b → f a = g b) : x.map f = y.map g := by
  cases h with
  | error e => rfl
  | ok hab => exact congrArg Except.ok (hfg hab)

/-- A computation ends like itself where its result is related to
itself. -/
theorem of_self {R : α → α → Prop} (h : ∀ a, x = .ok a → R a a) : EndAlike R x x := by
  cases x with
  | error e => exact .error e
  | ok a => exact .ok (h a rfl)

end EndAlike

end PlotPipe
