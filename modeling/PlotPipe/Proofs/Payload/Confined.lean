import PlotPipe.Proofs.Payload.Rows

/-!
# Payload — failures of one class

Reading a payload is **confined** when it gives rows of doubles or fails
with a failure of the payload, which is the one that callers look out
for. Each of the four readings is confined unless the payload breaks
(`confined_iff`), and what breaks it is told from the payload alone.
-/

namespace PlotPipe

namespace Payload

open Datum

variable {α : Type} {x : Except Failure α} {d : Datum}

/-- A reading **turns down** its payload: it fails with a failure of the
payload. -/
def TurnsDown (x : Except Failure α) : Prop := FailsWith (·.kind = .seriesData) x

/-- A reading **is confined**: it has a result, or it turns down its
payload. -/
def Confined (x : Except Failure α) : Prop := (∃ a, x = .ok a) ∨ TurnsDown x

theorem confined_iff_not_escapes : Confined x ↔ ¬ Escapes x := by
  cases x with
  | ok a => exact iff_of_true (.inl ⟨a, rfl⟩) (not_escapes_ok a)
  | error failure => simp [Confined, TurnsDown, escapes_error, failsWith_error]

theorem turnsDown_iff : TurnsDown x ↔ ¬ Escapes x ∧ ¬ ∃ a, x = .ok a := by
  cases x with
  | ok a => exact iff_of_false nofun fun h => h.2 ⟨a, rfl⟩
  | error failure => simp [TurnsDown, escapes_error, failsWith_error]

/-! ## Cells that break -/

/-- Of the integers those that no double stands for break. -/
theorem breaks_int_iff {i : ℤ} : (int i).Breaks ↔ Binary64.ofInt? i = none := by
  constructor
  · rintro (⟨-, h⟩ | h | ⟨h, -⟩)
    · exact isTooLarge_int.1 h
    · cases h
    · exact double?_int i ▸ h
  · exact fun h => .tooLarge rfl (.int h)

/-- Of the exact decimals those that signal break. -/
theorem breaks_exact_iff {y : Exact} :
    (exact y).Breaks ↔ ∃ negative payload, y = .undefined negative true payload := by
  constructor
  · rintro (⟨-, ⟨⟩⟩ | h | ⟨-, h⟩)
    · cases h
      exact ⟨_, _, rfl⟩
    · cases h
  · rintro ⟨negative, payload, rfl⟩
    exact .signals rfl

/-- **A reading is confined unless its payload breaks.** -/
theorem confined_iff (label : String) (d : Datum) :
    (Confined (heights label d) ↔ ¬ d.BreaksGrid) ∧
    (Confined (points label d) ↔ ¬ d.BreaksGrid) ∧
    (Confined (timePairs label d) ↔ ¬ d.BreaksTimePairs) ∧
    (Confined (candles label d) ↔ ¬ d.BreaksCandles) := by
  simp only [confined_iff_not_escapes, escapes_heights_iff, escapes_points_iff,
    escapes_timePairs_iff, escapes_candles_iff, and_self]

/-- A decimal that signals, among points too, a missing time, and an array
of numbers in place of rows all escape. -/
theorem not_confined_samples :
    ¬ Confined (heights "y" (.list [.exact (.undefined false true 0)])) ∧
    ¬ Confined (points "xy" (.list [.tuple [.int 1, .exact (.undefined false true 0)]])) ∧
    ¬ Confined (timePairs "timey" (.list [.tuple [.noTime, .int 1]])) ∧
    ¬ Confined (candles "candlesticks" (.array (.integer 64) [1] [.int 1])) := by
  simp only [confined_iff_not_escapes, not_not]
  refine ⟨⟨_, rfl, nofun⟩, ⟨_, rfl, nofun⟩, ⟨_, rfl, nofun⟩, ⟨_, rfl, nofun⟩⟩

end Payload

end PlotPipe
