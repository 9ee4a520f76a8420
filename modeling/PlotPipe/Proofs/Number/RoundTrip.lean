import PlotPipe.CommandLine.Plan
import PlotPipe.Proofs.Number.ReadBack
/-!
# Numbers — a number and its text

The text of a double in a script stands for that double alone: it is read
back, by itself and as a bound on the command line, so that two doubles
never have one text (`scriptText_inj`). A finite double is written with
digits, points, signs and the letter of exponents, and the others by name
(`isDecimal_of_mem_scriptText`, `scriptText_mem_names`). None of these
texts ends a block of data.
-/

namespace PlotPipe

namespace Script

/-- The names of the numbers that are not finite. -/
def numberNames : List String := ["NaN", "Inf", "-Inf"]

end Script

open Script

namespace Binary64

variable {x y : Binary64} {c : Char}

/-- **A finite number is written in digits**, with points, signs and the
letter of exponents. -/
theorem isDecimal_of_mem_scriptText (hx : x.isFinite) (h : c ∈ x.scriptText.toList) :
    isDecimal c := by
  cases x with
  | nan => cases hx
  | signed negative m =>
    have hfinite : m.isFinite := hx
    rw [scriptText, text, if_pos hfinite, String.toList_append, String.toList_ofList,
      List.mem_append] at h
    rcases h with hsign | h
    · cases negative with
      | false => cases hsign
      | true =>
        obtain rfl : c = '-' := by simpa using hsign
        rfl
    · exact isDecimal_of_mem_text h

/-- The other numbers are written by name. -/
theorem scriptText_mem_names (hx : x.isFinite = false) : x.scriptText ∈ numberNames := by
  cases x with
  | nan => decide
  | signed negative m =>
    have hinfinite : ¬ m.isFinite := by
      intro hfinite
      cases hfinite.symm.trans hx
    rw [eq_infinity_of_not_isFinite hinfinite]
    cases negative <;> decide

/-- **Two numbers never have one text.** -/
theorem scriptText_inj : x.scriptText = y.scriptText ↔ x = y := by
  refine ⟨fun h => ?_, fun h => by rw [h]⟩
  have hx := free?_scriptText x
  rw [h, free?_scriptText] at hx
  exact (Option.some.inj hx).symm

/-- What is written of a number is read as that number. -/
theorem toReal_scriptText (x : Binary64) : (Datum.text x.scriptText).toReal = .ok x := by
  rw [Datum.toReal, Datum.readReal, free?_scriptText]

/-- No number ends a block of data: its text is too long for that. -/
theorem scriptText_ne_sentinel (x : Binary64) : x.scriptText ≠ sentinel := by
  intro h
  have hlength := one_lt_length_scriptText x
  rw [h] at hlength
  exact absurd hlength (by decide)

/-- **Two numbers with a colon between them are read as bounds.** -/
theorem span_scriptText (name : String) (x y : Binary64) :
    CommandLine.span name (x.scriptText ++ ":" ++ y.scriptText) = .ok (x, y) := by
  have hcolon : ':' ∉ x.scriptText.toList := fun hmem =>
    absurd (isNumeral_of_mem_scriptText hmem) (by decide)
  have hlist : (x.scriptText ++ ":" ++ y.scriptText).toList =
      x.scriptText.toList ++ ':' :: y.scriptText.toList := by simp [String.toList_append]
  rw [CommandLine.span, hlist, Text.cutAt?_append_cons hcolon]
  simp only [String.ofList_toList, free?_scriptText]

/-- **A number and its text stand for each other.** Every double is
written, is read back from what was written, alone and as a bound, and
shares its text with no other double; the text is one of digits or a
name, and ends no block of data. -/
theorem scriptText_roundTrip (x y : Binary64) (name : String) :
    (Datum.real x).scriptNumber = .ok x.scriptText ∧
    (Datum.text x.scriptText).toReal = .ok x ∧
    (if x.isFinite then ∀ c ∈ x.scriptText.toList, isDecimal c else x.scriptText ∈ numberNames) ∧
    x.scriptText ≠ sentinel ∧
    CommandLine.span name (x.scriptText ++ ":" ++ y.scriptText) = .ok (x, y) ∧
    (x.scriptText = y.scriptText ↔ x = y) := by
  refine ⟨rfl, toReal_scriptText x, ?_, scriptText_ne_sentinel x, span_scriptText name x y,
    scriptText_inj⟩
  split
  · rename_i hx
    exact fun c => isDecimal_of_mem_scriptText hx
  · rename_i hx
    exact scriptText_mem_names (Bool.eq_false_iff.2 hx)

end Binary64

end PlotPipe
