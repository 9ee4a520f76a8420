import Mathlib.Data.Int.Notation
import Mathlib.Data.Nat.Notation
import PlotPipe.Time.Moment

/-!
# Time — days and dates

The date a number of days after the start of 1970 is that number of days
after it (`Date.epochDays_ofEpochDays`), and the moment at an instant is
at that instant (`Moment.epochMicros_ofEpochMicros`): nothing is lost on
the way to the calendar and back.
-/

namespace PlotPipe

namespace Date

/-- A leap year is a day longer than others. -/
theorem daysBeforeYear_succ (year : ℤ) :
    daysBeforeYear (year + 1) = daysBeforeYear year + if isLeapYear year then 366 else 365 := by
  unfold daysBeforeYear isLeapYear
  dsimp only
  split
  all_goals
    rename_i h
    simp only [Bool.and_eq_true, decide_eq_true_eq, Bool.or_eq_true] at h
    omega

/-- **The year of a day** is the one that has begun by that day and has
not ended. -/
theorem yearOfDays_spec (days : ℤ) :
    daysBeforeYear (yearOfDays days) ≤ days + daysBeforeYear 1970 ∧
      days + daysBeforeYear 1970 < daysBeforeYear (yearOfDays days + 1) := by
  unfold yearOfDays
  extract_lets n guess
  change _ ≤ n ∧ n < _
  -- The mean length of a year misses the year by one at most.
  have hguess : daysBeforeYear (guess - 1) ≤ n ∧ n < daysBeforeYear (guess + 1 + 1) := by
    unfold guess daysBeforeYear
    dsimp only
    omega
  split
  · exact ⟨hguess.1, by simpa⟩
  · split
    · exact ⟨‹_›, hguess.2⟩
    · omega

/-- The month of a day of the year, and the day of that month, are that
day. -/
theorem daysBeforeMonth_monthOfDay : ∀ (leap : Bool) (day : ℕ), day < 366 →
    daysBeforeMonth leap (monthOfDay leap day).1 + (monthOfDay leap day).2 = day + 1 := by
  decide +kernel

/-- **No day is lost on the calendar.** -/
@[simp]
theorem epochDays_ofEpochDays (days : ℤ) : (ofEpochDays days).epochDays = days := by
  obtain ⟨hlow, hhigh⟩ := yearOfDays_spec days
  rw [daysBeforeYear_succ] at hhigh
  unfold ofEpochDays
  extract_lets year
  change daysBeforeYear year ≤ _ at hlow
  change _ < daysBeforeYear year + _ at hhigh
  have hmonth := daysBeforeMonth_monthOfDay (isLeapYear year)
    (days + daysBeforeYear 1970 - daysBeforeYear year).toNat (by split at hhigh <;> omega)
  generalize monthOfDay (isLeapYear year) _ = m at hmonth
  unfold epochDays
  dsimp only
  omega

end Date

namespace Moment

/-- **No instant is lost on the calendar and the clock.** -/
@[simp]
theorem epochMicros_ofEpochMicros (micros : ℤ) : (ofEpochMicros micros).epochMicros = micros := by
  unfold epochMicros ofEpochMicros ahead secondsPerDay
  simp only [Date.epochDays_ofEpochDays, Option.elim_none]
  omega

/-- Midnight is a whole number of days from the start of 1970. -/
theorem epochMicros_ofDate (date : Date) :
    (ofDate date).epochMicros = date.epochDays * secondsPerDay * 1000000 := by
  simp [epochMicros, ofDate, ahead]

end Moment

end PlotPipe
