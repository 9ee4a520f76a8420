import PlotPipe.Proofs.Number.ReadBack
import PlotPipe.Proofs.Payload.Cells
import PlotPipe.Proofs.Time.Nanos

/-!
# Payload — times as numbers

A time becomes the seconds of its instant, rounded once, whether it is a
date or a moment with any offset (`Payload.seconds_of_isAt`). So times
keep their order, and times that are a microsecond apart stay apart in
the data of a script as long as the doubles are dense enough
(`Payload.seconds_inOrder_and_apart`). Ticks are the exception: they are
rounded twice, and may come to another number than a moment at the same
instant (`Payload.oneNumber_iff`).
-/

namespace PlotPipe

namespace Datum

/-- A time of the calendar: a moment, a stamp that has no nanoseconds, or
a date. -/
def IsCivil : Datum → Prop
  | moment m => m.date.IsReal
  | stamp s => s.nano = 0 ∧ s.moment.date.IsReal
  | date day => day.IsReal
  | _ => False

/-- **A time of the calendar is at an instant**, in microseconds from the
start of 1970 in universal time. A date is at its midnight. -/
inductive IsAt (micros : ℤ) : Datum → Prop
  | moment {m : Moment} : m.IsAt micros → IsAt micros (.moment m)
  | stamp {s : Stamp} : s.nano = 0 → s.moment.IsAt micros → IsAt micros (.stamp s)
  | date {day : Date} : (Moment.ofDate day).IsAt micros → IsAt micros (.date day)

theorem exists_isAt {d : Datum} (h : d.IsCivil) : ∃ micros, d.IsAt micros := by
  cases d with
  | moment m => exact ⟨_, .moment (Moment.isAt_iff.2 ⟨h, rfl⟩)⟩
  | stamp s => exact ⟨_, .stamp h.1 (Moment.isAt_iff.2 ⟨h.2, rfl⟩)⟩
  | date day => exact ⟨_, .date (Moment.isAt_iff.2 ⟨h, rfl⟩)⟩
  | _ => exact h.elim

end Datum

namespace Binary64

/-- **Different numbers have different texts.** -/
theorem scriptText_injective : Function.Injective scriptText := by
  intro x y h
  have hread := plain?_scriptText x
  rw [h, plain?_scriptText y, Option.some.injEq] at hread
  exact hread.symm

/-- Within `2 ^ 33` seconds of 1970 rounding changes an instant by less
than half a microsecond. -/
theorem abs_value_micros_sub_le {micros : ℤ} (h : micros.natAbs ≤ 2 ^ 33 * 1000000) :
    |(ofIntQuotient micros 1000000).value - (micros : ℚ) / (1000000 : ℕ)| ≤ 2 ^ (-20 : ℤ) / 2 := by
  rcases Nat.lt_or_eq_of_le h with hlt | heq
  · refine abs_value_ofIntQuotient_sub_le (by decide) (by decide) (by decide) ?_
    rw [div_lt_iff₀ (by norm_num)]
    have hcast : ((micros.natAbs : ℕ) : ℚ) < (2 ^ 33 * 1000000 : ℕ) := by exact_mod_cast hlt
    norm_num at hcast ⊢
    linarith
  · -- The end of the span is a double.
    have hend : Magnitude.nearest (2 ^ 33 * 1000000) 1000000 = Magnitude.nearest (1 * 2 ^ 33) 1 :=
      Magnitude.nearest_congr (by decide) Nat.one_pos (by norm_num)
    have hvalue := Magnitude.value_nearest_of_bits (n := 1) (e := 33) (by decide) (by decide)
    rw [abs_value_ofIntQuotient_sub, heq, hend, hvalue]
    norm_num

/-- Instants a microsecond apart come to different numbers. -/
theorem ofIntQuotient_micros_ne {i j : ℤ} (hi : i.natAbs ≤ 2 ^ 33 * 1000000)
    (hj : j.natAbs ≤ 2 ^ 33 * 1000000) (hij : 1 ≤ (i - j).natAbs) :
    ofIntQuotient i 1000000 ≠ ofIntQuotient j 1000000 := by
  intro heq
  have hnear := abs_value_micros_sub_le hi
  have hnear' := abs_value_micros_sub_le hj
  rw [heq] at hnear
  have hapart : (1 : ℚ) ≤ |(i : ℚ) - j| := by
    have hcast : 1 ≤ |i - j| := by
      rw [Int.abs_eq_natAbs]
      exact_mod_cast hij
    exact_mod_cast hcast
  have hclose : |(i : ℚ) - j| ≤ 1000000 / 1048576 := by
    norm_num [abs_le] at hnear hnear'
    exact abs_le.2 ⟨by linarith, by linarith⟩
  norm_num at hclose
  linarith

end Binary64

namespace Payload

open Datum

variable {label : String} {index : ℕ} {micros : ℤ}

/-- **A time of the calendar becomes the seconds of its instant**, rounded
once. -/
theorem seconds_of_isAt {d : Datum} (h : d.IsAt micros) :
    seconds label index d = .ok (.ofIntQuotient micros 1000000) := by
  cases h with
  | moment h | stamp _ h | date h =>
    obtain ⟨-, rfl⟩ := Moment.isAt_iff.1 h
    rfl

/-- **Times keep their order and stay distinct.** Each time of the
calendar is at an instant and becomes a number. A time that is not later
than another does not become a greater number, and within `2 ^ 33`
seconds of 1970 the texts of two times in the data are different when the
times are at least a microsecond apart. -/
theorem seconds_inOrder_and_apart :
    (∀ d : Datum, d.IsCivil → ∃ i, d.IsAt i) ∧
    ∀ (d d' : Datum) (i i' : ℤ), d.IsAt i → d'.IsAt i' → ∃ x x' : Binary64,
      (∀ label index, seconds label index d = .ok x) ∧
      (∀ label index, seconds label index d' = .ok x') ∧
      (i ≤ i' → x.AtMost x') ∧
      (i.natAbs ≤ 2 ^ 33 * 1000000 → i'.natAbs ≤ 2 ^ 33 * 1000000 → 1 ≤ (i - i').natAbs →
        x.scriptText ≠ x'.scriptText) := by
  refine ⟨fun d => exists_isAt, fun d d' i i' h h' => ?_⟩
  refine ⟨_, _, fun _ _ => seconds_of_isAt h, fun _ _ => seconds_of_isAt h', ?_, ?_⟩
  · intro hle
    refine (Binary64.rounds_ofIntQuotient i (by decide)).atMost
      (Binary64.rounds_ofIntQuotient i' (by decide)) ?_
    gcongr
  · intro hi hi' hapart htext
    exact Binary64.ofIntQuotient_micros_ne hi hi' hapart (Binary64.scriptText_injective htext)

/-- The last microsecond of the leap day of 2024 and the start of the next
day, told in universal time and by a clock that is ahead. -/
theorem seconds_inOrder_and_apart_leapDay :
    let m : Moment := ⟨⟨2024, 2, 29⟩, 23, 59, 59, 999999, none⟩
    let m' : Moment := ⟨⟨2024, 3, 1⟩, 5, 30, 0, 0, some (.ofSeconds 19800)⟩
    (∃ i, (moment m).IsAt i) ∧ ∃ x x' : Binary64,
      seconds "time" 0 (.moment m) = .ok x ∧ seconds "time" 0 (.moment m') = .ok x' ∧
        x.AtMost x' ∧ x.scriptText ≠ x'.scriptText := by
  intro m m'
  have hreal : m.date.IsReal := ⟨by decide, by decide, by decide, by decide⟩
  have hreal' : m'.date.IsReal := ⟨by decide, by decide, by decide, by decide⟩
  obtain ⟨hcivil, hpairs⟩ := seconds_inOrder_and_apart
  refine ⟨hcivil _ hreal, ?_⟩
  obtain ⟨x, x', hx, hx', hmono, hapart⟩ := hpairs (.moment m) (.moment m') 1709251199999999
    1709251200000000 (.moment (Moment.isAt_iff.2 ⟨hreal, by decide⟩))
    (.moment (Moment.isAt_iff.2 ⟨hreal', by decide⟩))
  exact ⟨x, x', hx _ _, hx' _ _, hmono (by decide), hapart (by decide) (by decide) (by decide)⟩

/-! ## One instant, one number -/

/-- **A value denotes an instant**: a time of the calendar at that instant,
or a tick that counts the microseconds or the nanoseconds until it. -/
inductive Denotes (micros : ℤ) : Datum → Prop
  | civil {d : Datum} : d.IsAt micros → Denotes micros d
  | micros : Denotes micros (.tick ⟨.micro, some micros⟩)
  | nanos : Denotes micros (.tick ⟨.nano, some (micros * 1000)⟩)

/-- All values that denote an instant become one number. -/
def OneNumber (micros : ℤ) : Prop :=
  ∃ x, ∀ label index d, Denotes micros d → seconds label index d = .ok x

theorem oneNumber_iff_throughNanos (h : Tick.IsNanosWord micros) :
    OneNumber micros ↔ Tick.throughNanos micros = .ofIntQuotient micros 1000000 := by
  constructor
  · rintro ⟨x, hx⟩
    have hcivil := hx "time" 0 _ (.civil (.moment (Moment.isAt_ofEpochMicros micros)))
    have htick := hx "time" 0 _ .micros
    rw [seconds_of_isAt (.moment (Moment.isAt_ofEpochMicros micros)), Except.ok.injEq] at hcivil
    rw [seconds, Except.ok.injEq, Tick.epochSeconds_micro h] at htick
    rw [htick, hcivil]
  · intro heq
    refine ⟨.ofIntQuotient micros 1000000, fun label index d hd => ?_⟩
    cases hd with
    | civil hd => exact seconds_of_isAt hd
    | micros => rw [seconds, Tick.epochSeconds_micro h, heq]
    | nanos => rw [seconds, Tick.epochSeconds_nano h, heq]

/-- **One instant, one number**, in the years from 1678 to 2261. The times
of the calendar at an instant always become one number, the seconds of
the instant rounded once. Ticks at the instant become the same number
exactly when the seconds by way of nanoseconds are that number. That is
so where the nanoseconds are a double, and so for some two years around
1970 and at each whole minute, but at no odd second between `2 ^ 62`
nanoseconds and `2 ^ 33` seconds from 1970. -/
theorem oneNumber_iff (hfrom : 1678 ≤ (Moment.ofEpochMicros micros).date.year)
    (hto : (Moment.ofEpochMicros micros).date.year ≤ 2261) :
    (∀ label index d, d.IsAt micros →
      seconds label index d = .ok (.ofIntQuotient micros 1000000)) ∧
    (OneNumber micros ↔ Tick.throughNanos micros = .ofIntQuotient micros 1000000) ∧
    ((Binary64.ofIntQuotient (micros * 1000) 1).value = (micros * 1000 : ℤ) → OneNumber micros) ∧
    (micros.natAbs * 125 < 2 ^ 53 → OneNumber micros) ∧
    (60000000 ∣ micros → OneNumber micros) ∧
    (∀ n : ℤ, micros = n * 1000000 → n % 2 = 1 → 2 ^ 62 ≤ n.natAbs * 1000000000 →
      n.natAbs < 2 ^ 33 → ¬ OneNumber micros) := by
  have hword := Tick.isNanosWord_of_year hfrom hto
  have hiff := oneNumber_iff_throughNanos hword
  refine ⟨fun label index d => seconds_of_isAt, hiff, fun hexact => ?_, fun hfew => ?_,
    fun hminutes => ?_, ?_⟩
  · exact hiff.2 (Tick.throughNanos_of_exact hword (Binary64.value_nearest_natAbs hexact))
  · exact hiff.2 (Tick.throughNanos_of_few hfew)
  · exact hiff.2 (Tick.throughNanos_of_minutes hword hminutes)
  · rintro n rfl hodd hlow hhigh hone
    exact Tick.throughNanos_ne_of_odd hodd hlow hhigh (hiff.1 hone)

/-- The start of 2024 is a whole minute. -/
theorem oneNumber_newYear2024 : OneNumber 1704067200000000 :=
  (oneNumber_iff (by decide) (by decide)).2.2.2.2.1 (by decide)

/-- The first second of 2200 becomes another number as a tick than as a
moment. -/
theorem not_oneNumber_newYear2200 : ¬ ∀ micros : ℤ,
    1678 ≤ (Moment.ofEpochMicros micros).date.year →
    (Moment.ofEpochMicros micros).date.year ≤ 2261 → OneNumber micros := by
  intro hall
  have hone := hall (7258118401 * 1000000) (by decide) (by decide)
  have hword : Tick.IsNanosWord (7258118401 * 1000000) :=
    Tick.isNanosWord_of_year (by decide) (by decide)
  exact Tick.throughNanos_ne_of_odd (by decide) (by decide) (by decide)
    ((oneNumber_iff_throughNanos hword).1 hone)

end Payload

end PlotPipe
