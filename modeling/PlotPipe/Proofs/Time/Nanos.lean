import PlotPipe.Proofs.Number.Nearness
import PlotPipe.Proofs.Time.Instant
import PlotPipe.Proofs.Time.Tick

/-!
# Time — microseconds by way of nanoseconds

The seconds of a moment are its microseconds, divided. Those of a tick
are taken by way of its nanoseconds, which are rounded to a double before
they are divided (`Tick.throughNanos`). Both ways meet where the
nanoseconds are a double: for some two years on each side of 1970
(`Tick.throughNanos_of_few`) and at each whole minute
(`Tick.throughNanos_of_minutes`). They part at whole seconds already, at
each odd one from the year 2116 to the year 2242, and as far before 1970
(`Tick.throughNanos_ne_of_odd`).
-/

namespace PlotPipe

namespace Tick

open Binary64 Magnitude

variable {micros : ℤ}

/-- **Seconds by way of nanoseconds**: the count of nanoseconds is taken
for a double, and divided. -/
def throughNanos (micros : ℤ) : Binary64 :=
  (ofIntQuotient (micros * 1000) 1).divNat nanosPerSecond

/-- The nanoseconds of a count of microseconds are a word. -/
def IsNanosWord (micros : ℤ) : Prop :=
  noTimeCount ≤ micros * 1000 ∧ micros * 1000 < -noTimeCount

/-- The years from 1678 to 2261 are within the words of nanoseconds. -/
theorem isNanosWord_of_year (hfrom : 1678 ≤ (Moment.ofEpochMicros micros).date.year)
    (hto : (Moment.ofEpochMicros micros).date.year ≤ 2261) : IsNanosWord micros := by
  change 1678 ≤ Date.yearOfDays (micros / 1000000 / secondsPerDay) at hfrom
  change Date.yearOfDays (micros / 1000000 / secondsPerDay) ≤ 2261 at hto
  obtain ⟨hbegun, hended⟩ := Date.yearOfDays_spec (micros / 1000000 / secondsPerDay)
  generalize Date.yearOfDays (micros / 1000000 / secondsPerDay) = year at *
  unfold Date.daysBeforeYear secondsPerDay at hbegun hended
  unfold IsNanosWord noTimeCount
  dsimp only at hbegun hended
  omega

theorem wrap_of_isNanosWord (h : IsNanosWord micros) : wrap (micros * 1000) = micros * 1000 := by
  unfold IsNanosWord noTimeCount at h
  exact Int.bmod_eq_of_le (by omega) (by omega)

/-- Ticks of microseconds and of nanoseconds come to seconds by way of
nanoseconds. -/
theorem epochSeconds_micro (h : IsNanosWord micros) :
    epochSeconds ⟨.micro, some micros⟩ = throughNanos micros := by
  have hnanos : nanos ⟨.micro, some micros⟩ = micros * 1000 := by
    rw [nanos_eq le_rfl rfl, ← wrap_of_isNanosWord h]
    congr 2
    change micros * 1000000000000 / 1000000000000 = micros
    omega
  rw [epochSeconds, hnanos, throughNanos]

theorem epochSeconds_nano (h : IsNanosWord micros) :
    epochSeconds ⟨.nano, some (micros * 1000)⟩ = throughNanos micros := by
  have hnanos : nanos ⟨.nano, some (micros * 1000)⟩ = micros * 1000 := by
    rw [← wrap_of_isNanosWord h]
    change wrap (wrap (micros * 1000) * 1000000000 / 1000000000) = _
    rw [Int.mul_ediv_cancel _ (by decide), wrap_of_isNanosWord h, wrap_of_isNanosWord h]
  rw [epochSeconds, hnanos, throughNanos]

/-! ## Where both ways meet -/

theorem isFinite_nearest_nanos (h : IsNanosWord micros) :
    (nearest (micros * 1000).natAbs 1).isFinite = true := by
  unfold IsNanosWord noTimeCount at h
  exact isFinite_nearest_of_le (by omega)

/-- **Nanoseconds that are a double are rounded once.** -/
theorem throughNanos_of_exact (h : IsNanosWord micros)
    (hexact : (nearest (micros * 1000).natAbs 1).value = (micros * 1000).natAbs) :
    throughNanos micros = ofIntQuotient micros 1000000 := by
  rw [throughNanos, divNat_of_exact (by decide) (isFinite_nearest_nanos h) hexact,
    ofIntQuotient_micros]

/-- Nanoseconds of few bits are rounded once. -/
theorem throughNanos_of_bits (h : IsNanosWord micros) {n e : ℕ}
    (hbits : (micros * 1000).natAbs = n * 2 ^ e) (hn : n < 2 ^ 53) :
    throughNanos micros = ofIntQuotient micros 1000000 := by
  have hfinite := isFinite_nearest_nanos h
  refine throughNanos_of_exact h ?_
  rw [hbits] at hfinite ⊢
  exact value_nearest_of_bits hn hfinite

theorem throughNanos_of_few (h : micros.natAbs * 125 < 2 ^ 53) :
    throughNanos micros = ofIntQuotient micros 1000000 := by
  refine throughNanos_of_bits (n := micros.natAbs * 125) (e := 3) ?_ (by omega) h
  unfold IsNanosWord noTimeCount
  omega

theorem throughNanos_of_minutes (h : IsNanosWord micros) (hminutes : 60000000 ∣ micros) :
    throughNanos micros = ofIntQuotient micros 1000000 := by
  obtain ⟨minutes, rfl⟩ := hminutes
  refine throughNanos_of_bits (n := minutes.natAbs * 29296875) (e := 11) h (by omega) ?_
  unfold IsNanosWord noTimeCount at h
  omega

/-! ## Where they part -/

/-- An odd number of seconds past `2 ^ 62` nanoseconds is half a unit away
from the doubles on both sides. -/
theorem nanos_odd {n : ℕ} (hodd : n % 2 = 1) (hlow : 2 ^ 62 ≤ n * 1000000000)
    (hhigh : n < 2 ^ 33) :
    |(nearest (n * 1000000000) 1).value - (n * 1000000000 : ℕ)| = 512 := by
  have hbit : BinaryFormat.binary64.LastBit ((n * 1000000000 : ℕ) / (1 : ℕ)) 10 := by
    have hlt : n * 1000000000 < 2 ^ 63 := by omega
    have hends : (BinaryFormat.binary64.precision : ℤ) + 10 = (63 : ℕ) ∧
        (BinaryFormat.binary64.precision : ℤ) - 1 + 10 = (62 : ℕ) := ⟨rfl, rfl⟩
    refine ⟨by decide, ?_, fun _ => ?_⟩
    · rw [Nat.cast_one, div_one, hends.1, zpow_natCast]
      exact_mod_cast hlt
    · rw [Nat.cast_one, div_one, hends.2, zpow_natCast]
      exact_mod_cast hlow
  obtain ⟨k, hk, hbound⟩ := value_nearest_spec Nat.one_pos hbit (by decide)
  have hunits : (k : ℚ) * 2 ^ (10 : ℤ) - (n * 1000000000 : ℕ) =
      ((k * 1024 - n * 1000000000 : ℤ) : ℚ) := by
    push_cast
    norm_num
  have hhalf : (2 : ℚ) ^ (10 : ℤ) / 2 = (512 : ℤ) := by norm_num
  rw [Nat.cast_one, div_one, hk, hunits, hhalf, ← Int.cast_abs, Int.cast_le, abs_le] at hbound
  -- Half of the unit is what an odd number of units leaves over.
  have hsides : (k * 1024 - n * 1000000000 : ℤ) = 512 ∨ (k * 1024 - n * 1000000000 : ℤ) = -512 := by
    omega
  rw [hk, hunits]
  rcases hsides with h | h <;> rw [h] <;> norm_num

/-- **At an odd second** between `2 ^ 62` nanoseconds and `2 ^ 33` seconds
from 1970 the two ways part. -/
theorem throughNanos_ne_of_odd {seconds : ℤ} (hodd : seconds % 2 = 1)
    (hlow : 2 ^ 62 ≤ seconds.natAbs * 1000000000) (hhigh : seconds.natAbs < 2 ^ 33) :
    throughNanos (seconds * 1000000) ≠ ofIntQuotient (seconds * 1000000) 1000000 := by
  have hword : IsNanosWord (seconds * 1000000) := by
    unfold IsNanosWord noTimeCount
    omega
  have hnanos : (seconds * 1000000 * 1000).natAbs = seconds.natAbs * 1000000000 := by omega
  have hfinite := isFinite_nearest_nanos hword
  have honce : ofIntQuotient (seconds * 1000000) 1000000 = ofIntQuotient seconds 1 :=
    ofIntQuotient_mul (c := 1000000) (k := 1) (by decide) Nat.one_pos
  have hfar := nanos_odd (by omega) hlow hhigh
  rw [throughNanos, divNat_ofIntQuotient hfinite, honce, hnanos, ofIntQuotient, ofQuotient,
    ofQuotient, Ne, signed.injEq]
  rintro ⟨-, heq⟩
  generalize nearest (seconds.natAbs * 1000000000) 1 = m at hfar heq
  generalize seconds.natAbs = n at *
  -- The second rounding changes less than the first one has changed.
  have hn : (n : ℚ) ≤ 2 ^ 33 - 1 := by
    have hle : n + 1 ≤ 2 ^ 33 := hhigh
    have hcast : ((n : ℚ) + 1) ≤ 2 ^ 33 := by exact_mod_cast hle
    linarith
  have hexact : (nearest n 1).value = n := by
    have hbits := value_nearest_of_bits (n := n) (e := 0) (hhigh.trans (by decide))
      (isFinite_nearest_of_le (by omega))
    simpa using hbits
  have hsides := abs_le.1 hfar.le
  push_cast at hfar hsides
  have hlt : (m.quotient.1 : ℚ) / (m.quotient.2 * nanosPerSecond : ℕ) < 2 ^ (53 + -20 : ℤ) := by
    rw [quotient_mul_div, nanosPerSecond, div_lt_iff₀ (by norm_num)]
    norm_num
    linarith
  have hnear := abs_value_nearest_sub_le (Nat.mul_pos m.quotient_den_pos (by decide)) (by decide)
    (by decide) hlt
  rw [heq, hexact, quotient_mul_div, nanosPerSecond] at hnear
  have hfirst : |(n : ℚ) - m.value / (1000000000 : ℕ)| = 512 / 1000000000 := by
    rw [← hfar, ← abs_neg, neg_sub, ← abs_of_pos (show (0 : ℚ) < 1000000000 by norm_num),
      ← abs_div, sub_div]
    norm_num
  rw [hfirst] at hnear
  norm_num at hnear

end Tick

end PlotPipe
