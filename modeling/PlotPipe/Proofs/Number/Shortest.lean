import PlotPipe.Number.Reading
import PlotPipe.Number.Shortest
import PlotPipe.Proofs.Number.Rounding
/-!
# Numbers — the shortest decimal is read back

A decimal is read as the number nearest to its value, so decimals of one
value are read alike (`rankOf_congr`). The shortest decimal of a number
is either found by reading it back or is the exact value of the number,
and is read as the number both ways (`rankOf_shortest`).

Reading decides decimals with far exponents by their length alone.
`Decimal.nearest_eq` is that this makes no difference for the decimals
that are written: where the nearest number is neither zero nor infinite,
the logarithm is not far out.
-/

namespace PlotPipe

/-- The value of a decimal. -/
def Scaled.value (d : Scaled) : ℚ := d.digits * 10 ^ d.exponent

/-- A decimal as a quotient of natural numbers. -/
def Scaled.quotient (d : Scaled) : Nat × Nat :=
  if 0 ≤ d.exponent then (d.digits * Nat.pow 10 d.exponent.toNat, 1)
  else (d.digits, Nat.pow 10 (-d.exponent).toNat)

theorem natCast_pow_ten (n : Nat) : ((Nat.pow 10 n : Nat) : ℚ) = 10 ^ (n : ℤ) := by
  rw [zpow_natCast]
  exact Nat.cast_pow 10 n

theorem Scaled.quotient_den_pos (d : Scaled) : 0 < d.quotient.2 := by
  unfold quotient
  split
  · exact Nat.one_pos
  · exact Nat.pow_pos (by decide)

theorem Scaled.quotient_div (d : Scaled) : (d.quotient.1 : ℚ) / d.quotient.2 = d.value := by
  unfold quotient value
  split
  · rename_i he
    rw [Nat.cast_mul, natCast_pow_ten, Int.toNat_of_nonneg he, Nat.cast_one, div_one]
  · rename_i he
    rw [natCast_pow_ten, Int.toNat_of_nonneg (by omega), zpow_neg, div_inv_eq_mul]

namespace BinaryFormat

variable {f : BinaryFormat} {rank : Nat}

theorem rankOf_eq (d : Scaled) : f.rankOf d = f.nearestRank d.quotient.1 d.quotient.2 := by
  unfold rankOf Scaled.quotient
  split <;> rfl

/-- **Decimals of one value are read alike.** -/
theorem rankOf_congr {d d' : Scaled} (h : d.value = d'.value) : f.rankOf d = f.rankOf d' := by
  rw [rankOf_eq, rankOf_eq]
  exact nearestRank_congr d.quotient_den_pos d'.quotient_den_pos
    (by rw [d.quotient_div, d'.quotient_div, h])

theorem rankOf_zero (e : ℤ) : f.rankOf ⟨0, e⟩ = 0 := by
  have hvalue : (Scaled.mk 0 e).value = (Scaled.mk 0 0).value := by simp [Scaled.value]
  rw [rankOf_congr hvalue, rankOf_eq]
  rfl

/-! ## The decimal that is written -/

/-- The exact expansion has the value of the number. -/
theorem value_expansion (rank : Nat) :
    (f.expansion rank).value = f.significand rank * 2 ^ f.exponent rank := by
  unfold expansion Scaled.value
  dsimp only
  split
  · rename_i he
    rw [Nat.cast_mul, natCast_pow_two, Int.toNat_of_nonneg he, zpow_zero, mul_one]
  · rename_i he
    have hfive : ((Nat.pow 5 (-f.exponent rank).toNat : Nat) : ℚ) = (5 ^ f.exponent rank)⁻¹ := by
      rw [← zpow_neg, ← Int.toNat_of_nonneg (show 0 ≤ -f.exponent rank by omega), zpow_natCast]
      exact Nat.cast_pow 5 _
    have hten : (10 : ℚ) ^ f.exponent rank = 5 ^ f.exponent rank * 2 ^ f.exponent rank := by
      rw [← mul_zpow]
      norm_num
    rw [Nat.cast_mul, hfive, hten, mul_assoc, inv_mul_cancel_left₀ (by positivity)]

theorem rankOf_expansion (hp : 0 < f.precision) (rank : Nat) :
    f.rankOf (f.expansion rank) = rank := by
  have hvalue : ((f.expansion rank).quotient.1 : ℚ) / (f.expansion rank).quotient.2
      = ((f.quotient rank).1 : ℚ) / (f.quotient rank).2 := by
    rw [Scaled.quotient_div, value_expansion, quotient_div]
  rw [rankOf_eq, nearestRank_congr (Scaled.quotient_den_pos _) (f.quotient_den_pos rank) hvalue,
    nearestRank_quotient hp]

theorem onGrid?_eq_some {decade : ℤ} {count : Nat} {d : Scaled}
    (h : f.onGrid? rank decade count = some d) :
    d.exponent = decade - count ∧ f.rankOf d = rank := by
  unfold onGrid? at h
  dsimp only at h
  repeat' split at h
  all_goals first
    | cases h
      exact ⟨rfl, ‹_›⟩
    | cases h

theorem rankOf_shortestFrom (hp : 0 < f.precision) (decade : ℤ) (fuel count : Nat) :
    f.rankOf (f.shortestFrom rank decade fuel count) = rank := by
  induction fuel generalizing count with
  | zero => exact rankOf_expansion hp rank
  | succ fuel ih =>
    unfold shortestFrom
    split
    · rename_i d hd
      exact (onGrid?_eq_some hd).2
    · exact ih (count + 1)

theorem minExponent_le_exponent (rank : Nat) : f.minExponent ≤ f.exponent rank := by
  unfold exponent
  split <;> omega

/-- The search goes one place further down at each step, and the exact
expansion no further than the last bit. -/
theorem le_exponent_shortestFrom {low decade : ℤ} {fuel count : Nat}
    (hlow : low ≤ min f.minExponent 0) (hdecade : low ≤ decade - (count + fuel)) :
    low ≤ (f.shortestFrom rank decade fuel count).exponent := by
  induction fuel generalizing count with
  | zero =>
    have hexp := f.minExponent_le_exponent rank
    unfold shortestFrom expansion
    dsimp only
    split <;> dsimp only <;> omega
  | succ fuel ih =>
    unfold shortestFrom
    split
    · rename_i d hd
      have hexp := (onGrid?_eq_some hd).1
      omega
    · exact ih (by omega)

/-- **The shortest decimal of a number is read as the number.** -/
theorem rankOf_shortest (hp : 0 < f.precision) (rank : Nat) :
    f.rankOf (f.shortest rank) = rank := by
  unfold shortest
  split
  · rename_i hzero
    rw [rankOf_zero, hzero]
  · exact rankOf_shortestFrom hp _ _ _

theorem le_decadeFrom (num den fuel : Nat) (start : ℤ) : start ≤ decadeFrom num den fuel start := by
  induction fuel generalizing start with
  | zero => exact le_refl _
  | succ fuel ih =>
    unfold decadeFrom
    dsimp only
    split
    · exact le_refl _
    · have := ih (start + 1)
      omega

/-- The decimals that are written reach no further down than the exact
ones. -/
theorem le_exponent_shortest (rank : Nat) : -1074 ≤ (binary64.shortest rank).exponent := by
  unfold shortest
  split
  · decide
  · have hlog : (binary64.quotient rank).2.log2 ≤ 1074 := by
      have hexp := binary64.minExponent_le_exponent rank
      have hmin : binary64.minExponent = -1074 := rfl
      unfold quotient
      dsimp only
      split
      · change Nat.log2 1 ≤ 1074
        decide
      · change (2 ^ (-binary64.exponent rank).toNat).log2 ≤ 1074
        rw [Nat.log2_two_pow]
        omega
    have hdecade := le_decadeFrom (binary64.quotient rank).1 (binary64.quotient rank).2 8
      (((((binary64.quotient rank).1.log2 : ℤ) - (binary64.quotient rank).2.log2 - 1) * 30103)
        / 100000 - 1)
    rw [← decade] at hdecade
    exact le_exponent_shortestFrom (by decide) (by omega)

end BinaryFormat

/-! ## Powers of two and ten -/

theorem two_pow_le_ten_pow {a b : Nat} (h : 10 * a ≤ 33 * b) : 2 ^ a ≤ 10 ^ b := by
  refine (Nat.pow_le_pow_iff_left (n := 10) (by decide)).1 ?_
  calc (2 ^ a) ^ 10 = 2 ^ (10 * a) := by rw [← Nat.pow_mul, Nat.mul_comm]
    _ ≤ 2 ^ (33 * b) := Nat.pow_le_pow_right (by decide) h
    _ = (2 ^ 33) ^ b := Nat.pow_mul ..
    _ ≤ (10 ^ 10) ^ b := Nat.pow_le_pow_left (by decide) b
    _ = (10 ^ b) ^ 10 := by rw [← Nat.pow_mul, ← Nat.pow_mul, Nat.mul_comm]

theorem ten_pow_le_two_pow {a b : Nat} (h : 10 * b ≤ 3 * a) : 10 ^ b ≤ 2 ^ a := by
  refine (Nat.pow_le_pow_iff_left (n := 3) (by decide)).1 ?_
  calc (10 ^ b) ^ 3 = (10 ^ 3) ^ b := by rw [← Nat.pow_mul, ← Nat.pow_mul, Nat.mul_comm]
    _ ≤ (2 ^ 10) ^ b := Nat.pow_le_pow_left (by decide) b
    _ = 2 ^ (10 * b) := (Nat.pow_mul ..).symm
    _ ≤ 2 ^ (3 * a) := Nat.pow_le_pow_right (by decide) h
    _ = (2 ^ a) ^ 3 := by rw [← Nat.pow_mul, Nat.mul_comm]

namespace Decimal

variable {digits : Nat} {exponent : ℤ}

/-- A decimal below the end of the finite numbers has no far logarithm. -/
theorem log2_le_of_value_lt (hdigits : digits ≠ 0) (he : -2000 ≤ exponent) {top : Nat}
    (htop : top ≤ 1025) (h : (Scaled.mk digits exponent).value < 2 ^ (top : ℤ)) :
    (digits.log2 : ℤ) * 30103 / 100000 + exponent ≤ 320 := by
  have hlog : 2 ^ digits.log2 ≤ digits := Nat.log2_self_le hdigits
  rcases Int.eq_nat_or_neg exponent with ⟨n, rfl | rfl⟩
  · have hnat : digits * 10 ^ n < 2 ^ top := by
      simp only [Scaled.value, zpow_natCast] at h
      exact_mod_cast h
    have hpow : 2 ^ (digits.log2 + 33 * n / 10) < 2 ^ top :=
      calc 2 ^ (digits.log2 + 33 * n / 10) = 2 ^ digits.log2 * 2 ^ (33 * n / 10) := Nat.pow_add ..
        _ ≤ digits * 10 ^ n := Nat.mul_le_mul hlog (two_pow_le_ten_pow (by omega))
        _ < 2 ^ top := hnat
    have hlt := (Nat.pow_lt_pow_iff_right (by decide : 1 < 2)).1 hpow
    omega
  · have hnat : digits < 2 ^ top * 10 ^ n := by
      simp only [Scaled.value, zpow_neg, zpow_natCast] at h
      rw [← div_eq_mul_inv, div_lt_iff₀ (by positivity)] at h
      exact_mod_cast h
    have hpow : 2 ^ digits.log2 < 2 ^ (top + (10 * n + 2) / 3) :=
      calc 2 ^ digits.log2 ≤ digits := hlog
        _ < 2 ^ top * 10 ^ n := hnat
        _ ≤ 2 ^ top * 2 ^ ((10 * n + 2) / 3) :=
          Nat.mul_le_mul_left _ (ten_pow_le_two_pow (by omega))
        _ = 2 ^ (top + (10 * n + 2) / 3) := (Nat.pow_add ..).symm
    have hlt := (Nat.pow_lt_pow_iff_right (by decide : 1 < 2)).1 hpow
    omega

/-- A decimal not below the smallest numbers has no far logarithm. -/
theorem le_log2_of_le_value (he : -2000 ≤ exponent) {depth : Nat} (hdepth : depth ≤ 1076)
    (h : (2 : ℚ) ^ (-depth : ℤ) ≤ (Scaled.mk digits exponent).value) :
    -340 ≤ (digits.log2 : ℤ) * 30103 / 100000 + exponent := by
  have hlog : digits < 2 ^ (digits.log2 + 1) := Nat.lt_log2_self
  rcases Int.eq_nat_or_neg exponent with ⟨n, rfl | rfl⟩
  · omega
  · have hnat : 10 ^ n ≤ digits * 2 ^ depth := by
      simp only [Scaled.value, zpow_neg, zpow_natCast] at h
      rw [← div_eq_mul_inv, le_div_iff₀ (by positivity), inv_mul_le_iff₀ (by positivity),
        mul_comm] at h
      exact_mod_cast h
    have hpow : 2 ^ (33 * n / 10) < 2 ^ (digits.log2 + 1 + depth) :=
      calc 2 ^ (33 * n / 10) ≤ 10 ^ n := two_pow_le_ten_pow (by omega)
        _ ≤ digits * 2 ^ depth := hnat
        _ < 2 ^ (digits.log2 + 1) * 2 ^ depth := Nat.mul_lt_mul_of_pos_right hlog (by positivity)
        _ = 2 ^ (digits.log2 + 1 + depth) := (Nat.pow_add ..).symm
    have hlt := (Nat.pow_lt_pow_iff_right (by decide : 1 < 2)).1 hpow
    omega

/-- **A decimal whose rank is that of a finite magnitude is read as that
magnitude**, whatever its exponent. -/
theorem nearest_eq {m : Magnitude} (hrank : BinaryFormat.binary64.rankOf ⟨digits, exponent⟩ = m.rank)
    (hfinite : m.isFinite) (hzero : m.rank = 0 → digits = 0) (he : -2000 ≤ exponent)
    (negative : Bool) : nearest negative digits exponent = .signed negative m := by
  have hm : m.rank < BinaryFormat.binary64.infinityRank := by
    simpa [Magnitude.isFinite] using hfinite
  by_cases hdigits : digits = 0
  · subst hdigits
    rw [BinaryFormat.rankOf_zero] at hrank
    obtain ⟨rank, hle⟩ := m
    cases hrank
    rfl
  rw [BinaryFormat.rankOf_eq] at hrank
  have hden := (Scaled.mk digits exponent).quotient_den_pos
  have hlow : -340 ≤ (digits.log2 : ℤ) * 30103 / 100000 + exponent := by
    refine le_log2_of_le_value he (le_refl 1076) ?_
    rw [← Scaled.quotient_div]
    refine BinaryFormat.le_of_nearestRank_ne_zero (f := .binary64) hden fun h => hdigits (hzero ?_)
    rw [← hrank, h]
  have hhigh : (digits.log2 : ℤ) * 30103 / 100000 + exponent ≤ 320 := by
    refine log2_le_of_value_lt hdigits he (le_refl 1025) ?_
    have hend : ((1025 : ℕ) : ℤ) = BinaryFormat.binary64.precision
        + (BinaryFormat.binary64.minExponent + (2046 : ℕ)) := by decide
    rw [← Scaled.quotient_div, hend]
    have hrows : BinaryFormat.binary64.infinityRank = (2046 + 1) * BinaryFormat.binary64.row := rfl
    exact BinaryFormat.lt_of_nearestRank_lt (f := .binary64) (by decide) hden
      (by rw [hrank, ← hrows]; exact hm)
  have hmag : Magnitude.nearest (Scaled.mk digits exponent).quotient.1
      (Scaled.mk digits exponent).quotient.2 = m := by
    obtain ⟨rank, hle⟩ := m
    rw [Magnitude.nearest, hrank, Magnitude.ofRank]
    congr 1
    exact min_eq_left hle
  rw [nearest, if_neg hdigits]
  dsimp only
  rw [if_neg (by omega), if_neg (by omega), ← hmag]
  unfold Scaled.quotient
  split <;> rfl

end Decimal

end PlotPipe
