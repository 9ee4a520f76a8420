import PlotPipe.Proofs.Number.Division

/-!
# Numbers — how near a double is

A double is a whole number of units of its last bit, and at most half of
one away from what it is rounded from (`Magnitude.value_nearest_spec`).
Below a power of two the last bit is bounded, and so is what rounding
changes (`Binary64.abs_value_ofIntQuotient_sub_le`).
-/

namespace PlotPipe

namespace BinaryFormat

variable {f : BinaryFormat} {num den : ℕ}

/-- **The number at the nearest rank** is what the quotient is rounded to
in units of its last bit. -/
theorem quotient_nearestRank_eq (hp : 0 < f.precision) (hnum : num ≠ 0) (hden : 0 < den) :
    ((f.quotient (f.nearestRank num den)).1 : ℚ) / (f.quotient (f.nearestRank num den)).2 =
      roundHalfEven (scale num den (f.lastBit num den)).1 (scale num den (f.lastBit num den)).2 *
        2 ^ f.lastBit num den := by
  have hmin := (lastBit_spec (f := f) hnum hden).minExponent_le
  have hle := roundHalfEven_scale_le hp hnum hden
  have hexponent : f.minExponent + ((f.lastBit num den - f.minExponent).toNat : ℤ) =
      f.lastBit num den := by omega
  rw [nearestRank_of_ne_zero hnum]
  rcases Nat.lt_or_eq_of_le hle with hlt | heq
  · rw [quotient_place hlt fun hrow => row_le_roundHalfEven_scale hp hnum hden (by omega),
      hexponent]
  · -- A significand that is too long by one bit is the first one of the next row.
    have hrow := f.row_pos
    have hnext : (f.lastBit num den - f.minExponent).toNat * f.row + f.row * 2 =
        ((f.lastBit num den - f.minExponent).toNat + 1) * f.row + f.row := by ring
    rw [heq, hnext, quotient_place (by omega) fun _ => le_rfl]
    push_cast
    rw [← add_assoc, hexponent, zpow_add_one₀ two_ne_zero]
    ring

end BinaryFormat

namespace Magnitude

open BinaryFormat

variable {num den : ℕ} {e : ℤ}

/-- **A double and what it is rounded from**: it is a whole number of
units of the last bit, and at most half of one away. -/
theorem value_nearest_spec (hden : 0 < den) (hbit : binary64.LastBit ((num : ℚ) / den) e)
    (he : e ≤ 970) : ∃ k : ℕ, (nearest num den).value = k * 2 ^ e ∧
      |(nearest num den).value - (num : ℚ) / den| ≤ 2 ^ e / 2 := by
  rcases Nat.eq_zero_or_pos num with rfl | hnum
  · refine ⟨0, ?_, ?_⟩
    · rw [nearest_zero, value_zero, Nat.cast_zero, zero_mul]
    · rw [nearest_zero, value_zero, Nat.cast_zero, zero_div, sub_zero, abs_zero]
      positivity
  obtain rfl : binary64.lastBit num den = e := (lastBit_spec hnum.ne' hden).unique hbit
  have hround := roundHalfEven_scale_bounds num hden (binary64.lastBit num den)
  have hle := roundHalfEven_scale_le (f := binary64) (by decide) hnum.ne' hden
  have hrank : (nearest num den).rank = binary64.nearestRank num den := by
    refine min_eq_left ?_
    rw [nearestRank_of_ne_zero hnum.ne']
    calc (binary64.lastBit num den - binary64.minExponent).toNat * binary64.row + _
        ≤ 2044 * binary64.row + binary64.row * 2 := by
          refine Nat.add_le_add (Nat.mul_le_mul_right _ ?_) hle
          have hmin : binary64.minExponent = -1074 := rfl
          omega
      _ ≤ binary64.infinityRank := by decide
  have hvalue := quotient_nearestRank_eq (f := binary64) (by decide) hnum.ne' hden
  rw [← hrank] at hvalue
  change (nearest num den).value = _ at hvalue
  refine ⟨_, hvalue, ?_⟩
  have hpos : (0 : ℚ) < 2 ^ binary64.lastBit num den := by positivity
  rw [hvalue]
  generalize roundHalfEven _ _ = k at hround ⊢
  generalize (2 : ℚ) ^ binary64.lastBit num den = unit at hpos hround ⊢
  calc |(k : ℚ) * unit - (num : ℚ) / den| = |(k : ℚ) - (num : ℚ) / den / unit| * unit := by
        rw [← abs_of_pos hpos, ← abs_mul, abs_of_pos hpos, sub_mul, div_mul_cancel₀ _ hpos.ne']
    _ ≤ 1 / 2 * unit := by
        gcongr
        exact abs_le.2 ⟨by linarith [hround.2], by linarith [hround.1]⟩
    _ = unit / 2 := by ring

/-- What rounding changes of a quotient below a power of two. -/
theorem abs_value_nearest_sub_le (hden : 0 < den) (hmin : -1074 ≤ e) (he : e ≤ 970)
    (hlt : (num : ℚ) / den < 2 ^ (53 + e)) :
    |(nearest num den).value - (num : ℚ) / den| ≤ 2 ^ e / 2 := by
  rcases Nat.eq_zero_or_pos num with rfl | hnum
  · rw [nearest_zero, value_zero, Nat.cast_zero, zero_div, sub_zero, abs_zero]
    positivity
  have hspec := lastBit_spec (f := binary64) hnum.ne' hden
  have hle : binary64.lastBit num den ≤ e := by
    by_contra hgt
    have hbinary : binary64.minExponent = -1074 ∧ binary64.precision = 53 := ⟨rfl, rfl⟩
    have hpow := (hspec.le_of_ne (by omega)).trans_lt hlt
    have := (zpow_lt_zpow_iff_right₀ one_lt_two).1 hpow
    omega
  obtain ⟨k, -, hbound⟩ := value_nearest_spec hden hspec (hle.trans he)
  refine hbound.trans ?_
  gcongr
  exact one_le_two

end Magnitude

namespace Binary64

open Magnitude

variable {i : ℤ} {k : ℕ} {e : ℤ}

/-- A double and the quotient of integers that it is rounded from are as
far apart as their magnitudes. -/
theorem abs_value_ofIntQuotient_sub (i : ℤ) (k : ℕ) :
    |(ofIntQuotient i k).value - (i : ℚ) / k| =
      |(nearest i.natAbs k).value - (i.natAbs : ℚ) / k| := by
  rw [ofIntQuotient, ofQuotient, Binary64.value, Nat.cast_natAbs]
  by_cases hi : i < 0
  · rw [decide_eq_true hi, if_pos rfl, abs_of_neg hi, ← abs_neg]
    congr 1
    push_cast
    ring
  · rw [decide_eq_false hi, if_neg Bool.false_ne_true, abs_of_nonneg (not_lt.1 hi)]

/-- **A quotient of integers below a power of two is hardly changed by
rounding.** -/
theorem abs_value_ofIntQuotient_sub_le (hk : 0 < k) (hmin : -1074 ≤ e) (he : e ≤ 970)
    (hlt : (i.natAbs : ℚ) / k < 2 ^ (53 + e)) :
    |(ofIntQuotient i k).value - (i : ℚ) / k| ≤ 2 ^ e / 2 := by
  rw [abs_value_ofIntQuotient_sub]
  exact abs_value_nearest_sub_le hk hmin he hlt

end Binary64

end PlotPipe
