import Mathlib.Algebra.Order.Field.Power
import Mathlib.Tactic.FieldSimp
import Mathlib.Tactic.Linarith
import Mathlib.Tactic.NormNum
import Mathlib.Tactic.Positivity
import Mathlib.Tactic.Ring
import PlotPipe.Number.Binary
/-!
# Numbers — what the nearest rank is

The rank nearest to a quotient depends on the value of the quotient alone
(`nearestRank_congr`), and the rank nearest to the number at a rank is
that rank (`nearestRank_quotient`), so that a number is never lost by
being rounded. Which numbers there are is told by their bits
(`quotient_nearestRank`).

The last bit of a quotient is what decides: `LastBit` says in terms of
the value which exponent it is, there is only one (`LastBit.unique`), and
`lastBit_spec` is that the search for it finds it.
-/

namespace PlotPipe

namespace BinaryFormat

variable {f : BinaryFormat} {num den num' den' : Nat} {q : ℚ} {e e' : ℤ}

/-! ## Quotients in units of a power of two -/

theorem natCast_pow_two (n : Nat) : ((Nat.pow 2 n : Nat) : ℚ) = 2 ^ (n : ℤ) := by
  rw [zpow_natCast]
  exact Nat.cast_pow 2 n

theorem scale_den_pos (num : Nat) (hden : 0 < den) (e : ℤ) : 0 < (scale num den e).2 := by
  unfold scale
  split
  · exact Nat.mul_pos hden (Nat.pow_pos (by decide))
  · exact hden

/-- A scaled quotient is the quotient in the new unit. -/
theorem scale_div (e : ℤ) :
    ((scale num den e).1 : ℚ) / (scale num den e).2 = (num : ℚ) / den / 2 ^ e := by
  unfold scale
  split
  · rename_i he
    have hpow : ((Nat.pow 2 e.toNat : Nat) : ℚ) = 2 ^ e := by
      rw [natCast_pow_two, Int.toNat_of_nonneg he]
    rw [Nat.cast_mul, hpow, div_div]
  · rename_i he
    have hpow : ((Nat.pow 2 (-e).toNat : Nat) : ℚ) = (2 ^ e)⁻¹ := by
      rw [natCast_pow_two, Int.toNat_of_nonneg (by omega), zpow_neg]
    rw [Nat.cast_mul, hpow, div_eq_mul_inv _ ((2 : ℚ) ^ e), mul_div_right_comm]

/-- Quotients of one value are proportional. -/
theorem mul_eq_mul_of_div_eq (hden : 0 < den) (hden' : 0 < den')
    (h : (num : ℚ) / den = (num' : ℚ) / den') : num * den' = num' * den := by
  have hne : (den : ℚ) ≠ 0 := by positivity
  have hne' : (den' : ℚ) ≠ 0 := by positivity
  rw [div_eq_div_iff hne hne'] at h
  exact_mod_cast h

theorem div_lt_iff_cast (hden : 0 < den) (n : Nat) : num / den < n ↔ (num : ℚ) / den < n := by
  have hden' : (0 : ℚ) < den := by positivity
  rw [Nat.div_lt_iff_lt_mul hden, div_lt_iff₀ hden']
  exact_mod_cast Iff.rfl

/-! ## Rounding to a natural number -/

/-- A common factor does not matter. -/
theorem roundHalfEven_mul {k : Nat} (hk : 0 < k) (num den : Nat) :
    roundHalfEven (num * k) (den * k) = roundHalfEven num den := by
  have hq : num * k / (den * k) = num / den := Nat.mul_div_mul_right num den hk
  have hr : num * k % (den * k) = num % den * k := Nat.mul_mod_mul_right k num den
  have hlt : den * k < 2 * (num % den * k) ↔ den < 2 * (num % den) := by
    rw [← Nat.mul_assoc]
    exact Nat.mul_lt_mul_right hk
  have heq : 2 * (num % den * k) = den * k ↔ 2 * (num % den) = den := by
    rw [← Nat.mul_assoc]
    exact Nat.mul_left_inj (by omega)
  unfold roundHalfEven
  simp only [hq, hr, hlt, heq]

theorem roundHalfEven_congr (hden : 0 < den) (hden' : 0 < den')
    (h : (num : ℚ) / den = (num' : ℚ) / den') :
    roundHalfEven num den = roundHalfEven num' den' := by
  rw [← roundHalfEven_mul hden' num den, mul_eq_mul_of_div_eq hden hden' h,
    Nat.mul_comm den den', roundHalfEven_mul hden num' den']

/-- A natural number is rounded to itself. -/
theorem roundHalfEven_of_eq (hden : 0 < den) {n : Nat} (h : (num : ℚ) / den = n) :
    roundHalfEven num den = n := by
  have hone : (num : ℚ) / den = (n : ℚ) / (1 : Nat) := by rw [h, Nat.cast_one, div_one]
  rw [roundHalfEven_congr hden Nat.one_pos hone]
  simp [roundHalfEven, Nat.mod_one]

/-- What is rounded is at most a half away. -/
theorem roundHalfEven_bounds (hden : 0 < den) :
    (roundHalfEven num den : ℚ) ≤ (num : ℚ) / den + 1 / 2 ∧
      (num : ℚ) / den ≤ roundHalfEven num den + 1 / 2 := by
  have hdiv : (num : ℚ) = den * (num / den : Nat) + (num % den : Nat) := by
    exact_mod_cast (Nat.div_add_mod num den).symm
  have hmod : ((num % den : Nat) : ℚ) < den := by exact_mod_cast Nat.mod_lt num hden
  have hpos : (0 : ℚ) < den := by positivity
  have hvalue : (num : ℚ) / den = (num / den : Nat) + (num % den : Nat) / den := by
    rw [hdiv, add_div, mul_div_cancel_left₀ _ hpos.ne']
  have hnonneg : (0 : ℚ) ≤ (num % den : Nat) / den := by positivity
  have hone : ((num % den : Nat) : ℚ) / den < 1 := (div_lt_one hpos).2 hmod
  rw [hvalue]
  unfold roundHalfEven
  dsimp only
  split
  · rename_i hup
    have hge : den ≤ 2 * (num % den) := by omega
    have hge' : (den : ℚ) ≤ 2 * (num % den : Nat) := by exact_mod_cast hge
    have hhalf : (1 : ℚ) / 2 ≤ (num % den : Nat) / den := by
      rw [div_le_div_iff₀ two_pos hpos]
      linarith
    push_cast
    constructor <;> linarith
  · rename_i hdown
    have hle : 2 * (num % den) ≤ den := by omega
    have hle' : (2 : ℚ) * (num % den : Nat) ≤ den := by exact_mod_cast hle
    have hhalf : ((num % den : Nat) : ℚ) / den ≤ 1 / 2 := by
      rw [div_le_div_iff₀ hpos two_pos]
      linarith
    constructor <;> linarith

/-- What is rounded to a unit is at most half a unit away. -/
theorem roundHalfEven_scale_bounds (num : Nat) (hden : 0 < den) (e : ℤ) :
    (roundHalfEven (scale num den e).1 (scale num den e).2 : ℚ)
        ≤ (num : ℚ) / den / 2 ^ e + 1 / 2 ∧
      (num : ℚ) / den / 2 ^ e
        ≤ roundHalfEven (scale num den e).1 (scale num den e).2 + 1 / 2 := by
  rw [← scale_div e]
  exact roundHalfEven_bounds (scale_den_pos num hden e)

/-! ## The last bit -/

/-- The exponent of the last bit that a number of the format near `q`
has: either the smallest one, or the one that gives `q` a full
significand. -/
structure LastBit (f : BinaryFormat) (q : ℚ) (e : ℤ) : Prop where
  minExponent_le : f.minExponent ≤ e
  lt : q < 2 ^ (f.precision + e)
  le_of_ne : e ≠ f.minExponent → 2 ^ (f.precision - 1 + e) ≤ q

/-- A larger value does not have a smaller last bit. -/
theorem LastBit.mono {q' : ℚ} (h : f.LastBit q e) (h' : f.LastBit q' e') (hle : q ≤ q') :
    e ≤ e' := by
  by_contra hlt
  -- The larger last bit is not the smallest exponent, so its value reaches its row.
  have hne : e ≠ f.minExponent := by
    have hmin := h'.minExponent_le
    omega
  have hpow : (2 : ℚ) ^ ((f.precision : ℤ) - 1 + e) < 2 ^ (f.precision + e') :=
    ((h.le_of_ne hne).trans hle).trans_lt h'.lt
  rw [zpow_lt_zpow_iff_right₀ one_lt_two] at hpow
  omega

/-- **The last bit is determined by the value.** -/
theorem LastBit.unique (h : f.LastBit q e) (h' : f.LastBit q e') : e = e' :=
  le_antisymm (h.mono h' le_rfl) (h'.mono h le_rfl)

/-- A quotient lies between the powers of two that the logarithms of its
parts give. -/
theorem div_bounds_log2 (hnum : num ≠ 0) (hden : den ≠ 0) :
    (2 : ℚ) ^ ((num.log2 : ℤ) - den.log2 - 1) ≤ (num : ℚ) / den ∧
      (num : ℚ) / den < 2 ^ ((num.log2 : ℤ) - den.log2 + 1) := by
  have hpos : (0 : ℚ) < den := by positivity
  have hnumle : (2 : ℚ) ^ (num.log2 : ℤ) ≤ num := by
    rw [zpow_natCast]
    exact_mod_cast Nat.log2_self_le hnum
  have hnumlt : (num : ℚ) < 2 ^ ((num.log2 : ℤ) + 1) := by
    rw [← Nat.cast_succ, zpow_natCast]
    exact_mod_cast Nat.lt_log2_self
  have hdenle : (2 : ℚ) ^ (den.log2 : ℤ) ≤ den := by
    rw [zpow_natCast]
    exact_mod_cast Nat.log2_self_le hden
  have hdenlt : (den : ℚ) < 2 ^ ((den.log2 : ℤ) + 1) := by
    rw [← Nat.cast_succ, zpow_natCast]
    exact_mod_cast Nat.lt_log2_self
  constructor
  · rw [le_div_iff₀ hpos]
    calc (2 : ℚ) ^ ((num.log2 : ℤ) - den.log2 - 1) * den
        ≤ 2 ^ ((num.log2 : ℤ) - den.log2 - 1) * 2 ^ ((den.log2 : ℤ) + 1) := by gcongr
      _ = 2 ^ (num.log2 : ℤ) := by
        rw [← zpow_add₀ two_ne_zero]
        congr 1
        omega
      _ ≤ num := hnumle
  · rw [div_lt_iff₀ hpos]
    calc (num : ℚ) < 2 ^ ((num.log2 : ℤ) + 1) := hnumlt
      _ = 2 ^ ((num.log2 : ℤ) - den.log2 + 1) * 2 ^ (den.log2 : ℤ) := by
        rw [← zpow_add₀ two_ne_zero]
        congr 1
        omega
      _ ≤ 2 ^ ((num.log2 : ℤ) - den.log2 + 1) * den := by gcongr

/-- **The last bit of a quotient is found.** -/
theorem lastBit_spec (hnum : num ≠ 0) (hden : 0 < den) :
    f.LastBit ((num : ℚ) / den) (f.lastBit num den) := by
  obtain ⟨hlow, hhigh⟩ := div_bounds_log2 hnum hden.ne'
  unfold lastBit
  extract_lets guess s
  have hguess : guess = max ((num.log2 : ℤ) - den.log2 - f.precision) f.minExponent := rfl
  -- The guess is right unless the quotient fills one bit more.
  have htest : s.1 / s.2 < Nat.pow 2 f.precision ↔
      (num : ℚ) / den < 2 ^ (f.precision + guess) := by
    rw [div_lt_iff_cast (scale_den_pos num hden guess), natCast_pow_two, scale_div,
      div_lt_iff₀ (by positivity), ← zpow_add₀ two_ne_zero]
  split
  · rename_i hsmall
    refine ⟨by omega, htest.1 hsmall, fun hne => ?_⟩
    refine le_trans ?_ hlow
    exact zpow_le_zpow_right₀ one_le_two (by omega)
  · rename_i hlarge
    refine ⟨by omega, hhigh.trans_le ?_, fun _ => ?_⟩
    · exact zpow_le_zpow_right₀ one_le_two (by omega)
    · rw [htest, not_lt] at hlarge
      refine le_trans ?_ hlarge
      exact zpow_le_zpow_right₀ one_le_two (by omega)

/-! ## The nearest rank -/

theorem nearestRank_of_ne_zero (hnum : num ≠ 0) :
    f.nearestRank num den = (f.lastBit num den - f.minExponent).toNat * f.row
      + roundHalfEven (scale num den (f.lastBit num den)).1
        (scale num den (f.lastBit num den)).2 :=
  if_neg hnum

/-- **The nearest rank depends on the value of a quotient alone.** -/
theorem nearestRank_congr (hden : 0 < den) (hden' : 0 < den')
    (h : (num : ℚ) / den = (num' : ℚ) / den') :
    f.nearestRank num den = f.nearestRank num' den' := by
  have hprod := mul_eq_mul_of_div_eq hden hden' h
  rcases Nat.eq_zero_or_pos num with rfl | hnum
  · have hnum' : num' = 0 := by simpa [hden.ne'] using hprod.symm
    rw [hnum']
    rfl
  · have hnum' : num' ≠ 0 := by
      rintro rfl
      have := Nat.mul_pos hnum hden'
      omega
    have hbit : f.lastBit num den = f.lastBit num' den' :=
      (lastBit_spec hnum.ne' hden).unique (h ▸ lastBit_spec hnum' hden')
    rw [nearestRank_of_ne_zero hnum.ne', nearestRank_of_ne_zero hnum', hbit]
    congr 1
    refine roundHalfEven_congr (scale_den_pos _ hden _) (scale_den_pos _ hden' _) ?_
    rw [scale_div, scale_div, h]

theorem quotient_den_pos (rank : Nat) : 0 < (f.quotient rank).2 := by
  unfold quotient
  dsimp only
  split
  · exact Nat.one_pos
  · exact Nat.pow_pos (by decide)

/-- The number at a rank is its significand in units of its last bit. -/
theorem quotient_div (rank : Nat) :
    ((f.quotient rank).1 : ℚ) / (f.quotient rank).2
      = f.significand rank * 2 ^ f.exponent rank := by
  unfold quotient
  dsimp only
  split
  · rename_i he
    rw [Nat.cast_mul, natCast_pow_two, Int.toNat_of_nonneg he, Nat.cast_one, div_one]
  · rename_i he
    rw [natCast_pow_two, Int.toNat_of_nonneg (by omega), zpow_neg, div_inv_eq_mul]

theorem row_pos (f : BinaryFormat) : 0 < f.row := Nat.pow_pos (by decide)

theorem row_mul_two (hp : 0 < f.precision) : f.row * 2 = Nat.pow 2 f.precision := by
  obtain ⟨p, hp⟩ := Nat.exists_eq_succ_of_ne_zero hp.ne'
  rw [row, hp, Nat.succ_sub_one]
  rfl

theorem significand_pos {rank : Nat} (h : rank ≠ 0) : 0 < f.significand rank := by
  have hrow := f.row_pos
  unfold significand
  split <;> omega

/-- The last bit of the number at a rank is the one that it is listed
with. -/
theorem lastBit_quotient (hp : 0 < f.precision) (rank : Nat) :
    f.LastBit (f.significand rank * 2 ^ f.exponent rank) (f.exponent rank) := by
  have hdouble := row_mul_two hp
  have hrow : ((f.row : Nat) : ℚ) = 2 ^ ((f.precision : ℤ) - 1) := by
    rw [row, natCast_pow_two]
    congr 1
    omega
  have hmod := Nat.mod_lt rank f.row_pos
  have hlt : f.significand rank < Nat.pow 2 f.precision := by
    unfold significand
    split <;> omega
  constructor
  · unfold exponent
    split <;> omega
  · rw [zpow_add₀ two_ne_zero, ← natCast_pow_two]
    have hlt' : (f.significand rank : ℚ) < (Nat.pow 2 f.precision : Nat) := by exact_mod_cast hlt
    gcongr
  · intro hne
    have hsig : f.row ≤ f.significand rank := by
      unfold exponent at hne
      unfold significand
      split at hne
      · exact absurd rfl hne
      · rename_i hrank
        rw [if_neg hrank]
        omega
    rw [zpow_add₀ two_ne_zero, ← hrow]
    have hsig' : (f.row : ℚ) ≤ f.significand rank := by exact_mod_cast hsig
    gcongr

/-- **The rank nearest to the number at a rank is that rank.** -/
theorem nearestRank_quotient (hp : 0 < f.precision) (rank : Nat) :
    f.nearestRank (f.quotient rank).1 (f.quotient rank).2 = rank := by
  have hden := f.quotient_den_pos rank
  have hdiv := f.quotient_div rank
  rcases Nat.eq_zero_or_pos rank with rfl | hrank
  · have hzero : (f.quotient 0).1 = 0 := by simp [quotient, significand, f.row_pos]; split <;> rfl
    rw [nearestRank, if_pos hzero]
  have hvalue : (0 : ℚ) < f.significand rank * 2 ^ f.exponent rank := by
    have := significand_pos (f := f) hrank.ne'
    positivity
  have hnum : (f.quotient rank).1 ≠ 0 := by
    intro hzero
    rw [hzero, Nat.cast_zero, zero_div] at hdiv
    exact hvalue.ne hdiv
  have hbit : f.lastBit (f.quotient rank).1 (f.quotient rank).2 = f.exponent rank :=
    (hdiv ▸ lastBit_spec hnum hden).unique (lastBit_quotient hp rank)
  have hround : roundHalfEven (scale (f.quotient rank).1 (f.quotient rank).2 (f.exponent rank)).1
      (scale (f.quotient rank).1 (f.quotient rank).2 (f.exponent rank)).2 = f.significand rank := by
    refine roundHalfEven_of_eq (scale_den_pos _ hden _) ?_
    rw [scale_div, hdiv, mul_div_cancel_right₀ _ (by positivity)]
  rw [nearestRank_of_ne_zero hnum, hbit, hround]
  unfold exponent significand
  split
  · simp
  · rename_i hrow
    have hge : 1 ≤ rank / f.row := (Nat.one_le_div_iff f.row_pos).2 (by omega)
    have hrows : (rank / f.row - 1) * f.row + f.row = rank / f.row * f.row := by
      rw [← Nat.succ_mul]
      congr 1
      omega
    have := Nat.div_add_mod' rank f.row
    rw [add_sub_cancel_left, Int.toNat_natCast]
    omega

/-! ## How large the quotients of a rank are -/

/-- A quotient with a rank of its own is not far below the smallest
number. -/
theorem le_of_nearestRank_ne_zero (hden : 0 < den) (h : f.nearestRank num den ≠ 0) :
    (2 : ℚ) ^ (f.minExponent - 2) ≤ (num : ℚ) / den := by
  by_contra hlt
  rw [not_le] at hlt
  have hnum : num ≠ 0 := fun hzero => h (if_pos hzero)
  have hbit : f.lastBit num den = f.minExponent := by
    refine (lastBit_spec hnum hden).unique ⟨le_refl _, hlt.trans ?_, fun hne => absurd rfl hne⟩
    rw [zpow_lt_zpow_iff_right₀ one_lt_two]
    omega
  have hscaled : (num : ℚ) / den / 2 ^ f.minExponent < 1 / 4 := by
    rw [div_lt_iff₀ (by positivity)]
    refine hlt.trans_eq ?_
    rw [zpow_sub₀ two_ne_zero]
    ring
  have hround := (roundHalfEven_scale_bounds num hden f.minExponent).1
  have hlt' : (roundHalfEven (scale num den f.minExponent).1 (scale num den f.minExponent).2 : ℚ)
      < (1 : Nat) := by
    rw [Nat.cast_one]
    linarith
  have hzero : roundHalfEven (scale num den f.minExponent).1 (scale num den f.minExponent).2 = 0 :=
    by have := Nat.cast_lt.1 hlt'; omega
  rw [nearestRank_of_ne_zero hnum, hbit, hzero] at h
  simp at h

/-- Past the smallest exponent the significand is full. -/
theorem row_le_roundHalfEven_scale (hp : 0 < f.precision) (hnum : num ≠ 0) (hden : 0 < den)
    (hne : f.lastBit num den ≠ f.minExponent) :
    f.row ≤ roundHalfEven (scale num den (f.lastBit num den)).1
      (scale num den (f.lastBit num den)).2 := by
  have hspec := lastBit_spec (f := f) hnum hden
  have hround := (roundHalfEven_scale_bounds num hden (f.lastBit num den)).2
  have hscaled : (f.row : ℚ) ≤ (num : ℚ) / den / 2 ^ f.lastBit num den := by
    rw [le_div_iff₀ (by positivity), row, natCast_pow_two, ← zpow_add₀ two_ne_zero]
    refine le_trans (zpow_le_zpow_right₀ one_le_two ?_) (hspec.le_of_ne hne)
    omega
  have hlt : ((f.row : Nat) : ℚ) < (roundHalfEven (scale num den (f.lastBit num den)).1
      (scale num den (f.lastBit num den)).2 + 1 : Nat) := by
    push_cast
    linarith
  exact Nat.lt_succ_iff.1 (Nat.cast_lt.1 hlt)

/-- A quotient whose rank lies in the first rows lies below the end of
these rows. -/
theorem lt_of_nearestRank_lt (hp : 0 < f.precision) (hden : 0 < den) {rows : Nat}
    (h : f.nearestRank num den < (rows + 1) * f.row) :
    (num : ℚ) / den < 2 ^ (f.precision + (f.minExponent + rows)) := by
  rcases Nat.eq_zero_or_pos num with rfl | hnum
  · rw [Nat.cast_zero, zero_div]
    positivity
  have hspec := lastBit_spec (f := f) hnum.ne' hden
  refine hspec.lt.trans_le (zpow_le_zpow_right₀ one_le_two ?_)
  by_contra hlarge
  have hmin := hspec.minExponent_le
  -- A full significand is one more row.
  have hfull := row_le_roundHalfEven_scale hp hnum.ne' hden (by omega)
  rw [nearestRank_of_ne_zero hnum.ne'] at h
  have hrows : rows * f.row ≤ (f.lastBit num den - f.minExponent).toNat * f.row :=
    Nat.mul_le_mul_right _ (by omega)
  rw [Nat.succ_mul] at h
  omega

/-! ## Numbers of few bits -/

/-- The number at a place of a row of the list. -/
theorem quotient_place {row place : Nat} (hplace : place < f.row * 2)
    (hfull : row ≠ 0 → f.row ≤ place) :
    ((f.quotient (row * f.row + place)).1 : ℚ) / (f.quotient (row * f.row + place)).2 =
      place * 2 ^ (f.minExponent + row) := by
  have hpos := f.row_pos
  rcases Nat.lt_or_ge place f.row with hlt | hge
  · obtain rfl : row = 0 := by
      by_contra hrow
      exact absurd (hfull hrow) (by omega)
    rw [quotient_div, Nat.zero_mul, Nat.zero_add, significand, exponent, if_pos hlt, if_pos hlt,
      Nat.cast_zero, add_zero]
  · obtain ⟨rest, rfl⟩ := Nat.exists_eq_add_of_le hge
    have hrank : row * f.row + (f.row + rest) = f.row * (row + 1) + rest := by ring
    have hlt : rest < f.row := by omega
    have hmod : (f.row * (row + 1) + rest) % f.row = rest := by
      rw [Nat.mul_add_mod, Nat.mod_eq_of_lt hlt]
    have hdiv : (f.row * (row + 1) + rest) / f.row = row + 1 := by
      rw [Nat.mul_add_div hpos, Nat.div_eq_of_lt hlt, Nat.add_zero]
    have hnot : ¬ f.row * (row + 1) + rest < f.row := by nlinarith
    rw [quotient_div, hrank, significand, exponent, if_neg hnot, if_neg hnot, hmod, hdiv,
      Nat.add_sub_cancel]

/-- **A number of few bits is rounded to itself.** -/
theorem quotient_nearestRank (hp : 0 < f.precision) (hden : 0 < den) {n : Nat}
    (hn : n < Nat.pow 2 f.precision) (he : f.minExponent ≤ e) (h : (num : ℚ) / den = n * 2 ^ e) :
    ((f.quotient (f.nearestRank num den)).1 : ℚ) / (f.quotient (f.nearestRank num den)).2 =
      n * 2 ^ e := by
  rcases Nat.eq_zero_or_pos num with rfl | hnum
  · rw [nearestRank, if_pos rfl, ← h, quotient_div, significand, if_pos f.row_pos]
    simp
  have hspec := lastBit_spec (f := f) hnum.ne' hden
  generalize hbit : f.lastBit num den = b at hspec
  have hmin := hspec.minExponent_le
  have hb : b ≤ e := by
    by_contra hlt
    rw [not_le] at hlt
    have hlow := hspec.le_of_ne (by omega)
    have hhigh : (num : ℚ) / den < 2 ^ (f.precision + e) := by
      rw [h, zpow_add₀ two_ne_zero, ← natCast_pow_two]
      gcongr
    have := (zpow_lt_zpow_iff_right₀ one_lt_two).1 (hlow.trans_lt hhigh)
    omega
  obtain ⟨k, rfl⟩ := Int.le.dest hb
  have hplaces : (num : ℚ) / den / 2 ^ b = (n * 2 ^ k : Nat) := by
    rw [h, zpow_add₀ two_ne_zero, zpow_natCast]
    push_cast
    field_simp
  have hround : roundHalfEven (scale num den b).1 (scale num den b).2 = n * 2 ^ k :=
    roundHalfEven_of_eq (scale_den_pos _ hden _) ((scale_div b).trans hplaces)
  have hvalue : ((n * 2 ^ k : Nat) : ℚ) * 2 ^ b = n * 2 ^ (b + k) := by
    rw [← hplaces, ← h]
    field_simp
  rw [nearestRank_of_ne_zero hnum.ne', hbit, hround, quotient_place, ← hvalue]
  · congr 2
    omega
  · have hlt := hspec.lt
    rw [h, ← hvalue, zpow_add₀ two_ne_zero, ← natCast_pow_two, ← row_mul_two hp] at hlt
    exact_mod_cast lt_of_mul_lt_mul_right hlt (by positivity)
  · intro hrow
    rw [← hround, ← hbit]
    exact row_le_roundHalfEven_scale hp hnum.ne' hden (by omega)

end BinaryFormat

end PlotPipe
