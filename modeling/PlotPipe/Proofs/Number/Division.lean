import PlotPipe.Proofs.Number.Order

/-!
# Numbers — doubles divided

A double is divided by rounding the quotient. An integer taken for a
double and then divided is rounded twice: once only where it is a double
itself (`divNat_of_exact`), as those of few bits are
(`value_nearest_of_bits`). From one on the quotient is less than what is
divided, so that no integer but zero is the quotient of itself
(`ofInt?_eq_divNat_iff`).
-/

namespace PlotPipe

namespace BinaryFormat

variable {f : BinaryFormat} {rank : ℕ}

/-- One row before a rank past the first two rows is the half of its
number. -/
theorem quotient_sub_row (h : 2 * f.row ≤ rank) :
    ((f.quotient (rank - f.row)).1 : ℚ) / (f.quotient (rank - f.row)).2 =
      ((f.quotient rank).1 : ℚ) / (f.quotient rank).2 / 2 := by
  have hrow := f.row_pos
  have hmod : rank % f.row = (rank - f.row) % f.row := Nat.mod_eq_sub_mod (by omega)
  have hdiv : rank / f.row = (rank - f.row) / f.row + 1 := Nat.div_eq_sub_div hrow (by omega)
  have hpos : 1 ≤ (rank - f.row) / f.row := Nat.div_pos (by omega) hrow
  have hsignificand : f.significand (rank - f.row) = f.significand rank := by
    rw [significand, significand, if_neg (by omega), if_neg (by omega), hmod]
  have hexponent : f.exponent (rank - f.row) = f.exponent rank - 1 := by
    rw [exponent, exponent, if_neg (by omega), if_neg (by omega), hdiv]
    omega
  rw [quotient_div, quotient_div, hsignificand, hexponent, zpow_sub_one₀ two_ne_zero]
  ring

end BinaryFormat

namespace Magnitude

variable {m m' : Magnitude} {num den num' den' n e k : ℕ}

/-- The nearest magnitude depends on the value of a quotient alone. -/
theorem nearest_congr (hden : 0 < den) (hden' : 0 < den')
    (h : (num : ℚ) / den = (num' : ℚ) / den') : nearest num den = nearest num' den' := by
  rw [nearest, nearest, BinaryFormat.nearestRank_congr hden hden' h]

theorem nearest_zero (den : ℕ) : nearest 0 den = zero := rfl

theorem rank_nearest_mono (h : num ≤ num') : (nearest num 1).rank ≤ (nearest num' 1).rank := by
  rw [← value_le_value_iff]
  exact value_nearest_mono Nat.one_pos Nat.one_pos (by gcongr)

/-- What is at most 64 bits wide is far below infinity. -/
theorem isFinite_nearest_of_le (h : num ≤ 18446744073709551616) :
    (nearest num 1).isFinite = true :=
  decide_eq_true ((rank_nearest_mono h).trans_lt (by decide))

/-- A natural number of few bits is a double. -/
theorem value_nearest_of_bits (hn : n < Nat.pow 2 53)
    (hfinite : (nearest (n * 2 ^ e) 1).isFinite = true) :
    (nearest (n * 2 ^ e) 1).value = (n * 2 ^ e : ℕ) := by
  have hrank : (nearest (n * 2 ^ e) 1).rank = BinaryFormat.binary64.nearestRank (n * 2 ^ e) 1 :=
    min_eq_left (isFinite_nearest_iff.1 hfinite).le
  have hmin : BinaryFormat.binary64.minExponent ≤ e :=
    (by decide : BinaryFormat.binary64.minExponent ≤ 0).trans (Int.natCast_nonneg e)
  have hvalue : ((n * 2 ^ e : ℕ) : ℚ) = n * 2 ^ (e : ℤ) := by
    rw [zpow_natCast]
    push_cast
    rfl
  rw [value, quotient, hrank, hvalue]
  exact BinaryFormat.quotient_nearestRank (by decide) Nat.one_pos hn hmin
    (by rw [Nat.cast_one, div_one, hvalue])

/-! ## Quotients -/

theorem quotient_den_pos (m : Magnitude) : 0 < m.quotient.2 := BinaryFormat.quotient_den_pos _

theorem quotient_mul_div (m : Magnitude) (k : ℕ) :
    (m.quotient.1 : ℚ) / (m.quotient.2 * k : ℕ) = m.value / k := by
  rw [value, div_div, Nat.cast_mul]

/-- Dividing is monotone. -/
theorem value_nearest_quotient_mul_mono (hk : 0 < k) (h : m.value ≤ m'.value) :
    (nearest m.quotient.1 (m.quotient.2 * k)).value ≤
      (nearest m'.quotient.1 (m'.quotient.2 * k)).value := by
  refine value_nearest_mono (Nat.mul_pos m.quotient_den_pos hk)
    (Nat.mul_pos m'.quotient_den_pos hk) ?_
  rw [quotient_mul_div, quotient_mul_div]
  gcongr

/-- A magnitude from one on becomes less when it is divided. -/
theorem nearest_quotient_mul_lt (hone : (nearest 1 1).rank ≤ m.rank) (hk : 2 ≤ k) :
    (nearest m.quotient.1 (m.quotient.2 * k)).value < m.value := by
  have hrow : 2 * BinaryFormat.binary64.row ≤ m.rank :=
    le_trans (by decide : 2 * BinaryFormat.binary64.row ≤ (nearest 1 1).rank) hone
  let half : Magnitude := ⟨m.rank - BinaryFormat.binary64.row, (Nat.sub_le _ _).trans m.rank_le⟩
  have hhalf : half.value = m.value / 2 := BinaryFormat.quotient_sub_row hrow
  have hpos : 0 < m.value := by
    rw [← value_zero, value_lt_value_iff]
    exact (Nat.mul_pos two_pos BinaryFormat.binary64.row_pos).trans_le hrow
  calc (nearest m.quotient.1 (m.quotient.2 * k)).value
      ≤ (nearest half.quotient.1 half.quotient.2).value := by
        refine value_nearest_mono (Nat.mul_pos m.quotient_den_pos (by omega))
          half.quotient_den_pos ?_
        change _ ≤ half.value
        rw [hhalf, quotient_mul_div]
        exact div_le_div_of_nonneg_left m.value_nonneg two_pos (by exact_mod_cast hk)
    _ = m.value / 2 := by rw [nearest_quotient, hhalf]
    _ < m.value := by linarith

end Magnitude

namespace Binary64

open Magnitude

variable {i j : ℤ} {c k : ℕ}

/-- A common factor does not matter. -/
theorem ofIntQuotient_mul (hc : 0 < c) (hk : 0 < k) :
    ofIntQuotient (i * c) (k * c) = ofIntQuotient i k := by
  have hc' : (0 : ℤ) < c := by exact_mod_cast hc
  have hsign : i * c < 0 ↔ i < 0 := by
    rw [← not_le, ← not_le, mul_nonneg_iff_of_pos_right hc']
  have hvalue : ((i * c).natAbs : ℚ) / (k * c : ℕ) = (i.natAbs : ℚ) / k := by
    rw [Int.natAbs_mul, Int.natAbs_natCast]
    push_cast
    field_simp
  rw [ofIntQuotient, ofIntQuotient, ofQuotient, ofQuotient, decide_eq_decide.2 hsign,
    nearest_congr (Nat.mul_pos hk hc) hk hvalue]

/-- The magnitude of an integer that is a double. -/
theorem value_nearest_natAbs (h : (ofIntQuotient i 1).value = i) :
    (nearest i.natAbs 1).value = i.natAbs := by
  rw [Nat.cast_natAbs]
  rw [ofIntQuotient, ofQuotient, Binary64.value] at h
  by_cases hi : i < 0
  · rw [decide_eq_true hi, if_pos rfl] at h
    rw [abs_of_neg hi, Int.cast_neg, ← h, neg_neg]
  · rw [decide_eq_false hi, if_neg Bool.false_ne_true] at h
    rw [abs_of_nonneg (not_lt.1 hi), h]

theorem divNat_ofIntQuotient (hfinite : (nearest i.natAbs 1).isFinite = true) :
    (ofIntQuotient i 1).divNat k = ofQuotient (i < 0) (nearest i.natAbs 1).quotient.1
      ((nearest i.natAbs 1).quotient.2 * k) :=
  if_pos hfinite

/-- **An integer that is a double is rounded once** when it is divided. -/
theorem divNat_of_exact (hk : 0 < k) (hfinite : (nearest i.natAbs 1).isFinite = true)
    (hexact : (nearest i.natAbs 1).value = i.natAbs) :
    (ofIntQuotient i 1).divNat k = ofIntQuotient i k := by
  have hvalue : ((nearest i.natAbs 1).quotient.1 : ℚ) / ((nearest i.natAbs 1).quotient.2 * k : ℕ) =
      (i.natAbs : ℚ) / k := by
    rw [quotient_mul_div, hexact]
  rw [divNat_ofIntQuotient hfinite, ofQuotient, ofIntQuotient, ofQuotient,
    nearest_congr (Nat.mul_pos (quotient_den_pos _) hk) hk hvalue]

theorem divNat_zero (negative : Bool) (k : ℕ) :
    (signed negative .zero).divNat k = signed negative .zero := by
  have hquotient : Magnitude.zero.quotient.1 = 0 := by decide
  rw [divNat, if_pos (by decide), ofQuotient, hquotient, nearest_zero]

/-- **No integer but zero is the quotient of itself**, nor of a lesser
one, as a double. -/
theorem ofInt?_eq_divNat_iff (hij : j.natAbs ≤ i.natAbs) (hk : 2 ≤ k) :
    ofInt? i = some ((ofIntQuotient j 1).divNat k) ↔ i = 0 := by
  constructor
  · intro h
    by_contra hi
    obtain ⟨heq, hfinite⟩ := ofInt?_eq_some_iff.1 h
    have hle : (nearest j.natAbs 1).rank ≤ (nearest i.natAbs 1).rank := rank_nearest_mono hij
    have hone : (nearest 1 1).rank ≤ (nearest i.natAbs 1).rank := rank_nearest_mono (by omega)
    have hj : (nearest j.natAbs 1).isFinite = true := by
      have hi : (nearest i.natAbs 1).isFinite = true := by
        rw [heq] at hfinite
        exact hfinite
      exact decide_eq_true (hle.trans_lt (of_decide_eq_true hi))
    rw [divNat_ofIntQuotient hj, ofQuotient, ofQuotient, signed.injEq] at heq
    by_cases hzero : j = 0
    · subst hzero
      have hquotient : (nearest (0 : ℤ).natAbs 1).quotient.1 = 0 := by decide
      rw [hquotient, nearest_zero] at heq
      rw [← heq.2] at hone
      exact absurd hone (by decide)
    · have hone : (nearest 1 1).rank ≤ (nearest j.natAbs 1).rank := rank_nearest_mono (by omega)
      have hlt := nearest_quotient_mul_lt hone hk
      rw [heq.2, value_lt_value_iff] at hlt
      omega
  · rintro rfl
    obtain rfl : j = 0 := by omega
    rw [show ofIntQuotient 0 1 = signed false .zero by decide, divNat_zero]
    decide

end Binary64

end PlotPipe
