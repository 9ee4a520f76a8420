import Mathlib.Order.Compare
import PlotPipe.Number.Exact
import PlotPipe.Proofs.Number.Digits
import PlotPipe.Proofs.Number.Rounding
/-!
# Numbers — rounding keeps the order

Numbers are compared by value before they are rounded, and what is
written of them is rounded. Rounding is monotone (`nearestRank_mono`), so
it never turns two numbers around; but it can make them one. Exact
decimals are compared by value (`Exact.order?_finite`), although their
digits are only lined up where the leading ones have the same place.
-/

namespace PlotPipe

namespace BinaryFormat

variable {f : BinaryFormat} {num den num' den' : ℕ}

/-- Rounding to a natural number is monotone. -/
theorem roundHalfEven_mono (hden : 0 < den) (hden' : 0 < den')
    (h : (num : ℚ) / den ≤ (num' : ℚ) / den') :
    roundHalfEven num den ≤ roundHalfEven num' den' := by
  by_contra hlt
  rw [not_le] at hlt
  have hlow : (roundHalfEven num den : ℚ) ≤ num / den + 1 / 2 := (roundHalfEven_bounds hden).1
  have hhigh : (num' : ℚ) / den' ≤ roundHalfEven num' den' + 1 / 2 := (roundHalfEven_bounds hden').2
  have hstep : (roundHalfEven num' den' : ℚ) + 1 ≤ roundHalfEven num den := by exact_mod_cast hlt
  -- Both are a half away from what they round to, so they are equal, and so are the results.
  have heq : (num : ℚ) / den = (num' : ℚ) / den' := by linarith
  rw [roundHalfEven_congr hden hden' heq] at hlt
  exact lt_irrefl _ hlt

/-- In units of its last bit a quotient is rounded to a significand, or to
the first one of the next row. -/
theorem roundHalfEven_scale_le (hp : 0 < f.precision) (hnum : num ≠ 0) (hden : 0 < den) :
    roundHalfEven (scale num den (f.lastBit num den)).1 (scale num den (f.lastBit num den)).2 ≤
      f.row * 2 := by
  have hspec := lastBit_spec (f := f) hnum hden
  have hround := (roundHalfEven_scale_bounds num hden (f.lastBit num den)).1
  have hscaled : (num : ℚ) / den / 2 ^ f.lastBit num den < (f.row * 2 : ℕ) := by
    rw [row_mul_two hp, natCast_pow_two, div_lt_iff₀ (by positivity), ← zpow_add₀ two_ne_zero]
    exact hspec.lt
  have hlt : (roundHalfEven (scale num den (f.lastBit num den)).1
      (scale num den (f.lastBit num den)).2 : ℚ) < (f.row * 2 + 1 : ℕ) := by
    push_cast at hscaled ⊢
    linarith
  exact Nat.lt_succ_iff.1 (Nat.cast_lt.1 hlt)

/-- **The nearest rank is monotone.** -/
theorem nearestRank_mono (hp : 0 < f.precision) (hden : 0 < den) (hden' : 0 < den')
    (h : (num : ℚ) / den ≤ (num' : ℚ) / den') :
    f.nearestRank num den ≤ f.nearestRank num' den' := by
  rcases Nat.eq_zero_or_pos num with rfl | hnum
  · rw [nearestRank, if_pos rfl]
    exact Nat.zero_le _
  have hnum' : num' ≠ 0 := by
    rintro rfl
    have hpos : (0 : ℚ) < (num : ℚ) / den := by positivity
    rw [Nat.cast_zero, zero_div] at h
    exact absurd h (not_le.2 hpos)
  have hspec := lastBit_spec (f := f) hnum.ne' hden
  have hspec' := lastBit_spec (f := f) hnum' hden'
  have hle := hspec.mono hspec' h
  have hmin := hspec.minExponent_le
  rw [nearestRank_of_ne_zero hnum.ne', nearestRank_of_ne_zero hnum']
  rcases eq_or_lt_of_le hle with heq | hlt
  · -- In one row the significands are rounded in the same unit.
    rw [heq]
    refine Nat.add_le_add_left (roundHalfEven_mono (scale_den_pos _ hden _)
      (scale_den_pos _ hden' _) ?_) _
    rw [scale_div, scale_div]
    gcongr
  · -- Otherwise the first one ends where the row of the second one begins, at the latest.
    have hfirst := roundHalfEven_scale_le hp hnum.ne' hden
    have hsecond := row_le_roundHalfEven_scale hp hnum' hden' (by omega)
    have hrows : ((f.lastBit num den - f.minExponent).toNat + 1) * f.row ≤
        (f.lastBit num' den' - f.minExponent).toNat * f.row :=
      Nat.mul_le_mul_right _ (by omega)
    rw [Nat.succ_mul] at hrows
    omega

/-- **The numbers at ranks are in the order of the ranks.** -/
theorem quotient_lt_quotient (hp : 0 < f.precision) {rank rank' : ℕ} (h : rank < rank') :
    ((f.quotient rank).1 : ℚ) / (f.quotient rank).2 <
      ((f.quotient rank').1 : ℚ) / (f.quotient rank').2 := by
  by_contra hle
  rw [not_lt] at hle
  have hmono := nearestRank_mono hp (f.quotient_den_pos rank') (f.quotient_den_pos rank) hle
  rw [nearestRank_quotient hp, nearestRank_quotient hp] at hmono
  omega

end BinaryFormat

/-! ## The values of doubles -/

namespace Magnitude

/-- The value of a finite magnitude. -/
def value (m : Magnitude) : ℚ := (m.quotient.1 : ℚ) / m.quotient.2

variable {m m' : Magnitude}

theorem value_lt_value_iff : m.value < m'.value ↔ m.rank < m'.rank := by
  have hlt : ∀ {a b : Magnitude}, a.rank < b.rank → a.value < b.value := fun h =>
    BinaryFormat.quotient_lt_quotient (by decide) h
  refine ⟨fun h => ?_, hlt⟩
  rcases Nat.lt_trichotomy m.rank m'.rank with hrank | hrank | hrank
  · exact hrank
  · have heq : m.value = m'.value := by rw [value, value, quotient, quotient, hrank]
    exact absurd h (by rw [heq]; exact lt_irrefl _)
  · exact absurd h (lt_asymm (hlt hrank))

theorem value_le_value_iff : m.value ≤ m'.value ↔ m.rank ≤ m'.rank := by
  rw [← not_lt, value_lt_value_iff, not_lt]

theorem value_nonneg (m : Magnitude) : 0 ≤ m.value := by
  unfold value
  positivity

theorem value_zero : zero.value = 0 := by
  have hquotient : zero.quotient.1 = 0 := by decide
  rw [value, hquotient, Nat.cast_zero, zero_div]

/-- **The nearest magnitude is monotone.** -/
theorem value_nearest_mono {num den num' den' : ℕ} (hden : 0 < den) (hden' : 0 < den')
    (h : (num : ℚ) / den ≤ (num' : ℚ) / den') :
    (nearest num den).value ≤ (nearest num' den').value := by
  rw [value_le_value_iff]
  exact min_le_min_right _ (BinaryFormat.nearestRank_mono (by decide) hden hden' h)

theorem isFinite_nearest_iff {num den : ℕ} : (nearest num den).isFinite ↔
    BinaryFormat.binary64.nearestRank num den < BinaryFormat.binary64.infinityRank := by
  simp [isFinite, nearest, ofRank]

/-- A magnitude is the nearest one to itself. -/
theorem nearest_quotient (m : Magnitude) : nearest m.quotient.1 m.quotient.2 = m := by
  obtain ⟨rank, hle⟩ := m
  rw [nearest, quotient, BinaryFormat.nearestRank_quotient (by decide), ofRank, Magnitude.mk.injEq]
  exact min_eq_left hle

end Magnitude

namespace Binary64

/-- The value of a finite double. -/
def value : Binary64 → ℚ
  | nan => 0
  | signed negative m => if negative then -m.value else m.value

/-- A double is what a value is rounded to. -/
def Rounds (v : ℚ) (x : Binary64) : Prop :=
  ∃ (negative : Bool) (num den : ℕ), 0 < den ∧
    v = (if negative then -((num : ℚ) / den) else (num : ℚ) / den) ∧ x = ofQuotient negative num den

variable {v w : ℚ} {x y : Binary64}

/-- **Rounding does not turn two values around.** -/
theorem Rounds.mono (hx : Rounds v x) (hy : Rounds w y) (h : v ≤ w) : x.value ≤ y.value := by
  obtain ⟨m, num, den, hden, rfl, rfl⟩ := hx
  obtain ⟨n, num', den', hden', rfl, rfl⟩ := hy
  have hnonneg := (Magnitude.nearest num den).value_nonneg
  have hnonneg' := (Magnitude.nearest num' den').value_nonneg
  have hnum : (0 : ℚ) ≤ (num : ℚ) / den := by positivity
  have hnum' : (0 : ℚ) ≤ (num' : ℚ) / den' := by positivity
  cases m <;> cases n <;> simp only [Bool.false_eq_true, if_false, if_true] at h <;>
    simp only [ofQuotient, value, Bool.false_eq_true, if_false, if_true]
  · exact Magnitude.value_nearest_mono hden hden' h
  · -- A value that is not below zero but below one that is not above it is zero, as the other.
    have hzero : ∀ {num den : ℕ}, 0 < den → (num : ℚ) / den = 0 →
        (Magnitude.nearest num den).value = 0 := by
      intro num den hden hzero
      have hnum : num = 0 := by simpa [hden.ne'] using hzero
      rw [hnum]
      exact Magnitude.value_zero
    rw [hzero hden (by linarith), hzero hden' (by linarith), neg_zero]
  · linarith
  · have hmono := Magnitude.value_nearest_mono hden' hden (neg_le_neg_iff.1 h)
    linarith

/-- A double is rounded to itself. -/
theorem rounds_value (negative : Bool) (m : Magnitude) :
    Rounds (signed negative m).value (signed negative m) := by
  refine ⟨negative, m.quotient.1, m.quotient.2, BinaryFormat.quotient_den_pos _, rfl, ?_⟩
  rw [ofQuotient, Magnitude.nearest_quotient]

/-- What stands for an integer is the nearest double, if it is finite. -/
theorem ofInt?_eq_some_iff {i : ℤ} :
    ofInt? i = some x ↔ x = ofQuotient (i < 0) i.natAbs 1 ∧ x.isFinite := by
  unfold ofInt?
  dsimp only
  split
  · rename_i hfinite
    rw [Option.some.injEq]
    exact ⟨fun h => h ▸ ⟨rfl, hfinite⟩, fun h => h.1.symm⟩
  · rename_i hfinite
    exact ⟨nofun, fun h => absurd (h.1 ▸ h.2) hfinite⟩

/-- A quotient of integers is rounded. -/
theorem rounds_ofIntQuotient (i : ℤ) {k : ℕ} (hk : 0 < k) :
    Rounds ((i : ℚ) / k) (ofIntQuotient i k) := by
  refine ⟨decide (i < 0), i.natAbs, k, hk, ?_, rfl⟩
  rw [Nat.cast_natAbs]
  by_cases hi : i < 0
  · simp [hi, abs_of_neg hi, neg_div]
  · simp [hi, abs_of_nonneg (not_lt.1 hi)]

/-- An integer is rounded to the double that stands for it. -/
theorem rounds_of_ofInt? {i : ℤ} (h : ofInt? i = some x) : Rounds i x := by
  have hrounds := rounds_ofIntQuotient i Nat.one_pos
  rw [Nat.cast_one, div_one] at hrounds
  rwa [(ofInt?_eq_some_iff.1 h).1]

/-- **A number is at most another one**, in the order of their signed
ranks. Not-a-number has no place in the order. -/
def AtMost (x y : Binary64) : Prop :=
  ∃ k k', x.key? = some k ∧ y.key? = some k' ∧ k ≤ k'

/-- Numbers are in the order of their values. -/
theorem atMost_signed_iff {a b : Bool} {m m' : Magnitude} :
    (signed a m).AtMost (signed b m') ↔ (signed a m).value ≤ (signed b m').value := by
  have hkeys : (signed a m).AtMost (signed b m') ↔
      (if a then -(m.rank : ℤ) else m.rank) ≤ (if b then -(m'.rank : ℤ) else m'.rank) := by
    simp [AtMost, key?]
  have hranks (n n' : Magnitude) : n.value ≤ n'.value ↔ n.rank ≤ n'.rank :=
    Magnitude.value_le_value_iff
  have hzero := hranks m .zero
  have hzero' := hranks m' .zero
  have hnonneg := m.value_nonneg
  have hnonneg' := m'.value_nonneg
  have hrank0 : Magnitude.zero.rank = 0 := rfl
  rw [Magnitude.value_zero, hrank0] at hzero hzero'
  rw [hkeys]
  cases a <;> cases b <;> simp only [value, Bool.false_eq_true, if_false, if_true]
  · rw [hranks, Int.ofNat_le]
  · -- A number above zero is at most one below zero only where both are zero.
    constructor
    · intro h
      have h1 := hzero.2 (by omega)
      have h2 := hzero'.2 (by omega)
      linarith
    · intro h
      have h1 := hzero.1 (by linarith)
      have h2 := hzero'.1 (by linarith)
      omega
  · exact iff_of_true (by omega) (by linarith)
  · rw [neg_le_neg_iff, neg_le_neg_iff, hranks, Int.ofNat_le]

/-- **Rounding does not turn two values around** in the order of the
numbers. -/
theorem Rounds.atMost (hx : Rounds v x) (hy : Rounds w y) (h : v ≤ w) : x.AtMost y := by
  have hvalue := hx.mono hy h
  obtain ⟨a, num, den, -, -, rfl⟩ := hx
  obtain ⟨b, num', den', -, -, rfl⟩ := hy
  exact atMost_signed_iff.2 hvalue

end Binary64

/-! ## Exact decimals -/

namespace Exact

/-- The value of a finite decimal. -/
def value : Exact → ℚ
  | finite negative digits exponent =>
    if negative then -((digits : ℚ) * 10 ^ exponent) else digits * 10 ^ exponent
  | _ => 0

/-- An integer has its own value as a decimal. -/
theorem value_ofInt (i : ℤ) : (ofInt i).value = i := by
  rw [ofInt, value, zpow_zero, mul_one, Nat.cast_natAbs]
  by_cases hi : i < 0
  · simp [hi, abs_of_neg hi]
  · simp [hi, abs_of_nonneg (not_lt.1 hi)]

/-- Digits lie between the powers of ten that their number gives. -/
theorem size_bounds {digits : ℕ} (h : digits ≠ 0) (e : ℤ) :
    (10 : ℚ) ^ (e + (decimalDigits digits).length - 1) ≤ digits * 10 ^ e ∧
      (digits : ℚ) * 10 ^ e < 10 ^ (e + (decimalDigits digits).length) := by
  obtain ⟨count, hcount⟩ := Nat.exists_eq_succ_of_ne_zero
    (fun hzero => decimalDigits_ne_nil digits (List.length_eq_zero_iff.1 hzero))
  have hlow : 10 ^ count ≤ digits := by
    by_contra hlt
    rw [not_le] at hlt
    rcases Nat.eq_zero_or_pos count with rfl | hpos
    · omega
    · have hle := length_decimalDigits_le hpos hlt
      omega
  have hhigh : digits < 10 ^ (count + 1) :=
    (Nat.length_toDigits_le_iff (by decide) (Nat.succ_pos count)).1 hcount.le
  have hlow' : ((10 : ℚ) ^ (count : ℤ)) ≤ digits := by
    rw [zpow_natCast]
    exact_mod_cast hlow
  have hhigh' : (digits : ℚ) < 10 ^ ((count : ℤ) + 1) := by
    rw [← Nat.cast_succ, zpow_natCast]
    exact_mod_cast hhigh
  rw [hcount]
  constructor
  · calc (10 : ℚ) ^ (e + (count + 1 : ℕ) - 1) = 10 ^ (count : ℤ) * 10 ^ e := by
          rw [← zpow_add₀ (by norm_num)]
          congr 1
          push_cast
          ring
      _ ≤ digits * 10 ^ e := by gcongr
  · calc (digits : ℚ) * 10 ^ e < 10 ^ ((count : ℤ) + 1) * 10 ^ e := by gcongr
      _ = 10 ^ (e + (count + 1 : ℕ)) := by
          rw [← zpow_add₀ (by norm_num)]
          congr 1
          push_cast
          ring

/-- Of two sizes the one with the higher leading digit is the larger
one. -/
theorem size_lt_size {a b : ℕ} {e f : ℤ} (ha : a ≠ 0) (hb : b ≠ 0)
    (h : e + (decimalDigits a).length < f + (decimalDigits b).length) :
    (a : ℚ) * 10 ^ e < b * 10 ^ f := by
  refine ((size_bounds ha e).2.trans_le ?_).trans_le (size_bounds hb f).1
  exact zpow_le_zpow_right₀ (by norm_num) (by omega)

theorem natCast_cmp (a b : ℕ) : cmp (a : ℚ) b = compare a b := by
  rw [Nat.strictMono_cast.cmp_map_eq, cmp_eq_compare]

/-- **Sizes are compared by value.** -/
theorem orderSizes_eq_cmp (a : ℕ) (e : ℤ) (b : ℕ) (f : ℤ) :
    orderSizes a e b f = cmp ((a : ℚ) * 10 ^ e) (b * 10 ^ f) := by
  have hten : ∀ i : ℤ, (0 : ℚ) < 10 ^ i := fun i => by positivity
  rw [orderSizes]
  dsimp only
  by_cases hzero : (a = 0 || b = 0) = true
  · rw [if_pos hzero]
    rcases Nat.eq_zero_or_pos a with rfl | ha
    · rw [← natCast_cmp, ← cmp_mul_pos_right (hten f), Nat.cast_zero, zero_mul, zero_mul]
    · obtain rfl : b = 0 := by simpa [ha.ne'] using hzero
      rw [← natCast_cmp, ← cmp_mul_pos_right (hten e), Nat.cast_zero, zero_mul, zero_mul]
  obtain ⟨ha, hb⟩ : a ≠ 0 ∧ b ≠ 0 := by simpa using hzero
  rw [if_neg hzero]
  by_cases hplace : e + ((decimalDigits a).length : ℤ) ≠ f + (decimalDigits b).length
  · rw [if_pos hplace]
    rcases lt_or_gt_of_ne hplace with hlt | hgt
    · rw [(cmp_eq_lt_iff _ _).2 (size_lt_size ha hb hlt), compare_lt_iff_lt]
      exact hlt
    · rw [(cmp_eq_gt_iff _ _).2 (size_lt_size hb ha hgt), compare_gt_iff_gt]
      exact hgt
  · rw [if_neg hplace]
    -- Both sizes are whole in units of the last place of either.
    have hunit : ∀ (n : ℕ) (i : ℤ), min e f ≤ i → (n : ℚ) * 10 ^ i =
        (n * Nat.pow 10 (i - min e f).toNat : ℕ) * 10 ^ min e f := by
      intro n i hi
      have hpow : ((Nat.pow 10 (i - min e f).toNat : ℕ) : ℚ) = 10 ^ (i - min e f) := by
        have hcast : ((Nat.pow 10 (i - min e f).toNat : ℕ) : ℚ) =
            10 ^ (((i - min e f).toNat : ℕ) : ℤ) := by
          rw [zpow_natCast]
          exact Nat.cast_pow 10 _
        rw [hcast, Int.toNat_of_nonneg (by omega)]
      rw [Nat.cast_mul, hpow, mul_assoc, ← zpow_add₀ (by norm_num), sub_add_cancel]
    rw [hunit a e (min_le_left e f), hunit b f (min_le_right e f), cmp_mul_pos_right (hten _),
      natCast_cmp]

/-- A decimal is below zero when it has a sign and is not zero. -/
theorem value_finite (negative : Bool) (digits : ℕ) (e : ℤ) :
    (finite negative digits e).value =
      if negative && digits ≠ 0 then -((digits : ℚ) * 10 ^ e) else digits * 10 ^ e := by
  rcases Nat.eq_zero_or_pos digits with rfl | hdigits
  · cases negative <;> simp [value]
  · cases negative <;> simp [value, hdigits.ne']

/-- **Finite decimals are compared by value.** -/
theorem order?_finite (m n : Bool) (a b : ℕ) (e f : ℤ) :
    (finite m a e).order? (finite n b f) =
      some (cmp (finite m a e).value (finite n b f).value) := by
  have hsize : ∀ (digits : ℕ) (i : ℤ), (0 : ℚ) ≤ digits * 10 ^ i := fun digits i => by positivity
  have hpos : ∀ {negative : Bool} {digits : ℕ} (i : ℤ), (negative && digits ≠ 0) = true →
      (0 : ℚ) < digits * 10 ^ i := by
    intro negative digits i h
    have hdigits : digits ≠ 0 := by simpa using (Bool.and_eq_true_iff.1 h).2
    positivity
  rw [value_finite, value_finite, order?, Option.some.injEq]
  rcases hm : m && a ≠ 0 with _ | _ <;> rcases hn : n && b ≠ 0 with _ | _
  · exact orderSizes_eq_cmp a e b f
  · have hlt : -((b : ℚ) * 10 ^ f) < a * 10 ^ e := by linarith [hsize a e, hpos f hn]
    exact ((cmp_eq_gt_iff _ _).2 hlt).symm
  · have hlt : -((a : ℚ) * 10 ^ e) < b * 10 ^ f := by linarith [hsize b f, hpos e hm]
    exact ((cmp_eq_lt_iff _ _).2 hlt).symm
  · -- Below zero the larger size is the smaller number.
    have hshift := cmp_add_right (-((a : ℚ) * 10 ^ e)) (-((b : ℚ) * 10 ^ f))
      (a * 10 ^ e + b * 10 ^ f)
    have ha : -((a : ℚ) * 10 ^ e) + (a * 10 ^ e + b * 10 ^ f) = b * 10 ^ f := by ring
    have hb : -((b : ℚ) * 10 ^ f) + (a * 10 ^ e + b * 10 ^ f) = a * 10 ^ e := by ring
    rw [ha, hb] at hshift
    exact (orderSizes_eq_cmp b f a e).trans hshift

/-- A finite double as a decimal has its value. -/
theorem exists_ofBinary64 {negative : Bool} {m : Magnitude} (h : m.isFinite) :
    ∃ digits exponent, ofBinary64 (.signed negative m) = .finite negative digits exponent ∧
      (finite negative digits exponent).value = (Binary64.signed negative m).value := by
  -- The denominator is a power of two, and ten to as many places is what it takes to cancel it.
  obtain ⟨places, hplaces⟩ : ∃ places, m.quotient.2 = 2 ^ places := by
    unfold Magnitude.quotient BinaryFormat.quotient
    dsimp only
    split
    · exact ⟨0, rfl⟩
    · exact ⟨_, rfl⟩
  have hlog : m.quotient.2.log2 = places := by rw [hplaces, Nat.log2_two_pow]
  refine ⟨_, _, if_pos h, ?_⟩
  have hsize : ((m.quotient.1 * Nat.pow 5 m.quotient.2.log2 : ℕ) : ℚ) *
      10 ^ (-(m.quotient.2.log2 : ℤ)) = m.value := by
    have hfive : ((Nat.pow 5 places : ℕ) : ℚ) = 5 ^ places := Nat.cast_pow 5 places
    have hten : (10 : ℚ) ^ places = 2 ^ places * 5 ^ places := by rw [← mul_pow]; norm_num
    rw [Magnitude.value, hlog, hplaces, Nat.cast_mul, hfive, zpow_neg, zpow_natCast, hten]
    push_cast
    field_simp
  rw [value, Binary64.value, hsize]

end Exact

end PlotPipe
