import PlotPipe.Proofs.Number.Digits
import PlotPipe.Proofs.Number.Shortest
/-!
# Numbers — the text of a decimal in parts

The text of a decimal is a *numeral*: digits before a point, digits
behind it and an exponent, of which at least one of the last two is
there. What the parts add up to has the value of the decimal that was
written (`exists_numeral`), though its digits and its exponent may be
others.
-/

namespace PlotPipe

/-- A number with a point or an exponent, in parts. -/
structure Numeral where
  whole : List Char
  places : List Char
  exponent : Option ℤ
  isDigit_of_mem_whole : ∀ c ∈ whole, c.isDigit
  isDigit_of_mem_places : ∀ c ∈ places, c.isDigit
  whole_ne : whole ≠ []
  /-- Only a zero by itself begins with a zero. -/
  leading : whole = ['0'] ∨ whole.head? ≠ some '0'
  /-- There is more than a whole number. -/
  isSome_of_places : places = [] → exponent.isSome

namespace Numeral

/-- An exponent as it is written: with a sign and two digits. -/
def exponentText : Option ℤ → List Char
  | none => []
  | some e => 'e' :: (if e < 0 then '-' else '+') :: paddedDigits 2 e.natAbs

/-- The digits behind the point as they are written, with the point. -/
def placesText (places : List Char) : List Char := if places = [] then [] else '.' :: places

/-- The text of a numeral. -/
def text (n : Numeral) : List Char := n.whole ++ placesText n.places ++ exponentText n.exponent

/-- What the parts add up to. -/
def scaled (n : Numeral) : Scaled :=
  ⟨Nat.ofDigitChars 10 (n.whole ++ n.places) 0, n.exponent.getD 0 - n.places.length⟩

end Numeral

/-- The value of digits of which the leading one has the exponent `e`. -/
def leadingValue (ds : List Char) (e : ℤ) : ℚ :=
  (Nat.ofDigitChars 10 ds 0 : ℚ) * 10 ^ (e + 1 - ds.length)

/-- Zeros behind the digits go into the exponent. -/
theorem Scaled.value_append_zeros (ds : List Char) (zeros : ℕ) (e : ℤ) :
    Scaled.value ⟨Nat.ofDigitChars 10 (ds ++ List.replicate zeros '0') 0, e⟩
      = Scaled.value ⟨Nat.ofDigitChars 10 ds 0, e + zeros⟩ := by
  rw [Nat.ofDigitChars_append, Nat.ofDigitChars_replicate_zero, value, value]
  push_cast
  rw [mul_comm ((10 : ℚ) ^ zeros), mul_assoc, ← zpow_natCast, ← zpow_add₀ (by norm_num),
    Int.add_comm e]

/-- A numeral spells digits of which the leading one has the exponent
`e`. -/
structure Numeral.Spells (n : Numeral) (ds : List Char) (e : ℤ) : Prop where
  value_eq : n.scaled.value = leadingValue ds e
  le_exponent : min (e + 1 - ds.length) (-1) ≤ n.scaled.exponent

section Leading

variable {ds : List Char} {e : ℤ} (hds : ∀ c ∈ ds, c.isDigit) (hne : ds ≠ [])
  (hlead : ds.head? ≠ some '0')

include hds hne

/-- Below one the digits stand behind the point, after zeros. -/
theorem exists_numeral_below (he : e < 0) : ∃ n : Numeral,
    n.text = '0' :: '.' :: (List.replicate (-e - 1).toNat '0' ++ ds) ∧ n.Spells ds e := by
  have hplaces : List.replicate (-e - 1).toNat '0' ++ ds ≠ [] := by simp [hne]
  have hdigit : ∀ c ∈ List.replicate (-e - 1).toNat '0' ++ ds, c.isDigit := by
    intro c hc
    rcases List.mem_append.1 hc with hc | hc
    · rw [List.eq_of_mem_replicate hc]
      rfl
    · exact hds c hc
  have hdigits : Nat.ofDigitChars 10 (['0'] ++ (List.replicate (-e - 1).toNat '0' ++ ds)) 0
      = Nat.ofDigitChars 10 ds 0 := by
    rw [Nat.ofDigitChars_append, Nat.ofDigitChars_append, Nat.ofDigitChars_replicate_zero]
    rfl
  refine ⟨⟨['0'], List.replicate (-e - 1).toNat '0' ++ ds, none, by simp, hdigit, by simp,
    .inl rfl, fun h => absurd h hplaces⟩, ?_, ?_, ?_⟩
  · simp [Numeral.text, Numeral.placesText, Numeral.exponentText, hne]
  · simp only [Numeral.scaled, Scaled.value, hdigits, leadingValue, Option.getD_none,
      List.length_append, List.length_replicate]
    congr 2
    omega
  · simp only [Numeral.scaled, Option.getD_none, List.length_append, List.length_replicate]
    omega

include hlead

/-- A whole number is filled up with zeros, of which the last one stands
behind the point. -/
theorem exists_numeral_whole {count : ℕ} (hcount : (count : ℤ) = e + 1) (hlen : ds.length ≤ count) :
    ∃ n : Numeral, n.text = ds ++ List.replicate (count - ds.length) '0' ++ ['.', '0'] ∧
      n.Spells ds e := by
  have hdigit : ∀ c ∈ ds ++ List.replicate (count - ds.length) '0', c.isDigit := by
    intro c hc
    rcases List.mem_append.1 hc with hc | hc
    · exact hds c hc
    · rw [List.eq_of_mem_replicate hc]
      rfl
  have hhead : (ds ++ List.replicate (count - ds.length) '0').head? ≠ some '0' := by
    rwa [List.head?_append_of_ne_nil _ hne]
  have hzeros : ds ++ List.replicate (count - ds.length) '0' ++ ['0']
      = ds ++ List.replicate (count - ds.length + 1) '0' := by
    rw [List.append_assoc, List.replicate_succ']
  refine ⟨⟨_, ['0'], none, hdigit, by simp, by simp [hne], .inr hhead, by simp⟩, ?_, ?_, ?_⟩
  · simp [Numeral.text, Numeral.placesText, Numeral.exponentText]
  · rw [Numeral.scaled, hzeros, Scaled.value_append_zeros, Scaled.value, leadingValue]
    congr 2
    simp only [Option.getD_none, List.length_singleton]
    omega
  · simp only [Numeral.scaled, Option.getD_none, List.length_singleton]
    omega

/-- Otherwise the point stands among the digits. -/
theorem exists_numeral_mixed {count : ℕ} (hcount : (count : ℤ) = e + 1) (hpos : 0 < count)
    (hlen : count < ds.length) : ∃ n : Numeral,
      n.text = ds.take count ++ '.' :: ds.drop count ∧ n.Spells ds e := by
  have hplaces : ds.drop count ≠ [] := by simpa using hlen
  have hwhole : ds.take count ≠ [] := by simp [hne, hpos.ne']
  have hhead : (ds.take count).head? ≠ some '0' := by
    rw [List.head?_take]
    simpa [hpos.ne'] using hlead
  refine ⟨⟨ds.take count, ds.drop count, none, fun c hc => hds c (List.mem_of_mem_take hc),
    fun c hc => hds c (List.mem_of_mem_drop hc), hwhole, .inr hhead,
    fun h => absurd h hplaces⟩, ?_, ?_, ?_⟩
  · simp [Numeral.text, Numeral.placesText, Numeral.exponentText, hplaces]
  · simp only [Numeral.scaled, Scaled.value, List.take_append_drop, leadingValue, Option.getD_none,
      List.length_drop]
    congr 2
    omega
  · simp only [Numeral.scaled, Option.getD_none, List.length_drop]
    omega

/-- A text in positional form is a numeral. -/
theorem exists_numeral_positional :
    ∃ n : Numeral, n.text = positional ds e ∧ n.Spells ds e := by
  unfold positional
  split
  · exact exists_numeral_below hds hne ‹_›
  · have hcount : ((e.toNat + 1 : ℕ) : ℤ) = e + 1 := by omega
    dsimp only
    by_cases hlen : ds.length ≤ e.toNat + 1
    · rw [List.take_of_length_le hlen, List.drop_of_length_le hlen]
      exact exists_numeral_whole hds hne hlead hcount hlen
    · have hafter : (ds.drop (e.toNat + 1)).isEmpty = false := by simpa using hlen
      have hzeros : e.toNat + 1 - ds.length = 0 := by omega
      rw [hafter, hzeros, List.replicate_zero, List.append_nil]
      exact exists_numeral_mixed hds hne hlead hcount (Nat.succ_pos _) (Nat.lt_of_not_le hlen)

/-- A text in exponential form is a numeral. -/
theorem exists_numeral_exponential :
    ∃ n : Numeral, n.text = exponential ds e ∧ n.Spells ds e := by
  obtain ⟨d, places, rfl⟩ := List.exists_cons_of_ne_nil hne
  refine ⟨⟨[d], places, some e, ?_, fun c hc => hds c (List.mem_cons_of_mem _ hc), by simp,
    .inr (by simpa using hlead), fun _ => rfl⟩, ?_, ?_, ?_⟩
  · intro c hc
    exact hds c (List.mem_singleton.1 hc ▸ List.mem_cons_self)
  · cases places <;>
      simp [Numeral.text, Numeral.placesText, Numeral.exponentText, exponential]
  · simp only [Numeral.scaled, Scaled.value, leadingValue, Option.getD_some, List.length_cons,
      List.singleton_append]
    congr 2
    omega
  · simp only [Numeral.scaled, Option.getD_some, List.length_cons]
    omega

end Leading

/-- **The text of a decimal is a numeral of the same value.** -/
theorem exists_numeral (d : Scaled) (hd : d.digits ≠ 0) : ∃ n : Numeral, n.text = d.text ∧
    n.scaled.value = d.value ∧ min d.exponent (-1) ≤ n.scaled.exponent := by
  obtain ⟨zeros, hzeros⟩ := exists_replicate_dropTrailingZeros (decimalDigits d.digits)
  generalize hds : dropTrailingZeros (decimalDigits d.digits) = ds at hzeros
  have hlen : (decimalDigits d.digits).length = ds.length + zeros := by rw [hzeros]; simp
  have hhead := head?_decimalDigits hd
  have hne : ds ≠ [] := by
    rintro rfl
    rw [List.nil_append] at hzeros
    have hall := decimalDigits_ne_nil d.digits
    rw [hzeros] at hhead hall
    cases zeros with
    | zero => exact hall rfl
    | succ k => exact hhead rfl
  rw [hzeros, List.head?_append_of_ne_nil _ hne] at hhead
  have hdigit : ∀ c ∈ ds, c.isDigit := fun c hc =>
    isDigit_of_mem_decimalDigits (hzeros ▸ List.mem_append_left _ hc)
  have hvalue := calc
    leadingValue ds (d.exponent + (decimalDigits d.digits).length - 1)
    _ = Scaled.value ⟨Nat.ofDigitChars 10 ds 0, d.exponent + zeros⟩ := by
      rw [leadingValue, Scaled.value, hlen]
      dsimp only
      congr 2
      omega
    _ = Scaled.value ⟨Nat.ofDigitChars 10 (decimalDigits d.digits) 0, d.exponent⟩ := by
      rw [hzeros, Scaled.value_append_zeros]
    _ = d.value := by rw [decimalDigits, Nat.ofDigitChars_ten_toDigits]
  have hexp : min d.exponent (-1) ≤
      min (d.exponent + (decimalDigits d.digits).length - 1 + 1 - ds.length) (-1) := by omega
  unfold Scaled.text
  dsimp only
  rw [hds, ← hvalue]
  split
  · obtain ⟨n, htext, hspells⟩ := exists_numeral_positional hdigit hne hhead
    exact ⟨n, htext, hspells.value_eq, hexp.trans hspells.le_exponent⟩
  · obtain ⟨n, htext, hspells⟩ := exists_numeral_exponential hdigit hne hhead
    exact ⟨n, htext, hspells.value_eq, hexp.trans hspells.le_exponent⟩

/-- **The text of a finite magnitude is a numeral that is read as the
magnitude.** -/
theorem Magnitude.exists_numeral (m : Magnitude) (hfinite : m.isFinite) : ∃ n : Numeral,
    n.text = m.text ∧ ∀ negative,
      Decimal.nearest negative n.scaled.digits n.scaled.exponent = .signed negative m := by
  by_cases hzero : m.rank = 0
  · refine ⟨⟨['0'], ['0'], none, by simp, by simp, by simp, .inl rfl, by simp⟩, ?_, fun negative => ?_⟩
    · rw [Magnitude.text, if_pos hzero]
      rfl
    · obtain ⟨rank, hle⟩ := m
      cases hzero
      rfl
  · have hrank : BinaryFormat.binary64.rankOf m.shortest = m.rank :=
      BinaryFormat.rankOf_shortest (by decide) m.rank
    have hdigits : m.shortest.digits ≠ 0 := by
      intro h
      have hzero' : m.shortest = ⟨0, m.shortest.exponent⟩ := by rw [← h]
      rw [hzero', BinaryFormat.rankOf_zero] at hrank
      exact hzero hrank.symm
    have hexp := BinaryFormat.le_exponent_shortest m.rank
    obtain ⟨n, htext, hvalue, hmin⟩ := PlotPipe.exists_numeral m.shortest hdigits
    refine ⟨n, by rw [htext, Magnitude.text, if_neg hzero], fun negative => ?_⟩
    refine Decimal.nearest_eq ?_ hfinite (fun h => absurd h hzero) ?_ negative
    · rw [← hrank]
      exact BinaryFormat.rankOf_congr hvalue
    · rw [← Magnitude.shortest] at hexp
      omega

end PlotPipe
