import PlotPipe.Datum.Basic
import PlotPipe.Proofs.Number.Division
import PlotPipe.Proofs.Time.Calendar

/-!
# Time — the nanoseconds of a tick

The seconds of a tick come from its count of nanoseconds, which is
wrapped round into a word, taken for a double and divided: what does not
fit into the word is another instant (`ofIntQuotient_ne_divNat_wrap`),
and what fits is rounded twice, unless it is a double
(`Tick.value_nearest_nanos`). The plain value of the tick is a date or a
moment where the tick has one (`Tick.HasDate`), as every tick does whose
nanoseconds fit (`Tick.hasDate_of_fitsNanos`). A tick finer than a
microsecond has no plain value but its count.
-/

namespace PlotPipe

namespace Tick

variable {t : Tick} {unit : TickUnit} {count i : ℤ}

/-- The count of a tick is a word of 64 bits, other than the one that
stands for no time. -/
def IsWord (t : Tick) : Prop :=
  ∀ count ∈ t.count, noTimeCount < count ∧ count < -noTimeCount

/-- **The nanoseconds of a tick fit** into their word. -/
def FitsNanos (t : Tick) : Prop :=
  ∃ count, t.count = some count ∧ noTimeCount ≤ countAttos t.unit count / attosPerNano ∧
    countAttos t.unit count / attosPerNano < -noTimeCount

/-- The tick has a date or a moment as its plain value: it is not finer
than a microsecond, and of a year from 1 to 9999. -/
def HasDate (t : Tick) : Prop :=
  t.unit.fineness ≤ TickUnit.micro.fineness ∧ ∃ count, t.count = some count ∧
    1 ≤ (moment t.unit count).date.year ∧ (moment t.unit count).date.year ≤ 9999

/-! ## Counts in finer units -/

theorem dvd_countAttos {n : ℕ} (h : n ∣ unit.attos?.getD (86400 * attosPerSecond)) (count : ℤ) :
    (n : ℤ) ∣ countAttos unit count := by
  have hlength : (n : ℤ) ∣ (unit.attos?.getD (86400 * attosPerSecond) : ℕ) :=
    Int.natCast_dvd_natCast.2 h
  unfold countAttos
  split <;> rename_i hattos <;> rw [hattos] at hlength <;> exact Dvd.dvd.mul_left hlength _

theorem micros_dvd_countAttos (h : unit.fineness ≤ TickUnit.micro.fineness) (count : ℤ) :
    (1000000000000 : ℤ) ∣ countAttos unit count := by
  refine dvd_countAttos (n := 1000000000000) ?_ count
  cases unit <;> first | decide | exact absurd h (by decide)

theorem minutes_dvd_countAttos (h : unit.fineness ≤ TickUnit.minute.fineness) (count : ℤ) :
    (60000000000000000000 : ℤ) ∣ countAttos unit count := by
  refine dvd_countAttos (n := 60000000000000000000) ?_ count
  cases unit <;> first | decide | exact absurd h (by decide)

theorem days_dvd_countAttos (h : unit.fineness ≤ TickUnit.day.fineness) (count : ℤ) :
    (86400000000000000000000 : ℤ) ∣ countAttos unit count := by
  refine dvd_countAttos (n := 86400000000000000000000) ?_ count
  cases unit <;> first | decide | exact absurd h (by decide)

/-- The nanoseconds of a tick that is not finer than a microsecond are
its microseconds. -/
theorem nanos_eq (hunit : t.unit.fineness ≤ TickUnit.micro.fineness)
    (hcount : t.count = some count) :
    t.nanos = wrap (countAttos t.unit count / 1000000000000 * 1000) := by
  have hdvd := micros_dvd_countAttos hunit count
  rw [nanos, hcount]
  dsimp only
  congr 1
  unfold attosPerNano
  omega

/-- A tick finer than a microsecond counts no fewer of its units than
nanoseconds. -/
theorem natAbs_nanos_le (hfine : TickUnit.micro.fineness < t.unit.fineness) (hword : t.IsWord)
    (hcount : t.count = some count) : t.nanos.natAbs ≤ count.natAbs := by
  obtain ⟨unit, _⟩ := t
  dsimp only at hcount hfine
  subst hcount
  obtain ⟨hlower, hupper⟩ := hword count rfl
  have hwrap {i : ℤ} (h : i.natAbs ≤ count.natAbs) : (wrap i).natAbs ≤ count.natAbs := by
    unfold noTimeCount at hlower hupper
    rwa [wrap, Int.bmod_eq_of_le (by omega) (by omega)]
  refine hwrap ?_
  cases unit with
  | nano | pico | femto | atto =>
    unfold countAttos TickUnit.attos? attosPerNano
    dsimp only
    omega
  | _ => exact absurd hfine (by decide)

/-- Of the ticks that are not finer than a microsecond each has a date
whose nanoseconds fit. -/
theorem hasDate_of_fitsNanos (hunit : t.unit.fineness ≤ TickUnit.micro.fineness)
    (h : t.FitsNanos) : t.HasDate := by
  obtain ⟨count, hcount, hlow, hhigh⟩ := h
  refine ⟨hunit, count, hcount, ?_⟩
  change 1 ≤ Date.yearOfDays (countAttos t.unit count / 1000000000000 / 1000000 / secondsPerDay) ∧
    Date.yearOfDays (countAttos t.unit count / 1000000000000 / 1000000 / secondsPerDay) ≤ 9999
  generalize countAttos t.unit count = attos at hlow hhigh
  have hdays : -110000 ≤ attos / 1000000000000 / 1000000 / secondsPerDay ∧
      attos / 1000000000000 / 1000000 / secondsPerDay ≤ 110000 := by
    unfold noTimeCount attosPerNano at hlow hhigh
    unfold secondsPerDay
    omega
  obtain ⟨hbegun, hended⟩ :=
    Date.yearOfDays_spec (attos / 1000000000000 / 1000000 / secondsPerDay)
  unfold Date.daysBeforeYear at hbegun hended
  dsimp only at hbegun hended
  omega

/-! ## Nanoseconds as doubles -/

open Binary64 Magnitude

theorem natAbs_wrap_le (i : ℤ) : (wrap i).natAbs ≤ 9223372036854775808 := by
  unfold wrap Int.bmod
  dsimp only
  split <;> omega

theorem isFinite_nearest_wrap (i : ℤ) : (nearest (wrap i).natAbs 1).isFinite = true :=
  isFinite_nearest_of_le ((natAbs_wrap_le i).trans (by decide))

/-- The nanoseconds of minutes, and of longer units, are a double. -/
theorem value_nearest_nanos (hunit : t.unit.fineness ≤ TickUnit.minute.fineness)
    (hfits : t.FitsNanos) : (nearest t.nanos.natAbs 1).value = t.nanos.natAbs := by
  obtain ⟨count, hcount, hlow, hhigh⟩ := hfits
  obtain ⟨minutes, hminutes⟩ := minutes_dvd_countAttos hunit count
  have hnanos : t.nanos = wrap (minutes * 29296875 * 2048) := by
    rw [nanos, hcount]
    dsimp only
    rw [hminutes]
    congr 1
    unfold attosPerNano
    omega
  have hwrap : wrap (minutes * 29296875 * 2048) = minutes * 29296875 * 2048 := by
    rw [hminutes] at hlow hhigh
    unfold attosPerNano noTimeCount at hlow hhigh
    exact Int.bmod_eq_of_le (by omega) (by omega)
  have hsmall := natAbs_wrap_le (minutes * 29296875 * 2048)
  have hfinite := isFinite_nearest_wrap (minutes * 29296875 * 2048)
  -- All but the last eleven bits of the count are few enough.
  have hbits : (minutes * 29296875 * 2048).natAbs = (minutes * 29296875).natAbs * 2 ^ 11 := by
    rw [Int.natAbs_mul]
    rfl
  rw [hwrap, hbits] at hsmall hfinite
  rw [hnanos, hwrap, hbits]
  have hfew : (minutes * 29296875).natAbs < 4503599627370497 := by omega
  exact value_nearest_of_bits (hfew.trans_le (by decide)) hfinite

/-- **Nanoseconds that do not fit into their word are another instant**
once they are wrapped round. -/
theorem ofIntQuotient_ne_divNat_wrap (h : i < noTimeCount ∨ -noTimeCount ≤ i) :
    ofIntQuotient i nanosPerSecond ≠ (ofIntQuotient (wrap i) 1).divNat nanosPerSecond := by
  intro heq
  rw [divNat_ofIntQuotient (isFinite_nearest_wrap i), ofIntQuotient, ofQuotient, ofQuotient,
    signed.injEq] at heq
  obtain ⟨hsign, hmagnitude⟩ := heq
  -- On the same side of zero, what was wrapped round is at least a whole round away.
  have hlarge : 18446744073709551616 ≤ i.natAbs := by
    rw [decide_eq_decide] at hsign
    unfold noTimeCount at h
    unfold wrap Int.bmod at hsign
    dsimp only at hsign
    split at hsign <;> omega
  have hlow : (nearest 18446744073709551616 nanosPerSecond).value ≤
      (nearest i.natAbs nanosPerSecond).value := by
    refine value_nearest_mono (by decide) (by decide) ?_
    gcongr
  have hhigh := value_nearest_quotient_mul_mono (k := nanosPerSecond) (by decide)
    (value_le_value_iff.2 (rank_nearest_mono (natAbs_wrap_le i)))
  rw [hmagnitude] at hlow
  exact absurd (value_le_value_iff.1 (hlow.trans hhigh)) (by decide)

/-- Microseconds divided come to what their nanoseconds do. -/
theorem ofIntQuotient_micros (micros : ℤ) :
    ofIntQuotient (micros * 1000) nanosPerSecond = ofIntQuotient micros 1000000 :=
  ofIntQuotient_mul (c := 1000) (k := 1000000) (by decide) (by decide)

end Tick

namespace Datum

variable {t : Tick}

/-- A tick with a date is a date as a plain value, or a moment where it
is finer than a day. -/
theorem plainTick_of_hasDate {count : ℤ} (h : t.HasDate) (hcount : t.count = some count) :
    plainTick t =
      if t.unit.fineness ≤ TickUnit.day.fineness then .date (Tick.moment t.unit count).date
      else .moment (Tick.moment t.unit count) := by
  obtain ⟨hunit, count', hcount', hlow, hhigh⟩ := h
  obtain rfl := Option.some.inj (hcount.symm.trans hcount')
  unfold plainTick
  rw [hcount]
  exact if_neg (by simp; omega)

/-- A tick finer than a microsecond is its count as a plain value, or
nothing. -/
theorem plainTick_of_fine (hfine : TickUnit.micro.fineness < t.unit.fineness) :
    plainTick t = t.count.elim .null .int := by
  unfold plainTick
  cases t.count with
  | none => rfl
  | some count => exact if_pos (by rw [decide_eq_true hfine]; rfl)

end Datum

end PlotPipe
