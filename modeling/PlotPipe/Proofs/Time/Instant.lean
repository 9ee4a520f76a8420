import Mathlib.Data.Int.Init
import PlotPipe.Proofs.Time.Calendar

/-!
# Time — the instant of a moment

The calendar goes from one day to the next (`Date.next`) by the lengths
of the months, and the days are counted from the start of 1970
(`Date.IsDay`). The formula for the count of a date is that count, for
each date that the calendar has (`Date.isDay_iff`). The instant of a
moment is told from the count of its day, its clock and its offset
(`Moment.IsAt`), and the formula for the instant is that instant
(`Moment.isAt_iff`).
-/

namespace PlotPipe

namespace Date

/-- The days of a month. -/
def monthLength (leap : Bool) : ℕ → ℕ
  | 2 => if leap then 29 else 28
  | 4 | 6 | 9 | 11 => 30
  | _ => 31

/-- A date that the calendar has. -/
structure IsReal (d : Date) : Prop where
  one_le_month : 1 ≤ d.month
  month_le : d.month ≤ 12
  one_le_day : 1 ≤ d.day
  day_le : d.day ≤ monthLength (isLeapYear d.year) d.month

/-- The day after a date. -/
def next (d : Date) : Date :=
  if d.day < monthLength (isLeapYear d.year) d.month then { d with day := d.day + 1 }
  else if d.month < 12 then ⟨d.year, d.month + 1, 1⟩
  else ⟨d.year + 1, 1, 1⟩

/-- **The count of the days** from the first of January 1970, forward and
backward, one day at a time. -/
inductive IsDay : Date → ℤ → Prop
  | start : IsDay ⟨1970, 1, 1⟩ 0
  | next {d : Date} {n : ℤ} : IsDay d n → IsDay d.next (n + 1)
  | prev {d : Date} {n : ℤ} : d.IsReal → IsDay d.next (n + 1) → IsDay d n

variable {d d' : Date} {n : ℤ}

/-! ## Months and years -/

theorem one_le_monthLength (leap : Bool) (month : ℕ) : 1 ≤ monthLength leap month := by
  unfold monthLength
  split
  · split <;> decide
  all_goals decide

/-- The days before a month end where the month begins. -/
theorem daysBeforeMonth_succ : ∀ (leap : Bool), ∀ month < 12, 1 ≤ month →
    daysBeforeMonth leap (month + 1) = daysBeforeMonth leap month + monthLength leap month := by
  decide

theorem daysBeforeMonth_mono : ∀ (leap : Bool), ∀ month' < 13, ∀ month < month', 1 ≤ month →
    daysBeforeMonth leap month + monthLength leap month ≤ daysBeforeMonth leap month' := by
  decide

theorem daysBeforeMonth_one (leap : Bool) : daysBeforeMonth leap 1 = 0 := by
  cases leap <;> rfl

/-- A year ends with its twelfth month. -/
theorem daysBeforeMonth_twelve (leap : Bool) :
    daysBeforeMonth leap 12 + monthLength leap 12 = if leap then 366 else 365 := by
  cases leap <;> rfl

/-- A day of a year is a day of one of its months. -/
theorem isReal_monthOfDay : ∀ (leap : Bool), ∀ day < (if leap then 366 else 365),
    1 ≤ (monthOfDay leap day).1 ∧ (monthOfDay leap day).1 ≤ 12 ∧ 1 ≤ (monthOfDay leap day).2 ∧
      (monthOfDay leap day).2 ≤ monthLength leap (monthOfDay leap day).1 := by
  decide +kernel

theorem daysBeforeYear_le {year year' : ℤ} (h : year ≤ year') :
    daysBeforeYear year ≤ daysBeforeYear year' := by
  unfold daysBeforeYear
  dsimp only
  omega

/-- The days before a month, and the month itself, are days of the
year. -/
theorem daysBeforeMonth_add_le (h : d.IsReal) :
    daysBeforeMonth (isLeapYear d.year) d.month + d.day ≤
      if isLeapYear d.year then 366 else 365 := by
  have hday := h.day_le
  rcases Nat.lt_or_eq_of_le h.month_le with hlt | heq
  · have hmono := daysBeforeMonth_mono (isLeapYear d.year) 12 (by decide) d.month hlt h.one_le_month
    have hend := daysBeforeMonth_twelve (isLeapYear d.year)
    omega
  · have hend := daysBeforeMonth_twelve (isLeapYear d.year)
    rw [heq] at hday ⊢
    omega

/-- A date lies in its year. -/
theorem epochDays_bounds (h : d.IsReal) :
    daysBeforeYear d.year ≤ d.epochDays + daysBeforeYear 1970 ∧
      d.epochDays + daysBeforeYear 1970 < daysBeforeYear (d.year + 1) := by
  have hday := daysBeforeMonth_add_le h
  have hone := h.one_le_day
  rw [daysBeforeYear_succ]
  unfold epochDays
  split at hday <;> split <;> first | contradiction | omega

/-! ## From one day to the next -/

theorem IsReal.next (h : d.IsReal) : d.next.IsReal := by
  unfold Date.next
  split
  · rename_i hday
    exact ⟨h.one_le_month, h.month_le, Nat.succ_pos _, hday⟩
  · split
    · rename_i hmonth
      exact ⟨Nat.succ_pos _, hmonth, Nat.le_refl 1, one_le_monthLength _ _⟩
    · exact ⟨Nat.le_refl 1, show 1 ≤ 12 by decide, Nat.le_refl 1, one_le_monthLength _ _⟩

/-- **The next day counts one more.** -/
theorem epochDays_next (h : d.IsReal) : d.next.epochDays = d.epochDays + 1 := by
  have hday := h.day_le
  unfold Date.next
  split
  · unfold epochDays
    dsimp only
    omega
  · have hlast : d.day = monthLength (isLeapYear d.year) d.month := by omega
    split
    · rename_i hmonth
      have hsucc := daysBeforeMonth_succ (isLeapYear d.year) d.month hmonth h.one_le_month
      unfold epochDays
      dsimp only
      omega
    · have hdecember : d.month = 12 := by
        have := h.month_le
        omega
      have hend := daysBeforeMonth_twelve (isLeapYear d.year)
      have hsucc := daysBeforeYear_succ d.year
      unfold epochDays
      dsimp only
      rw [hdecember] at hlast ⊢
      rw [daysBeforeMonth_one]
      split at hend <;> split at hsucc <;> first | contradiction | omega

/-- **Two dates of one count are one date.** -/
theorem eq_of_epochDays_eq (hd : d.IsReal) (hd' : d'.IsReal) (h : d.epochDays = d'.epochDays) :
    d = d' := by
  have hyear : d.year = d'.year := by
    have hbounds := epochDays_bounds hd
    have hbounds' := epochDays_bounds hd'
    rcases Int.lt_trichotomy d.year d'.year with hlt | heq | hgt
    · have := daysBeforeYear_le (Int.add_one_le_of_lt hlt)
      omega
    · exact heq
    · have := daysBeforeYear_le (Int.add_one_le_of_lt hgt)
      omega
  obtain ⟨year, month, day⟩ := d
  obtain ⟨year', month', day'⟩ := d'
  obtain ⟨hmonth, hmonth12, hday, hdayle⟩ := hd
  obtain ⟨hmonth', hmonth12', hday', hdayle'⟩ := hd'
  dsimp only at *
  subst hyear
  unfold epochDays at h
  dsimp only at h
  have hmonths : month = month' := by
    rcases Nat.lt_trichotomy month month' with hlt | heq | hgt
    · have := daysBeforeMonth_mono (isLeapYear year) month' (by omega) month hlt hmonth
      omega
    · exact heq
    · have := daysBeforeMonth_mono (isLeapYear year) month (by omega) month' hgt hmonth'
      omega
  subst hmonths
  rw [Date.mk.injEq]
  exact ⟨rfl, rfl, by omega⟩

/-- The date of a count is one that the calendar has. -/
theorem isReal_ofEpochDays (n : ℤ) : (ofEpochDays n).IsReal := by
  obtain ⟨hlow, hhigh⟩ := yearOfDays_spec n
  rw [daysBeforeYear_succ] at hhigh
  obtain ⟨h1, h2, h3, h4⟩ := isReal_monthOfDay (isLeapYear (yearOfDays n))
    (n + daysBeforeYear 1970 - daysBeforeYear (yearOfDays n)).toNat
    (by split at hhigh <;> split <;> first | contradiction | omega)
  exact ⟨h1, h2, h3, h4⟩

theorem next_ofEpochDays (n : ℤ) : (ofEpochDays n).next = ofEpochDays (n + 1) := by
  refine eq_of_epochDays_eq (isReal_ofEpochDays n).next (isReal_ofEpochDays _) ?_
  rw [epochDays_next (isReal_ofEpochDays n), epochDays_ofEpochDays, epochDays_ofEpochDays]

theorem isDay_ofEpochDays (n : ℤ) : (ofEpochDays n).IsDay n := by
  induction n using Int.induction_on with
  | zero => exact .start
  | succ n ih =>
    rw [← next_ofEpochDays]
    exact ih.next
  | pred n ih =>
    refine .prev (isReal_ofEpochDays _) ?_
    rwa [next_ofEpochDays, Int.sub_add_cancel]

/-- **The formula for the count of a date is the count of its days.** -/
theorem isDay_iff : d.IsDay n ↔ d.IsReal ∧ d.epochDays = n := by
  constructor
  · intro h
    induction h with
    | start => exact ⟨⟨by decide, by decide, by decide, by decide⟩, by decide⟩
    | next _ ih => exact ⟨ih.1.next, by rw [epochDays_next ih.1, ih.2]⟩
    | prev hreal _ ih =>
      have hnext := ih.2
      rw [epochDays_next hreal] at hnext
      exact ⟨hreal, by omega⟩
  · rintro ⟨hreal, rfl⟩
    have hday := isDay_ofEpochDays d.epochDays
    rwa [eq_of_epochDays_eq (isReal_ofEpochDays _) hreal (epochDays_ofEpochDays _)] at hday

end Date

namespace Moment

variable {m : Moment} {micros : ℤ}

/-- **A moment is at an instant**, in microseconds from the start of 1970
in universal time: the day by its count, then the clock, less what the
clock is ahead. -/
def IsAt (m : Moment) (micros : ℤ) : Prop :=
  ∃ days, m.date.IsDay days ∧
    micros = (((days * 24 + m.hour) * 60 + m.minute) * 60 + m.second) * 1000000 + m.micro - m.ahead

/-- **The formula for the instant of a moment is its instant.** -/
theorem isAt_iff : m.IsAt micros ↔ m.date.IsReal ∧ m.epochMicros = micros := by
  have hformula : m.epochMicros =
      (((m.date.epochDays * 24 + m.hour) * 60 + m.minute) * 60 + m.second) * 1000000 + m.micro
        - m.ahead := by
    unfold epochMicros secondsPerDay
    omega
  constructor
  · rintro ⟨days, hday, rfl⟩
    obtain ⟨hreal, rfl⟩ := Date.isDay_iff.1 hday
    exact ⟨hreal, hformula⟩
  · rintro ⟨hreal, rfl⟩
    exact ⟨_, Date.isDay_iff.2 ⟨hreal, rfl⟩, hformula⟩

/-- Each instant is the one of a moment without an offset. -/
theorem isAt_ofEpochMicros (micros : ℤ) : (ofEpochMicros micros).IsAt micros :=
  isAt_iff.2 ⟨Date.isReal_ofEpochDays _, epochMicros_ofEpochMicros micros⟩

end Moment

end PlotPipe
