import PlotPipe.Proofs.Payload.Texts
import PlotPipe.Proofs.Time.Tick

/-!
# Payload — one table of cells in several containers

Pairs of a time and a height can be handed over as an array of two
columns or as a list of the elements of the array. Cells of an array are
plain values by the time that they are read, while its elements keep
their type. For numbers and objects the two are read alike, and so are
the heights among ticks; a time that is a tick is read as seconds from
the list, and from the array as its plain value, which for a tick finer
than a microsecond is a bare count (`timePairs_array_iff`). Whether the
two are one instant is told from the tick (`Tick.KeepsInstant`).
-/

namespace PlotPipe

open Payload

/-- The cells that an array of a type has. -/
def CellType.IsCell : CellType → Datum → Prop
  | integer _, .int _ | natural _, .int _ | floating _, .real _ | truth, .truth _ => True
  | object, _ => True
  | tick unit, .tick t => t.unit = unit ∧ t.IsWord
  | _, _ => False

/-- A tick **keeps its instant** as a plain value: read as a time, both
are the same number of seconds. -/
def Tick.KeepsInstant (t : Tick) : Prop := (Datum.plainTick t).seconds? = some t.epochSeconds

namespace Payload

open Datum

variable {type : CellType} {pairs : List (Datum × Datum)} {label : String} {a b : Datum}

/-! ## The containers -/

/-- Pairs as an array of two columns. -/
def pairArray (type : CellType) (pairs : List (Datum × Datum)) : Datum :=
  .array type [pairs.length, 2] (pairs.flatMap fun (a, b) => [a, b])

/-- Pairs as a list of tuples of the elements of an array. -/
def elementPairs (type : CellType) (pairs : List (Datum × Datum)) : Datum :=
  .list (pairs.map fun (a, b) => .tuple [type.element a, type.element b])

/-- Pairs as a list of lists. -/
def pairLists (pairs : List (Datum × Datum)) : Datum := .list (pairs.map fun (a, b) => .list [a, b])

/-- Pairs as a table of two columns of objects. -/
def pairFrame (first second : String) (pairs : List (Datum × Datum)) : Datum :=
  .frame [(first, .object, pairs.map Prod.fst), (second, .object, pairs.map Prod.snd)]

/-- Pairs are read when the times and the heights of their rows are. -/
theorem timePairs_of_rows {d : Datum} {g : Datum × Datum → Datum} {f : Datum → Datum}
    {xs : List (Binary64 × Binary64)} (hrows : rows label d.timeSource = .ok (pairs.map g))
    (hitems : ∀ p, (g p).items = .ok [f p.1, f p.2]) :
    timePairs label d = .ok xs ↔
      List.Forall₂ (fun p x => (f p.1).seconds? = some x.1 ∧ (f p.2).double? = some x.2)
        pairs xs := by
  have hpair (p : Datum × Datum) (x : Binary64 × Binary64) :
      (g p).IsTimePair x ↔ (f p.1).seconds? = some x.1 ∧ (f p.2).double? = some x.2 := by
    constructor
    · rintro ⟨time, height, h, hread⟩
      cases Except.ok.inj ((hitems p).symm.trans h)
      exact hread
    · exact fun hread => ⟨_, _, hitems p, hread⟩
  have hhas (others : List Datum) : d.timeSource.HasRows others ↔ pairs.map g = others := by
    have hread : rows label d.timeSource = .ok others ↔ pairs.map g = others := by
      rw [hrows, Except.ok.injEq]
    exact rows_eq_ok_iff.symm.trans hread
  simp only [timePairs_eq_ok_iff, hhas, exists_eq_left', List.forall₂_map_left_iff, hpair]

theorem rows_list {items : List Datum} (h : ∀ item ∈ items, isRow item = true) :
    rows label (.list items) = .ok items := rows_eq_ok_iff.2 (.nest (.inl rfl) h)

theorem timePairs_elementPairs {xs : List (Binary64 × Binary64)} :
    timePairs label (elementPairs type pairs) = .ok xs ↔
      List.Forall₂ (fun p x => (type.element p.1).seconds? = some x.1 ∧
        (type.element p.2).double? = some x.2) pairs xs :=
  timePairs_of_rows (rows_list (List.forall_mem_map.2 fun _ _ => rfl)) fun _ => rfl

theorem timePairs_pairLists {xs : List (Binary64 × Binary64)} :
    timePairs label (pairLists pairs) = .ok xs ↔
      List.Forall₂ (fun p x => p.1.seconds? = some x.1 ∧ p.2.double? = some x.2) pairs xs :=
  timePairs_of_rows (f := id) (rows_list (List.forall_mem_map.2 fun _ _ => rfl)) fun _ => rfl

theorem chunks_flatMap (pairs : List (Datum × Datum)) :
    chunks 2 pairs.length (pairs.flatMap fun (a, b) => [a, b]) =
      pairs.map fun (a, b) => [a, b] := by
  induction pairs with
  | nil => rfl
  | cons p pairs ih => simp [chunks, ih]

theorem timePairs_pairArray {xs : List (Binary64 × Binary64)} :
    timePairs label (pairArray type pairs) = .ok xs ↔
      List.Forall₂ (fun p x => (type.plain p.1).seconds? = some x.1 ∧
        (type.plain p.2).double? = some x.2) pairs xs := by
  refine timePairs_of_rows (g := fun p => .tuple [type.plain p.1, type.plain p.2]) ?_ fun _ => rfl
  have hnested : nested type [pairs.length, 2] (pairs.flatMap fun (a, b) => [a, b]) =
      .list (pairs.map fun (a, b) => .list [type.plain a, type.plain b]) := by
    change Datum.list ((chunks 2 pairs.length _).map (nested type [2])) = _
    rw [chunks_flatMap, List.map_map]
    rfl
  have hhas : (pairArray type pairs).HasRows
      ((pairs.map fun (a, b) => [type.plain a, type.plain b]).map .tuple) := by
    refine .array (by rw [hnested]; rfl) ?_
    rw [List.forall₂_map_left_iff, List.forall₂_map_right_iff, List.forall₂_same]
    exact fun _ _ => rfl
  rw [List.map_map] at hhas
  exact rows_eq_ok_iff.2 hhas

theorem timePairs_pairFrame {first second : String} {xs : List (Binary64 × Binary64)} :
    timePairs label (pairFrame first second pairs) = .ok xs ↔
      List.Forall₂ (fun p x => p.1.seconds? = some x.1 ∧ p.2.double? = some x.2) pairs xs := by
  refine timePairs_of_rows (f := id) (g := fun p => .tuple [p.1, p.2]) ?_ fun _ => rfl
  have htranspose : transpose [pairs.map Prod.fst, pairs.map Prod.snd] =
      pairs.map fun (a, b) => [a, b] := by
    simp [transpose, List.zipWith_map, List.zipWith_self]
  have hcells (cells : List Datum) : cells.map CellType.object.tableCell = cells :=
    List.map_id'' (fun _ => rfl) cells
  have hhas : (pairFrame first second pairs).HasRows _ := .frame
  simp only [List.map_cons, List.map_nil, hcells, htranspose, List.map_map] at hhas
  exact rows_eq_ok_iff.2 hhas

/-! ## Cells of an array, plain and as elements -/

/-- The height of an element is that of the plain cell. -/
theorem double?_plain (hcell : type.IsCell a) {x : Binary64}
    (h : (type.element a).double? = some x) : (type.plain a).double? = some x := by
  unfold CellType.IsCell at hcell
  split at hcell
  · exact h
  · exact h
  · exact h
  · exact h
  · exact h
  · rename_i unit t
    change (realOfTick t).toOption = some x at h
    change (plainTick t).double? = some x
    unfold realOfTick at h
    split at h
    · rename_i i hplain
      rw [hplain]
      exact h
    · cases h
  · cases hcell

/-- The time of an element is that of the plain cell, except for ticks
that do not keep their instant. -/
theorem seconds?_plain_iff (hcell : type.IsCell a) :
    (type.plain a).seconds? = (type.element a).seconds? ↔
      ∀ unit, type = .tick unit → ∀ t, a = .tick t → t.KeepsInstant := by
  unfold CellType.IsCell at hcell
  split at hcell
  case h_6 unit t =>
    refine ⟨fun h unit' _ t' ht => ?_, fun h => h unit rfl t rfl⟩
    cases ht
    exact h
  case h_7 => cases hcell
  all_goals exact iff_of_true rfl nofun

/-- Pairs whose elements are read come to the same rows as plain cells
when their times do. -/
theorem forall₂_plain_iff {xs : List (Binary64 × Binary64)}
    (hcells : ∀ p ∈ pairs, type.IsCell p.1 ∧ type.IsCell p.2)
    (hread : List.Forall₂ (fun p x => (type.element p.1).seconds? = some x.1 ∧
      (type.element p.2).double? = some x.2) pairs xs) :
    List.Forall₂ (fun p x => (type.plain p.1).seconds? = some x.1 ∧
        (type.plain p.2).double? = some x.2) pairs xs ↔
      ∀ p ∈ pairs, (type.plain p.1).seconds? = (type.element p.1).seconds? := by
  induction hread with
  | nil => exact iff_of_true .nil nofun
  | @cons p x pairs xs hp hrest ih =>
    obtain ⟨⟨_, hheight⟩, hcells⟩ := List.forall_mem_cons.1 hcells
    rw [List.forall₂_cons, List.forall_mem_cons, ih hcells, hp.1,
      and_iff_left (double?_plain hheight hp.2)]

/-! ## Ticks, plain and as elements -/

/-- The plain value of a tick with a date is at the microsecond of the
tick. -/
theorem seconds?_plainTick {t : Tick} {count : ℤ} (h : t.HasDate) (hcount : t.count = some count) :
    (plainTick t).seconds? =
      some (.ofIntQuotient (Tick.countAttos t.unit count / 1000000000000) 1000000) := by
  rw [plainTick_of_hasDate h hcount]
  split
  · rename_i hday
    have hdvd := Tick.days_dvd_countAttos hday count
    change some (Moment.epochSeconds (.ofDate (Date.ofEpochDays _))) = _
    rw [Moment.epochSeconds, Moment.epochMicros_ofDate, Date.epochDays_ofEpochDays]
    congr 2
    unfold secondsPerDay
    omega
  · change some (Moment.epochSeconds _) = _
    rw [Moment.epochSeconds, Tick.moment, Moment.epochMicros_ofEpochMicros]

/-- No time at all is not-a-number as a plain value, but a number of
seconds as an element. -/
theorem not_keepsInstant_of_none {t : Tick} (hcount : t.count = none) : ¬ t.KeepsInstant := by
  have hplain : plainTick t = .null := by
    unfold plainTick
    rw [hcount]
  have hseconds : t.epochSeconds =
      (Binary64.ofIntQuotient Tick.noTimeCount 1).divNat nanosPerSecond := by
    rw [Tick.epochSeconds, Tick.nanos, hcount]
  rw [Tick.KeepsInstant, hplain, hseconds]
  decide

/-- Of the ticks finer than a microsecond only the start of 1970 keeps
its instant. -/
theorem keepsInstant_iff_of_fine {t : Tick} (hfine : TickUnit.micro.fineness < t.unit.fineness)
    (hword : t.IsWord) : t.KeepsInstant ↔ t.count = some 0 := by
  cases hcount : t.count with
  | none => exact iff_of_false (not_keepsInstant_of_none hcount) nofun
  | some count =>
    rw [Tick.KeepsInstant, plainTick_of_fine hfine, hcount]
    change (int count).double? = _ ↔ _
    rw [double?_int, Tick.epochSeconds,
      Binary64.ofInt?_eq_divNat_iff (Tick.natAbs_nanos_le hfine hword hcount) (by decide),
      Option.some.injEq]

theorem element_tick {t : Tick} (hcell : type.IsCell (.tick t)) :
    type.element (.tick t) = .tick t := by
  cases type <;> first | rfl | cases hcell

/-- A tick with a date is no height. -/
theorem double?_of_hasDate {t : Tick} (h : t.HasDate) : (tick t).double? = none := by
  have ⟨_, count, hcount, _⟩ := h
  have hplain (i : ℤ) : plainTick t ≠ .int i := by
    rw [plainTick_of_hasDate h hcount]
    split <;> nofun
  change (realOfTick t).toOption = none
  unfold realOfTick
  split
  · exact absurd ‹_› (hplain _)
  · rfl

/-- A tick with a date does not keep its instant when its nanoseconds are
wrapped round. -/
theorem fitsNanos_of_keepsInstant {t : Tick} (hdate : t.HasDate) (h : t.KeepsInstant) :
    t.FitsNanos := by
  have ⟨hunit, count, hcount, _⟩ := hdate
  have hdvd := Tick.micros_dvd_countAttos hunit count
  rw [Tick.KeepsInstant, seconds?_plainTick hdate hcount, Tick.epochSeconds,
    Tick.nanos_eq hunit hcount, ← Tick.ofIntQuotient_micros, Option.some.injEq] at h
  by_contra hfits
  refine Tick.ofIntQuotient_ne_divNat_wrap ?_ h
  by_contra hin
  refine hfits ⟨count, hcount, ?_⟩
  unfold attosPerNano Tick.noTimeCount at *
  omega

/-- A tick keeps its instant when its nanoseconds are not wrapped round
and are a double. -/
theorem keepsInstant_of_fitsNanos {t : Tick} (hunit : t.unit.fineness ≤ TickUnit.micro.fineness)
    (hfits : t.FitsNanos) (hexact : t.unit.fineness ≤ TickUnit.minute.fineness ∨
      (Binary64.ofIntQuotient t.nanos 1).value = t.nanos) : t.KeepsInstant := by
  have hvalue : (Magnitude.nearest t.nanos.natAbs 1).value = t.nanos.natAbs :=
    hexact.elim (Tick.value_nearest_nanos · hfits) Binary64.value_nearest_natAbs
  have hdate := Tick.hasDate_of_fitsNanos hunit hfits
  obtain ⟨count, hcount, hlow, hhigh⟩ := hfits
  have hdvd := Tick.micros_dvd_countAttos hunit count
  have hwrap : Tick.wrap (Tick.countAttos t.unit count / 1000000000000 * 1000) =
      Tick.countAttos t.unit count / 1000000000000 * 1000 := by
    unfold attosPerNano Tick.noTimeCount at *
    exact Int.bmod_eq_of_le (by omega) (by omega)
  have hnanos := Tick.nanos_eq hunit hcount
  have hfinite := Tick.isFinite_nearest_wrap (Tick.countAttos t.unit count / 1000000000000 * 1000)
  rw [← hnanos] at hfinite
  rw [Tick.KeepsInstant, seconds?_plainTick hdate hcount, Tick.epochSeconds,
    Binary64.divNat_of_exact (by decide) hfinite hvalue, hnanos, hwrap, Tick.ofIntQuotient_micros]

/-- **Time pairs in several containers.** Where the list of the elements
of an array is read, the array comes to the same rows exactly when all
of its times that are ticks keep their instant. Of the ticks finer than
a microsecond only the start of 1970 does; of the others those do whose
nanoseconds fit into their word and are a double, as those of minutes
and of longer units are. Ticks with a date are no heights, so that a list
with them there is not read. Objects come to the same rows as a list of
lists and as a table, too. -/
theorem timePairs_array_iff (label : String)
    (hcells : ∀ p ∈ pairs, type.IsCell p.1 ∧ type.IsCell p.2) :
    ((∀ xs, timePairs label (elementPairs type pairs) = .ok xs →
        timePairs label (pairArray type pairs) = .ok xs) ↔
      ((∃ xs, timePairs label (elementPairs type pairs) = .ok xs) →
        ∀ unit, type = .tick unit → ∀ t b, (.tick t, b) ∈ pairs → t.KeepsInstant)) ∧
    (∀ t : Tick,
      (t.count = none → ¬ t.KeepsInstant) ∧
      (TickUnit.micro.fineness < t.unit.fineness → t.IsWord →
        (t.KeepsInstant ↔ t.count = some 0)) ∧
      (t.HasDate → t.KeepsInstant → t.FitsNanos) ∧
      (t.unit.fineness ≤ TickUnit.micro.fineness → t.FitsNanos →
        t.unit.fineness ≤ TickUnit.minute.fineness ∨
          (Binary64.ofIntQuotient t.nanos 1).value = t.nanos → t.KeepsInstant)) ∧
    (∀ a t, (a, .tick t) ∈ pairs → t.HasDate →
      ∀ xs, timePairs label (elementPairs type pairs) ≠ .ok xs) ∧
    (type = .object → ∀ xs, timePairs label (elementPairs type pairs) = .ok xs →
      timePairs label (pairLists pairs) = .ok xs ∧
      ∀ first second, timePairs label (pairFrame first second pairs) = .ok xs) := by
  have hkeeps : (∀ p ∈ pairs, (type.plain p.1).seconds? = (type.element p.1).seconds?) ↔
      ∀ unit, type = .tick unit → ∀ t b, (.tick t, b) ∈ pairs → t.KeepsInstant := by
    constructor
    · intro h unit htype t b hpair
      exact (seconds?_plain_iff (hcells _ hpair).1).1 (h _ hpair) unit htype t rfl
    · rintro h ⟨a, b⟩ hpair
      refine (seconds?_plain_iff (hcells _ hpair).1).2 fun unit htype t ht => ?_
      exact h unit htype t b (ht ▸ hpair)
  refine ⟨?_, ?_, ?_, ?_⟩
  · simp only [timePairs_elementPairs, timePairs_pairArray]
    constructor
    · rintro hsame ⟨xs, hxs⟩
      exact hkeeps.1 ((forall₂_plain_iff hcells hxs).1 (hsame xs hxs))
    · intro h xs hxs
      exact (forall₂_plain_iff hcells hxs).2 (hkeeps.2 (h ⟨xs, hxs⟩))
  · exact fun t => ⟨not_keepsInstant_of_none, keepsInstant_iff_of_fine, fitsNanos_of_keepsInstant,
      keepsInstant_of_fitsNanos⟩
  · intro a t hpair hdate xs hxs
    obtain ⟨x, -, hheight⟩ := exists_forall₂_iff.1 ⟨xs, timePairs_elementPairs.1 hxs⟩ _ hpair
    rw [element_tick (hcells _ hpair).2, double?_of_hasDate hdate] at hheight
    cases hheight
  · rintro rfl xs hxs
    have hread := timePairs_elementPairs.1 hxs
    exact ⟨timePairs_pairLists.2 hread, fun first second => timePairs_pairFrame.2 hread⟩

/-- An array of whole numbers comes to the rows of its elements. -/
theorem timePairs_array_wholeNumbers : ∃ xs,
    timePairs "timey" (elementPairs (.integer 64) [(.int 1, .int 2), (.int 3, .int 4)]) = .ok xs ∧
      timePairs "timey" (pairArray (.integer 64) [(.int 1, .int 2), (.int 3, .int 4)]) = .ok xs := by
  have hread : ∃ xs, timePairs "timey"
      (elementPairs (.integer 64) [(.int 1, .int 2), (.int 3, .int 4)]) = .ok xs := ⟨_, rfl⟩
  obtain ⟨xs, hxs⟩ := hread
  refine ⟨xs, hxs, (timePairs_array_iff "timey" (by simp [CellType.IsCell])).1.2 ?_ xs hxs⟩
  rintro - unit ⟨⟩

/-- A second after the start of 1970 in nanoseconds is read as their
number. -/
theorem not_timePairs_array_nanoseconds : ¬ ∀ xs,
    timePairs "timey" (elementPairs (.tick .nano)
      [(.tick ⟨.nano, some 1000000000⟩, .tick ⟨.nano, some 1000000000⟩)]) = .ok xs →
    timePairs "timey" (pairArray (.tick .nano)
      [(.tick ⟨.nano, some 1000000000⟩, .tick ⟨.nano, some 1000000000⟩)]) = .ok xs := by
  intro hsame
  obtain ⟨y, hy⟩ : ∃ y, (tick ⟨.nano, some 1000000000⟩).double? = some y :=
    Option.isSome_iff_exists.1 (by decide)
  have hread := hsame [(Tick.epochSeconds ⟨.nano, some 1000000000⟩, y)]
    (timePairs_elementPairs.2 (.cons ⟨rfl, hy⟩ .nil))
  have hkeeps : Tick.KeepsInstant ⟨.nano, some 1000000000⟩ :=
    ((List.forall₂_cons.1 (timePairs_pairArray.1 hread)).1).1
  have hcount := (keepsInstant_iff_of_fine (by decide)
    (by rintro _ ⟨⟩; exact ⟨by decide, by decide⟩)).1 hkeeps
  exact absurd hcount (by decide)

end Payload

end PlotPipe
