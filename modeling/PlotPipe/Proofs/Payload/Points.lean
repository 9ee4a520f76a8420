import PlotPipe.Proofs.Payload.Grid
import PlotPipe.Series

/-!
# Payload — points are kept

The points of a list of rows are its rows, one for one, where each row
is a pair of cells. What is turned down is turned down before a point is
lost, with one exception: a list that can be laid out on axes of which
one is empty (`Datum.IsHollow`) has no points, however many rows it has
(`keepsPairs_iff`).
-/

namespace PlotPipe

open Payload

namespace Datum

variable {d row a b : Datum} {rows : List Datum} {axes : List ℕ}

/-- **A pair**: a sequence of exactly two cells. -/
inductive IsPair : Datum → Datum → Datum → Prop
  | nest {row a b : Datum} : row.IsNest [a, b] → IsPair row a b
  | range {start stop step : ℤ} {a b : Datum} :
      rangeItems start stop step = [a, b] → IsPair (.range start stop step) a b
  | block {row a b : Datum} : row.isBlock = true → Outline.blockAxes row = [2] →
      blockCells row = [a, b] → IsPair row a b

/-- **A hollow nest** can be laid out on axes of which one is empty. -/
def IsHollow (d : Datum) : Prop :=
  ∃ axes, d.Conforms axes ∧ axes.length ≤ Outline.axisLimit ∧ 0 ∈ axes

theorem isHollow_iff : d.IsHollow ↔ 0 ∈ Outline.ofNest d := by
  constructor
  · rintro ⟨axes, hconforms, hlength, hzero⟩
    exact (Outline.prefix_ofNest_iff.2 ⟨hlength, hconforms⟩).subset hzero
  · intro hzero
    have hout := isOutline_ofNest d
    exact ⟨_, hout.conforms, hout.length_le, hzero⟩

/-- What conforms to an axis of two places and fits it is a pair. -/
theorem exists_isPair (hcomplete : row.IsComplete) (h : row.Conforms [2]) (hfits : row.Fits [2]) :
    ∃ a b, row.IsPair a b ∧ row.leaves [2] = [a, b] := by
  obtain ⟨a, b, hleaves⟩ := List.length_eq_two.1 (length_leaves hcomplete h hfits)
  refine ⟨a, b, ?_, hleaves⟩
  induction row using nest_induction with
  | nest row items hnest =>
    rw [leaves_nest hnest] at hleaves
    simp only [leaves_nil, List.flatMap_singleton'] at hleaves
    exact .nest (hleaves ▸ hnest)
  | range start stop step => exact .range hleaves
  | block row hblock =>
    rw [leaves_block hblock] at hleaves
    refine .block hblock ?_ hleaves
    have hbegins := (conforms_block hblock).1 h
    exact ((fits_block hblock).1 hfits).resolve_right fun hunits =>
      absurd (hunits 2 (hbegins.subset (by simp))) (by decide)

end Datum

namespace Payload

open Datum

variable {d : Datum} {rows : List Datum} {label : String} {g : Grid Binary64}

/-- **Pairs are not lost**: the result has one point for each row, in
order, with the doubles of its two cells, and rows of another width are
turned down by the payload. -/
def KeepsPairs (rows : List Datum) : Except Failure (List (Binary64 × Binary64)) → Prop
  | .ok points => List.Forall₂
      (fun row p => ∃ a b, row.IsPair a b ∧ a.double? = some p.1 ∧ b.double? = some p.2) rows points
  | .error failure => (∃ row ∈ rows, ¬ ∃ a b, row.IsPair a b) → failure.kind = .seriesData

theorem points_of_grid (h : grid label d = .ok g) :
    points label d =
      if g.cells.isEmpty then .ok []
      else
        match g.shape with
        | [_, 2] => .ok (pairUp g.cells)
        | _ => .error (.payload (.notPairs label)) := by
  rw [points, h]
  rfl

/-- A list without leaves has no points. -/
theorem points_of_isHollow (hnest : d.isBlock = false) (hcomplete : d.IsComplete)
    (hbreaks : ¬ d.BreaksGrid) (hhollow : d.IsHollow) : points label d = .ok [] := by
  rw [breaksGrid_nest_iff hnest, not_or, not_not, BreaksCells, not_or, not_lt] at hbreaks
  obtain ⟨hfits, hlimit, -⟩ := hbreaks
  have hconforms := (isOutline_ofNest d).conforms
  have hleaves : d.leaves (Outline.ofNest d) = [] := by
    rw [← List.length_eq_zero_iff, length_leaves hcomplete hconforms hfits, cellCount_eq_zero_iff]
    exact isHollow_iff.1 hhollow
  rw [points_of_grid (g := ⟨Outline.ofNest d, []⟩)
    ((grid_eq_ok_iff hnest).2 ⟨hfits, hlimit, rfl, hleaves ▸ .nil⟩)]
  rfl

/-- The doubles of the leaves of several pairs are paired up again. -/
theorem forall₂_pairUp {xs : List Binary64}
    (hrows : ∀ row ∈ rows, ∃ a b, row.IsPair a b ∧ row.leaves [2] = [a, b])
    (h : List.Forall₂ (fun d x => d.double? = some x) (rows.flatMap fun row => row.leaves [2]) xs) :
    KeepsPairs rows (.ok (pairUp xs)) := by
  induction rows generalizing xs with
  | nil =>
    cases h
    exact .nil
  | cons row rows ih =>
    obtain ⟨⟨a, b, hpair, hleaves⟩, hrest⟩ := List.forall_mem_cons.1 hrows
    rw [List.flatMap_cons, hleaves] at h
    cases h with
    | cons ha h =>
      cases h with
      | cons hb h => exact .cons ⟨a, b, hpair, ha, hb⟩ (ih hrest h)

/-- A list with leaves has a point for each of its rows. -/
theorem keepsPairs_of_points {pairs : List (Binary64 × Binary64)} (hnest : d.IsNest rows)
    (hcomplete : d.IsComplete) (hhollow : ¬ d.IsHollow) (h : points label d = .ok pairs) :
    KeepsPairs rows (.ok pairs) := by
  obtain ⟨g, hg, -⟩ := bind_eq_ok.1 h
  obtain ⟨hfits, -, hshape, hcells⟩ := (grid_eq_ok_iff hnest.isBlock).1 hg
  have hconforms := (isOutline_ofNest d).conforms
  have hlength := length_leaves hcomplete hconforms hfits
  rw [points_of_grid hg] at h
  split at h
  · rename_i hempty
    rw [hcells.length_eq, List.isEmpty_iff.1 hempty] at hlength
    exact absurd (isHollow_iff.2 (cellCount_eq_zero_iff.1 hlength.symm)) hhollow
  split at h
  case h_2 => cases h
  rename_i n heq
  rw [← hshape, heq] at hcells hfits hconforms
  obtain rfl := Except.ok.inj h
  rw [leaves_nest hnest] at hcells
  refine forall₂_pairUp
    (fun row hrow => exists_isPair (hcomplete.of_item hnest row hrow) ?_ ?_) hcells
  · exact ((conforms_nest hnest).1 hconforms).2.2 row hrow
  · exact (fits_nest hnest).1 hfits row hrow

theorem keepsPairs_points_iff (label : String) (hnest : d.IsNest rows) (hcomplete : d.IsComplete) :
    KeepsPairs rows (points label d) ↔
      (¬ d.BreaksGrid → d.IsHollow → rows = []) ∧
      (d.BreaksGrid → ∀ row ∈ rows, ∃ a b, row.IsPair a b) := by
  by_cases hbreaks : d.BreaksGrid
  · have hescapes : Escapes (points label d) := escapes_points_iff.2 hbreaks
    obtain ⟨failure, hpoints, hkind⟩ := hescapes
    rw [hpoints]
    simp [KeepsPairs, hbreaks, hkind]
  · simp only [hbreaks, not_false_eq_true, forall_const, false_implies, and_true]
    by_cases hhollow : d.IsHollow
    · rw [points_of_isHollow hnest.isBlock hcomplete hbreaks hhollow]
      simp [KeepsPairs, hhollow]
    · refine iff_of_true ?_ fun h => absurd h hhollow
      cases hpoints : points label d with
      | ok pairs => exact keepsPairs_of_points hnest hcomplete hhollow hpoints
      | error failure =>
        intro _
        by_contra hkind
        exact hbreaks (escapes_points_iff.1 ⟨failure, hpoints, hkind⟩)

/-- A series of data draws what its data are read as. -/
theorem read_of_ofData {style : PlotStyle} {layout : Layout} {styling : Styling} {series : Series}
    (h : Series.ofData style layout d styling = .ok series) :
    Trace.read layout d = .ok series.trace := by
  obtain ⟨trace, htrace, h⟩ := bind_eq_ok.1 h
  rw [Series.ofTrace] at h
  split at h
  all_goals
    obtain ⟨color, -, h⟩ := bind_eq_ok.1 h
    obtain rfl := pure_eq_ok.1 h
    exact htrace

/-- A series of points draws the points that its data have. -/
theorem trace_of_ofData {style : PlotStyle} {styling : Styling} {series : Series}
    (h : Series.ofData style .points d styling = .ok series) :
    ∃ pairs, points "xy" d = .ok pairs ∧ series.trace = .points pairs := by
  obtain ⟨pairs, hpairs, htrace⟩ := map_eq_ok.1 (read_of_ofData h)
  exact ⟨pairs, hpairs, htrace.symm⟩

/-- **When pairs are kept.** Where nothing breaks the payload, pairs are
lost from a hollow list that has rows, and from no other. Where the
payload breaks, a row of another width is not turned down as such. A
series of points draws the pairs as they are. -/
theorem keepsPairs_iff (label : String) (hnest : d.IsNest rows) (hcomplete : d.IsComplete) :
    (KeepsPairs rows (points label d) ↔
      (¬ d.BreaksGrid → d.IsHollow → rows = []) ∧
      (d.BreaksGrid → ∀ row ∈ rows, ∃ a b, row.IsPair a b)) ∧
    ∀ style styling series, Series.ofData style .points d styling = .ok series →
      ∃ pairs, points "xy" d = .ok pairs ∧ series.trace = .points pairs :=
  ⟨keepsPairs_points_iff label hnest hcomplete, fun _ _ _ => trace_of_ofData⟩

/-- A list of two rows keeps their pairs, in their order. -/
theorem keepsPairs_twoPairs :
    KeepsPairs [.tuple [.int 1, .int 2], .list [.int 4, .int 3]]
        (points "xy" (.list [.tuple [.int 1, .int 2], .list [.int 4, .int 3]])) ∧
      points "xy" (.list [.tuple [.int 1, .int 2], .list [.int 4, .int 3]]) =
        .ok [(.ofIntQuotient 1 1, .ofIntQuotient 2 1),
          (.ofIntQuotient 4 1, .ofIntQuotient 3 1)] := by
  have hint (i : ℤ) : (int i).IsComplete := .block rfl trivial
  have hfirst : (tuple [.int 1, .int 2]).IsComplete := .nest (.inr rfl) (by simp [hint])
  have hsecond : (list [.int 4, .int 3]).IsComplete := .nest (.inl rfl) (by simp [hint])
  have hlist : (list [.tuple [.int 1, .int 2], .list [.int 4, .int 3]]).IsComplete :=
    .nest (.inl rfl) (List.forall_mem_cons.2 ⟨hfirst, List.forall_mem_singleton.2 hsecond⟩)
  refine ⟨(keepsPairs_iff "xy" (.inl rfl) hlist).1.2 ⟨fun _ hhollow => ?_, fun _ => ?_⟩, ?_⟩
  · rw [isHollow_iff] at hhollow
    exact absurd hhollow (by decide)
  · exact List.forall_mem_cons.2 ⟨⟨.int 1, .int 2, .nest (.inr rfl)⟩,
      List.forall_mem_singleton.2 ⟨.int 4, .int 3, .nest (.inl rfl)⟩⟩
  · rfl

/-- Two rows without cells are lost. -/
theorem not_keepsPairs_emptyRows :
    ¬ KeepsPairs [.list [], .list []] (points "xy" (.list [.list [], .list []])) := by
  rw [show points "xy" (.list [.list [], .list []]) = .ok [] from rfl]
  nofun

end Payload

end PlotPipe
