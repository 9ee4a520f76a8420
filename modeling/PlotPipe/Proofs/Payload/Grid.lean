import PlotPipe.Proofs.Payload.Cells
import PlotPipe.Proofs.Payload.Leaves

/-!
# Payload — when a grid is read

The grid of a payload has the leaves of its longest axes as cells. It is
read when each of them is, and what breaks it is told from the payload
alone (`Datum.BreaksGrid`, `escapes_grid_iff`): an array that does not
fit into the place that is left for it, more axes than can be gone
through, or a cell that breaks, where all the cells before it are read.
-/

namespace PlotPipe

namespace Datum

variable {d : Datum} {axes : List ℕ}

/-- **The longest axes** that a nest conforms to. -/
structure IsOutline (d : Datum) (axes : List ℕ) : Prop where
  conforms : d.Conforms axes
  length_le : axes.length ≤ Outline.axisLimit
  longest : ∀ other, d.Conforms other → other.length ≤ Outline.axisLimit → other <+: axes

/-- The walk through a nest finds its longest axes. -/
theorem isOutline_iff : d.IsOutline axes ↔ axes = Outline.ofNest d := by
  constructor
  · rintro ⟨hconforms, hlength, hlongest⟩
    have hle := Outline.prefix_ofNest_iff.2 ⟨hlength, hconforms⟩
    obtain ⟨hlength', hconforms'⟩ :=
      Outline.prefix_ofNest_iff.1 (List.prefix_refl (Outline.ofNest d))
    exact hle.eq_of_length_le (hlongest _ hconforms' hlength').length_le
  · rintro rfl
    obtain ⟨hlength, hconforms⟩ := Outline.prefix_ofNest_iff.1 (List.prefix_refl (Outline.ofNest d))
    exact ⟨hconforms, hlength, fun other h hlen => Outline.prefix_ofNest_iff.2 ⟨hlen, h⟩⟩

theorem isOutline_ofNest (d : Datum) : d.IsOutline (Outline.ofNest d) := isOutline_iff.2 rfl

/-- What an array, a column or a table is as an array: its cell type,
its axes and its cells. -/
def arrayForm? : Datum → Option (CellType × List ℕ × List Datum)
  | array type shape cells => some (type, shape, cells)
  | column type _ cells =>
    let (type, cells) := Payload.columnArray type cells
    some (type, [cells.length], cells)
  | frame columns => some (Payload.tableArray columns)
  | _ => none

/-- **Cells break** on axes on which they are converted one by one: there
are too many axes, or the first cell that is not read breaks. -/
def BreaksCells (axes : List ℕ) (cells : List Datum) : Prop :=
  Payload.axisLimit < axes.length ∨ Payload.BreaksFirst (·.double?.isSome) Breaks cells

/-- **A payload breaks as a grid.** The cells of an array of numbers are
taken as they stand, so that only other arrays can break. -/
inductive BreaksGrid (d : Datum) : Prop
  | array {type : CellType} {shape : List ℕ} {cells : List Datum} :
      d.arrayForm? = some (type, shape, cells) → type.isNumber = false →
      BreaksCells shape (cells.map type.element) → BreaksGrid d
  | misfit {axes : List ℕ} : d.isBlock = false → d.IsOutline axes → ¬ d.Fits axes → BreaksGrid d
  | leaves {axes : List ℕ} : d.isBlock = false → d.IsOutline axes →
      BreaksCells axes (d.leaves axes) → BreaksGrid d

theorem isBlock_of_arrayForm? {form : CellType × List ℕ × List Datum}
    (h : d.arrayForm? = some form) : d.isBlock = true := by
  cases d <;> first | rfl | cases h

theorem breaksGrid_nest_iff (h : d.isBlock = false) :
    d.BreaksGrid ↔ ¬ d.Fits (Outline.ofNest d) ∨
      BreaksCells (Outline.ofNest d) (d.leaves (Outline.ofNest d)) := by
  constructor
  · rintro (⟨hform, -, -⟩ | ⟨-, hout, hfits⟩ | ⟨-, hout, hbreaks⟩)
    · cases h.symm.trans (isBlock_of_arrayForm? hform)
    · exact .inl (isOutline_iff.1 hout ▸ hfits)
    · exact .inr (isOutline_iff.1 hout ▸ hbreaks)
  · rintro (hfits | hbreaks)
    · exact .misfit h (isOutline_ofNest d) hfits
    · exact .leaves h (isOutline_ofNest d) hbreaks

theorem breaksGrid_array_iff {type : CellType} {shape : List ℕ} {cells : List Datum}
    (h : d.arrayForm? = some (type, shape, cells)) :
    d.BreaksGrid ↔ type.isNumber = false ∧ BreaksCells shape (cells.map type.element) := by
  have hblock : ¬ d.isBlock = false := by simp [isBlock_of_arrayForm? h]
  constructor
  · rintro (⟨hform, htype, hbreaks⟩ | ⟨hnest, -, -⟩ | ⟨hnest, -, -⟩)
    · cases h.symm.trans hform
      exact ⟨htype, hbreaks⟩
    · exact absurd hnest hblock
    · exact absurd hnest hblock
  · exact fun ⟨htype, hbreaks⟩ => .array h htype hbreaks

theorem not_breaksGrid (hblock : d.isBlock = true) (hform : d.arrayForm? = none) :
    ¬ d.BreaksGrid := by
  rintro (⟨h, -, -⟩ | ⟨h, -, -⟩ | ⟨h, -, -⟩)
  · cases hform.symm.trans h
  · cases hblock.symm.trans h
  · cases hblock.symm.trans h

end Datum

namespace Payload

open Datum

variable {d : Datum} {label : String} {axes : List ℕ} {cells : List Datum} {g : Grid Binary64}

/-! ## Cells one by one -/

theorem convert_of_le (h : axes.length ≤ axisLimit) :
    convert label axes cells =
      (toCells label (cellCount (axes.drop 1)) 0 cells).map (⟨axes, ·⟩) := by
  unfold convert
  rw [if_neg (not_lt.2 h)]
  rfl

theorem convert_of_lt (h : axisLimit < axes.length) :
    convert label axes cells = .error (.array (.tooManyAxes axes.length)) := if_pos h

theorem convert_eq_ok_iff :
    convert label axes cells = .ok g ↔
      axes.length ≤ axisLimit ∧ g.shape = axes ∧
        List.Forall₂ (fun d x => d.double? = some x) cells g.cells := by
  rcases Nat.lt_or_ge axisLimit axes.length with hlimit | hlimit
  · rw [convert_of_lt hlimit]
    exact iff_of_false nofun fun h => absurd h.1 (not_le.2 hlimit)
  · rw [convert_of_le hlimit, map_eq_ok, and_iff_right hlimit]
    simp only [toCells_eq_convertRows, convertCells_eq_ok_iff]
    constructor
    · rintro ⟨xs, hxs, rfl⟩
      exact ⟨rfl, hxs⟩
    · rintro ⟨rfl, hxs⟩
      exact ⟨g.cells, hxs, rfl⟩

theorem escapes_convert_iff : Escapes (convert label axes cells) ↔ BreaksCells axes cells := by
  rcases Nat.lt_or_ge axisLimit axes.length with hlimit | hlimit
  · rw [convert_of_lt hlimit]
    exact iff_of_true ⟨_, rfl, nofun⟩ (.inl hlimit)
  · rw [convert_of_le hlimit, escapes_map, toCells_eq_convertRows, escapes_convertCells_iff,
      BreaksCells, or_iff_right (not_lt.2 hlimit)]

/-! ## The grid of a payload -/

theorem grid_of_arrayForm? {type : CellType} (h : d.arrayForm? = some (type, axes, cells)) :
    grid label d = gridOfArray label type axes cells := by
  cases d with
  | array type shape cells => cases h; rfl
  | column type index cells => cases h; rfl
  | frame columns =>
    have hform : tableArray columns = (type, axes, cells) := Option.some.inj h
    rw [grid, hform]
  | _ => cases h

theorem grid_of_isBlock (h : d.isBlock = false) :
    grid label d =
      cellsOn (Outline.ofNest d) d >>= fun cells => convert label (Outline.ofNest d) cells := by
  cases d <;> first | rfl | cases h

theorem grid_of_none (hblock : d.isBlock = true) (hform : d.arrayForm? = none) :
    grid label d = .error (.payload (.unsupported label d.typePath)) := by
  cases d with
  | list | tuple | range => cases hblock
  | array | column | frame => cases hform
  | _ => rfl

/-- **What a grid breaks at** is told from the payload alone. -/
theorem escapes_grid_iff : Escapes (grid label d) ↔ d.BreaksGrid := by
  cases hform : d.arrayForm? with
  | some form =>
    obtain ⟨type, shape, cells⟩ := form
    rw [grid_of_arrayForm? hform, breaksGrid_array_iff hform, gridOfArray]
    cases type.isNumber with
    | true => exact iff_of_false (not_escapes_ok _) nofun
    | false => simpa using escapes_convert_iff
  | none =>
    cases hblock : d.isBlock with
    | true =>
      rw [grid_of_none hblock hform]
      exact iff_of_false (fun h => escapes_error.1 h rfl) (not_breaksGrid hblock hform)
    | false =>
      have hcuts := cutsInto_cellsOn (isOutline_ofNest d).conforms
      rw [grid_of_isBlock hblock, breaksGrid_nest_iff hblock]
      generalize cellsOn (Outline.ofNest d) d = cells at hcuts
      cases hcuts with
      | ok hfits => exact escapes_convert_iff.trans (or_iff_right (not_not.2 hfits)).symm
      | notFitting source target hfits => exact iff_of_true ⟨_, rfl, nofun⟩ (.inl hfits)

/-- A nest is read when it fits its outline, on which it has no more axes
than can be gone through, and all its leaves are read. -/
theorem grid_eq_ok_iff (h : d.isBlock = false) :
    grid label d = .ok g ↔
      d.Fits (Outline.ofNest d) ∧ (Outline.ofNest d).length ≤ axisLimit ∧
        g.shape = Outline.ofNest d ∧
        List.Forall₂ (fun d x => d.double? = some x) (d.leaves (Outline.ofNest d)) g.cells := by
  have hcuts := cutsInto_cellsOn (isOutline_ofNest d).conforms
  rw [grid_of_isBlock h]
  generalize cellsOn (Outline.ofNest d) d = cells at hcuts
  cases hcuts with
  | ok hfits => exact convert_eq_ok_iff.trans (and_iff_right hfits).symm
  | notFitting source target hfits => exact iff_of_false nofun fun h => hfits h.1

theorem escapes_heights_iff : Escapes (heights label d) ↔ d.BreaksGrid := by
  rw [heights, escapes_bind, escapes_grid_iff]
  refine or_iff_left ?_
  rintro ⟨g, -, h⟩
  split at h
  · exact not_escapes_ok _ h
  · exact escapes_error.1 h rfl

theorem escapes_points_iff : Escapes (points label d) ↔ d.BreaksGrid := by
  rw [points, escapes_bind, escapes_grid_iff]
  refine or_iff_left ?_
  rintro ⟨g, -, h⟩
  split at h
  · exact not_escapes_ok _ h
  · split at h
    · exact not_escapes_ok _ h
    · exact escapes_error.1 h rfl

end Payload

end PlotPipe
