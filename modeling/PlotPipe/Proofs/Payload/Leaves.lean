import Mathlib.Algebra.BigOperators.Group.List.Basic
import Mathlib.Algebra.BigOperators.Ring.List
import PlotPipe.Proofs.Payload.Outline

/-!
# Payload — the cells of a nest

On axes that a nest conforms to it has **leaves**: what lies below the
last axis, in order, with the cells of the blocks that reach there
(`Datum.leaves`). A nest is cut into them unless one of its blocks has
more axes than are left for it, and is not a single cell
(`Datum.Fits`, `cutsInto_cellsOn`). Where the blocks are as large as their
axes say, there are as many leaves as the axes have places
(`length_leaves`).
-/

namespace PlotPipe

namespace Datum

variable {d : Datum} {axes : List ℕ} {items : List Datum}

/-- The leaves of a nest on axes. -/
def leaves : Datum → List ℕ → List Datum
  | d, [] => [d]
  | .list items, _ :: axes | .tuple items, _ :: axes => items.flatMap fun item => leaves item axes
  | .range start stop step, _ :: _ => rangeItems start stop step
  | d, _ :: _ => Payload.blockCells d

/-- **A nest fits axes**: the blocks in it have no more axes than are left
for them, or they are single cells. -/
def Fits : Datum → List ℕ → Prop
  | _, [] => True
  | .list items, _ :: axes | .tuple items, _ :: axes => ∀ item ∈ items, Fits item axes
  | .range _ _ _, _ :: _ => True
  | d, n :: axes => Outline.blockAxes d = n :: axes ∨ ∀ m ∈ Outline.blockAxes d, m = 1

/-- A value that is laid out as a block has as many cells as its axes
say. -/
def IsFilled : Datum → Prop
  | array _ shape cells => cells.length = cellCount shape
  | frame columns => ∃ count, ∀ column ∈ columns, column.2.2.length = count
  | _ => True

/-- **A complete nest**: every block in it has as many cells as its axes
say. -/
inductive IsComplete : Datum → Prop
  | nest {d : Datum} {items : List Datum} :
      d.IsNest items → (∀ item ∈ items, IsComplete item) → IsComplete d
  | range {start stop step : ℤ} : IsComplete (.range start stop step)
  | block {d : Datum} : d.isBlock = true → d.IsFilled → IsComplete d

theorem IsNest.unique {others : List Datum} (h : d.IsNest items) (h' : d.IsNest others) :
    items = others := by
  rcases h with rfl | rfl <;> rcases h' with h' | h' <;> cases h' <;> rfl

theorem IsNest.isBlock (h : d.IsNest items) : d.isBlock = false := by
  rcases h with rfl | rfl <;> rfl

theorem IsComplete.of_item (h : d.IsComplete) (hnest : d.IsNest items) :
    ∀ item ∈ items, item.IsComplete := by
  cases h with
  | nest hnest' hitems => exact hnest.unique hnest' ▸ hitems
  | range => rcases hnest with h | h <;> cases h
  | block hblock _ => cases hnest.isBlock.symm.trans hblock

end Datum

namespace Payload

open Datum

variable {d : Datum} {n : ℕ} {axes shape : List ℕ} {items : List Datum}

/-! ## Blocks in their places -/

theorem exists_replicate_append_dropUnitAxes (count : ℕ) (shape : List ℕ) :
    ∃ k, shape = List.replicate k 1 ++ dropUnitAxes count shape := by
  fun_induction dropUnitAxes count shape with
  | case1 rest hlt ih =>
    obtain ⟨k, hk⟩ := ih
    exact ⟨k + 1, congrArg _ hk⟩
  | case2 => exact ⟨0, rfl⟩
  | case3 => exact ⟨0, rfl⟩

/-- What begins with units and goes on with its own beginning has units
only. -/
theorem eq_one_of_replicate_append {k : ℕ} {rest : List ℕ}
    (h : List.replicate (k + 1) 1 ++ axes = axes ++ rest) : ∀ m ∈ axes, m = 1 := by
  induction axes generalizing k with
  | nil => simp
  | cons n axes ih =>
    rw [List.replicate_succ, List.cons_append, List.cons_append, List.cons.injEq] at h
    obtain ⟨rfl, h⟩ := h
    refine List.forall_mem_cons.2 ⟨rfl, ih (k := k) ?_⟩
    rw [← h, List.replicate_succ', List.append_assoc, List.singleton_append]

theorem dropUnitAxes_replicate {count k : ℕ} (h : count ≤ k) :
    dropUnitAxes count (List.replicate k 1) = List.replicate count 1 := by
  induction k with
  | zero =>
    obtain rfl := Nat.le_zero.1 h
    rfl
  | succ k ih =>
    rw [List.replicate_succ, dropUnitAxes, List.length_replicate]
    split
    · exact ih (by omega)
    · obtain rfl : count = k + 1 := by omega
      rfl

theorem dropUnitAxes_self (shape : List ℕ) : dropUnitAxes shape.length shape = shape := by
  unfold dropUnitAxes
  split
  · exact if_neg (by simp)
  · rfl

/-- An array of further axes than its place fits when all of them have
one cell. -/
theorem dropUnitAxes_eq_iff (h : axes <+: shape) :
    dropUnitAxes axes.length shape = axes ↔ shape = axes ∨ ∀ m ∈ shape, m = 1 := by
  constructor
  · intro heq
    obtain ⟨k, hk⟩ := exists_replicate_append_dropUnitAxes axes.length shape
    obtain ⟨rest, rfl⟩ := h
    rw [heq] at hk
    cases k with
    | zero => exact .inl hk
    | succ k =>
      have hunits := eq_one_of_replicate_append hk.symm
      rw [hk]
      exact .inr fun m hm => (List.mem_append.1 hm).elim List.eq_of_mem_replicate (hunits m)
  · rintro (rfl | hunits)
    · exact dropUnitAxes_self shape
    · have hshape := List.eq_replicate_of_mem hunits
      have haxes := List.eq_replicate_of_mem fun m hm => hunits m (h.subset hm)
      rw [hshape, dropUnitAxes_replicate h.length_le, ← haxes]

/-! ## Leaves -/

@[simp]
theorem leaves_nil (d : Datum) : d.leaves [] = [d] := by
  unfold leaves
  rfl

theorem leaves_nest (h : d.IsNest items) :
    d.leaves (n :: axes) = items.flatMap fun item => item.leaves axes := by
  rcases h with rfl | rfl <;> rw [leaves]

theorem leaves_block (h : d.isBlock = true) : d.leaves (n :: axes) = blockCells d := by
  cases d <;> first | rfl | cases h

@[simp]
theorem fits_nil (d : Datum) : d.Fits [] := by
  unfold Fits
  trivial

theorem fits_nest (h : d.IsNest items) :
    d.Fits (n :: axes) ↔ ∀ item ∈ items, item.Fits axes := by
  rcases h with rfl | rfl <;> rw [Fits]

theorem fits_block (h : d.isBlock = true) :
    d.Fits (n :: axes) ↔
      Outline.blockAxes d = n :: axes ∨ ∀ m ∈ Outline.blockAxes d, m = 1 := by
  cases d <;> first | rfl | cases h

theorem cellsOn_nil (d : Datum) : cellsOn [] d = .ok [d] := by
  unfold cellsOn
  rfl

theorem cellsOn_nest (h : d.IsNest items) : cellsOn (n :: axes) d = allCellsOn axes items := by
  rcases h with rfl | rfl <;> rw [cellsOn]

theorem cellsOn_block (h : d.isBlock = true) :
    cellsOn (n :: axes) d = fit (Outline.blockAxes d) (n :: axes) (blockCells d) := by
  cases d <;> first | rfl | cases h

/-- How a nest is cut into its leaves: it is cut where it fits, and
otherwise some array finds no place. -/
inductive CutsInto (fits : Prop) (leaves : List Datum) : Except Failure (List Datum) → Prop
  | ok : fits → CutsInto fits leaves (.ok leaves)
  | notFitting (source target : List ℕ) :
      ¬ fits → CutsInto fits leaves (.error (.array (.notFitting source target)))

theorem CutsInto.congr {fits fits' : Prop} {leaves : List Datum} {x : Except Failure (List Datum)}
    (h : CutsInto fits leaves x) (hfits : fits ↔ fits') : CutsInto fits' leaves x := by
  cases h with
  | ok h => exact .ok (hfits.1 h)
  | notFitting source target h => exact .notFitting source target (hfits.not.1 h)

theorem cutsInto_allCellsOn
    (h : ∀ item ∈ items, CutsInto (item.Fits axes) (item.leaves axes) (cellsOn axes item)) :
    CutsInto (∀ item ∈ items, item.Fits axes) (items.flatMap fun item => item.leaves axes)
      (allCellsOn axes items) := by
  induction items with
  | nil =>
    rw [allCellsOn]
    exact .ok nofun
  | cons d rest ih =>
    obtain ⟨hd, hrest⟩ := List.forall_mem_cons.1 h
    have ih := ih hrest
    rw [allCellsOn, List.flatMap_cons]
    refine CutsInto.congr ?_ List.forall_mem_cons.symm
    generalize cellsOn axes d = cells, allCellsOn axes rest = others at hd ih
    cases hd with
    | notFitting source target hfits => exact .notFitting source target fun h => hfits h.1
    | ok hfits =>
      cases ih with
      | notFitting source target hothers => exact .notFitting source target fun h => hothers h.2
      | ok hothers => exact .ok ⟨hfits, hothers⟩

/-- **A nest is cut into its leaves** on axes that it conforms to exactly
when it fits them. -/
theorem cutsInto_cellsOn (h : d.Conforms axes) :
    CutsInto (d.Fits axes) (d.leaves axes) (cellsOn axes d) := by
  induction d using nest_induction generalizing axes with
  | nest d items hnest ih =>
    cases axes with
    | nil => rw [cellsOn_nil]; exact .ok (fits_nil d)
    | cons n axes =>
      rw [cellsOn_nest hnest, leaves_nest hnest]
      refine CutsInto.congr (cutsInto_allCellsOn fun item hitem => ?_) (fits_nest hnest).symm
      exact ih item hitem (((conforms_nest hnest).1 h).2.2 item hitem)
  | range start stop step =>
    cases axes <;> exact .ok trivial
  | block d hblock =>
    cases axes with
    | nil => rw [cellsOn_nil]; exact .ok (fits_nil d)
    | cons n axes =>
      have hbegins := (conforms_block hblock).1 h
      rw [cellsOn_block hblock, leaves_block hblock, fit]
      refine CutsInto.congr ?_ ((dropUnitAxes_eq_iff hbegins).trans (fits_block hblock).symm)
      split
      · exact .ok ‹_›
      · exact .notFitting _ _ ‹_›

/-! ## How many leaves there are -/

theorem cellCount_eq_prod (shape : List ℕ) : cellCount shape = shape.prod := List.prod_eq_foldl.symm

@[simp]
theorem cellCount_nil : cellCount [] = 1 := rfl

@[simp]
theorem cellCount_cons (n : ℕ) (shape : List ℕ) : cellCount (n :: shape) = n * cellCount shape := by
  rw [cellCount_eq_prod, cellCount_eq_prod, List.prod_cons]

/-- There is no place on axes of which one is empty. -/
theorem cellCount_eq_zero_iff : cellCount shape = 0 ↔ 0 ∈ shape := by
  induction shape with
  | nil => simp
  | cons n shape ih => rw [cellCount_cons, Nat.mul_eq_zero, ih, List.mem_cons, eq_comm]

theorem cellCount_eq_one (h : ∀ m ∈ shape, m = 1) : cellCount shape = 1 := by
  rw [cellCount_eq_prod, List.eq_replicate_of_mem h, List.prod_replicate, one_pow]

theorem length_transpose {columns : List (List Datum)} (hne : columns ≠ [])
    (h : ∀ column ∈ columns, column.length = n) :
    (transpose columns).length = n ∧ ∀ row ∈ transpose columns, row.length = columns.length := by
  fun_induction transpose columns with
  | case1 => exact absurd rfl hne
  | case2 column =>
    simp_all
  | case3 column rest hrest ih =>
    obtain ⟨hcolumn, hothers⟩ := List.forall_mem_cons.1 h
    obtain ⟨hlength, hrows⟩ := ih (by rintro rfl; exact hrest rfl) hothers
    refine ⟨by simp [hcolumn, hlength], fun row hrow => ?_⟩
    obtain ⟨i, hi, rfl⟩ := List.mem_iff_getElem.1 hrow
    simp [hrows]

@[simp]
theorem length_rangeFrom (step : ℤ) (count : ℕ) (start : ℤ) :
    (rangeFrom step count start).length = count := by
  induction count generalizing start with
  | zero => rfl
  | succ count ih => rw [rangeFrom, List.length_cons, ih]

theorem length_columnArray (type : CellType) (cells : List Datum) :
    (columnArray type cells).2.length = cells.length := by
  unfold columnArray
  split
  · rfl
  · rfl
  · dsimp only
    split <;> [rfl; split <;> simp]
  · rfl

theorem length_flatten_transpose {columns : List (List Datum)} (hne : columns ≠ [])
    (h : ∀ column ∈ columns, column.length = n) :
    (transpose columns).flatten.length = n * columns.length := by
  obtain ⟨hlength, hrows⟩ := length_transpose hne h
  rw [List.length_flatten, List.map_congr_left hrows, List.map_const', List.sum_replicate,
    Nat.nsmul_eq_mul, hlength]

theorem length_tableArray {columns : List (String × CellType × List Datum)}
    (h : (Datum.frame columns).IsFilled) :
    (tableArray columns).2.2.length = cellCount (Outline.blockAxes (.frame columns)) := by
  obtain ⟨count, hcount⟩ := h
  unfold tableArray
  split
  · simp [length_columnArray, Outline.blockAxes]
  · cases columns with
    | nil => rfl
    | cons column rest =>
      dsimp only
      rw [length_flatten_transpose (n := count) (by simp) ?_]
      · simp [Outline.blockAxes, hcount column]
      · refine List.forall_mem_map.2 fun column hcolumn => ?_
        rw [List.length_map, hcount column hcolumn]

theorem length_blockCells (hfilled : d.IsFilled) :
    (blockCells d).length = cellCount (Outline.blockAxes d) := by
  cases d with
  | array type shape cells => simpa [blockCells, Outline.blockAxes, IsFilled] using hfilled
  | buffer bs => simp [blockCells, Outline.blockAxes]
  | column type index cells => simp [blockCells, Outline.blockAxes, length_columnArray]
  | frame columns =>
    rw [blockCells, List.length_map, length_tableArray hfilled]
  | _ => rfl

/-- **A complete nest has as many leaves as its axes have places.** -/
theorem length_leaves (hcomplete : d.IsComplete) (h : d.Conforms axes) (hfits : d.Fits axes) :
    (d.leaves axes).length = cellCount axes := by
  induction hcomplete generalizing axes with
  | @nest d items hnest hitems ih =>
    cases axes with
    | nil => simp
    | cons n axes =>
      obtain ⟨hlength, -, hconforms⟩ := (conforms_nest hnest).1 h
      obtain rfl : items.length = n := hlength n rfl
      have hleaves : ∀ item ∈ items, (item.leaves axes).length = cellCount axes := fun item hitem =>
        ih item hitem (hconforms item hitem) ((fits_nest hnest).1 hfits item hitem)
      rw [leaves_nest hnest, List.length_flatMap, List.map_congr_left hleaves, List.map_const',
        List.sum_replicate, cellCount_cons, Nat.nsmul_eq_mul]
  | @range start stop step =>
    cases axes with
    | nil => simp
    | cons n axes =>
      obtain ⟨hhead, rfl : axes = []⟩ := conforms_range.1 h
      obtain ⟨rfl, -⟩ := hhead n rfl
      simp [leaves, rangeItems]
  | @block d hblock hfilled =>
    cases axes with
    | nil => simp
    | cons n axes =>
      rw [leaves_block hblock, length_blockCells hfilled]
      rcases (fits_block hblock).1 hfits with heq | hunits
      · rw [heq]
      · have hbegins := (conforms_block hblock).1 h
        rw [cellCount_eq_one hunits, cellCount_eq_one fun m hm => hunits m (hbegins.subset hm)]

end Payload

end PlotPipe
