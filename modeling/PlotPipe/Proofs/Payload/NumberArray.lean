import PlotPipe.Proofs.Number.Order
import PlotPipe.Proofs.Payload.Containers
import PlotPipe.Proofs.Payload.Points
import PlotPipe.Proofs.Payload.Regular

/-!
# Payload — an array of numbers and its nested lists

The cells of an array of numbers are taken as they stand; those of its
nested lists are found by going through the lists, and are converted one
by one. Both come to the same doubles. The lists show the axes of the
array up to the first empty one (`visibleAxes`), which makes no
difference, since nothing is in them either way; but cells are converted
one by one on at most 32 axes, and an array has no such limit
(`numberArray_agrees_iff`).
-/

namespace PlotPipe

open Payload

/-- Cells of the type are numbers of at most 64 bits. -/
def CellType.IsNumeric : CellType → Prop
  | integer bits | natural bits | floating bits => bits ≤ 64
  | truth => True
  | _ => False

/-- **An array of numbers**: as many cells as its axes say, each of which
its type can hold. -/
structure IsNumberArray (type : CellType) (shape : List ℕ) (cells : List Datum) : Prop where
  isNumeric : type.IsNumeric
  isCell : ∀ c ∈ cells, type.IsCell c
  holds : ∀ i, .int i ∈ cells → type.holds i = true
  filled : cells.length = Datum.cellCount shape

/-- The axes of an array that its nested lists show: nothing is below an
empty one. -/
def visibleAxes : List ℕ → List ℕ
  | [] => []
  | 0 :: _ => [0]
  | (n + 1) :: shape => (n + 1) :: visibleAxes shape

/-- **Two readings agree**: both give the same rows, or both turn the
payload down with the same failure. -/
inductive Agree {α : Type} : Except Failure α → Except Failure α → Prop
  | ok (rows : α) : Agree (.ok rows) (.ok rows)
  | error {f : Failure} : f.kind = .seriesData → Agree (.error f) (.error f)

namespace Agree

variable {α : Type} {x y : Except Failure α}

theorem not_escapes (h : Agree x y) : ¬ Escapes y := by
  cases h with
  | ok rows => exact not_escapes_ok rows
  | error hkind => exact fun hescapes => escapes_error.1 hescapes hkind

theorem of_not_escapes (h : ¬ Escapes x) : Agree x x := by
  cases x with
  | ok rows => exact .ok rows
  | error f => exact .error (not_not.1 (mt escapes_error.2 h))

end Agree

section VisibleAxes

variable {shape : List ℕ} {limit : ℕ}

theorem visibleAxes_eq_nil_iff : visibleAxes shape = [] ↔ shape = [] := by
  fun_cases visibleAxes shape <;> simp

theorem visibleAxes_of_not_mem (h : 0 ∉ shape) : visibleAxes shape = shape := by
  fun_induction visibleAxes shape with
  | case1 => rfl
  | case2 => simp at h
  | case3 n shape ih => rw [ih fun hmem => h (List.mem_cons_of_mem _ hmem)]

theorem length_visibleAxes_le_iff :
    (visibleAxes shape).length ≤ limit + 1 ↔
      shape.length ≤ limit + 1 ∨ 0 ∈ shape.take (limit + 1) := by
  induction shape generalizing limit with
  | nil => simp [visibleAxes]
  | cons n shape ih =>
    cases n with
    | zero => simp [visibleAxes]
    | succ n =>
      cases limit with
      | zero => simp [visibleAxes, visibleAxes_eq_nil_iff]
      | succ limit => simp [visibleAxes, ih]

end VisibleAxes

namespace Datum

variable {type : CellType} {shape : List ℕ} {cells : List Datum} {size count : ℕ}

/-! ## Pieces of one size -/

theorem length_chunks (size count : ℕ) (cells : List Datum) :
    (chunks size count cells).length = count := by
  induction count generalizing cells with
  | zero => rfl
  | succ count ih => rw [chunks, List.length_cons, ih]

/-- The pieces make up the list again. -/
theorem flatten_chunks (h : cells.length = count * size) :
    (chunks size count cells).flatten = cells := by
  induction count generalizing cells with
  | zero => exact (List.length_eq_zero_iff.1 (by simpa using h)).symm
  | succ count ih =>
    have hrest : (cells.drop size).length = count * size := by
      rw [List.length_drop, h, Nat.succ_mul, Nat.add_sub_cancel]
    rw [chunks, List.flatten_cons, ih hrest, List.take_append_drop]

theorem length_of_mem_chunks (h : cells.length = count * size) :
    ∀ piece ∈ chunks size count cells, piece.length = size := by
  induction count generalizing cells with
  | zero => nofun
  | succ count ih =>
    have hlength : cells.length = count * size + size := by rw [h, Nat.succ_mul]
    refine List.forall_mem_cons.2 ⟨?_, ih ?_⟩
    · rw [List.length_take]
      omega
    · rw [List.length_drop]
      omega

/-- Pieces of one cell are the cells. -/
theorem map_nested_chunks_one (type : CellType) (cells : List Datum) :
    (chunks 1 cells.length cells).map (nested type []) = cells.map type.plain := by
  induction cells with
  | nil => rfl
  | cons c cells ih => exact congrArg (type.plain c :: ·) ih

/-- The nested lists of an array of one axis or more are those of the
pieces along its first axis. -/
theorem nested_cons (type : CellType) (h : cells.length = cellCount (count :: shape)) :
    nested type (count :: shape) cells =
      list ((chunks (cellCount shape) count cells).map (nested type shape)) := by
  cases shape with
  | cons n shape => rfl
  | nil =>
    obtain rfl : cells.length = count := by simpa using h
    rw [cellCount_nil, map_nested_chunks_one]
    rfl

/-! ## Nested lists are regular -/

/-- **Nested lists of single cells** are a regular nest on the visible
axes, and their leaves are the cells. -/
theorem isRegular_nested (hcells : ∀ c ∈ cells, (type.plain c).isSingle = true)
    (hfilled : cells.length = cellCount shape) :
    (nested type shape cells).IsRegular (visibleAxes shape) ∧
      (nested type shape cells).leaves (visibleAxes shape) = cells.map type.plain := by
  induction shape generalizing cells with
  | nil =>
    obtain ⟨c, rfl⟩ := List.length_eq_one_iff.1 hfilled
    exact ⟨isRegular_nil.2 (hcells c (by simp)), leaves_nil _⟩
  | cons n shape ih =>
    rw [nested_cons type hfilled]
    rw [cellCount_cons] at hfilled
    have hpieces := length_of_mem_chunks hfilled
    have hflatten := flatten_chunks hfilled
    have hlength := length_chunks (cellCount shape) n cells
    generalize chunks (cellCount shape) n cells = pieces at *
    subst hflatten hlength
    have hbelow (piece : List Datum) (hmem : piece ∈ pieces) :=
      ih (fun c hc => hcells c (List.mem_flatten_of_mem hmem hc)) (hpieces piece hmem)
    cases pieces with
    | nil => exact ⟨isRegular_nest (.inl rfl) nofun, leaves_nest (.inl rfl)⟩
    | cons piece pieces =>
      constructor
      · refine isRegular_cons.2 ⟨_, .inl rfl, by simp, nofun,
          List.forall_mem_map.2 fun piece hmem => ?_⟩
        exact (hbelow piece hmem).1
      · rw [List.length_cons, visibleAxes, leaves_nest (.inl rfl), List.flatMap_map,
          List.map_flatten, List.flatMap_def]
        exact congrArg List.flatten (List.map_congr_left fun piece hmem => (hbelow piece hmem).2)

end Datum

namespace IsNumberArray

open Datum

variable {type : CellType} {shape : List ℕ} {cells : List Datum} {c : Datum} {label : String}

theorem isNumber (h : IsNumberArray type shape cells) : type.isNumber = true := by
  have hnumeric := h.isNumeric
  cases type <;> first | rfl | cases hnumeric

/-- The integers of an array are at most 64 bits wide. -/
theorem natAbs_le (h : IsNumberArray type shape cells) {i : ℤ} (hmem : .int i ∈ cells) :
    i.natAbs ≤ 18446744073709551616 := by
  have hholds := h.holds i hmem
  have hcell := h.isCell _ hmem
  have hnumeric := h.isNumeric
  have hword {bits : ℕ} (hbits : bits ≤ 64) : Nat.pow 2 bits ≤ 18446744073709551616 :=
    Nat.pow_le_pow_right (by decide) hbits
  cases type with
  | integer bits =>
    have hpow := hword ((Nat.sub_le bits 1).trans hnumeric)
    simp only [CellType.holds, Bool.and_eq_true, decide_eq_true_eq] at hholds
    omega
  | natural bits =>
    have hpow := hword hnumeric
    simp only [CellType.holds, Bool.and_eq_true, decide_eq_true_eq] at hholds
    omega
  | floating | truth => cases hcell
  | _ => cases hnumeric

theorem double?_int (h : IsNumberArray type shape cells) {i : ℤ} (hmem : .int i ∈ cells) :
    (int i).double? = some (numberCell (.int i)) := by
  rw [Payload.double?_int, Binary64.ofInt?_eq_some_iff]
  exact ⟨rfl, Magnitude.isFinite_nearest_of_le (h.natAbs_le hmem)⟩

/-- **A cell is the double that it is converted to.** -/
theorem double?_plain (h : IsNumberArray type shape cells) (hmem : c ∈ cells) :
    (type.plain c).isSingle = true ∧ (type.plain c).double? = some (numberCell c) := by
  have hcell := h.isCell c hmem
  have hnumeric := h.isNumeric
  unfold CellType.IsCell at hcell
  split at hcell
  · exact ⟨rfl, h.double?_int hmem⟩
  · exact ⟨rfl, h.double?_int hmem⟩
  · exact ⟨rfl, rfl⟩
  · rename_i b
    cases b <;> exact ⟨rfl, rfl⟩
  · cases hnumeric
  · cases hnumeric
  · cases hcell

/-- The nested lists of an array, as a regular nest. -/
theorem isRegular (h : IsNumberArray type shape cells) :
    (nested type shape cells).IsRegular (visibleAxes shape) :=
  (isRegular_nested (fun _ hc => (h.double?_plain hc).1) h.filled).1

/-- The grid of an array has the doubles of its cells on its axes. -/
theorem grid_array (h : IsNumberArray type shape cells) :
    grid label (.array type shape cells) = .ok ⟨shape, cells.map numberCell⟩ := if_pos h.isNumber

/-- The grid of the nested lists has them on the visible ones. -/
theorem grid_nested (h : IsNumberArray type shape cells) (hne : shape ≠ [])
    (hlimit : (visibleAxes shape).length ≤ axisLimit) :
    grid label (nested type shape cells) = .ok ⟨visibleAxes shape, cells.map numberCell⟩ := by
  have hleaves := (isRegular_nested (fun _ hc => (h.double?_plain hc).1) h.filled).2
  rw [grid_of_isRegular h.isRegular (mt visibleAxes_eq_nil_iff.1 hne)
    (hlimit.trans (by decide)), hleaves, convert_eq_ok_iff]
  refine ⟨hlimit, rfl, ?_⟩
  rw [List.forall₂_map_left_iff, List.forall₂_map_right_iff, List.forall₂_same]
  exact fun c hc => (h.double?_plain hc).2

/-- So has the grid of the array of its cells as objects. -/
theorem grid_objects (h : IsNumberArray type shape cells) (hlimit : shape.length ≤ axisLimit) :
    grid label (.array .object shape (cells.map type.plain)) =
      .ok ⟨shape, cells.map numberCell⟩ := by
  refine convert_eq_ok_iff.2 ⟨hlimit, rfl, ?_⟩
  rw [List.map_map, List.forall₂_map_left_iff, List.forall₂_map_right_iff, List.forall₂_same]
  exact fun c hc => (h.double?_plain hc).2

/-- An array of one axis has its cells as heights, and so do its list and
its copy as objects. -/
theorem heights_eq {n : ℕ} (h : IsNumberArray type [n] cells) :
    heights label (.array type [n] cells) = .ok (cells.map numberCell) ∧
      heights label (nested type [n] cells) = .ok (cells.map numberCell) ∧
      heights label (.array .object [n] (cells.map type.plain)) = .ok (cells.map numberCell) := by
  have hvisible : visibleAxes [n] = [n] := by cases n <;> rfl
  have hlimit : [n].length ≤ axisLimit := by simp [axisLimit]
  rw [heights, heights, heights, h.grid_array, h.grid_objects hlimit,
    h.grid_nested (List.cons_ne_nil n []) (by rwa [hvisible]), hvisible]
  exact ⟨rfl, rfl, rfl⟩

/-- Neither reading of an array breaks. -/
theorem not_escapes_points (h : IsNumberArray type shape cells) :
    ¬ Escapes (points label (.array type shape cells)) := by
  rw [escapes_points_iff, breaksGrid_array_iff rfl, h.isNumber]
  nofun

/-- Where the visible axes can be gone through, the points are those of
the array. -/
theorem points_nested (h : IsNumberArray type shape cells) (hne : shape ≠ [])
    (hlimit : (visibleAxes shape).length ≤ axisLimit) :
    points label (nested type shape cells) = points label (.array type shape cells) := by
  rw [points_of_grid (h.grid_nested hne hlimit), points_of_grid h.grid_array]
  by_cases hempty : cells = []
  · rw [hempty]
    rfl
  · have hzero : 0 ∉ shape := by
      rw [← cellCount_eq_zero_iff, ← h.filled, List.length_eq_zero_iff]
      exact hempty
    rw [visibleAxes_of_not_mem hzero]

/-- Where they cannot, the nested lists break. -/
theorem escapes_points_nested (h : IsNumberArray type shape cells)
    (hlimit : axisLimit < (visibleAxes shape).length) :
    Escapes (points label (nested type shape cells)) := by
  have hprefix : (visibleAxes shape).take (axisLimit + 1) <+:
      Outline.ofNest (nested type shape cells) :=
    Outline.prefix_ofNest_iff.2
      ⟨(List.length_take_le _ _).trans (by decide),
        h.isRegular.conforms_iff.2 (List.take_prefix _ _)⟩
  have hlong := hprefix.length_le
  rw [List.length_take_of_le hlimit] at hlong
  have hnest : (nested type shape cells).isBlock = false := by
    cases shape with
    | nil => cases hlimit
    | cons n shape => rw [nested_cons type h.filled]; rfl
  exact escapes_points_iff.2 ((breaksGrid_nest_iff hnest).2 (.inr (.inl hlong)))

/-- **When the points of an array are those of its nested lists.** -/
theorem agree_points_iff (h : IsNumberArray type shape cells) (hne : shape ≠ []) :
    Agree (points label (.array type shape cells)) (points label (nested type shape cells)) ↔
      shape.length ≤ axisLimit ∨ 0 ∈ shape.take axisLimit := by
  rw [show axisLimit = 31 + 1 from rfl, ← length_visibleAxes_le_iff]
  constructor
  · intro hagree
    by_contra hlimit
    exact hagree.not_escapes (h.escapes_points_nested (not_le.1 hlimit))
  · intro hlimit
    rw [h.points_nested hne hlimit]
    exact .of_not_escapes h.not_escapes_points

/-- Integers as an array of words. -/
theorem of_words {values : List ℤ} (hholds : ∀ i ∈ values, (CellType.integer 64).holds i = true)
    (hfilled : values.length = cellCount shape) :
    IsNumberArray (.integer 64) shape (values.map .int) where
  isNumeric := Nat.le_refl 64
  isCell := List.forall_mem_map.2 fun _ _ => trivial
  holds i hmem := by
    obtain ⟨_, hi, ⟨⟩⟩ := List.mem_map.1 hmem
    exact hholds i hi
  filled := (List.length_map _).trans hfilled

end IsNumberArray

namespace Payload

open Datum

variable {type : CellType} {shape : List ℕ} {cells : List Datum}

/-- **An array of numbers and its nested lists.** The heights of an array
of one axis are those of its list and of its copy as objects. The points
of an array agree with those of its nested lists when it has no more than
32 axes, or an empty one among the first 32. -/
theorem numberArray_agrees_iff (label : String) (h : IsNumberArray type shape cells)
    (hne : shape ≠ []) :
    (∀ n, shape = [n] → ∃ xs, heights label (.array type [n] cells) = .ok xs ∧
      heights label (nested type [n] cells) = .ok xs ∧
      heights label (.array .object [n] (cells.map type.plain)) = .ok xs) ∧
    (Agree (points label (.array type shape cells)) (points label (nested type shape cells)) ↔
      shape.length ≤ axisLimit ∨ 0 ∈ shape.take axisLimit) :=
  ⟨fun _ hshape => ⟨_, (hshape ▸ h).heights_eq⟩, h.agree_points_iff hne⟩

/-- Two integers, of which one is no double, as heights and as a point. -/
theorem numberArray_agrees_words :
    (∃ xs, heights "y" (.array (.integer 64) [2] [.int 9007199254740993, .int (-1)]) = .ok xs ∧
      heights "y" (nested (.integer 64) [2] [.int 9007199254740993, .int (-1)]) = .ok xs ∧
      heights "y" (.array .object [2] [.int 9007199254740993, .int (-1)]) = .ok xs) ∧
    Agree (points "xy" (.array (.integer 64) [1, 2] [.int 9007199254740993, .int (-1)]))
      (points "xy" (nested (.integer 64) [1, 2] [.int 9007199254740993, .int (-1)])) := by
  have hwords : ∀ i ∈ [9007199254740993, -1], (CellType.integer 64).holds i = true := by decide
  constructor
  · exact (numberArray_agrees_iff "y" (.of_words hwords (by decide)) (by decide)).1 2 rfl
  · exact (numberArray_agrees_iff "xy" (.of_words hwords (by decide)) (by decide)).2.2
      (.inl (by decide))

/-- One number on 33 axes is turned down as an array, and breaks as
nested lists. -/
theorem not_agree_manyAxes :
    ¬ Agree (points "xy" (.array (.integer 64) (List.replicate 33 1) [.int 1]))
      (points "xy" (nested (.integer 64) (List.replicate 33 1) [.int 1])) := by
  have harray : IsNumberArray (.integer 64) (List.replicate 33 1) ([1].map .int) :=
    .of_words (by decide) (by decide)
  exact fun hagree => absurd ((harray.agree_points_iff (by decide)).1 hagree) (by decide)

end Payload

end PlotPipe
