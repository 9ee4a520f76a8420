import PlotPipe.Proofs.Payload.Points
import PlotPipe.Proofs.Payload.Regular

/-!
# Payload — cells are read in order

The cells of a list, and those of a list of equally long rows, are read
one after the other, row by row. What such a list comes to is told from
its cells (`ReadsCells`, `ReadsPairs`): doubles for all of them, or what
the first cell fails with that has none. The width of the rows is only
looked at when every cell has been read.

A cell without a number is turned down by a failure that names it and the
index of its entry, unless it is a decimal, or cannot be shown
(`toCell_eq_naming_iff`). A decimal keeps the failure of its own
conversion, and where there is no text for a cell, the naming itself
fails (`reads_inOrder`).
-/

namespace PlotPipe

open Payload

namespace Datum

/-- **A cell without a number**: no double stands for it, and it is no
number that is too large. A signalling decimal is one, as is everything
that is no number at all. -/
structure IsNonNumeric (d : Datum) : Prop where
  double?_eq : d.double? = none
  not_isTooLarge : ¬ d.IsTooLarge

end Datum

namespace Payload

open Datum

variable {d : Datum} {label : String} {cells before after : List Datum} {rows : List Datum}
  {table : List (List Datum)} {width position : ℕ} {f : Failure}

/-- **What the cells of a list come to**: a double for each, in order, or
what the first cell that has none fails with, under its index. -/
inductive ReadsCells (label : String) (cells : List Datum) : Except Failure (List Binary64) → Prop
  | ok {xs : List Binary64} :
      List.Forall₂ (fun d x => d.double? = some x) cells xs → ReadsCells label cells (.ok xs)
  | error {before after : List Datum} {d : Datum} {f : Failure} :
      cells = before ++ d :: after → (∀ b ∈ before, b.double?.isSome) →
      toCell label before.length d = .error f → ReadsCells label cells (.error f)

/-- **What a list of rows comes to**: a pair for each row; a failure of
their width, where all cells have a double; or what the first cell that
has none fails with, under the index of its row. -/
inductive ReadsPairs (label : String) (table : List (List Datum)) :
    Except Failure (List (Binary64 × Binary64)) → Prop
  | ok {pairs : List (Binary64 × Binary64)} :
      List.Forall₂ (fun cells p => ∃ a b, cells = [a, b] ∧ a.double? = some p.1 ∧
        b.double? = some p.2) table pairs →
      ReadsPairs label table (.ok pairs)
  | width : (∀ cells ∈ table, cells.length ≠ 2 ∧ ∀ d ∈ cells, d.double?.isSome) →
      ReadsPairs label table (.error (.payload (.notPairs label)))
  | cell {above below : List (List Datum)} {before after : List Datum} {d : Datum} {f : Failure} :
      table = above ++ (before ++ d :: after) :: below →
      (∀ cells ∈ above, ∀ b ∈ cells, b.double?.isSome) → (∀ b ∈ before, b.double?.isSome) →
      toCell label above.length d = .error f → ReadsPairs label table (.error f)

/-! ## Cells without a number -/

/-- The failure that names a cell without a number, and the index of its
entry. -/
def naming (label : String) (index : ℕ) (d : Datum) : Failure :=
  .payload (.nonNumeric label index d.literal)

/-- A cell without a number fails with that, if it is no decimal. -/
theorem toCell_of_isNonNumeric (h : d.IsNonNumeric) (hexact : ∀ x, d ≠ .exact x) (label : String)
    (index : ℕ) : toCell label index d = .error (nonNumeric label index d) := by
  obtain ⟨hnone, hlarge⟩ := h
  fun_cases toCell label index d with
  | case1 => cases hnone
  | case2 x => exact absurd rfl (hexact x)
  | case3 | case4 | case5 => rfl
  | case6 => simp_all [double?, Except.toOption]
  | case7 => simp_all
  | case8 _ failure hfailure hkind =>
    -- Of the failures of a number only the one of a number that is too large is of another kind.
    have hreal := asDouble_toReal d
    rw [hfailure] at hreal
    cases hreal with
    | refused _ h => exact absurd h hkind
    | tooLarge h => exact absurd h hlarge

/-- A decimal without a number keeps the failure of its conversion. -/
theorem toCell_exact_of_isNonNumeric {x : Exact} (h : (Datum.exact x).IsNonNumeric)
    (label : String) (index : ℕ) :
    toCell label index (.exact x) = .error (.conversion .signallingDecimal) := by
  have hnone : x.toBinary64? = none := h.double?_eq
  rw [toCell, realOfExact, hnone]

/-- Where there is no text for a cell, it cannot be named. -/
theorem toCell_of_not_isShowable (h : d.IsNonNumeric) (hshow : d.isShowable = false)
    (label : String) (index : ℕ) :
    toCell label index d = .error (.conversion .tooManyDigitsToWrite) := by
  have hexact : ∀ x, d ≠ .exact x := by
    rintro x rfl
    cases hshow
  rw [toCell_of_isNonNumeric h hexact, nonNumeric, showing, hshow, if_neg Bool.false_ne_true]

/-- **When a cell without a number is named**: it can be shown, and is no
decimal. -/
theorem toCell_eq_naming_iff (h : d.IsNonNumeric) (label : String) (index : ℕ) :
    toCell label index d = .error (naming label index d) ↔
      d.isShowable = true ∧ ∀ x, d ≠ .exact x := by
  constructor
  · intro hnamed
    have hexact : ∀ x, d ≠ .exact x := by
      rintro x rfl
      rw [toCell_exact_of_isNonNumeric h] at hnamed
      cases hnamed
    refine ⟨?_, hexact⟩
    by_contra hshow
    rw [toCell_of_not_isShowable h (Bool.not_eq_true _ ▸ hshow)] at hnamed
    cases hnamed
  · rintro ⟨hshow, hexact⟩
    rw [toCell_of_isNonNumeric h hexact, nonNumeric, showing, if_pos hshow, naming]

/-! ## Where a list of cells fails -/

/-- Cells fail at the first one that is not read. -/
theorem exists_of_convertCells_eq_error {entry : ℕ → ℕ}
    (h : convertRows (fun position d => toCell label (entry position) d) position cells =
      .error f) :
    ∃ before d after, cells = before ++ d :: after ∧ (∀ b ∈ before, b.double?.isSome) ∧
      toCell label (entry (position + before.length)) d = .error f := by
  induction cells generalizing position with
  | nil => cases h
  | cons c rest ih =>
    rw [convertRows] at h
    rcases bind_eq_error.1 h with hc | ⟨x, hx, h⟩
    · exact ⟨[], c, rest, rfl, List.forall_mem_nil _, hc⟩
    · rcases bind_eq_error.1 h with hrest | ⟨_, -, h⟩
      · obtain ⟨before, d, after, rfl, hbefore, hd⟩ := ih hrest
        refine ⟨c :: before, d, after, rfl, ?_, ?_⟩
        · exact List.forall_mem_cons.2 ⟨exists_toCell_iff.1 ⟨x, hx⟩, hbefore⟩
        · rwa [List.length_cons, Nat.add_comm before.length, ← Nat.add_assoc]
      · cases h

/-- A cell of rows that are put behind each other is in one of them. -/
theorem exists_row_of_flatten_eq (h : table.flatten = before ++ d :: after) :
    ∃ above inRow behind below, table = above ++ (inRow ++ d :: behind) :: below ∧
      before = above.flatten ++ inRow := by
  induction table generalizing before with
  | nil => cases before <;> cases h
  | cons row rest ih =>
    rw [List.flatten_cons, List.append_eq_append_iff] at h
    rcases h with ⟨inside, rfl, hrest⟩ | ⟨behind, rfl, hrow⟩
    · obtain ⟨above, inRow, behind, below, rfl, rfl⟩ := ih hrest
      exact ⟨row :: above, inRow, behind, below, rfl, by simp⟩
    · cases behind with
      | nil =>
        have hsplit : rest.flatten = [] ++ d :: after := by simpa using hrow.symm
        obtain ⟨above, inRow, behind, below, rfl, hbefore⟩ := ih hsplit
        refine ⟨(before ++ []) :: above, inRow, behind, below, rfl, ?_⟩
        rw [List.flatten_cons, List.append_assoc, ← hbefore, List.append_nil, List.append_nil]
      | cons c behind =>
        obtain ⟨rfl, -⟩ := List.cons.inj hrow
        exact ⟨[], before, behind, rest, rfl, rfl⟩

theorem length_flatten_of_length_eq (h : ∀ cells ∈ table, cells.length = width) :
    table.flatten.length = table.length * width := by
  rw [List.length_flatten, List.map_congr_left h, List.map_const', List.sum_replicate,
    Nat.nsmul_eq_mul]

/-! ## The readings -/

/-- **The heights of a list of single cells** are those of its cells. -/
theorem readsCells_heights (hnest : d.IsNest cells) (hcells : ∀ c ∈ cells, c.isSingle = true) :
    ReadsCells label cells (heights label d) := by
  have hregular := isRegular_nest hnest hcells
  have hgrid : grid label d =
      (convertRows (fun position c => toCell label (position / 1) c) 0 cells).map
        (⟨[cells.length], ·⟩) := by
    rw [grid_of_isRegular hregular (by simp) (by simp [Outline.axisLimit]),
      leaves_nest_single hnest, convert_of_le (by simp [axisLimit]), toCells_eq_convertRows]
    simp
  rw [heights, hgrid]
  cases hread : convertRows (fun position c => toCell label (position / 1) c) 0 cells with
  | ok xs => exact .ok (convertCells_eq_ok_iff.1 hread)
  | error f =>
    obtain ⟨before, c, after, hsplit, hbefore, hc⟩ := exists_of_convertCells_eq_error hread
    rw [Nat.div_one, Nat.zero_add] at hc
    exact .error hsplit hbefore hc

/-- Each of several nests has items of its own. -/
theorem exists_isNest_of_mem {row : Datum} (h : List.Forall₂ IsNest rows table)
    (hrow : row ∈ rows) : ∃ cells ∈ table, row.IsNest cells := by
  induction h with
  | nil => cases hrow
  | cons hnest _ ih =>
    rcases List.mem_cons.1 hrow with rfl | hrow
    · exact ⟨_, List.mem_cons_self, hnest⟩
    · obtain ⟨cells, hcells, hitems⟩ := ih hrow
      exact ⟨cells, List.mem_cons_of_mem _ hcells, hitems⟩

/-- Rows of single cells are a regular nest, and its leaves are the cells
row by row. -/
theorem isRegular_rows (hnest : d.IsNest rows) (hrows : List.Forall₂ IsNest rows table)
    (hwidth : ∀ cells ∈ table, cells.length = width)
    (hcells : ∀ cells ∈ table, ∀ c ∈ cells, c.isSingle = true) (hne : table ≠ []) :
    d.IsRegular [table.length, width] ∧ d.leaves [table.length, width] = table.flatten := by
  constructor
  · refine isRegular_cons.2 ⟨rows, hnest, hrows.length_eq, ?_, fun row hrow => ?_⟩
    · rintro rfl
      exact absurd (List.forall₂_nil_left_iff.1 hrows) hne
    · obtain ⟨cells, hcell, hitems⟩ := exists_isNest_of_mem hrows hrow
      rw [← hwidth cells hcell]
      exact isRegular_nest hitems (hcells cells hcell)
  · rw [leaves_nest hnest]
    clear hwidth hcells hne hnest
    induction hrows with
    | nil => rfl
    | cons hrow _ ih => rw [List.flatMap_cons, List.flatten_cons, leaves_nest_single hrow, ih]

/-- Cells in twos that are read are read as pairs. -/
theorem forall₂_pairs {xs : List Binary64} (hwidth : ∀ cells ∈ table, cells.length = 2)
    (h : List.Forall₂ (fun d x => d.double? = some x) table.flatten xs) :
    List.Forall₂ (fun cells p => ∃ a b, cells = [a, b] ∧ a.double? = some p.1 ∧
      b.double? = some p.2) table (pairUp xs) := by
  induction table generalizing xs with
  | nil =>
    cases h
    exact .nil
  | cons cells rest ih =>
    obtain ⟨hcells, hrest⟩ := List.forall_mem_cons.1 hwidth
    obtain ⟨a, b, rfl⟩ := List.length_eq_two.1 hcells
    cases h with
    | cons ha h =>
      cases h with
      | cons hb h => exact .cons ⟨a, b, rfl, ha, hb⟩ (ih hrest h)

/-- **The points of equally long rows of single cells**: the cells row by
row, and then the width. -/
theorem readsPairs_points (hnest : d.IsNest rows) (hrows : List.Forall₂ IsNest rows table)
    (hwidth : ∀ cells ∈ table, cells.length = width)
    (hcells : ∀ cells ∈ table, ∀ c ∈ cells, c.isSingle = true) (hne : table ≠ [])
    (hpos : 0 < width) : ReadsPairs label table (points label d) := by
  obtain ⟨hregular, hleaves⟩ := isRegular_rows hnest hrows hwidth hcells hne
  have hgrid : grid label d =
      (convertRows (fun position c => toCell label (position / width) c) 0 table.flatten).map
        (⟨[table.length, width], ·⟩) := by
    rw [grid_of_isRegular hregular (by simp) (by simp [Outline.axisLimit]), hleaves,
      convert_of_le (by simp [axisLimit]), toCells_eq_convertRows]
    simp
  have hlength := length_flatten_of_length_eq hwidth
  cases hread : convertRows (fun position c => toCell label (position / width) c) 0
      table.flatten with
  | ok xs =>
    rw [hread] at hgrid
    rw [points_of_grid hgrid]
    have hxs := convertCells_eq_ok_iff.1 hread
    have hfull : xs.isEmpty = false := by
      rw [List.isEmpty_eq_false_iff, ← List.length_pos_iff, ← hxs.length_eq, hlength]
      exact Nat.mul_pos (List.length_pos_iff.2 hne) hpos
    rw [if_neg (by simp [hfull])]
    dsimp only
    split
    · rename_i hshape
      obtain ⟨-, rfl⟩ : table.length = _ ∧ width = 2 := by simpa using hshape
      exact .ok (forall₂_pairs hwidth hxs)
    · rename_i hshape
      refine .width fun cells hmem => ⟨?_, fun c hc => ?_⟩
      · rw [hwidth cells hmem]
        rintro rfl
        exact hshape _ rfl
      · exact exists_convertCells_iff.1 ⟨xs, hread⟩ c (List.mem_flatten_of_mem hmem hc)
  | error f =>
    obtain ⟨before, c, after, hsplit, hbefore, hc⟩ := exists_of_convertCells_eq_error hread
    obtain ⟨above, inRow, behind, below, rfl, rfl⟩ := exists_row_of_flatten_eq hsplit
    have hrow : above.flatten.length = above.length * width :=
      length_flatten_of_length_eq fun cells hmem => hwidth cells (by simp [hmem])
    have hinRow : inRow.length < width := by
      rw [← hwidth (inRow ++ c :: behind) (by simp), List.length_append, List.length_cons]
      omega
    have hindex : (0 + (above.flatten ++ inRow).length) / width = above.length := by
      rw [Nat.zero_add, List.length_append, hrow, Nat.add_comm, Nat.add_mul_div_right _ _ hpos,
        Nat.div_eq_of_lt hinRow, Nat.zero_add]
    rw [hindex] at hc
    rw [points, hgrid, hread]
    refine .cell rfl (fun cells hmem b hb => ?_) (fun b hb => ?_) hc
    · exact hbefore b (List.mem_append_left _ (List.mem_flatten_of_mem hmem hb))
    · exact hbefore b (List.mem_append_right _ hb)

/-- **Cells are read in order.** A list of single cells comes to heights
as its cells do, and a list of rows, of which there is one at least and
all have one width that is not zero, comes to points as its cells do row
by row. Nothing counts as not-a-number. A cell without a number is turned
down by name, under its index, exactly when it can be shown and is no
decimal; one that cannot be shown fails for its digits, and a decimal as
its conversion does. -/
theorem reads_inOrder (label : String) :
    (∀ d cells, d.IsNest cells → (∀ c ∈ cells, c.isSingle = true) →
      ReadsCells label cells (heights label d)) ∧
    (∀ d rows table width, d.IsNest rows → List.Forall₂ IsNest rows table → table ≠ [] →
      0 < width → (∀ cells ∈ table, cells.length = width ∧ ∀ c ∈ cells, c.isSingle = true) →
      ReadsPairs label table (points label d)) ∧
    Datum.null.double? = some .nan ∧
    (∀ d index, d.IsNonNumeric → (toCell label index d = .error (naming label index d) ↔
      d.isShowable = true ∧ ∀ x, d ≠ .exact x)) ∧
    (∀ d index, d.IsNonNumeric → d.isShowable = false →
      toCell label index d = .error (.conversion .tooManyDigitsToWrite)) ∧
    ∀ x index, (Datum.exact x).IsNonNumeric →
      toCell label index (.exact x) = .error (.conversion .signallingDecimal) :=
  ⟨fun _ _ => readsCells_heights,
    fun _ _ _ _ hnest hrows hne hpos htable => readsPairs_points hnest hrows
      (fun cells hmem => (htable cells hmem).1) (fun cells hmem => (htable cells hmem).2) hne hpos,
    rfl, fun _ index h => toCell_eq_naming_iff h label index,
    fun _ index h hshow => toCell_of_not_isShowable h hshow label index,
    fun _ index h => toCell_exact_of_isNonNumeric h label index⟩

/-- Two rows of three cells, of which the second one has a text. -/
theorem reads_inOrder_threeColumns :
    ReadsCells "y" [.null, .int 1, .text "a"] (heights "y" (.tuple [.null, .int 1, .text "a"])) ∧
    ReadsPairs "xy" [[.int 1, .null, .int 3], [.int 4, .text "a", .dict []]]
      (points "xy" (.list [.list [.int 1, .null, .int 3], .tuple [.int 4, .text "a", .dict []]])) ∧
    toCell "xy" 1 (.text "a") = .error (.payload (.nonNumeric "xy" 1 "'a'")) := by
  refine ⟨(reads_inOrder "y").1 _ _ (.inr rfl) (by decide), ?_, ?_⟩
  · exact (reads_inOrder "xy").2.1 _ _ _ 3 (.inl rfl)
      (.cons (.inl rfl) (.cons (.inr rfl) .nil)) (by simp) (by decide) (by decide)
  · exact ((reads_inOrder "xy").2.2.2.1 (.text "a") 1 ⟨rfl, nofun⟩).2 ⟨rfl, nofun⟩

/-- What a list of one cell fails with is what the cell fails with. -/
theorem toCell_of_heights_eq_error (hsingle : d.isSingle = true)
    (h : heights label (.list [d]) = .error f) : toCell label 0 d = .error f := by
  have hreads : ReadsCells label [d] (heights label (.list [d])) :=
    readsCells_heights (.inl rfl) (List.forall_mem_singleton.2 hsingle)
  rw [h] at hreads
  cases hreads with
  | @error before after c _ hsplit _ hc =>
    obtain ⟨rfl, rfl, rfl⟩ : before = [] ∧ c = d ∧ after = [] := by
      simpa [List.singleton_eq_append_iff] using hsplit
    exact hc

/-- Neither a signalling decimal is turned down by name, nor a dictionary
with an integer that has too many digits. -/
theorem heights_ne_naming :
    let signalling : Datum := .exact (.undefined false true 0)
    let unwritten : Datum := .dict [("a", .int unwritable)]
    signalling.IsNonNumeric ∧
      heights "y" (.list [signalling]) ≠ .error (naming "y" 0 signalling) ∧
      unwritten.IsNonNumeric ∧
      heights "y" (.list [unwritten]) ≠ .error (naming "y" 0 unwritten) := by
  have hsignalling : (exact (.undefined false true 0)).IsNonNumeric := ⟨rfl, nofun⟩
  have hunwritten : (dict [("a", .int unwritable)]).IsNonNumeric := ⟨rfl, nofun⟩
  refine ⟨hsignalling, fun h => ?_, hunwritten, fun h => ?_⟩
  · have hcell := toCell_of_heights_eq_error rfl h
    exact ((toCell_eq_naming_iff hsignalling "y" 0).1 hcell).2 _ rfl
  · have hcell := toCell_of_heights_eq_error rfl h
    have hshow := ((toCell_eq_naming_iff hunwritten "y" 0).1 hcell).1
    simp [isShowable, entriesShowable] at hshow

end Payload

end PlotPipe
