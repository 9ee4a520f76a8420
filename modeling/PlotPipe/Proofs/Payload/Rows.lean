import PlotPipe.Proofs.Payload.Grid

/-!
# Payload — when rows with a time are read

Rows with a time are taken apart one by one. Which rows a payload has
(`Datum.HasRows`), which of them are read (`Datum.IsTimePair`,
`Datum.IsCandle`) and which break the payload (`Datum.BreaksTimePair`,
`Datum.BreaksCandle`) is told from the rows alone, and of several rows
it is the first one that is not read that counts.
-/

namespace PlotPipe

open Payload

namespace Datum

variable {d : Datum} {label : String} {index : ℕ}

/-! ## Going through a value -/

/-- The values that can be gone through, item by item. -/
def isIterable : Datum → Bool
  | text _ | cell .text (text _) | bytes _ | buffer _ | list _ | tuple _ | dict _ | column _ _ _
  | frame _ => true
  | range start stop step => rangeLength start stop step < lengthLimit
  | array _ shape _ => !shape.isEmpty
  | _ => false

/-- How a value is gone through: it has items, or it fails in a way that
is not one of the payload. -/
inductive GoesThrough {α : Type} (iterable : Bool) : Except Failure α → Prop
  | ok (items : α) : iterable = true → GoesThrough iterable (.ok items)
  | error {failure : Failure} :
      iterable = false → failure.kind ≠ .seriesData → GoesThrough iterable (.error failure)

section GoesThrough

variable {α : Type} {iterable : Bool} {x : Except Failure α}

theorem GoesThrough.escapes_iff (h : GoesThrough iterable x) : Escapes x ↔ iterable = false := by
  cases h with
  | ok items h => exact iff_of_false (not_escapes_ok items) (by simp [h])
  | error h hkind => exact iff_of_true (escapes_error.2 hkind) h

end GoesThrough

theorem goesThrough_measuredRange (start stop step : ℤ) :
    GoesThrough (rangeLength start stop step < lengthLimit) (measuredRange start stop step) := by
  unfold measuredRange
  dsimp only
  split
  · exact .ok _ (by simpa)
  · rename_i hlong
    exact .error (decide_eq_false hlong) nofun

theorem GoesThrough.map {α β : Type} {iterable : Bool} {x : Except Failure α} {f : α → β}
    (h : GoesThrough iterable x) : GoesThrough iterable (x.map f) := by
  cases h with
  | ok items h => exact .ok _ h
  | error h hkind => exact .error h hkind

theorem goesThrough_items (d : Datum) : GoesThrough d.isIterable d.items := by
  fun_cases items d with
  | case7 start stop step => exact (goesThrough_measuredRange start stop step).map
  | case9 => exact .error rfl nofun
  | case10 type shape cells hshape =>
    refine .ok _ ?_
    cases shape with
    | nil => exact (hshape rfl).elim
    | cons n shape => rfl
  | case13 =>
    refine .error ?_ nofun
    unfold isIterable
    split <;> simp_all
  | _ => exact .ok _ rfl

theorem goesThrough_rowCells (row : Datum) : GoesThrough row.isIterable (rowCells row) := by
  unfold rowCells
  split
  · exact .error rfl nofun
  · exact (goesThrough_measuredRange _ _ _).map (f := fun _ => _)
  · exact goesThrough_items row

/-- Of a row of few cells all are given. -/
theorem rowCells_eq_ok_iff {row : Datum} {cells : List Datum} (h : cells.length < 6) :
    rowCells row = .ok cells ↔ row.items = .ok cells := by
  unfold rowCells
  split
  · exact iff_of_false nofun nofun
  · rename_i start stop step
    rw [items, map_eq_ok, bind_eq_ok]
    refine exists_congr fun length => and_congr_right fun hlength => ?_
    obtain rfl : rangeLength start stop step = length := by
      unfold measuredRange at hlength
      dsimp only at hlength
      split at hlength
      · exact Except.ok.inj hlength
      · cases hlength
    rw [pure_eq_ok, rangeItems]
    -- a list of this length is not cut off
    have hshort (count : ℕ) (hcells : (rangeFrom step count start).map int = cells) :
        count < 6 := by
      rw [← hcells] at h
      simpa using h
    constructor
    · intro hcells
      have := hshort _ hcells
      rwa [show min (rangeLength start stop step) 6 = rangeLength start stop step by omega] at hcells
    · intro hcells
      have := hshort _ hcells
      rwa [show min (rangeLength start stop step) 6 = rangeLength start stop step by omega]
  · rfl

/-! ## Times -/

/-- A value that is a time by its kind. -/
def isTime : Datum → Bool
  | stamp _ | tick _ | moment _ | date _ => true
  | _ => false

/-- **The seconds of a time** from the start of 1970. What is no time by
its kind counts as seconds already. -/
def seconds? : Datum → Option Binary64
  | stamp s => some s.moment.epochSeconds
  | tick t => some t.epochSeconds
  | moment m => some m.epochSeconds
  | date day => some (Moment.ofDate day).epochSeconds
  | d => d.double?

/-- **A time breaks** its payload when it is the time of a table cell that
has none, or a cell that breaks and is no time. -/
def BreaksTime (d : Datum) : Prop := d = .noTime ∨ d.isTime = false ∧ d.Breaks

theorem seconds_eq_ok_iff {x : Binary64} : seconds label index d = .ok x ↔ d.seconds? = some x := by
  cases d <;> simp [seconds, seconds?, toCell_eq_ok_iff, double?, toReal, Except.toOption]

theorem escapes_seconds_iff : Escapes (seconds label index d) ↔ d.BreaksTime := by
  fun_cases seconds label index d with
  | case4 => exact iff_of_true ⟨_, rfl, nofun⟩ (.inl rfl)
  | case6 _ hstamp htick hmoment hnoTime hdate =>
    have htime : d.isTime = false := by
      unfold isTime
      split <;> simp_all
    exact escapes_toCell_iff.trans (by simp [BreaksTime, htime, show d ≠ noTime from hnoTime])
  | _ => exact iff_of_false (not_escapes_ok _) (by simp [BreaksTime, isTime])

/-! ## Rows of a time and a height -/

/-- **A row of a time and a height**, with the doubles of both. -/
def IsTimePair (row : Datum) (x : Binary64 × Binary64) : Prop :=
  ∃ time height, row.items = .ok [time, height] ∧ time.seconds? = some x.1 ∧
    height.double? = some x.2

/-- **A row of a time and a height breaks** its payload. -/
inductive BreaksTimePair (row : Datum) : Prop
  | unopened : row.isIterable = false → BreaksTimePair row
  | time {time height : Datum} :
      row.items = .ok [time, height] → time.BreaksTime → BreaksTimePair row
  | height {time height : Datum} : row.items = .ok [time, height] → time.seconds?.isSome →
      height.Breaks → BreaksTimePair row

theorem timePair_eq_ok_iff {row : Datum} {x : Binary64 × Binary64} :
    timePair label index row = .ok x ↔ row.IsTimePair x := by
  rw [timePair, bind_eq_ok]
  constructor
  · rintro ⟨cells, hcells, h⟩
    split at h
    case h_2 => cases h
    rename_i time height
    obtain ⟨t, ht, h⟩ := bind_eq_ok.1 h
    obtain ⟨y, hy, h⟩ := bind_eq_ok.1 h
    obtain rfl := pure_eq_ok.1 h
    exact ⟨time, height, (rowCells_eq_ok_iff (by simp)).1 hcells, seconds_eq_ok_iff.1 ht,
      toCell_eq_ok_iff.1 hy⟩
  · rintro ⟨time, height, hitems, ht, hy⟩
    refine ⟨_, (rowCells_eq_ok_iff (by simp)).2 hitems, ?_⟩
    simp only [seconds_eq_ok_iff.2 ht, toCell_eq_ok_iff.2 hy]
    rfl

theorem escapes_timePair_iff {row : Datum} :
    Escapes (timePair label index row) ↔ row.BreaksTimePair := by
  rw [timePair, escapes_bind, (goesThrough_rowCells row).escapes_iff]
  constructor
  · rintro (h | ⟨cells, hcells, h⟩)
    · exact .unopened h
    split at h
    case h_2 => exact absurd rfl (escapes_error.1 h)
    rename_i time height
    have hitems := (rowCells_eq_ok_iff (by simp)).1 hcells
    rw [escapes_bind, escapes_seconds_iff] at h
    obtain h | ⟨t, ht, h⟩ := h
    · exact .time hitems h
    rw [escapes_bind, escapes_toCell_iff] at h
    obtain h | ⟨y, -, h⟩ := h
    · exact .height hitems (Option.isSome_iff_exists.2 ⟨t, seconds_eq_ok_iff.1 ht⟩) h
    · exact absurd h (not_escapes_ok _)
  · rintro (h | ⟨hitems, h⟩ | ⟨hitems, ht, h⟩)
    · exact .inl h
    all_goals refine .inr ⟨_, (rowCells_eq_ok_iff (by simp)).2 hitems, ?_⟩
    · exact escapes_bind.2 (.inl (escapes_seconds_iff.2 h))
    · obtain ⟨t, ht⟩ := Option.isSome_iff_exists.1 ht
      refine escapes_bind.2 (.inr ⟨t, seconds_eq_ok_iff.2 ht, ?_⟩)
      exact escapes_bind.2 (.inl (escapes_toCell_iff.2 h))

/-! ## Candles -/

/-- **A row splits** into a time and prices, which are a group of their
own or the rest of a row of five. -/
inductive SplitsInto (row : Datum) : Datum → List Datum → Prop
  | group {time group : Datum} {prices : List Datum} : row.items = .ok [time, group] →
      isPriceGroup group = true → group.items = .ok prices → SplitsInto row time prices
  | flat {time : Datum} {prices : List Datum} :
      row.items = .ok (time :: prices) → prices.length = 4 → SplitsInto row time prices

/-- **A row of a candle**, with the doubles of its time and prices. -/
def IsCandle (row : Datum) (c : Candle) : Prop :=
  ∃ time prices, row.SplitsInto time prices ∧ time.seconds? = some c.time ∧
    List.Forall₂ (fun d x => d.double? = some x) prices [c.opening, c.high, c.low, c.closing]

/-- **A row of a candle breaks** its payload. The prices are read before
the time. -/
inductive BreaksCandle (row : Datum) : Prop
  | unopened : row.isIterable = false → BreaksCandle row
  | unopenedGroup {time group : Datum} : row.items = .ok [time, group] →
      isPriceGroup group = true → group.isIterable = false → BreaksCandle row
  | price {time : Datum} {prices : List Datum} : row.SplitsInto time prices → prices.length = 4 →
      BreaksFirst (·.double?.isSome) Breaks prices → BreaksCandle row
  | time {time : Datum} {prices : List Datum} : row.SplitsInto time prices → prices.length = 4 →
      (∀ price ∈ prices, price.double?.isSome) → time.BreaksTime → BreaksCandle row

theorem candleParts_eq_ok_iff {row time : Datum} {prices : List Datum} (h : prices.length = 4) :
    candleParts label index row = .ok (time, prices) ↔ row.SplitsInto time prices := by
  rw [candleParts, bind_eq_ok]
  constructor
  · rintro ⟨cells, hcells, hparts⟩
    split at hparts
    · rename_i time' group
      split at hparts
      case isFalse => cases hparts
      rename_i hgroup
      obtain ⟨prices', hprices, hparts⟩ := bind_eq_ok.1 hparts
      cases pure_eq_ok.1 hparts
      exact .group ((rowCells_eq_ok_iff (by simp)).1 hcells) hgroup
        ((rowCells_eq_ok_iff (by omega)).1 hprices)
    · cases pure_eq_ok.1 hparts
      exact .flat ((rowCells_eq_ok_iff (by simp)).1 hcells) rfl
    · cases hparts
  · rintro (⟨hitems, hgroup, hprices⟩ | ⟨hitems, -⟩)
    · refine ⟨_, (rowCells_eq_ok_iff (by simp)).2 hitems, ?_⟩
      simp only [hgroup, if_true, (rowCells_eq_ok_iff (by omega)).2 hprices]
      rfl
    · refine ⟨_, (rowCells_eq_ok_iff (by simp [h])).2 hitems, ?_⟩
      obtain ⟨a, b, c, d, rfl⟩ := List.length_eq_four.1 h
      rfl

theorem escapes_candleParts_iff {row : Datum} :
    Escapes (candleParts label index row) ↔ row.isIterable = false ∨
      ∃ time group, row.items = .ok [time, group] ∧ isPriceGroup group = true ∧
        group.isIterable = false := by
  rw [candleParts, escapes_bind, (goesThrough_rowCells row).escapes_iff]
  refine or_congr_right ⟨?_, ?_⟩
  · rintro ⟨cells, hcells, h⟩
    split at h
    · rename_i time group
      split at h
      case isFalse => exact absurd rfl (escapes_error.1 h)
      rename_i hgroup
      rw [escapes_bind, (goesThrough_rowCells group).escapes_iff] at h
      refine ⟨time, group, (rowCells_eq_ok_iff (by simp)).1 hcells, hgroup, h.resolve_right ?_⟩
      exact fun ⟨_, _, h⟩ => not_escapes_ok _ h
    · exact absurd h (not_escapes_ok _)
    · exact absurd rfl (escapes_error.1 h)
  · rintro ⟨time, group, hitems, hgroup, h⟩
    refine ⟨_, (rowCells_eq_ok_iff (by simp)).2 hitems, ?_⟩
    simp only [hgroup, if_true]
    exact escapes_bind.2 (.inl ((goesThrough_rowCells group).escapes_iff.2 h))

/-- Prices and their time, one after another. -/
theorem candle_eq_bind {row : Datum} :
    candle label index row =
      candleParts label index row >>= fun (time, prices) =>
        if prices.length = 4 then
          convertRows (fun _ d => toCell label index d) 0 prices >>= fun xs =>
            seconds label index time >>= fun t =>
              match xs with
              | [o, h, l, c] => .ok ⟨t, o, h, l, c⟩
              | _ => .error (.payload (.notFourPrices label index))
        else .error (.payload (.notFourPrices label index)) := by
  rw [candle]
  refine bind_congr fun (time, prices) => ?_
  dsimp only
  split
  · simp only [convertRows, bind_assoc, pure_bind, List.length_cons, List.length_nil, if_true]
    rfl
  · rename_i h
    rw [if_neg fun hlength => ?_]
    · rfl
    · obtain ⟨a, b, c, d, rfl⟩ := List.length_eq_four.1 hlength
      exact h _ _ _ _ rfl

theorem candle_eq_ok_iff {row : Datum} {x : Candle} :
    candle label index row = .ok x ↔ row.IsCandle x := by
  rw [candle_eq_bind, bind_eq_ok]
  constructor
  · rintro ⟨⟨time, prices⟩, hparts, h⟩
    dsimp only at h
    split at h
    case isFalse => cases h
    rename_i hlength
    obtain ⟨xs, hxs, h⟩ := bind_eq_ok.1 h
    obtain ⟨t, ht, h⟩ := bind_eq_ok.1 h
    split at h
    case h_2 => cases h
    obtain rfl := Except.ok.inj h
    exact ⟨time, prices, (candleParts_eq_ok_iff hlength).1 hparts, seconds_eq_ok_iff.1 ht,
      convertCells_eq_ok_iff.1 hxs⟩
  · rintro ⟨time, prices, hsplit, ht, hxs⟩
    have hlength : prices.length = 4 := hxs.length_eq
    refine ⟨(time, prices), (candleParts_eq_ok_iff hlength).2 hsplit, ?_⟩
    dsimp only
    rw [if_pos hlength]
    refine bind_eq_ok.2 ⟨_, convertCells_eq_ok_iff.2 hxs, ?_⟩
    exact bind_eq_ok.2 ⟨_, seconds_eq_ok_iff.2 ht, rfl⟩

theorem escapes_candle_iff {row : Datum} :
    Escapes (candle label index row) ↔ row.BreaksCandle := by
  rw [candle_eq_bind, escapes_bind, escapes_candleParts_iff]
  constructor
  · rintro ((h | ⟨time, group, hitems, hgroup, h⟩) | ⟨⟨time, prices⟩, hparts, h⟩)
    · exact .unopened h
    · exact .unopenedGroup hitems hgroup h
    dsimp only at h
    split at h
    case isFalse => exact absurd rfl (escapes_error.1 h)
    rename_i hlength
    have hsplit := (candleParts_eq_ok_iff hlength).1 hparts
    obtain h | ⟨xs, hxs, h⟩ := escapes_bind.1 h
    · exact .price hsplit hlength (escapes_convertCells_iff.1 h)
    obtain h | ⟨t, -, h⟩ := escapes_bind.1 h
    · exact .time hsplit hlength (exists_convertCells_iff.1 ⟨xs, hxs⟩) (escapes_seconds_iff.1 h)
    · split at h
      · exact absurd h (not_escapes_ok _)
      · exact absurd rfl (escapes_error.1 h)
  · rintro (h | ⟨hitems, hgroup, h⟩ | ⟨hsplit, hlength, h⟩ | ⟨hsplit, hlength, hprices, h⟩)
    · exact .inl (.inl h)
    · exact .inl (.inr ⟨_, _, hitems, hgroup, h⟩)
    all_goals
      refine .inr ⟨(_, _), (candleParts_eq_ok_iff hlength).2 hsplit, ?_⟩
      dsimp only
      rw [if_pos hlength]
    · exact escapes_bind.2 (.inl (escapes_convertCells_iff.2 h))
    · obtain ⟨xs, hxs⟩ := exists_convertCells_iff.2 hprices
      refine escapes_bind.2 (.inr ⟨xs, hxs, ?_⟩)
      exact escapes_bind.2 (.inl (escapes_seconds_iff.2 h))

/-! ## The rows of a payload -/

/-- **The rows of a payload.** An array has the rows of its nested lists,
a table those of its columns side by side. -/
inductive HasRows : Datum → List Datum → Prop
  | nest {d : Datum} {rows : List Datum} :
      d.IsNest rows → (∀ row ∈ rows, isRow row = true) → HasRows d rows
  | range {start stop step : ℤ} :
      rangeLength start stop step = 0 → HasRows (.range start stop step) []
  | array {type : CellType} {shape : List ℕ} {cells rows : List Datum} {items : List (List Datum)} :
      (nested type shape cells).items = .ok rows →
      List.Forall₂ (fun row cells => row.items = .ok cells) rows items →
      HasRows (.array type shape cells) (items.map .tuple)
  | frame {columns : List (String × CellType × List Datum)} :
      HasRows (.frame columns)
        ((transpose (columns.map fun (_, type, cells) => cells.map type.tableCell)).map .tuple)

/-- **The rows of a payload break it**: an array or a row of it cannot be
gone through, or the first value that is no row cannot be shown. -/
inductive BreaksRows : Datum → Prop
  | unopened {type : CellType} {shape : List ℕ} {cells : List Datum} :
      (nested type shape cells).isIterable = false → BreaksRows (.array type shape cells)
  | unopenedRow {type : CellType} {shape : List ℕ} {cells rows : List Datum} {row : Datum} :
      (nested type shape cells).items = .ok rows → row ∈ rows → row.isIterable = false →
      BreaksRows (.array type shape cells)
  | notShown {d : Datum} {rows : List Datum} : d.IsNest rows →
      BreaksFirst (isRow · = true) (fun row => isRow row = false ∧ row.isShowable = false) rows →
      BreaksRows d
  | range {start stop step : ℤ} : rangeLength start stop step ≠ 0 →
      (int start).isShowable = false → BreaksRows (.range start stop step)

theorem firstNonRow_eq_ok_iff {rows : List Datum} :
    firstNonRow label index rows = .ok () ↔ ∀ row ∈ rows, isRow row = true := by
  induction rows generalizing index with
  | nil => exact iff_of_true rfl nofun
  | cons row rows ih =>
    rw [firstNonRow, List.forall_mem_cons]
    split
    · rw [ih, and_iff_right ‹_›]
    · exact iff_of_false nofun fun h => absurd h.1 ‹_›

theorem escapes_firstNonRow_iff {rows : List Datum} :
    Escapes (firstNonRow label index rows) ↔
      BreaksFirst (isRow · = true) (fun row => isRow row = false ∧ row.isShowable = false) rows := by
  induction rows generalizing index with
  | nil => exact iff_of_false (not_escapes_ok _) id
  | cons row rows ih =>
    rw [firstNonRow, BreaksFirst]
    cases isRow row with
    | true => simpa using ih
    | false => simpa [notRow] using escapes_showing

theorem rows_nest {rows : List Datum} (h : d.IsNest rows) :
    Payload.rows label d = (firstNonRow label 0 rows).map fun _ => rows := by
  rcases h with rfl | rfl <;> rfl

theorem itemsOfEach_eq_convertRows (index : ℕ) (rows : List Datum) :
    itemsOfEach rows = convertRows (fun _ row => row.items) index rows := by
  induction rows generalizing index with
  | nil => rfl
  | cons row rows ih => rw [itemsOfEach, convertRows, ih (index + 1)]

theorem itemsOfEach_eq_ok_iff {rows : List Datum} {items : List (List Datum)} :
    itemsOfEach rows = .ok items ↔
      List.Forall₂ (fun row cells => row.items = .ok cells) rows items := by
  rw [itemsOfEach_eq_convertRows 0]
  exact convertRows_eq_ok_iff fun _ _ _ => Iff.rfl

theorem goesThrough_itemsOfEach (rows : List Datum) :
    GoesThrough (rows.all isIterable) (itemsOfEach rows) := by
  induction rows with
  | nil => exact .ok _ rfl
  | cons row rows ih =>
    have hrow := goesThrough_items row
    rw [itemsOfEach, List.all_cons]
    generalize row.items = items, row.isIterable = iterable at hrow
    generalize itemsOfEach rows = others, rows.all isIterable = iterables at ih
    cases hrow with
    | error h hkind => exact .error (by simp [h]) hkind
    | ok items h =>
      cases ih with
      | error h' hkind => exact .error (by simp [h']) hkind
      | ok others h' => exact .ok _ (by simp [h, h'])

theorem rows_eq_ok_iff {rows : List Datum} : Payload.rows label d = .ok rows ↔ d.HasRows rows := by
  constructor
  · intro h
    unfold Payload.rows at h
    split at h
    · obtain ⟨lists, hlists, h⟩ := bind_eq_ok.1 h
      obtain ⟨items, hitems, h⟩ := bind_eq_ok.1 h
      obtain rfl := pure_eq_ok.1 h
      exact .array hlists (itemsOfEach_eq_ok_iff.1 hitems)
    · obtain rfl := Except.ok.inj h
      exact .frame
    · obtain ⟨_, hrows, h⟩ := bind_eq_ok.1 h
      obtain rfl := pure_eq_ok.1 h
      exact .nest (.inl rfl) (firstNonRow_eq_ok_iff.1 hrows)
    · obtain ⟨_, hrows, h⟩ := bind_eq_ok.1 h
      obtain rfl := pure_eq_ok.1 h
      exact .nest (.inr rfl) (firstNonRow_eq_ok_iff.1 hrows)
    · split at h
      · obtain rfl := Except.ok.inj h
        exact .range ‹_›
      · cases h
    · cases h
  · rintro (⟨hnest, hrows⟩ | hzero | ⟨hrows, hitems⟩ | _)
    · rw [rows_nest hnest, firstNonRow_eq_ok_iff.2 hrows]
      rfl
    · exact if_pos hzero
    · refine bind_eq_ok.2 ⟨_, hrows, bind_eq_ok.2 ⟨_, itemsOfEach_eq_ok_iff.2 hitems, rfl⟩⟩
    · rfl

theorem hasRows_nest_iff {rows others : List Datum} (h : d.IsNest rows) :
    d.HasRows others ↔ others = rows ∧ ∀ row ∈ rows, isRow row = true := by
  constructor
  · intro hrows
    cases hrows with
    | nest hnest hrow => exact ⟨hnest.unique h, hnest.unique h ▸ hrow⟩
    | range | array | frame => rcases h with h | h <;> cases h
  · rintro ⟨rfl, hrow⟩
    exact .nest h hrow

theorem breaksRows_nest_iff {rows : List Datum} (h : d.IsNest rows) :
    d.BreaksRows ↔
      BreaksFirst (isRow · = true) (fun row => isRow row = false ∧ row.isShowable = false) rows := by
  refine ⟨fun hbreaks => ?_, .notShown h⟩
  cases hbreaks with
  | unopened | unopenedRow | range => rcases h with h | h <;> cases h
  | notShown hnest hrows => exact hnest.unique h ▸ hrows

theorem escapes_rows_iff : Escapes (rows label d) ↔ d.BreaksRows := by
  by_cases hnest : ∃ rows, d.IsNest rows
  · obtain ⟨rows, hnest⟩ := hnest
    rw [rows_nest hnest, escapes_map, escapes_firstNonRow_iff, breaksRows_nest_iff hnest]
  have hnot (rows : List Datum) : ¬ d.IsNest rows := fun h => hnest ⟨rows, h⟩
  unfold Payload.rows
  split
  · rename_i type shape cells
    rw [escapes_bind, (goesThrough_items (nested type shape cells)).escapes_iff]
    have hrest (rows : List Datum) :
        Escapes (itemsOfEach rows >>= fun items => pure (items.map tuple)) ↔
          ∃ row ∈ rows, row.isIterable = false := by
      rw [escapes_bind, (goesThrough_itemsOfEach rows).escapes_iff, List.all_eq_false]
      simp only [Bool.not_eq_true]
      exact or_iff_left fun ⟨_, _, h⟩ => not_escapes_ok _ h
    simp only [hrest]
    constructor
    · rintro (h | ⟨rows, hrows, row, hrow, h⟩)
      · exact .unopened h
      · exact .unopenedRow hrows hrow h
    · intro h
      cases h with
      | unopened h => exact .inl h
      | unopenedRow hrows hrow h => exact .inr ⟨_, hrows, _, hrow, h⟩
      | notShown h _ => exact absurd h (hnot _)
  · exact iff_of_false (not_escapes_ok _) fun h => by cases h; exact hnot _ ‹_›
  · exact absurd (.inl rfl) (hnot _)
  · exact absurd (.inr rfl) (hnot _)
  · rename_i start stop step
    split
    · refine iff_of_false (not_escapes_ok _) fun h => ?_
      cases h with
      | notShown h _ => exact hnot _ h
      | range h _ => exact h ‹_›
    · refine escapes_showing.trans ⟨.range ‹_›, fun h => ?_⟩
      cases h with
      | notShown h _ => exact absurd h (hnot _)
      | range _ h => exact h
  · refine iff_of_false (fun h => escapes_error.1 h rfl) fun h => ?_
    cases h with
    | notShown h _ => exact hnot _ h
    | unopened | unopenedRow | range => simp_all

/-! ## Heights over time, and candles -/

/-- What the rows of heights over time are taken from: a table column has
a row for each of its cells, with the time from its index. -/
def timeSource : Datum → Datum
  | column type index cells =>
    .list (List.zipWith (fun time height => .tuple [time, height]) index (cells.map type.tableCell))
  | d => d

theorem timePairs_eq_bind :
    timePairs label d = rows label d.timeSource >>= convertRows (timePair label) 0 := by
  cases d <;> rfl

/-- **A payload of rows breaks**: as rows, or at the first row that is
not read. -/
inductive BreaksAsRows (Reads Breaks : Datum → Prop) (d : Datum) : Prop
  | rows : d.BreaksRows → BreaksAsRows Reads Breaks d
  | row {rows : List Datum} :
      d.HasRows rows → BreaksFirst Reads Breaks rows → BreaksAsRows Reads Breaks d

section ConvertRows

variable {α : Type} {convert : ℕ → Datum → Except Failure α} {Is : Datum → α → Prop}
  {Breaks : Datum → Prop}

/-- The rows of a payload are converted when each of them is. -/
theorem convertRows_rows_eq_ok_iff {xs : List α}
    (his : ∀ index row x, convert index row = .ok x ↔ Is row x) :
    (rows label d >>= convertRows convert 0) = .ok xs ↔
      ∃ rows, d.HasRows rows ∧ List.Forall₂ Is rows xs := by
  rw [bind_eq_ok]
  exact exists_congr fun rows => and_congr rows_eq_ok_iff (convertRows_eq_ok_iff his)

theorem escapes_convertRows_rows_iff (his : ∀ index row x, convert index row = .ok x ↔ Is row x)
    (hbreaks : ∀ index row, Escapes (convert index row) ↔ Breaks row) :
    Escapes (rows label d >>= convertRows convert 0) ↔
      BreaksAsRows (fun row => ∃ x, Is row x) Breaks d := by
  have hrows (rows : List Datum) : Escapes (convertRows convert 0 rows) ↔
      BreaksFirst (fun row => ∃ x, Is row x) Breaks rows :=
    escapes_convertRows (fun index row => exists_congr (his index row)) hbreaks
  rw [escapes_bind, escapes_rows_iff]
  constructor
  · rintro (h | ⟨rows, hok, h⟩)
    · exact .rows h
    · exact .row (rows_eq_ok_iff.1 hok) ((hrows rows).1 h)
  · rintro (h | ⟨hhas, h⟩)
    · exact .inl h
    · exact .inr ⟨_, rows_eq_ok_iff.2 hhas, (hrows _).2 h⟩

end ConvertRows

/-- **Heights over time break.** -/
def BreaksTimePairs (d : Datum) : Prop :=
  BreaksAsRows (fun row => ∃ x, row.IsTimePair x) BreaksTimePair d.timeSource

/-- **Candles break.** -/
def BreaksCandles (d : Datum) : Prop :=
  BreaksAsRows (fun row => ∃ x, row.IsCandle x) BreaksCandle d

theorem timePairs_eq_ok_iff {xs : List (Binary64 × Binary64)} :
    timePairs label d = .ok xs ↔
      ∃ rows, d.timeSource.HasRows rows ∧ List.Forall₂ IsTimePair rows xs := by
  rw [timePairs_eq_bind]
  exact convertRows_rows_eq_ok_iff fun _ _ _ => timePair_eq_ok_iff

theorem escapes_timePairs_iff : Escapes (timePairs label d) ↔ d.BreaksTimePairs := by
  rw [timePairs_eq_bind]
  exact escapes_convertRows_rows_iff (fun _ _ _ => timePair_eq_ok_iff)
    fun _ _ => escapes_timePair_iff

theorem candles_eq_ok_iff {xs : List Candle} :
    candles label d = .ok xs ↔ ∃ rows, d.HasRows rows ∧ List.Forall₂ IsCandle rows xs :=
  convertRows_rows_eq_ok_iff fun _ _ _ => candle_eq_ok_iff

theorem escapes_candles_iff : Escapes (candles label d) ↔ d.BreaksCandles :=
  escapes_convertRows_rows_iff (fun _ _ _ => candle_eq_ok_iff) fun _ _ => escapes_candle_iff

end Datum

end PlotPipe
