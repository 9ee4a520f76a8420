import PlotPipe.Proofs.Payload.Confined

/-!
# Payload — texts among rows

Texts and byte strings are no rows, no groups of prices and no cells, but
byte buffers count as sequences of numbers and are read as numbers, and
byte strings are taken for groups of prices. What a list of rows with
texts in it comes to is told exactly (`texts_iff`): it is turned down
unless an earlier row breaks it or all of its texts are such.
-/

namespace PlotPipe

open Payload

namespace Datum

variable {d row : Datum} {rows : List Datum} {label : String} {x : Binary64}

/-- A text, a byte string or a byte buffer. -/
def isTextual : Datum → Bool
  | text _ | cell .text _ | bytes _ | buffer _ => true
  | _ => false

/-- A byte buffer that spells a number. -/
def IsNumeral (d : Datum) : Prop :=
  ∃ bytes x, d = .buffer bytes ∧ Decimal.free? (asciiText bytes) = some x

/-- A row with a text in it: it is one, or it has a cell that is one. -/
def HasText (row : Datum) : Prop :=
  row.isTextual = true ∨ ∃ cells, row.items = .ok cells ∧ ∃ cell ∈ cells, cell.isTextual = true

/-- A row of a candle with a text in it, perhaps among the prices of a
group. -/
def HasPriceText (row : Datum) : Prop :=
  row.HasText ∨ ∃ time group prices, row.items = .ok [time, group] ∧ group.items = .ok prices ∧
    ∃ price ∈ prices, price.isTextual = true

/-- **The texts of a row of a time and a height are taken for numbers**:
the row is a buffer of two bytes, and its cells are numerals. -/
def TextsAsPair (row : Datum) : Prop :=
  (row.isTextual = true → ∃ a b, row = .buffer [a, b]) ∧
  ∀ cells, row.items = .ok cells → ∀ cell ∈ cells, cell.isTextual = true → cell.IsNumeral

/-- **The texts of a row of a candle are taken for numbers**: the row is a
buffer of five bytes, a group of prices is a string or a buffer of four,
and other cells are numerals. -/
def TextsAsCandle (row : Datum) : Prop :=
  (row.isTextual = true → ∃ bytes, row = .buffer bytes ∧ bytes.length = 5) ∧
  ∀ time prices, row.SplitsInto time prices →
    (∀ group, row.items = .ok [time, group] → group.isTextual = true →
      ∃ bytes, (group = .bytes bytes ∨ group = .buffer bytes) ∧ bytes.length = 4) ∧
    ∀ cell ∈ time :: prices, cell.isTextual = true → cell.IsNumeral

theorem SplitsInto.unique {time time' : Datum} {prices prices' : List Datum}
    (h : row.SplitsInto time prices) (h' : row.SplitsInto time' prices') :
    time = time' ∧ prices = prices' := by
  rcases h with ⟨hitems, -, hgroup⟩ | ⟨hitems, hlength⟩ <;>
    rcases h' with ⟨hitems', -, hgroup'⟩ | ⟨hitems', hlength'⟩ <;>
    cases Except.ok.inj (hitems.symm.trans hitems')
  · exact ⟨rfl, Except.ok.inj (hgroup.symm.trans hgroup')⟩
  · cases hlength'
  · cases hlength
  · exact ⟨rfl, rfl⟩

/-- Of the texts only numerals have a double. -/
theorem isNumeral_of_double? (htext : d.isTextual = true) (h : d.double? = some x) :
    d.IsNumeral := by
  unfold isTextual at htext
  split at htext
  · cases h
  · cases h
  · cases h
  · rename_i bytes
    simp only [double?, toReal, readReal] at h
    split at h
    · exact ⟨bytes, _, rfl, ‹_›⟩
    · cases h
  · cases htext

theorem isNumeral_of_seconds? (htext : d.isTextual = true) (h : d.seconds? = some x) :
    d.IsNumeral := by
  refine isNumeral_of_double? htext (x := x) ?_
  unfold isTextual at htext
  split at htext <;> first | exact h | cases htext

/-- A row that is a text is a byte buffer. -/
theorem exists_buffer_of_isRow (hrow : isRow row = true) (htext : row.isTextual = true) :
    ∃ bytes, row = .buffer bytes := by
  unfold isTextual at htext
  split at htext <;> first | exact ⟨_, rfl⟩ | cases hrow | cases htext

/-- The items of a byte buffer are numbers. -/
theorem exists_int_of_mem_buffer {bytes : List UInt8} {cells : List Datum} {cell : Datum}
    (hitems : (buffer bytes).items = .ok cells) (hcell : cell ∈ cells) : ∃ i, cell = .int i := by
  obtain rfl := Except.ok.inj hitems
  obtain ⟨byte, -, rfl⟩ := List.mem_map.1 hcell
  exact ⟨_, rfl⟩

/-- A text that is a group of four prices is a string or a buffer of four
bytes. -/
theorem exists_bytes_of_isPriceGroup {group : Datum} {prices : List Datum}
    (hgroup : isPriceGroup group = true) (htext : group.isTextual = true)
    (hitems : group.items = .ok prices) (hlength : prices.length = 4) :
    ∃ bytes, (group = .bytes bytes ∨ group = .buffer bytes) ∧ bytes.length = 4 := by
  unfold isTextual at htext
  split at htext
  · cases hgroup
  · cases hgroup
  · refine ⟨_, .inl rfl, ?_⟩
    simpa [hlength] using congrArg List.length (Except.ok.inj hitems)
  · refine ⟨_, .inr rfl, ?_⟩
    simpa [hlength] using congrArg List.length (Except.ok.inj hitems)
  · cases htext

theorem textsAsPair_of_isTimePair {p : Binary64 × Binary64} (hrow : isRow row = true)
    (h : row.IsTimePair p) : row.TextsAsPair := by
  obtain ⟨time, height, hitems, htime, hheight⟩ := h
  constructor
  · intro htext
    obtain ⟨bytes, rfl⟩ := exists_buffer_of_isRow hrow htext
    have hlength : bytes.length = 2 := by
      simpa using congrArg List.length (Except.ok.inj hitems)
    obtain ⟨a, b, rfl⟩ := List.length_eq_two.1 hlength
    exact ⟨a, b, rfl⟩
  · intro cells hcells cell hcell htext
    obtain rfl := Except.ok.inj (hitems.symm.trans hcells)
    rw [List.mem_pair] at hcell
    rcases hcell with rfl | rfl
    · exact isNumeral_of_seconds? htext htime
    · exact isNumeral_of_double? htext hheight

theorem textsAsCandle_of_isCandle {c : Candle} (hrow : isRow row = true)
    (h : row.IsCandle c) : row.TextsAsCandle := by
  obtain ⟨time, prices, hsplit, htime, hprices⟩ := h
  have hfour : prices.length = 4 := hprices.length_eq
  refine ⟨fun htext => ?_, fun time' prices' hsplit' => ?_⟩
  · obtain ⟨bytes, rfl⟩ := exists_buffer_of_isRow hrow htext
    refine ⟨bytes, rfl, ?_⟩
    cases hsplit with
    | group hitems hgroup _ =>
      obtain ⟨i, rfl⟩ := exists_int_of_mem_buffer hitems (List.mem_pair.2 (.inr rfl))
      cases hgroup
    | flat hitems hlength => simpa [hlength] using congrArg List.length (Except.ok.inj hitems)
  · obtain ⟨rfl, rfl⟩ := hsplit.unique hsplit'
    refine ⟨fun group hitems htext => ?_, fun cell hcell htext => ?_⟩
    · cases hsplit with
      | group hitems' hgroup hgitems =>
        cases Except.ok.inj (hitems.symm.trans hitems')
        exact exists_bytes_of_isPriceGroup hgroup htext hgitems hfour
      | flat hitems' _ =>
        cases Except.ok.inj (hitems.symm.trans hitems')
        cases hfour
    · rcases List.mem_cons.1 hcell with rfl | hcell
      · exact isNumeral_of_seconds? htext htime
      · obtain ⟨x, hx⟩ := exists_forall₂_iff.1 ⟨_, hprices⟩ cell hcell
        exact isNumeral_of_double? htext hx

end Datum

namespace Payload

open Datum

variable {d : Datum} {rows : List Datum}

/-- A list of rows has a result when each value of it is a row and is
read. -/
theorem exists_hasRows_iff {α : Type} {Is : Datum → α → Prop} (h : d.IsNest rows) :
    (∃ xs others, d.HasRows others ∧ List.Forall₂ Is others xs) ↔
      ∀ row ∈ rows, isRow row = true ∧ ∃ x, Is row x := by
  simp only [hasRows_nest_iff h]
  constructor
  · rintro ⟨xs, _, ⟨rfl, hrows⟩, hxs⟩ row hrow
    exact ⟨hrows row hrow, exists_forall₂_iff.1 ⟨xs, hxs⟩ row hrow⟩
  · intro hall
    obtain ⟨xs, hxs⟩ := exists_forall₂_iff.2 fun row hrow => (hall row hrow).2
    exact ⟨xs, rows, ⟨rfl, fun row hrow => (hall row hrow).1⟩, hxs⟩

theorem timeSource_nest (h : d.IsNest rows) : d.timeSource = d := by
  rcases h with rfl | rfl <;> rfl

/-- **What texts among rows come to.** A list of rows with texts in it is
turned down unless it breaks or all of its rows are read, and where they
are read the texts are taken for numbers. -/
theorem texts_iff (label : String) (h : d.IsNest rows) :
    (((∃ row ∈ rows, row.HasText) → TurnsDown (timePairs label d)) ↔
      ((∃ row ∈ rows, row.HasText) → ¬ d.BreaksTimePairs ∧
        ∃ row ∈ rows, ¬ (isRow row = true ∧ ∃ x, row.IsTimePair x))) ∧
    (((∃ row ∈ rows, row.HasPriceText) → TurnsDown (candles label d)) ↔
      ((∃ row ∈ rows, row.HasPriceText) → ¬ d.BreaksCandles ∧
        ∃ row ∈ rows, ¬ (isRow row = true ∧ ∃ x, row.IsCandle x))) ∧
    (∀ xs, timePairs label d = .ok xs → ∀ row ∈ rows, row.TextsAsPair) ∧
    ∀ xs, candles label d = .ok xs → ∀ row ∈ rows, row.TextsAsCandle := by
  have hpairs : (∃ xs, timePairs label d = .ok xs) ↔
      ∀ row ∈ rows, isRow row = true ∧ ∃ x, row.IsTimePair x := by
    simp only [timePairs_eq_ok_iff, timeSource_nest h, exists_hasRows_iff h]
  have hcandles : (∃ xs, candles label d = .ok xs) ↔
      ∀ row ∈ rows, isRow row = true ∧ ∃ x, row.IsCandle x := by
    simp only [candles_eq_ok_iff, exists_hasRows_iff h]
  refine ⟨?_, ?_, fun xs hxs row hrow => ?_, fun xs hxs row hrow => ?_⟩
  · rw [turnsDown_iff, escapes_timePairs_iff, hpairs]
    simp only [not_forall, exists_prop]
  · rw [turnsDown_iff, escapes_candles_iff, hcandles]
    simp only [not_forall, exists_prop]
  · obtain ⟨hisRow, x, hx⟩ := hpairs.1 ⟨xs, hxs⟩ row hrow
    exact textsAsPair_of_isTimePair hisRow hx
  · obtain ⟨hisRow, x, hx⟩ := hcandles.1 ⟨xs, hxs⟩ row hrow
    exact textsAsCandle_of_isCandle hisRow hx

/-- A list with a text for a time is turned down. -/
theorem texts_textTime :
    TurnsDown (timePairs "timey" (.list [.tuple [.text "1", .int 2]])) := by
  refine (texts_iff "timey" (.inl rfl)).1.2 (fun _ => ⟨fun hbreaks => ?_, ?_⟩) ?_
  · have hescapes : Escapes (timePairs "timey" _) := escapes_timePairs_iff.2 hbreaks
    obtain ⟨failure, hfailure, hkind⟩ := hescapes
    cases hfailure
    exact hkind rfl
  · refine ⟨_, List.mem_singleton_self _, fun ⟨_, _, time, height, hitems, htime, _⟩ => ?_⟩
    cases hitems
    cases htime
  · exact ⟨_, List.mem_singleton_self _, .inr ⟨_, rfl, .text "1", by simp, rfl⟩⟩

/-- A byte buffer for a row, one for a height, and a byte string for the
prices are taken for numbers. -/
theorem not_turnsDown_bytes :
    (buffer [97, 98]).HasText ∧ ¬ TurnsDown (timePairs "timey" (.list [.buffer [97, 98]])) ∧
    (tuple [.int 0, .buffer [49, 50]]).HasText ∧
      ¬ TurnsDown (timePairs "timey" (.list [.tuple [.int 0, .buffer [49, 50]]])) ∧
    (tuple [.int 0, .bytes [97, 98, 99, 100]]).HasPriceText ∧
      ¬ TurnsDown (candles "candlesticks" (.list [.tuple [.int 0, .bytes [97, 98, 99, 100]]])) := by
  have hpair : ∃ xs, timePairs "timey" (.list [.buffer [97, 98]]) = .ok xs := ⟨_, rfl⟩
  have hheight : ∃ xs, timePairs "timey" (.list [.tuple [.int 0, .buffer [49, 50]]]) = .ok xs :=
    ⟨_, rfl⟩
  have hprices : ∃ xs, candles "candlesticks"
      (.list [.tuple [.int 0, .bytes [97, 98, 99, 100]]]) = .ok xs := ⟨_, rfl⟩
  have hlast (a b : Datum) : b ∈ [a, b] := List.mem_pair.2 (.inr rfl)
  exact ⟨.inl rfl, fun h => (turnsDown_iff.1 h).2 hpair,
    .inr ⟨_, rfl, .buffer [49, 50], hlast _ _, rfl⟩, fun h => (turnsDown_iff.1 h).2 hheight,
    .inl (.inr ⟨_, rfl, .bytes [97, 98, 99, 100], hlast _ _, rfl⟩),
    fun h => (turnsDown_iff.1 h).2 hprices⟩

end Payload

end PlotPipe
