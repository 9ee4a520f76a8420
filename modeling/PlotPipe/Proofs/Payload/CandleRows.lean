import PlotPipe.Proofs.Payload.Points
import PlotPipe.Proofs.Payload.Rows
import PlotPipe.Script.Plot

/-!
# Payload — the two forms of a candle

A candle is spelled as a row of five cells, or as a row of its time and a
group of its prices (`CandleCells.Spells`). Both forms split alike
(`CandleCells.Spells.splitsInto`), so it does not matter which one a row
of a payload has, neither for the candles that are read nor for the
failure of those that are not (`Payload.candles_sameForms`).
-/

namespace PlotPipe

open Payload Datum

namespace Datum.IsNest

variable {d : Datum} {items : List Datum}

theorem items_eq (h : d.IsNest items) : d.items = .ok items := by
  rcases h with rfl | rfl <;> rfl

theorem isRow (h : d.IsNest items) : isRow d = true := by
  rcases h with rfl | rfl <;> rfl

theorem isPriceGroup (h : d.IsNest items) : isPriceGroup d = true := by
  rcases h with rfl | rfl <;> rfl

end Datum.IsNest

/-- The cells of a candle. -/
structure CandleCells where
  time : Datum
  opening : Datum
  high : Datum
  low : Datum
  closing : Datum

namespace CandleCells

variable {c : CandleCells} {row row' : Datum} {x : Candle}

/-- The prices of a candle in the order in which they are given. -/
def prices (c : CandleCells) : List Datum := [c.opening, c.high, c.low, c.closing]

/-- **The forms of a candle**: the prices stand in a group after the time,
or next to it. -/
inductive Spells (c : CandleCells) (row : Datum) : Prop
  | nested {group : Datum} : group.IsNest c.prices → row.IsNest [c.time, group] → Spells c row
  | flat : row.IsNest (c.time :: c.prices) → Spells c row

/-- A candle is read from its cells. -/
structure Reads (c : CandleCells) (x : Candle) : Prop where
  time : c.time.seconds? = some x.time
  opening : c.opening.double? = some x.opening
  high : c.high.double? = some x.high
  low : c.low.double? = some x.low
  closing : c.closing.double? = some x.closing

/-- **Both forms split into the time and the prices.** -/
theorem Spells.splitsInto (h : c.Spells row) : row.SplitsInto c.time c.prices := by
  cases h with
  | nested hgroup hrow =>
    exact .group hrow.items_eq hgroup.isPriceGroup hgroup.items_eq
  | flat hrow => exact .flat hrow.items_eq rfl

theorem Spells.isRow (h : c.Spells row) : isRow row = true := by
  cases h with
  | nested _ hrow | flat hrow => exact hrow.isRow

theorem Spells.candleParts (h : c.Spells row) (label : String) (index : ℕ) :
    candleParts label index row = .ok (c.time, c.prices) :=
  (candleParts_eq_ok_iff rfl).2 h.splitsInto

/-- A spelled candle is read when its cells are. -/
theorem Spells.isCandle_iff (h : c.Spells row) : row.IsCandle x ↔ c.Reads x := by
  constructor
  · rintro ⟨time, prices, hsplit, htime, hprices⟩
    have hparts : Payload.candleParts "" 0 row = .ok (time, prices) :=
      (candleParts_eq_ok_iff hprices.length_eq).2 hsplit
    cases Except.ok.inj ((h.candleParts "" 0).symm.trans hparts)
    simp only [CandleCells.prices, List.forall₂_cons, List.forall₂_nil_left_iff, and_true] at hprices
    obtain ⟨hopening, hhigh, hlow, hclosing⟩ := hprices
    exact ⟨htime, hopening, hhigh, hlow, hclosing⟩
  · rintro ⟨htime, hopening, hhigh, hlow, hclosing⟩
    exact ⟨_, _, h.splitsInto, htime, .cons hopening (.cons hhigh (.cons hlow (.cons hclosing .nil)))⟩

end CandleCells

namespace Payload

variable {label : String} {index : ℕ} {row row' d d' : Datum} {rows rows' : List Datum}

/-- **Two rows are one candle**: they are the same row, or two forms of the
same cells. -/
inductive SameCandle : Datum → Datum → Prop
  | refl (row : Datum) : SameCandle row row
  | forms {c : CandleCells} {row row' : Datum} : c.Spells row → c.Spells row' → SameCandle row row'

theorem candle_congr (h : SameCandle row row') :
    candle label index row = candle label index row' := by
  cases h with
  | refl => rfl
  | forms h h' => rw [candle, candle, h.candleParts, h'.candleParts]

theorem firstNonRow_congr (h : List.Forall₂ SameCandle rows rows') :
    firstNonRow label index rows = firstNonRow label index rows' := by
  induction h generalizing index with
  | nil => rfl
  | cons hrow _ ih =>
    rw [firstNonRow, firstNonRow, ih]
    cases hrow with
    | refl => rfl
    | forms h h' => rw [if_pos h.isRow, if_pos h'.isRow]

theorem convertRows_congr (h : List.Forall₂ SameCandle rows rows') :
    convertRows (candle label) index rows = convertRows (candle label) index rows' := by
  induction h generalizing index with
  | nil => rfl
  | cons hrow _ ih => rw [convertRows, convertRows, candle_congr hrow, ih]

theorem candles_of_isNest (h : d.IsNest rows) :
    candles label d = firstNonRow label 0 rows >>= fun _ => convertRows (candle label) 0 rows := by
  rw [candles, rows_nest h]
  cases firstNonRow label 0 rows <;> rfl

theorem candles_congr (hd : d.IsNest rows) (hd' : d'.IsNest rows')
    (h : List.Forall₂ SameCandle rows rows') : candles label d = candles label d' := by
  rw [candles_of_isNest hd, candles_of_isNest hd', firstNonRow_congr h, convertRows_congr h]

/-- **The forms of candles do not matter.** Two lists of rows in which each
row of one is the candle of the other come to the same candles, or to the
same failure, and so do the series of them. The series has a row of five
numbers for each entry, in order, with the numbers of its cells, and its
block has a line for each row, on which the low stands before the
high. -/
theorem candles_sameForms (hd : d.IsNest rows) (hd' : d'.IsNest rows')
    (h : List.Forall₂ SameCandle rows rows') :
    (∀ label, candles label d = candles label d') ∧
    ∀ styling,
      Series.ofData .candlesticks .candles d styling =
        Series.ofData .candlesticks .candles d' styling ∧
      ∀ s, Series.ofData .candlesticks .candles d styling = .ok s → ∃ xs : List Candle,
        List.Forall₂ (fun row x => row.IsCandle x ∧
          ∀ c : CandleCells, c.Spells row → c.Reads x) rows xs ∧
        s.trace.rows = xs.map (fun x => [x.time, x.opening, x.high, x.low, x.closing]) ∧
        s.trace.block =
          xs.map (fun x => " ".intercalate [x.time.scriptText, x.opening.scriptText,
            x.low.scriptText, x.high.scriptText, x.closing.scriptText]) ++ ["e"] := by
  refine ⟨fun label => candles_congr hd hd' h, fun styling => ⟨?_, fun s hs => ?_⟩⟩
  · rw [Series.ofData, Series.ofData, Trace.read, Trace.read, candles_congr hd hd' h]
  obtain ⟨xs, hxs, htrace⟩ := map_eq_ok.1 (read_of_ofData hs)
  obtain ⟨_, hrows, hread⟩ := candles_eq_ok_iff.1 hxs
  obtain ⟨rfl, -⟩ := (hasRows_nest_iff hd).1 hrows
  rw [← htrace]
  refine ⟨xs, hread.imp fun row x hx => ⟨hx, fun c hc => hc.isCandle_iff.1 hx⟩, rfl, ?_⟩
  change List.map _ (List.map _ xs) ++ [Script.sentinel] = _
  rw [List.map_map]
  rfl

/-- A grouped candle before a flat one comes to the same as the other way
around, which is a series of two rows. -/
theorem candles_sameForms_mixed :
    let grouped := tuple [.int 60, .list [.int 1, .int 3, .int 0, .int 2]]
    let flat := tuple [.int 60, .int 1, .int 3, .int 0, .int 2]
    (∀ label, candles label (.list [grouped, flat]) = candles label (.list [flat, grouped])) ∧
    ∃ s, Series.ofData .candlesticks .candles (.list [grouped, flat]) {} = .ok s ∧
      ∃ xs : List Candle, xs.length = 2 ∧
        s.trace.rows = xs.map fun x => [x.time, x.opening, x.high, x.low, x.closing] := by
  intro grouped flat
  let c : CandleCells := ⟨.int 60, .int 1, .int 3, .int 0, .int 2⟩
  have hgrouped : c.Spells grouped := .nested (.inl rfl) (.inr rfl)
  have hflat : c.Spells flat := .flat (.inr rfl)
  have hd : (list [grouped, flat]).IsNest [grouped, flat] := .inl rfl
  have hd' : (list [flat, grouped]).IsNest [flat, grouped] := .inl rfl
  obtain ⟨hcandles, hseries⟩ := candles_sameForms hd hd'
    (.cons (.forms hgrouped hflat) (.cons (.forms hflat hgrouped) .nil))
  have hread : ∃ s, Series.ofData .candlesticks .candles (.list [grouped, flat]) {} = .ok s :=
    ⟨_, rfl⟩
  obtain ⟨s, hs⟩ := hread
  obtain ⟨xs, hxs, hrows, -⟩ := (hseries {}).2 s hs
  exact ⟨hcandles, s, hs, xs, hxs.length_eq.symm, hrows⟩

end Payload

end PlotPipe
