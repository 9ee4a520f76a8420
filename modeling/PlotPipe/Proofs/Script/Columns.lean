import PlotPipe.Proofs.Script.Framing
/-!
# Scripts — columns of a series

The clause of a series names the columns of its data, and the data have a
line for each row, with a number for each column. A series that was made
renders consistently (`Series.RendersConsistently`): its clause is
written, both ends agree on the columns, and a series without columns is
an expression. That holds of every series whose styling can be written
(`Series.rendersConsistently_of_made`).
-/

namespace PlotPipe

open Script

/-- The columns of a trace, counted from one. -/
def Trace.columns : Trace → List ℕ
  | heights _ => [1]
  | points _ | timeline _ => [1, 2]
  | candles _ => [1, 2, 3, 4, 5]
  | expression _ => []

/-- The columns that a clause names: those behind its second word, when
that is `using`. -/
def Script.usingColumns (clause : String) : List String :=
  match tokens clause with
  | _ :: word :: columns :: _ =>
    if word = "using" then (columns.toList.splitOn ':').map String.ofList else []
  | _ => []

/-- **A styling that can be written**: a title that is a text, a colour
with a text or whole numbers in it, a weight that is a whole number, a
filling that is one; and no whole number in them that is too long. -/
structure Styling.IsWritable (s : Styling) : Prop where
  title : s.title.IsText
  color : ∀ color, Color.ofRecord? s.color = some color →
    ∃ c : Color.Typed String, color = c.untyped
  weight : s.weight.IsWhole ∧ s.weight.isShowable = true
  fill : s.fill = .null ∨ ∃ filling, s.fill = Filling.toDatum filling ∧
    ∀ index, filling = .pattern index → index.isShowable = true

namespace Series

/-- A series that was made with a styling, of data or of an expression
that is a text. -/
inductive MadeWith (styling : Styling) (s : Series) : Prop
  | data {style : PlotStyle} {layout : Layout} {d : Datum} :
      Series.ofData style layout d styling = .ok s → MadeWith styling s
  | expression {style : PlotStyle} {text : String} :
      Series.ofExpression style (.text text) styling = .ok s → MadeWith styling s

/-- **A series renders consistently.** Its clause is written. Where it
brings its own data, the clause names its columns, and the data have a
line for each row, with a part for each column, before the one that ends
them; where it does not, there are none. It does not bring data exactly
when it has no columns, no rows, and a text for its expression. -/
structure RendersConsistently (s : Series) : Prop where
  inline : s.trace.isInline = true → ∃ clause data,
    s.clause = .ok clause ∧ usingColumns clause = s.trace.columns.map toString ∧
      s.trace.block = data ++ [sentinel] ∧ sentinel ∉ data ∧ data.length = s.length ∧
      ∀ line ∈ data, (tokens line).length = (usingColumns clause).length
  notInline : s.trace.isInline = false → (∃ clause, s.clause = .ok clause) ∧ s.trace.block = []
  isExpression : s.trace.isInline = false ↔
    s.trace.columns = [] ∧ s.trace.rows = [] ∧ ∃ text, s.trace = .expression (.text text)

end Series

/-! ## The columns of a trace -/

namespace Trace

variable {t : Trace}

/-- Rows have a number for each column, in the order of writing. -/
theorem length_of_mem_writtenRows {row : List Binary64} (h : row ∈ t.writtenRows) :
    row.length = t.columns.length := by
  cases t <;> simp only [writtenRows, rows, List.mem_map, List.not_mem_nil] at h
  all_goals
    obtain ⟨value, -, rfl⟩ := h
    rfl

theorem length_writtenRows (t : Trace) : t.writtenRows.length = t.rows.length := by
  cases t <;> simp [writtenRows, rows]

end Trace

namespace Script

/-- The first word of a text ends at its first blank. -/
theorem tokens_append {word : String} (h : ' ' ∉ word.toList) (rest : String) :
    tokens (word ++ " " ++ rest) = word :: tokens rest := by
  have hlist : (word ++ " " ++ rest).toList = word.toList ++ ' ' :: rest.toList := by
    simp [String.toList_append]
  rw [tokens, hlist, List.splitOn_append_cons_self_of_not_mem h, List.map_cons,
    String.ofList_toList]
  rfl

/-- The columns of a clause stand between colons, before the next
blank. -/
theorem usingColumns_append {names : String} (h : ' ' ∉ names.toList) (rest : String) :
    usingColumns ("'-' using " ++ names ++ " " ++ rest) =
      (names.toList.splitOn ':').map String.ofList := by
  have hopening : "'-' using " = "'-'" ++ " " ++ ("using" ++ " ") := by decide
  have hwords : "'-' using " ++ names ++ " " ++ rest =
      "'-'" ++ " " ++ ("using" ++ " " ++ (names ++ " " ++ rest)) := by
    rw [hopening]
    simp only [String.append_assoc]
  rw [hwords, usingColumns, tokens_append (by decide), tokens_append (by decide), tokens_append h]
  rfl

/-- **The clause of a trace that brings its own data names its
columns.** -/
theorem exists_source_of_isInline {t : Trace} (h : t.isInline = true) :
    ∃ source, t.source = .ok (.text source) ∧
      ∀ rest, usingColumns (source ++ " " ++ rest) = t.columns.map toString := by
  cases t with
  | heights => exact ⟨"'-' using " ++ "1", rfl, usingColumns_append (by decide)⟩
  | points => exact ⟨"'-' using " ++ "1:2", rfl, usingColumns_append (by decide)⟩
  | timeline => exact ⟨"'-' using " ++ "1:2", rfl, usingColumns_append (by decide)⟩
  | candles => exact ⟨"'-' using " ++ "1:2:3:4:5", rfl, usingColumns_append (by decide)⟩
  | expression => cases h

/-- The data of a trace, in front of the line that ends them. -/
theorem exists_data_of_isInline {t : Trace} (h : t.isInline = true) :
    ∃ data, t.block = data ++ [sentinel] ∧ sentinel ∉ data ∧ data.length = t.rows.length ∧
      ∀ line ∈ data, (tokens line).length = t.columns.length := by
  refine ⟨t.writtenRows.map rowLine, if_pos h, ?_, ?_, List.forall_mem_map.2 fun row hrow => ?_⟩
  · intro hmem
    obtain ⟨row, hrow, heq⟩ := List.mem_map.1 hmem
    exact rowLine_ne_sentinel (writtenRows_ne_nil hrow) heq
  · rw [List.length_map, Trace.length_writtenRows]
  · rw [tokens_rowLine (writtenRows_ne_nil hrow), List.length_map,
      Trace.length_of_mem_writtenRows hrow]

end Script

/-! ## The clause of a series -/

/-- What can be shown can be written. -/
theorem Datum.exists_written {d : Datum} (h : d.isShowable = true) :
    ∃ text, d.written = .ok text := by
  cases d with
  | int i =>
    rw [isShowable, decide_eq_true_eq] at h
    exact ⟨_, if_neg (Nat.not_le.2 h)⟩
  | _ => exact ⟨_, rfl⟩

namespace Series

variable {s : Series} {styling : Styling}

theorem exists_titlePart {title : Datum} (h : title.IsText) :
    ∃ text, titlePart title = .ok text := by
  rcases h with rfl | ⟨text, rfl⟩ <;> exact ⟨_, rfl⟩

theorem exists_line {write : Datum → Except Failure String} {d : Datum}
    (h : d ≠ .null → ∃ text, write d = .ok text) : ∃ parts, line write d = .ok parts := by
  by_cases hnull : d = .null
  · exact ⟨[], by rw [hnull]; rfl⟩
  · obtain ⟨text, htext⟩ := h hnull
    exact ⟨[text], by rw [line_of_ne_null hnull, htext]; rfl⟩

/-- **A series with parts that can be written has a clause**, which starts
with its source. -/
theorem exists_clause {source : String} (hsource : s.trace.source = .ok (.text source))
    (htitle : s.title.IsText) (hweight : s.weight.isShowable = true)
    (hcolor : ∃ c : Option (Color.Typed String), s.color = c.map Color.Typed.untyped)
    (hfill : s.fill = .null ∨ ∃ filling, s.fill = Filling.toDatum filling ∧
      ∀ index, filling = .pattern index → index.isShowable = true) :
    ∃ rest, s.clause = .ok (source ++ " " ++ rest) := by
  obtain ⟨title, htitle⟩ := exists_titlePart htitle
  obtain ⟨weight, hweight⟩ :
      ∃ parts, line (fun weight => weight.written.map fun text => "lw " ++ text) s.weight =
        .ok parts := by
    refine exists_line fun _ => ?_
    obtain ⟨text, htext⟩ := Datum.exists_written hweight
    exact ⟨"lw " ++ text, by rw [htext]; rfl⟩
  obtain ⟨color, hcolor⟩ : ∃ parts, colorPart s.color = .ok parts := by
    obtain ⟨c, hc⟩ := hcolor
    rw [hc]
    rcases c with _ | _ | _ <;> exact ⟨_, rfl⟩
  obtain ⟨fill, hfill⟩ : ∃ parts, line Filling.clause s.fill = .ok parts := by
    refine exists_line fun hne => ?_
    obtain ⟨filling, hfilling, hindex⟩ := hfill.resolve_left hne
    rw [hfilling]
    cases filling with
    | solid => exact ⟨_, rfl⟩
    | pattern index =>
      obtain ⟨text, htext⟩ := Datum.exists_written (hindex index rfl)
      exact ⟨"fs pattern " ++ text, by
        rw [Filling.clause, Filling.writeWith, Filling.ofRecord?_toDatum]
        dsimp only
        rw [htext]
        rfl⟩
  refine ⟨" ".intercalate (("with " ++ s.style.scriptText) :: title :: (weight ++ color ++ fill)),
    clause_eq_ok_iff.2 ⟨.text source, source, title, weight, color, fill, hsource, rfl, htitle,
      hweight, hcolor, hfill, ?_⟩⟩
  rw [List.append_assoc, List.append_assoc, ← List.append_assoc weight]
  exact String.intercalate_cons_cons

/-- What a series is that was made with a styling: it keeps the styling,
and it brings its own data or has a text for its expression. -/
theorem MadeWith.keeps (h : s.MadeWith styling)
    (hcolor : ∀ color, Color.ofRecord? styling.color = some color →
      ∃ c : Color.Typed String, color = c.untyped) :
    s.title = styling.title ∧ s.weight = styling.weight ∧ s.fill = styling.fill ∧
      (∃ c : Option (Color.Typed String), s.color = c.map Color.Typed.untyped) ∧
      (s.trace.isInline = true ∨ ∃ text, s.trace = .expression (.text text)) := by
  cases h with
  | data h =>
    obtain ⟨trace, htrace, h⟩ := bind_eq_ok.1 h
    obtain ⟨t, rfl, ht⟩ := exists_typed_of_read htrace
    obtain ⟨c, rfl⟩ := exists_color_of_ofTrace hcolor h
    refine ⟨rfl, rfl, rfl, ⟨c, rfl⟩, .inl ?_⟩
    cases t with
    | expression text => exact absurd rfl (ht text)
    | _ => rfl
  | expression h =>
    obtain ⟨c, rfl⟩ := exists_color_of_ofTrace hcolor h
    exact ⟨rfl, rfl, rfl, ⟨c, rfl⟩, .inr ⟨_, rfl⟩⟩

/-- **A series whose styling can be written renders consistently**,
whatever its data. -/
theorem rendersConsistently_of_made (hstyling : styling.IsWritable) (h : s.MadeWith styling) :
    s.RendersConsistently := by
  obtain ⟨htitle, hweight, hfill, hcolor, htrace⟩ := h.keeps hstyling.color
  have hclause {source : String} (hsource : s.trace.source = .ok (.text source)) :
      ∃ rest, s.clause = .ok (source ++ " " ++ rest) :=
    exists_clause hsource (htitle ▸ hstyling.title) (hweight ▸ hstyling.weight.2) hcolor
      (hfill ▸ hstyling.fill)
  constructor
  · intro hinline
    obtain ⟨source, hsource, hnames⟩ := exists_source_of_isInline hinline
    obtain ⟨rest, hrest⟩ := hclause hsource
    obtain ⟨data, hblock, hsentinel, hlength, hdata⟩ := exists_data_of_isInline hinline
    refine ⟨_, data, hrest, hnames rest, hblock, hsentinel, hlength, fun line hline => ?_⟩
    rw [hdata line hline, hnames rest, List.length_map]
  · intro hinline
    obtain ⟨text, htext⟩ := htrace.resolve_left (by simp [hinline])
    have hsource : s.trace.source = .ok (.text text) := by rw [htext]; rfl
    obtain ⟨rest, hrest⟩ := hclause hsource
    exact ⟨⟨_, hrest⟩, by rw [htext]; rfl⟩
  · constructor
    · intro hinline
      obtain ⟨text, htext⟩ := htrace.resolve_left (by simp [hinline])
      rw [htext]
      exact ⟨rfl, rfl, text, rfl⟩
    · rintro ⟨-, -, text, htext⟩
      rw [htext]
      rfl

/-- A candle with a title, a colour, a weight and a pattern. -/
theorem rendersConsistently_candle :
    let styling : Styling :=
      { title := .text "' using 1", color := .tuple [.int 255, .int (-1), .int 0]
        weight := .int 2, fill := (Filling.pattern (.int 3)).toDatum }
    ∃ s, Series.ofData .candlesticks .candles
        (.list [.tuple [.int 0, .tuple [.int 1, .int 4, .int 0, .int 2]]]) styling = .ok s ∧
      s.RendersConsistently := by
  intro styling
  obtain ⟨s, hs⟩ := exists_of_isOk (by decide +kernel : (Series.ofData .candlesticks .candles
    (.list [.tuple [.int 0, .tuple [.int 1, .int 4, .int 0, .int 2]]]) styling).isOk)
  have hshort : 3 < Datum.unwritable := Datum.lt_unwritable (by decide : 3 < 10 ^ 1) (by decide)
  have hstyling : styling.IsWritable := by
    refine ⟨.inr ⟨_, rfl⟩, nofun, ⟨.inr ⟨2, rfl⟩, decide_eq_true (Nat.lt_of_succ_lt hshort)⟩,
      .inr ⟨.pattern (.int 3), rfl, ?_⟩⟩
    rintro _ ⟨⟩
    exact decide_eq_true hshort
  exact ⟨s, hs, rendersConsistently_of_made hstyling (.data hs)⟩

/-- A colour whose name is a number is taken, and so is a weight that is
too long to be written; neither has a clause. -/
theorem not_rendersConsistently_numberAsName :
    (∃ s, Series.ofData .lines .heights (.list [.real .zero])
        { color := (Color.named (.int 5)).toDatum } = .ok s ∧ ¬ s.RendersConsistently) ∧
    ∃ s, Series.ofData .lines .heights (.list [.real .zero])
        { weight := .int Datum.unwritable } = .ok s ∧ ¬ s.RendersConsistently := by
  constructor
  · refine ⟨{ style := .lines, trace := .heights [.zero], color := some (.named (.int 5)) }, rfl,
      fun h => ?_⟩
    obtain ⟨clause, data, hclause, -⟩ := h.inline rfl
    cases hclause
  · refine ⟨{ style := .lines, trace := .heights [.zero], weight := .int Datum.unwritable }, rfl,
      fun h => ?_⟩
    obtain ⟨clause, data, hclause, -⟩ := h.inline rfl
    have hlong : (Datum.int Datum.unwritable).written =
        .error (.conversion .tooManyDigitsToWrite) :=
      if_pos (Nat.le_of_eq (Int.natAbs_natCast _).symm)
    obtain ⟨_, -, hclause⟩ := bind_eq_ok.1 hclause
    obtain ⟨_, -, hclause⟩ := bind_eq_ok.1 hclause
    obtain ⟨_, hweight, -⟩ := bind_eq_ok.1 hclause
    change line _ (.int Datum.unwritable) = _ at hweight
    rw [line_of_ne_null (d := .int Datum.unwritable) nofun, hlong] at hweight
    cases hweight

end Series

end PlotPipe
