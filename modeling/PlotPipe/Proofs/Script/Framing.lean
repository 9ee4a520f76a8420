import PlotPipe.Proofs.Script.Layout
import PlotPipe.Proofs.Script.Typed
/-!
# Scripts — how a plot is framed

The data of a plot follow its plot line, one block after the other. A
script is `Framed` when that can be read off its lines: cut where a line
holds `e`, the data fall into one block for each series that brings its
own, and each line of a block, cut at its blanks, into the numbers of a
row. Whatever is plotted, no row is empty or looks like the end of a
block (`splitOn_blocks`).

A plot of typed series and settings has such a script, unless one of its
whole numbers is too long to be written (`Writes`).
-/

namespace PlotPipe

open Script

/-- The numbers of a trace as they are written, row by row. Candles are
stored with the high before the low, and written with the high after
it. -/
def Trace.rowTexts (t : Trace) : List (List String) :=
  t.rows.map fun row =>
    (match t, row with
      | .candles _, [time, opening, high, low, closing] => [time, opening, low, high, closing]
      | _, row => row).map Binary64.scriptText

namespace Script

/-- The parts of a line between its blanks. -/
def tokens (line : String) : List String := (line.toList.splitOn ' ').map String.ofList

/-- **The layout of a plot**: its settings, one line that turns the x axis
to time where some series needs it, or back to numbers where that was
asked for, the plot line, and the data, which fall into the rows of the
series that bring their own. -/
def Framed (resetTimeAxis : Bool) (settings : List String) (series : List Series)
    (script : String) : Prop :=
  ∃ plotLine data,
    lines script = settings
      ++ (if series.any fun s => s.trace.isTime then [timeAxis]
          else if resetTimeAxis then [numericAxis] else [])
      ++ plotLine :: (data ++ [""]) ∧
    Opens "plot " plotLine ∧
    (data.splitOn sentinel).map (List.map tokens) =
      (series.filter fun s => s.trace.isInline).map (fun s => s.trace.rowTexts) ++ [[]]

variable {t : Trace} {series : List Series} {resetTimeAxis : Bool}

/-! ## Rows and blocks -/

/-- Parts without blanks are told apart at the blanks between them. -/
theorem tokens_intercalate {parts : List String} (hne : parts ≠ [])
    (h : ∀ part ∈ parts, ' ' ∉ part.toList) : tokens (" ".intercalate parts) = parts := by
  have hblank : (" " : String).toList = [' '] := rfl
  rw [tokens, String.toList_intercalate, hblank, List.splitOn_intercalate, List.map_map]
  · simp [Function.comp_def]
  · intro part hpart
    obtain ⟨s, hs, rfl⟩ := List.mem_map.1 hpart
    exact h s hs
  · simpa using hne

/-- The line of a row. -/
def rowLine (row : List Binary64) : String := " ".intercalate (row.map Binary64.scriptText)

/-- **A row is read back number by number.** -/
theorem tokens_rowLine {row : List Binary64} (hne : row ≠ []) :
    tokens (rowLine row) = row.map Binary64.scriptText := by
  refine tokens_intercalate (by simpa using hne) fun part hpart hmem => ?_
  obtain ⟨x, -, rfl⟩ := List.mem_map.1 hpart
  exact absurd (isNumeral_of_mem_scriptText hmem) (by decide)

/-- **No row ends its block**: its first number is longer than the line
that would. -/
theorem rowLine_ne_sentinel {row : List Binary64} (hne : row ≠ []) : rowLine row ≠ sentinel := by
  intro heq
  have htokens : row.map Binary64.scriptText = [sentinel] := by
    rw [← tokens_rowLine hne, heq]
    decide
  obtain ⟨x, -, hx⟩ := List.mem_map.1 (htokens ▸ List.mem_singleton_self sentinel)
  have hlength := one_lt_length_scriptText x
  rw [hx] at hlength
  exact absurd hlength (by decide)

/-- Rows hold something, in the order of storage and of writing. -/
theorem writtenRows_ne_nil {row : List Binary64} (h : row ∈ t.writtenRows) : row ≠ [] := by
  cases t <;> simp only [Trace.writtenRows, Trace.rows, List.mem_map, List.not_mem_nil] at h
  all_goals
    obtain ⟨value, -, rfl⟩ := h
    simp

/-- What is written of a trace are its rows. -/
theorem map_tokens_rowLine (t : Trace) :
    (t.writtenRows.map rowLine).map tokens = t.rowTexts := by
  have htokens : (t.writtenRows.map rowLine).map tokens =
      t.writtenRows.map (List.map Binary64.scriptText) := by
    rw [List.map_map]
    exact List.map_congr_left fun row hrow => tokens_rowLine (writtenRows_ne_nil hrow)
  rw [htokens]
  cases t <;>
    simp [Trace.rowTexts, Trace.writtenRows, Trace.rows, List.map_map, Function.comp_def]

/-- **The data of a plot fall into blocks** where a line ends one, a block
for each series that brings its own. -/
theorem splitOn_blocks (series : List Series) :
    (series.flatMap fun s => s.trace.block).splitOn sentinel =
      (series.filter fun s => s.trace.isInline).map (fun s => s.trace.writtenRows.map rowLine)
        ++ [[]] := by
  induction series with
  | nil => rfl
  | cons s rest ih =>
    rw [List.flatMap_cons]
    -- An inline series adds its rows and the line that ends them, others add nothing.
    cases hinline : s.trace.isInline with
    | false =>
      have hblock : s.trace.block = [] := by rw [Trace.block, hinline]; rfl
      rw [hblock, List.nil_append, ih, List.filter_cons_of_neg (by simpa using hinline)]
    | true =>
      have hblock : s.trace.block = s.trace.writtenRows.map rowLine ++ [sentinel] := by
        rw [Trace.block, hinline]
        rfl
      have hsentinel : sentinel ∉ s.trace.writtenRows.map rowLine := by
        intro hmem
        obtain ⟨row, hrow, heq⟩ := List.mem_map.1 hmem
        exact rowLine_ne_sentinel (writtenRows_ne_nil hrow) heq
      rw [hblock, List.append_assoc, List.singleton_append,
        List.splitOn_append_cons_self_of_not_mem hsentinel, ih,
        List.filter_cons_of_pos (by simpa using hinline)]
      rfl

/-- **Scripts of plots are framed** when their texts stay on their
line. -/
theorem framed_of_plot {o : Options} {script : String} (hseries : ∀ s ∈ series, s.OnOneLine)
    (ho : o.OnOneLine) (h : Script.plot resetTimeAxis series o = .ok script) :
    ∃ settings, o.directives = .ok settings ∧ Framed resetTimeAxis settings series script := by
  obtain ⟨settings, clauses, hsettings, -, hlines, -⟩ := exists_lines_of_plot hseries ho h
  refine ⟨settings, hsettings, "plot " ++ ", ".intercalate clauses,
    series.flatMap fun s => s.trace.block, ?_, (opens_append (by decide)).2 (by decide), ?_⟩
  · rw [hlines, Series.axisLines]
  · rw [splitOn_blocks, List.map_append, List.map_map]
    simp only [Function.comp_def, map_tokens_rowLine]
    rfl

/-! ## What can be written -/

/-- A computation that has a result, unless one of some whole numbers is
too long to be written. -/
inductive Writes {α : Type} (wholes : List Int) : Except Failure α → Prop
  | ok (a : α) : Writes wholes (.ok a)
  | tooLong {i : Int} : i ∈ wholes → Datum.unwritable ≤ i.natAbs →
      Writes wholes (.error (.conversion .tooManyDigitsToWrite))

variable {wholes : List Int}

namespace Writes

variable {α β : Type} {x : Except Failure α}

theorem bind {f : α → Except Failure β} (hx : Writes wholes x) (hf : ∀ a, Writes wholes (f a)) :
    Writes wholes (x >>= f) := by
  cases hx with
  | ok a => exact hf a
  | tooLong hi hlong => exact .tooLong hi hlong

theorem map (hx : Writes wholes x) (f : α → β) : Writes wholes (x.map f) := by
  cases hx with
  | ok a => exact .ok (f a)
  | tooLong hi hlong => exact .tooLong hi hlong

end Writes

/-- A whole number is written, or too long. -/
theorem writes_written {i : Int} (h : i ∈ wholes) : Writes wholes (Datum.int i).written := by
  by_cases hlong : Datum.unwritable ≤ i.natAbs
  · rw [Datum.written, if_pos hlong]
    exact .tooLong h hlong
  · rw [Datum.written, if_neg hlong]
    exact .ok _

/-- A setting can be written where its value can. -/
theorem writes_line {α : Type} (datum : α → Datum) {write : Datum → Except Failure String}
    {setting : Option α} (h : ∀ value ∈ setting, Writes wholes (write (datum value))) :
    Writes wholes (line write (.ofOption datum setting)) := by
  unfold line
  split
  · exact .ok _
  · cases setting with
    | none => contradiction
    | some value => exact (h value rfl).map _

theorem writes_line? {α : Type} (datum : α → Datum)
    {write : Datum → Except Failure (Option String)} {setting : Option α}
    (h : ∀ value ∈ setting, Writes wholes (write (datum value))) :
    Writes wholes (line? write (.ofOption datum setting)) := by
  unfold line?
  split
  · exact .ok _
  · cases setting with
    | none => contradiction
    | some value => exact (h value rfl).map _

section Settings

theorem writes_output (output : Output.Typed String) :
    Writes wholes (Output.directive output.datum) := by
  obtain ⟨terminal, font⟩ := output
  cases terminal <;> cases font <;> exact .ok _

theorem writes_fill {fill : Filling.Typed} (h : ∀ i ∈ fill.whole?, i ∈ wholes) :
    Writes wholes (Filling.directive fill.datum) ∧ Writes wholes (Filling.clause fill.datum) := by
  rw [Filling.directive, Filling.clause, Filling.writeWith_datum, Filling.writeWith_datum]
  cases fill with
  | solid => exact ⟨.ok _, .ok _⟩
  | pattern i => exact ⟨(writes_written (h i rfl)).map _, (writes_written (h i rfl)).map _⟩

/-- Doubles can be written. -/
theorem writes_range (range : AxisRange.Typed Binary64) :
    Writes wholes (AxisRange.directive (range.map .real).datum) := by
  rw [AxisRange.directive_datum]
  cases range <;> exact .ok _

theorem writes_labels (labels : Labels.Typed String) :
    Writes wholes (Labels.directive? labels.datum) := by
  obtain ⟨x, y⟩ := labels
  cases x <;> cases y <;> exact .ok _

theorem writes_placed (names : List String) (position : Nat) :
    Writes wholes (Titles.placed position (names.map .text)) := by
  induction names generalizing position with
  | nil => exact .ok _
  | cons name rest ih => exact (ih (position + 1)).bind fun _ => .ok _

theorem writes_ticks {axis : String} {ticks : Titles.Ticks String}
    (h : ∀ i ∈ ticks.angle, i ∈ wholes) :
    Writes wholes (Titles.command axis (.ofOption Titles.namesDatum ticks.names)
      (.ofOption .int ticks.angle)) := by
  have hnames : Writes wholes (Titles.namesPart (.ofOption Titles.namesDatum ticks.names)) := by
    cases ticks.names with
    | none => exact .ok _
    | some names => exact (writes_placed names 0).bind fun _ => .ok _
  have hangle : Writes wholes (Titles.anglePart (.ofOption .int ticks.angle)) := by
    cases hsome : ticks.angle with
    | none => exact .ok _
    | some i => exact (writes_written (h i hsome)).map _
  rw [Titles.command_ofOption]
  split
  · exact .ok _
  · exact hnames.bind fun _ => hangle.bind fun _ => .ok _

theorem writes_titles {titles : Titles.Typed String}
    (hx : ∀ i ∈ titles.x.angle, i ∈ wholes) (hy : ∀ i ∈ titles.y.angle, i ∈ wholes) :
    Writes wholes (Titles.directive? titles.datum) := by
  rw [Titles.Typed.datum, Titles.directive?_record]
  exact (writes_ticks hx).bind fun _ => (writes_ticks hy).bind fun _ => .ok _

/-- **Settings can be written** where their whole numbers can. -/
theorem writes_directives {o : Options.Typed String Binary64} (h : ∀ i ∈ o.wholes, i ∈ wholes) :
    Writes wholes o.ofDoubles.directives := by
  have hfill : ∀ fill ∈ o.fill, ∀ i ∈ fill.whole?, i ∈ wholes := by
    intro fill hfill i hi
    have hmem : i ∈ (o.fill.bind Filling.Typed.whole?).toList :=
      Option.mem_toList.2 (Option.mem_bind_iff.2 ⟨fill, hfill, hi⟩)
    exact h i (List.mem_append_left _ (List.mem_append_left _ hmem))
  have hx : ∀ titles ∈ o.titles, ∀ i ∈ titles.x.angle, i ∈ wholes := by
    intro titles htitles i hi
    have hmem : i ∈ (o.titles.bind fun t => t.x.angle).toList :=
      Option.mem_toList.2 (Option.mem_bind_iff.2 ⟨titles, htitles, hi⟩)
    exact h i (List.mem_append_left _ (List.mem_append_right _ hmem))
  have hy : ∀ titles ∈ o.titles, ∀ i ∈ titles.y.angle, i ∈ wholes := by
    intro titles htitles i hi
    have hmem : i ∈ (o.titles.bind fun t => t.y.angle).toList :=
      Option.mem_toList.2 (Option.mem_bind_iff.2 ⟨titles, htitles, hi⟩)
    exact h i (List.mem_append_right _ hmem)
  unfold Options.directives
  refine (writes_line Output.Typed.datum fun output _ => writes_output output).bind fun _ => ?_
  refine (writes_line .text fun _ _ => .ok _).bind fun _ => ?_
  refine (writes_line .truth fun on _ => by cases on <;> exact .ok _).bind fun _ => ?_
  refine (writes_line Filling.Typed.datum fun fill hmem =>
    (writes_fill (hfill fill hmem)).1).bind fun _ => ?_
  refine (writes_line AxisRange.Typed.datum fun range hmem => ?_).bind fun _ => ?_
  · obtain ⟨range, -, rfl⟩ := Option.map_eq_some_iff.1 hmem
    exact writes_range range
  refine (writes_line? Labels.Typed.datum fun labels _ => writes_labels labels).bind fun _ => ?_
  exact (writes_line? Titles.Typed.datum fun titles hmem =>
    writes_titles (hx titles hmem) (hy titles hmem)).bind fun _ => .ok _

end Settings

section Plots

variable {s : Series.Typed String}

theorem writes_colorPart (color : Option (Color.Typed String)) :
    Writes wholes (Series.colorPart (color.map Color.Typed.untyped)) := by
  cases color with
  | none => exact .ok _
  | some color => cases color <;> exact .ok _

/-- **Clauses can be written** where their whole numbers can. -/
theorem writes_clause (h : ∀ i ∈ s.wholes, i ∈ wholes) : Writes wholes s.untyped.clause := by
  have hweight : ∀ i ∈ s.weight, i ∈ wholes := fun i hi =>
    h i (List.mem_append_left _ (Option.mem_toList.2 hi))
  have hfill : ∀ fill ∈ s.fill, ∀ i ∈ fill.whole?, i ∈ wholes := by
    intro fill hfill i hi
    have hmem : i ∈ (s.fill.bind Filling.Typed.whole?).toList :=
      Option.mem_toList.2 (Option.mem_bind_iff.2 ⟨fill, hfill, hi⟩)
    exact h i (List.mem_append_right _ hmem)
  have htitle : Writes wholes (Series.titlePart s.untyped.title) := by
    unfold Series.Typed.untyped
    cases s.title <;> exact .ok _
  rw [Series.Typed.clause_untyped]
  refine htitle.bind fun _ => ?_
  refine (writes_line .int fun i hi => (writes_written (hweight i hi)).map _).bind fun _ => ?_
  refine (writes_colorPart s.color).bind fun _ => ?_
  exact (writes_line Filling.Typed.datum fun fill hmem =>
    (writes_fill (hfill fill hmem)).2).bind fun _ => .ok _

theorem writes_clauses {series : List (Series.Typed String)}
    (h : ∀ s ∈ series, ∀ i ∈ s.wholes, i ∈ wholes) :
    Writes wholes (Series.clauses (series.map Series.Typed.untyped)) := by
  induction series with
  | nil => exact .ok _
  | cons s rest ih =>
    refine (writes_clause (h s List.mem_cons_self)).bind fun _ => ?_
    exact (ih fun s hs => h s (List.mem_cons_of_mem _ hs)).bind fun _ => .ok _

/-- **A plot can be written** where its whole numbers can. -/
theorem writes_plot {series : List (Series.Typed String)} {o : Options.Typed String Binary64}
    (hne : series ≠ []) (ho : ∀ i ∈ o.wholes, i ∈ wholes)
    (h : ∀ s ∈ series, ∀ i ∈ s.wholes, i ∈ wholes) :
    Writes wholes
      (Script.plot resetTimeAxis (series.map Series.Typed.untyped) o.ofDoubles) := by
  refine (writes_directives ho).bind fun settings => ?_
  have hnonempty : (series.map Series.Typed.untyped).isEmpty = false := by simpa using hne
  unfold Series.plotLines
  rw [if_neg (by simp [hnonempty])]
  exact Writes.bind ((writes_clauses h).bind fun _ => .ok _) fun _ => .ok _

end Plots

end Script

/-- **How a plot is framed.** Series that were made of data or of
expressions, with settings of the types that they are declared to have,
have a script that is framed, unless a weight, a pattern or an angle has
more digits than are written. -/
theorem Series.framed_plot {series : List Series} (hne : series ≠ [])
    (hseries : ∀ s ∈ series, s.Built) (o : Options.Typed String Binary64) (resetTimeAxis : Bool) :
    (∃ script settings, Script.plot resetTimeAxis series o.ofDoubles = .ok script ∧
      o.ofDoubles.directives = .ok settings ∧ Framed resetTimeAxis settings series script) ∨
    (Script.plot resetTimeAxis series o.ofDoubles = .error (.conversion .tooManyDigitsToWrite) ∧
      ∃ i : Int, Datum.unwritable ≤ i.natAbs ∧ (i ∈ o.wholes ∨
        ∃ s ∈ series, s.weight = .int i ∨ s.fill = (Filling.pattern (.int i)).toDatum)) := by
  obtain ⟨typed, rfl, hexpression⟩ := exists_typed_of_forall_built hseries
  have hoOnOneLine : o.ofDoubles.OnOneLine := (Options.Typed.declared _).onOneLine
  have hseriesOnOneLine : ∀ s ∈ typed.map Typed.untyped, s.OnOneLine := by
    intro s hs
    obtain ⟨t, ht, rfl⟩ := List.mem_map.1 hs
    exact t.declared.onOneLine fun text htext =>
      hexpression t ht text (Trace.Typed.eq_expression_of_untyped htext)
  have hwrites : Writes (o.wholes ++ typed.flatMap Typed.wholes)
      (Script.plot resetTimeAxis (typed.map Typed.untyped) o.ofDoubles) :=
    writes_plot (by simpa using hne) (fun i hi => List.mem_append_left _ hi)
      fun t ht i hi => List.mem_append_right _ (List.mem_flatMap.2 ⟨t, ht, hi⟩)
  generalize hplot : Script.plot resetTimeAxis (typed.map Typed.untyped) o.ofDoubles = result
    at hwrites
  cases hwrites with
  | ok script =>
    obtain ⟨settings, hsettings, hframed⟩ := framed_of_plot hseriesOnOneLine hoOnOneLine hplot
    exact .inl ⟨script, settings, rfl, hsettings, hframed⟩
  | @tooLong i hi hlong =>
    refine .inr ⟨rfl, i, hlong, ?_⟩
    rcases List.mem_append.1 hi with hi | hi
    · exact .inl hi
    · obtain ⟨t, ht, hi⟩ := List.mem_flatMap.1 hi
      exact .inr ⟨t.untyped, List.mem_map_of_mem ht, t.eq_of_mem_wholes hi⟩

/-- Candles have a block, a curve over them has none, and a title that
looks like the end of a block does not end one. -/
theorem Series.framed_plot_candlesAndCurve :
    let candles : Series :=
      { style := .candlesticks
        trace := .candles [⟨.zero, .zero, .infinity false, .nan, .zero⟩]
        title := .text "e" }
    let curve : Series := { style := .lines, trace := .expression (.text "x") }
    let options : Options.Typed String Binary64 := { title := some "\ne\n", grid := some true }
    ∃ script settings, Script.plot true [candles, curve] options.ofDoubles = .ok script ∧
      options.ofDoubles.directives = .ok settings ∧
      Framed true settings [candles, curve] script := by
  intro candles curve options
  have hcandles : Series.ofData .candlesticks .candles (.list [.tuple
      [.real .zero, .real .zero, .real (.infinity false), .real .nan, .real .zero]])
      { title := .text "e" } = .ok candles := rfl
  have hcurve : Series.ofExpression .lines (.text "x") {} = .ok curve := rfl
  have htitled : Styling.Declared { title := .text "e" } :=
    ⟨⟨some "e", rfl⟩, nofun, ⟨none, rfl⟩, ⟨none, rfl⟩⟩
  have hplain : Styling.Declared {} := ⟨⟨none, rfl⟩, nofun, ⟨none, rfl⟩, ⟨none, rfl⟩⟩
  have hseries : ∀ s ∈ [candles, curve], s.Built := by
    simp only [List.mem_cons, List.not_mem_nil, or_false]
    rintro s (rfl | rfl)
    · exact .data htitled hcandles
    · exact .expression hplain (by decide) hcurve
  exact (Series.framed_plot (by simp) hseries options true).resolve_right nofun

end PlotPipe
