import Mathlib.Data.List.TakeWhile
import PlotPipe.Proofs.CommandLine.DryRun
import PlotPipe.Proofs.Number.ReadBack
import PlotPipe.Proofs.Script.Framing
/-!
# Command line — the data of a file in a script

A table of doubles that is written as a text, one row on a line with
blanks between the numbers, is read from its file as it was
(`ofText_spells`), and a dry run shows its columns: the only one by
itself, or the first one with each of the others. Each number goes
through the text twice, from the file into the table and from there into
the script, and is written in the script as it was in the file.
-/

namespace PlotPipe

open Script

namespace Table

variable {n m : ℕ}

/-! ## The text of a table -/

/-- The rows of a table that is given cell by cell. -/
def rowsOf (cells : Fin n → Fin m → Binary64) : List (List Binary64) :=
  List.ofFn fun i => List.ofFn (cells i)

/-- A text spells a table: it has a line for each row, and perhaps a line
end behind the last one. -/
def Spells (text : String) (cells : Fin n → Fin m → Binary64) : Prop :=
  text = ofLines ((rowsOf cells).map rowLine) ∨
    text = "\n".intercalate ((rowsOf cells).map rowLine)

theorem cell?_scriptText (x : Binary64) : cell? x.scriptText.toList = some x := by
  have hblank : ∀ c ∈ x.scriptText.toList, Text.isBlank c = false := fun c hc =>
    (of_isNumeral (isNumeral_of_mem_scriptText hc)).1
  rw [cell?, Text.trimBy_of_forall hblank, Binary64.plain?_scriptText]

theorem numbers_scriptText (row column : ℕ) (xs : List Binary64) :
    numbers row column (xs.map fun x => x.scriptText.toList) = .ok xs := by
  induction xs generalizing column with
  | nil => rfl
  | cons x xs ih =>
    rw [List.map_cons, numbers, cell?_scriptText]
    dsimp only
    rw [ih]
    rfl

/-- Rows of one width are read back number by number. -/
theorem rowsFrom_scriptText {width : ℕ} {rows : List (List Binary64)}
    (h : ∀ row ∈ rows, row.length = width) (before : ℕ) :
    rowsFrom before width (rows.map fun row => row.map fun x => x.scriptText.toList) =
      .ok rows := by
  induction rows generalizing before with
  | nil => rfl
  | cons row rows ih =>
    have hwidth : ¬ (row.map fun x => x.scriptText.toList).length ≠ width := by
      simp [h row List.mem_cons_self]
    rw [List.map_cons, rowsFrom, if_neg hwidth, numbers_scriptText,
      ih fun r hr => h r (List.mem_cons_of_mem _ hr)]
    rfl

/-- A line of numbers is made of the characters of numbers and blanks. -/
theorem isNumeral_of_mem_rowLine {row : List Binary64} {c : Char}
    (h : c ∈ (rowLine row).toList) : c = ' ' ∨ isNumeral c := by
  rcases Text.mem_toList_intercalate h with h | ⟨s, hs, h⟩
  · exact .inl (by simpa using h)
  · obtain ⟨x, -, rfl⟩ := List.mem_map.1 hs
    exact .inr (isNumeral_of_mem_scriptText h)

/-- The cells of a line are the texts that it was made of. -/
theorem cells_rowLine (row : List Binary64) :
    Separator.blanks.cells (rowLine row).toList = row.map fun x => x.scriptText.toList := by
  have hcomment : (rowLine row).toList.takeWhile (fun c => c ≠ commentMark) =
      (rowLine row).toList := by
    refine List.takeWhile_eq_self_iff.2 fun c hc => decide_eq_true ?_
    rintro rfl
    exact absurd (isNumeral_of_mem_rowLine hc) (by decide)
  have hblank : (" " : String).toList = [' '] := rfl
  rw [Separator.cells, hcomment, rowLine, String.toList_intercalate, hblank, List.map_map]
  refine Text.words_intercalate rfl fun part hpart => ?_
  obtain ⟨x, -, rfl⟩ := List.mem_map.1 hpart
  refine ⟨fun hnil => ?_, fun c hc => (of_isNumeral (isNumeral_of_mem_scriptText hc)).1⟩
  have hlength := one_lt_length_scriptText x
  rw [show x.scriptText.toList = [] from hnil] at hlength
  exact absurd hlength (by decide)

section Spells

variable {cells : Fin (n + 1) → Fin (m + 1) → Binary64} {text : String}

/-- The lines of a text that spells a table are those of its rows, and
perhaps an empty one. -/
theorem lines_of_spells (h : Spells text cells) :
    ∃ rest, (rest = [] ∨ rest = [[]]) ∧
      Text.lines text = (rowsOf cells).map (fun row => (rowLine row).toList) ++ rest := by
  have hends : ∀ line ∈ (rowsOf cells).map rowLine, '\n' ∉ line.toList ∧ '\r' ∉ line.toList := by
    intro line hline
    obtain ⟨row, -, rfl⟩ := List.mem_map.1 hline
    exact ⟨fun hmem => absurd (isNumeral_of_mem_rowLine hmem) (by decide),
      fun hmem => absurd (isNumeral_of_mem_rowLine hmem) (by decide)⟩
  rcases h with rfl | rfl
  · refine ⟨[[]], .inr rfl, ?_⟩
    rw [ofLines, Text.lines_join hends, List.map_map]
    rfl
  · refine ⟨[], .inl rfl, ?_⟩
    rw [Text.lines_intercalate hends (by simp [rowsOf]), List.map_map, List.append_nil]
    rfl

/-- **A text that spells a table is read as the table.** -/
theorem ofText_of_spells (h : Spells text cells) : ofText .blanks text = .ok ⟨rowsOf cells⟩ := by
  obtain ⟨rest, hrest, hlines⟩ := lines_of_spells h
  have hcells : ((rowsOf cells).map fun row => (rowLine row).toList).map Separator.blanks.cells =
      (rowsOf cells).map fun row => row.map fun x => x.scriptText.toList := by
    rw [List.map_map]
    exact List.map_congr_left fun row _ => cells_rowLine row
  have hwidth : ∀ row ∈ rowsOf cells, row.length = m + 1 := by
    intro row hrow
    obtain ⟨i, rfl⟩ := List.mem_ofFn.1 hrow
    exact List.length_ofFn
  -- No row is without cells, but the line behind the last line end is.
  have hkept : ((Text.lines text).map Separator.blanks.cells).filter (fun cells => !cells.isEmpty) =
      (rowsOf cells).map fun row => row.map fun x => x.scriptText.toList := by
    rw [hlines, List.map_append, List.filter_append, hcells, List.filter_eq_self.2]
    · rcases hrest with rfl | rfl <;> exact List.append_nil _
    · intro line hline
      obtain ⟨row, hrow, rfl⟩ := List.mem_map.1 hline
      have hlength := hwidth row hrow
      cases row with
      | nil => cases hlength
      | cons x row => rfl
  obtain ⟨first, others, hrows⟩ :=
    List.exists_cons_of_ne_nil (show rowsOf cells ≠ [] by simp [rowsOf])
  have hfirst : (first.map fun x => x.scriptText.toList).length = m + 1 := by
    rw [List.length_map, hwidth first (hrows ▸ List.mem_cons_self)]
  have hread := rowsFrom_scriptText hwidth 0
  rw [ofText, hkept]
  rw [hrows, List.map_cons] at hread ⊢
  dsimp only
  rw [hfirst, hread]
  rfl

end Spells

/-! ## The columns of a table -/

section Columns

variable (cells : Fin (n + 1) → Fin (m + 1) → Binary64)

theorem width_rowsOf : (⟨rowsOf cells⟩ : Table).width = m + 1 := by
  simp [width, rowsOf, List.ofFn_succ]

/-- A column has the cells of the table at its place. -/
theorem column_rowsOf (j : Fin (m + 1)) :
    (⟨rowsOf cells⟩ : Table).column j = List.ofFn fun i => cells i j := by
  have hcell : ∀ i, (List.ofFn (cells i))[(j : ℕ)]? = some (cells i j) := by
    intro i
    rw [List.getElem?_ofFn, dif_pos j.isLt]
  rw [column, rowsOf, List.ofFn_eq_map, List.filterMap_map, List.ofFn_eq_map]
  simp only [Function.comp_def, hcell, List.filterMap_eq_map']

theorem points_rowsOf (j : Fin (m + 1)) :
    (⟨rowsOf cells⟩ : Table).points j = List.ofFn fun i => (cells i 0, cells i j) := by
  have hfirst := column_rowsOf cells 0
  rw [Fin.val_zero] at hfirst
  rw [points, hfirst, column_rowsOf, List.ofFn_eq_map, List.ofFn_eq_map, List.zip_map',
    List.ofFn_eq_map]

end Columns

/-- **The blocks of a table** in a script: the cells of its only column,
or those of the first one with those of each of the others. -/
def blocks : {m : ℕ} → (Fin (n + 1) → Fin (m + 1) → Binary64) → List (List (List String))
  | 0, cells => [List.ofFn fun i => [(cells i 0).scriptText]]
  | m + 1, cells =>
    List.ofFn fun j : Fin (m + 1) =>
      List.ofFn fun i => [(cells i 0).scriptText, (cells i j.succ).scriptText]

/-- The numbers of the columns after the first. -/
theorem range'_eq_ofFn (m : ℕ) : List.range' 1 m = List.ofFn fun j : Fin m => (j : ℕ) + 1 := by
  refine List.ext_getElem (by simp) fun i hi hi' => ?_
  rw [List.getElem_range', List.getElem_ofFn]
  show 1 + 1 * i = i + 1
  omega

/-- **The series of a table draw its blocks.** -/
theorem rowTexts_series (cells : Fin (n + 1) → Fin (m + 1) → Binary64) (style : PlotStyle)
    (name : String) :
    (((⟨rowsOf cells⟩ : Table).series style name).map fun s => s.trace.rowTexts) =
      blocks cells := by
  rw [series, width_rowsOf]
  cases m with
  | zero =>
    have hcolumn := column_rowsOf cells 0
    rw [Fin.val_zero] at hcolumn
    rw [if_pos rfl, hcolumn]
    simp [blocks, Trace.rowTexts, Trace.rows, Function.comp_def, -List.ofFn_succ]
  | succ m =>
    have hpoints : ∀ j : Fin (m + 1), (⟨rowsOf cells⟩ : Table).points (j + 1) =
        List.ofFn fun i => (cells i 0, cells i j.succ) := fun j => points_rowsOf cells j.succ
    rw [if_neg (by omega), Nat.add_sub_cancel, range'_eq_ofFn, List.map_ofFn, List.map_ofFn]
    simp [blocks, Trace.rowTexts, Trace.rows, Function.comp_def, hpoints, -List.ofFn_succ]

/-- The series of a table as series over texts. -/
def typedSeries (t : Table) (style : PlotStyle) (name : String) : List (Series.Typed String) :=
  if t.width = 1 then [{ style, trace := .heights (t.column 0), title := some name }]
  else
    (List.range' 1 (t.width - 1)).map fun n =>
      { style, trace := .points (t.points n), title := some ("column " ++ toString (n + 1)) }

section Series

variable {t : Table} {style : PlotStyle} {name : String}

theorem untyped_typedSeries :
    (t.typedSeries style name).map Series.Typed.untyped = t.series style name := by
  unfold typedSeries series
  split
  · rfl
  · rw [List.map_map]
    rfl

/-- The series of a table have nothing that may be too long to be written,
bring their own data, and do not draw over time. -/
theorem of_mem_typedSeries {s : Series.Typed String} (h : s ∈ t.typedSeries style name) :
    s.wholes = [] ∧ s.trace.untyped.isInline = true ∧ s.trace.untyped.isTime = false := by
  unfold typedSeries at h
  split at h
  · rw [List.mem_singleton.1 h]
    exact ⟨rfl, rfl, rfl⟩
  · obtain ⟨n, -, rfl⟩ := List.mem_map.1 h
    exact ⟨rfl, rfl, rfl⟩

/-- **The script of a table**, with settings in which nothing may be too
long to be written: the settings, the plot line, and a block for each
series. -/
theorem exists_script {o : Options.Typed String Binary64} {settings : List String}
    (ho : o.wholes = []) (hsettings : o.ofDoubles.directives = .ok settings)
    (hwidth : 0 < t.width) :
    ∃ script plotLine data, Script.plot false (t.series style name) o.ofDoubles = .ok script ∧
      lines script = settings ++ plotLine :: (data ++ [""]) ∧ Opens "plot " plotLine ∧
      (data.splitOn sentinel).map (List.map tokens) =
        (t.series style name).map (fun s => s.trace.rowTexts) ++ [[]] := by
  have hne : t.typedSeries style name ≠ [] := by
    intro hnil
    have hseries := series_ne_nil hwidth style name
    rw [← untyped_typedSeries, hnil] at hseries
    exact hseries rfl
  have hwrites : Writes [] (Script.plot false ((t.typedSeries style name).map Series.Typed.untyped)
      o.ofDoubles) :=
    writes_plot hne (by simp [ho]) fun s hs i hi => by rwa [(of_mem_typedSeries hs).1] at hi
  have honLine : ∀ s ∈ (t.typedSeries style name).map Series.Typed.untyped, s.OnOneLine := by
    intro s hs
    obtain ⟨typed, hmem, rfl⟩ := List.mem_map.1 hs
    refine typed.declared.onOneLine fun text htext => ?_
    have hinline : typed.trace.untyped.isInline = true := (of_mem_typedSeries hmem).2.1
    rw [show typed.trace.untyped = .expression (.text text) from htext] at hinline
    cases hinline
  have hinline : ∀ s ∈ t.series style name, s.trace.isInline = true ∧ s.trace.isTime = false := by
    intro s hs
    rw [← untyped_typedSeries] at hs
    obtain ⟨typed, hmem, rfl⟩ := List.mem_map.1 hs
    exact (of_mem_typedSeries hmem).2
  rw [untyped_typedSeries] at hwrites honLine
  generalize hplot : Script.plot false (t.series style name) o.ofDoubles = result at hwrites
  cases hwrites with
  | tooLong hi _ => cases hi
  | ok script =>
    obtain ⟨settings', hsettings', plotLine, data, hlines, hopens, hblocks⟩ :=
      framed_of_plot honLine (Options.Typed.declared _).onOneLine hplot
    obtain rfl : settings = settings' := Except.ok.inj (hsettings.symm.trans hsettings')
    have htime : (t.series style name).any (fun s => s.trace.isTime) = false :=
      List.any_eq_false.2 fun s hs => by simp [(hinline s hs).2]
    have hall : (t.series style name).filter (fun s => s.trace.isInline) = t.series style name :=
      List.filter_eq_self.2 fun s hs => (hinline s hs).1
    rw [htime, if_neg Bool.false_ne_true, if_neg Bool.false_ne_true, List.append_nil] at hlines
    rw [hall] at hblocks
    exact ⟨script, plotLine, data, rfl, hlines, hopens, hblocks⟩

end Series

/-- What is opened under a path is a text, as it is. -/
def Opens (workspace : Workspace) (path : Path) (text : String) : Prop :=
  fetch workspace path = .ok (text.toUTF8, none)

theorem load_of_opens {workspace : Workspace} {path : Path} {text : String}
    (h : Table.Opens workspace path text) : load workspace path none = ofText .blanks text := by
  rw [load, h]
  show (Workspace.decode text.toUTF8 >>= fun s => ofText .blanks s >>= pure) = _
  rw [Workspace.decode_toUTF8]
  exact bind_pure (ofText .blanks text)

end Table

namespace CommandLine

/-- **A run shows blocks of data**: it ends well, and behind the line of
the terminal and the plot line its output is the blocks, each of which
ends where a line holds `e`. -/
structure Report.ShowsBlocks (r : Report) (blocks : List (List (List String))) : Prop where
  code : r.code? = some 0
  data : ∃ plotLine data,
    lines r.output = "set terminal wxt persist; unset output" :: plotLine :: (data ++ [""]) ∧
    Opens "plot " plotLine ∧ (data.splitOn sentinel).map (List.map tokens) = blocks ++ [[]]

namespace Grammar

theorem ne_dashes_of_head? {s : String} (h : s.toList.head? ≠ some '-') : s ≠ "--" := by
  rintro rfl
  exact h rfl

/-- A word that does not begin with a hyphen is an operand. -/
theorem word_of_head? (g : Grammar) {s : String} (h : s.toList.head? ≠ some '-') :
    g.word s = .ok (.operand s) := by
  unfold word
  split
  all_goals first | rfl | simp_all

end Grammar

namespace Invocation

/-- The invocation that draws a data file in a style and is run dry. -/
def ofFile (file : String) (style : PlotStyle) : Invocation :=
  { source := .file (.ofText file) none, style, dryRun := true }

/-- The settings of a plot that nothing was said about. -/
def plainOptions : Options.Typed String Binary64 := { output := some ⟨.wxt, none⟩ }

theorem options_ofFile (file : String) (style : PlotStyle) :
    (ofFile file style).options = .ok plainOptions.ofDoubles := by
  have hterminal : Output.terminalOfArgument "wxt" = .ok .wxt := rfl
  have houtput : Output.ofArgument "wxt" none = .ok (Output.Typed.datum ⟨.wxt, none⟩) := by
    rw [Output.ofArgument, hterminal]
    rfl
  have hoptions : (ofFile file style).options =
      (Output.ofArgument "wxt" none >>= fun output => .ok { output }) := rfl
  rw [hoptions, houtput]
  rfl

/-- The command for a data file is read from the name of the file on. -/
theorem parse_data {file : String} {rest : List String} {ws : List Word}
    (hfile : file.toList.head? ≠ some '-') (hrest : commonOptions.words rest = .ok ws) :
    parse ("data" :: file :: rest) = ofCommand .warning .file (file :: rest) := by
  have hne := Grammar.ne_dashes_of_head? hfile
  have hwords : commonOptions.words ("data" :: file :: rest) =
      .ok (.operand "data" :: .operand file :: ws) := by
    rw [Grammar.words, if_neg (by decide), Grammar.words, if_neg hne,
      Grammar.word_of_head? commonOptions hfile, hrest]
    rfl
  have hlength := Grammar.length_words hrest
  have hnames : (("data" :: file :: rest).zip (.operand "data" :: .operand file :: ws)) =
      ("data", .operand "data") :: (file, .operand file) :: rest.zip ws := rfl
  rw [parse, hwords]
  show ofWords .warning false (("data" :: file :: rest).zip _) = _
  rw [hnames, ofWords, show Command.names.lookup "data" = some .file from rfl]
  show (ofCommand .warning .file (file :: (rest.zip ws).map Prod.fst) >>= pure) = _
  rw [bind_pure, List.map_fst_zip (by omega)]

/-- **The words that draw a data file** in a style. -/
theorem parse_ofFile {file name : String} {style : PlotStyle} (hfile : file.toList.head? ≠ some '-')
    (hstyle : (name, style) ∈ styleNames) :
    parse ["data", file, "--style", name, "--dry-run"] = .ok (ofFile file style) := by
  have hne := Grammar.ne_dashes_of_head? hfile
  have hname : name = "lines" ∧ style = .lines ∨ name = "points" ∧ style = .points ∨
      name = "steps" ∧ style = .steps := by simpa [styleNames] using hstyle
  -- Whatever the style is, the words are told apart in the same way.
  rcases hname with ⟨rfl, rfl⟩ | ⟨rfl, rfl⟩ | ⟨rfl, rfl⟩
  all_goals
    rw [parse_data hfile rfl, ofCommand, Grammar.words, if_neg hne,
      Grammar.word_of_head? Command.file.options hfile]
    rfl

/-- **The words that draw a data file** in the style that is not asked
for. -/
theorem parse_ofFile_plain {file : String} (hfile : file.toList.head? ≠ some '-') :
    parse ["data", file, "--dry-run"] = .ok (ofFile file .lines) := by
  have hne := Grammar.ne_dashes_of_head? hfile
  rw [parse_data hfile rfl, ofCommand, Grammar.words, if_neg hne,
    Grammar.word_of_head? Command.file.options hfile]
  rfl

/-- A run that draws a table shows its blocks. -/
theorem run_ofFile {n m : ℕ} (cells : Fin (n + 1) → Fin (m + 1) → Binary64) {text file : String}
    {host : Host} (style : PlotStyle) (htext : Table.Spells text cells)
    (hfile : Table.Opens host.workspace (.ofText file) text) :
    ((ofFile file style).run host).ShowsBlocks (Table.blocks cells) := by
  have hload := (Table.load_of_opens hfile).trans (Table.ofText_of_spells htext)
  have hrows : (Table.rowsOf cells).isEmpty = false := by simp [Table.rowsOf]
  have hseries : (ofFile file style).series host.workspace =
      .ok ((⟨Table.rowsOf cells⟩ : Table).series style (Path.ofText file).name) := by
    unfold Invocation.series
    show (Table.load host.workspace (.ofText file) none >>= _) = _
    rw [hload]
    show (if (Table.rowsOf cells).isEmpty then _ else _) = _
    rw [hrows]
    rfl
  have hwidth : 0 < (⟨Table.rowsOf cells⟩ : Table).width := by
    rw [Table.width_rowsOf]
    omega
  obtain ⟨script, plotLine, data, hscript, hlines, hopens, hblocks⟩ :=
    @Table.exists_script _ style (Path.ofText file).name plainOptions _ rfl rfl hwidth
  have hplan : (ofFile file style).plan host.workspace = .ok
      ⟨.plotMany ((⟨Table.rowsOf cells⟩ : Table).series style (Path.ofText file).name)
        plainOptions.ofDoubles, {}⟩ := by
    rw [plan, hseries, options_ofFile]
    rfl
  have hrun : (ofFile file style).run host =
      { result := .ok (), output := script, workspace := host.workspace } := by
    have hpreview : Plan.script ⟨.plotMany ((⟨Table.rowsOf cells⟩ : Table).series style
        (Path.ofText file).name) plainOptions.ofDoubles, {}⟩ = .ok script := hscript
    rw [run, hplan]
    show Plan.preview _ _ = _
    rw [Plan.preview, hpreview]
  rw [hrun]
  rw [Table.rowTexts_series] at hblocks
  exact ⟨rfl, plotLine, data, hlines, hopens, hblocks⟩

/-- **A data file is shown without loss.** A table of any doubles, with a
row and a column at least, that is written as a text and drawn from a
file with that text, is shown by a dry run in its blocks, in which every
number is written as it was in the file. Without a style the words ask for
lines. -/
theorem dataFile_shown {n m : ℕ} (cells : Fin (n + 1) → Fin (m + 1) → Binary64)
    {text file : String} {host : Host} (style : PlotStyle) (htext : Table.Spells text cells)
    (hfile : Table.Opens host.workspace (.ofText file) text) :
    ((ofFile file style).run host).ShowsBlocks (Table.blocks cells) ∧
      (file.toList.head? ≠ some '-' →
        parse ["data", file, "--dry-run"] = .ok (ofFile file .lines) ∧
        ∀ name, (name, style) ∈ styleNames →
          parse ["data", file, "--style", name, "--dry-run"] = .ok (ofFile file style)) :=
  ⟨run_ofFile cells style htext hfile, fun hhead =>
    ⟨parse_ofFile_plain hhead, fun _ hstyle => parse_ofFile hhead hstyle⟩⟩

/-- Two rows of three numbers that are not finite or zero. -/
def sampleCells (i : Fin 2) (j : Fin 3) : Binary64 :=
  if i = 0 then .nan else if j = 1 then .infinity true else .zero

/-- The two rows in a file without a line end behind the last one. -/
theorem dataFile_shown_sample :
    let text := "\n".intercalate ((Table.rowsOf sampleCells).map rowLine)
    let host : Host :=
      { workspace := { files := [(⟨.above 0, ["d.txt"]⟩, text.toUTF8)] }
        start := fun _ => .ok { pid := 1, pipe := some {} } }
    Table.Opens host.workspace (.ofText "d.txt") text ∧
      ((ofFile "d.txt" .points).run host).ShowsBlocks (Table.blocks sampleCells) ∧
      parse ["data", "d.txt", "--dry-run"] = .ok (ofFile "d.txt" .lines) ∧
      parse ["data", "d.txt", "--style", "points", "--dry-run"] = .ok (ofFile "d.txt" .points) ∧
      Table.blocks sampleCells =
        [[["NaN", "NaN"], ["0.0", "-Inf"]], [["NaN", "NaN"], ["0.0", "0.0"]]] := by
  intro text host
  have hopens : Table.Opens host.workspace (.ofText "d.txt") text := rfl
  obtain ⟨hshown, hwords⟩ := dataFile_shown sampleCells .points (.inr rfl) hopens
  obtain ⟨hplain, hstyled⟩ := hwords (by decide)
  exact ⟨hopens, hshown, hplain, hstyled "points" (by decide), by decide +kernel⟩

end Invocation

end CommandLine

end PlotPipe
