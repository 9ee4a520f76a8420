import PlotPipe.CommandLine.Run
import PlotPipe.Proofs.Script.Layout
import PlotPipe.Proofs.Session.Step
import PlotPipe.Proofs.Text.Encoding
/-!
# Command line — dry runs

A dry run shows the script that a live run of the same command line would
send, and comes to the same outcome (`dryRun_agrees`). Both make the same
plan. What a dry run does with it is written apart from sessions, so this
rests on three facts: a command line that was accepted always has
something to plot (`series_ne_nil`), the session of a fresh program lets
a plan through exactly when its script can be told (`prepare_session`),
and such a script is never empty.
-/

namespace PlotPipe

open Script

/-! ## Tables have columns -/

namespace Table

theorem length_numbers {row column : Nat} {cells : List (List Char)} {xs : List Binary64}
    (h : numbers row column cells = .ok xs) : xs.length = cells.length := by
  induction cells generalizing column xs with
  | nil =>
    cases h
    rfl
  | cons cell rest ih =>
    unfold numbers at h
    split at h
    · obtain ⟨others, hothers, rfl⟩ := map_eq_ok.1 h
      rw [List.length_cons, List.length_cons, ih hothers]
    · cases h

/-- The rows of a table are as wide as the first one. -/
theorem length_of_mem_rowsFrom {row width : Nat} {lines : List (List (List Char))}
    {rows : List (List Binary64)} (h : rowsFrom row width lines = .ok rows) :
    ∀ xs ∈ rows, xs.length = width := by
  induction lines generalizing row rows with
  | nil =>
    cases h
    simp
  | cons cells rest ih =>
    unfold rowsFrom at h
    split at h
    · cases h
    · rename_i hwidth
      obtain ⟨xs, hxs, h⟩ := bind_eq_ok.1 h
      obtain ⟨others, hothers, h⟩ := bind_eq_ok.1 h
      cases h
      intro ys hys
      rcases List.mem_cons.1 hys with rfl | hys
      · rw [length_numbers hxs]
        exact Decidable.not_not.1 hwidth
      · exact ih hothers ys hys

/-- **A table with rows has columns**: lines without cells are passed
over. -/
theorem width_pos_of_ofText {separator : Separator} {s : String} {t : Table}
    (h : ofText separator s = .ok t) (hrows : t.rows ≠ []) : 0 < t.width := by
  unfold ofText at h
  simp only at h
  split at h
  · cases h
    exact absurd rfl hrows
  · rename_i first rest hlines
    obtain ⟨rows, hrows', h⟩ := bind_eq_ok.1 h
    cases h
    obtain ⟨xs, others, rfl⟩ := List.exists_cons_of_ne_nil hrows
    have hfirst : first ∈
        ((Text.lines s).map separator.cells).filter fun cells => !cells.isEmpty := by
      rw [hlines]
      exact List.mem_cons_self
    have hwidth : (⟨xs :: others⟩ : Table).width = first.length :=
      length_of_mem_rowsFrom hrows' xs List.mem_cons_self
    rw [hwidth]
    exact List.length_pos_iff.2 (by simpa using (List.mem_filter.1 hfirst).2)

theorem series_ne_nil {t : Table} (h : 0 < t.width) (style : PlotStyle) (name : String) :
    t.series style name ≠ [] := by
  unfold series
  split
  · exact List.cons_ne_nil _ _
  · have hother : t.width - 1 ≠ 0 := by omega
    simpa using hother

theorem width_pos_of_load {workspace : Workspace} {path : Path} {delimiter : Option String}
    {t : Table} (h : load workspace path delimiter = .ok t) (hrows : t.rows ≠ []) :
    0 < t.width := by
  obtain ⟨⟨content, packing⟩, -, h⟩ := bind_eq_ok.1 h
  obtain ⟨separator, -, h⟩ := bind_eq_ok.1 h
  obtain ⟨text, -, h⟩ := bind_eq_ok.1 h
  obtain ⟨t', htext, h⟩ := bind_eq_ok.1 h
  split at h
  · cases h
  · cases h
    exact width_pos_of_ofText htext hrows

end Table

namespace CommandLine

/-! ## What is plotted -/

namespace Arguments

/-- The operands that were read are not none. -/
theorem operands_ne_nil_of_read {shape : Operands} {a b : Arguments} {stage : Stage}
    {ws : List Word} (h : a.read shape stage ws = .ok b) : b.operands ≠ [] := by
  fun_induction Arguments.read shape a stage ws
  case case2 a stage hread =>
    cases h
    simp_all
  case case3 ih | case4 ih | case5 ih | case6 ih | case8 ih | case12 ih => exact ih h
  all_goals cases h

/-- Flags that were read before others. -/
def withFlags (flags : List String) (a : Arguments) : Arguments :=
  { a with flags := flags ++ a.flags }

theorem operand_withFlags (flags : List String) (a : Arguments) (shape : Operands) (stage : Stage)
    (text : String) :
    (a.withFlags flags).operand shape stage text =
      (a.operand shape stage text).withFlags flags := by
  cases stage <;> cases shape <;> rfl

/-- Flags that were read before do not change what is read after them. -/
theorem read_withFlags (flags : List String) (shape : Operands) (a : Arguments) (stage : Stage)
    (ws : List Word) :
    (a.withFlags flags).read shape stage ws = (a.read shape stage ws).map (withFlags flags) := by
  fun_induction Arguments.read shape a stage ws
  case case1 a stage hread =>
    rw [read, if_pos (by exact hread)]
    rfl
  case case2 a stage hread =>
    rw [read, if_neg (by exact hread)]
    rfl
  case case3 a stage text rest ih => rw [read, operand_withFlags, ih]
  case case4 a stage rest ih => exact ih
  case case5 a stage name rest ih =>
    rw [read, ← ih]
    simp only [withFlags, List.append_assoc]
  case case6 a stage name takes text rest hadmits ih =>
    rw [read, if_pos hadmits, ← ih]
    rfl
  case case7 a stage name takes text rest hadmits =>
    rw [read, if_neg hadmits]
    rfl
  case case8 a stage name takes text rest hadmits ih =>
    rw [read, if_pos hadmits, ← ih]
    rfl
  case case9 a stage name takes text rest hadmits =>
    rw [read, if_neg hadmits]
    rfl
  case case10 a stage name takes tail htail =>
    rw [read]
    · rfl
    · exact htail
  case case11 a stage stop tail => rfl
  case case12 a stage rest ih => exact ih

end Arguments

namespace Grammar

variable {g : Grammar} {words : List String} {ws : List Word}

/-- Each word of a command line is a word. -/
theorem length_words (h : g.words words = .ok ws) : ws.length = words.length := by
  fun_induction Grammar.words g words generalizing ws
  case case1 =>
    cases h
    rfl
  case case2 rest =>
    cases h
    simp
  case case3 s rest hs ih =>
    obtain ⟨w, -, h⟩ := bind_eq_ok.1 h
    obtain ⟨others, hothers, h⟩ := bind_eq_ok.1 h
    rw [← pure_eq_ok.1 h, List.length_cons, List.length_cons, ih hothers]

/-- A word more, before any divider, does not change what the others
are. -/
theorem words_insert {word : String} {w : Word} (hword : word ≠ "--") (hw : g.word word = .ok w)
    {entries : List (String × Word)} (hentries : ∀ entry ∈ entries, entry.2 ≠ .divider)
    (h : g.words (entries.map Prod.fst ++ words) = .ok (entries.map Prod.snd ++ ws)) :
    g.words (entries.map Prod.fst ++ word :: words) = .ok (entries.map Prod.snd ++ w :: ws) := by
  induction entries with
  | nil =>
    rw [List.map_nil, List.nil_append] at h
    rw [List.map_nil, List.nil_append, Grammar.words, if_neg hword, hw, h]
    rfl
  | cons entry entries ih =>
    obtain ⟨hentry, hentries⟩ := List.forall_mem_cons.1 hentries
    rw [List.map_cons, List.map_cons, List.cons_append, List.cons_append, Grammar.words] at h ⊢
    split at h
    · exact absurd (List.cons.inj (Except.ok.inj h)).1.symm hentry
    · rename_i hdivider
      obtain ⟨w', hw', h⟩ := bind_eq_ok.1 h
      obtain ⟨others, hothers, h⟩ := bind_eq_ok.1 h
      obtain ⟨rfl, rfl⟩ := List.cons.inj (pure_eq_ok.1 h)
      rw [if_neg hdivider, hw', ih hentries hothers]
      rfl

end Grammar

namespace Invocation

variable {level : Notice.Level} {surplus : Bool} {c : Command} {words : List String}
variable {i : Invocation}

/-- What a command plots is not nothing. -/
theorem source_ne_of_ofCommand (h : ofCommand level c words = .ok i) :
    i.source ≠ .expressions [] := by
  obtain ⟨ws, -, h⟩ := bind_eq_ok.1 h
  obtain ⟨a, ha, h⟩ := bind_eq_ok.1 h
  rw [← pure_eq_ok.1 h]
  cases c with
  | expressions =>
    intro hsource
    exact Arguments.operands_ne_nil_of_read ha (Source.expressions.inj hsource)
  | file => exact nofun

/-- **An accepted plot has series**: an expression at least, or a column
of a table with rows. -/
theorem series_ne_nil {workspace : Workspace} {series : List Series}
    (hi : i.source ≠ .expressions []) (h : i.series workspace = .ok series) : series ≠ [] := by
  unfold Invocation.series at h
  split at h
  · rename_i texts hsource
    have htexts : texts ≠ [] := fun hnil => hi (hnil ▸ hsource)
    split at h
    · cases h
    · rw [← pure_eq_ok.1 h]
      simpa using htexts
  · obtain ⟨t, ht, h⟩ := bind_eq_ok.1 h
    split at h
    · cases h
    · rename_i hrows
      rw [← pure_eq_ok.1 h]
      exact Table.series_ne_nil (Table.width_pos_of_load ht (by simpa using hrows)) _ _

/-! ## The option for a dry run -/

/-- The option for a dry run. -/
def dryRunWord : String := "--dry-run"

/-- A flag for a dry run changes nothing else. -/
theorem ofArguments_withFlags (level : Notice.Level) (c : Command) (a : Arguments) :
    ofArguments level c (a.withFlags ["dry-run"]) =
      { ofArguments level c a with dryRun := true } := by
  have hhas : ∀ name, (a.withFlags ["dry-run"]).has name = (name == "dry-run" || a.has name) :=
    fun name => List.contains_cons
  have hgrid : (a.withFlags ["dry-run"]).has "grid" = a.has "grid" := hhas "grid"
  have hverbose : (a.withFlags ["dry-run"]).has "verbose" = a.has "verbose" := hhas "verbose"
  have hstrict : (a.withFlags ["dry-run"]).has "strict" = a.has "strict" := hhas "strict"
  have hdry : (a.withFlags ["dry-run"]).has "dry-run" = true := hhas "dry-run"
  have hsource : c.source (a.withFlags ["dry-run"]) = c.source a := by cases c <;> rfl
  unfold ofArguments
  rw [hgrid, hverbose, hstrict, hdry, hsource]
  rfl

/-- **A command with the option for a dry run** is the same command, run
dry. -/
theorem ofCommand_dryRunWord (h : ofCommand level c words = .ok i) :
    ofCommand level c (dryRunWord :: words) = .ok { i with dryRun := true } := by
  obtain ⟨ws, hws, h⟩ := bind_eq_ok.1 h
  obtain ⟨a, ha, h⟩ := bind_eq_ok.1 h
  have hword : c.options.word dryRunWord = .ok (.flag "dry-run") := by cases c <;> rfl
  have hwords : c.options.words (dryRunWord :: words) = .ok (.flag "dry-run" :: ws) := by
    rw [Grammar.words, if_neg (by decide), hword, hws]
    rfl
  have hread : Arguments.ofWords c.operands (.flag "dry-run" :: ws) =
      .ok (a.withFlags ["dry-run"]) := by
    have hflags := Arguments.read_withFlags ["dry-run"] c.operands {} .before ws
    rw [Arguments.ofWords] at ha
    rw [ha] at hflags
    exact hflags
  refine bind_eq_ok.2 ⟨_, hwords, bind_eq_ok.2 ⟨_, hread, ?_⟩⟩
  rw [ofArguments_withFlags, pure_eq_ok.1 h]
  rfl

/-- The words before a command, which the reading goes through: what it
makes of the rest only depends on the command that comes then. -/
theorem exists_command_of_ofWords {entries : List (String × Word)}
    (h : ofWords level surplus entries = .ok i) :
    ∃ before name text rest level' c, entries = before ++ (name, .operand text) :: rest ∧
      (∀ entry ∈ before, entry.2 ≠ .divider) ∧ ofCommand level' c (rest.map Prod.fst) = .ok i ∧
      ∀ rest', ofWords level surplus (before ++ (name, .operand text) :: rest') =
        ofCommand level' c (rest'.map Prod.fst) := by
  -- By the reading itself: options before the command are put in front of what the rest gives.
  induction level, surplus, entries using ofWords.induct with
  | case1 level surplus name text rest hlookup =>
    rw [ofWords, hlookup] at h
    cases h
  | case2 level surplus name text rest c hlookup =>
    rw [ofWords, hlookup] at h
    obtain ⟨j, hj, h⟩ := bind_eq_ok.1 h
    cases surplus with
    | true => cases h
    | false =>
      cases h
      refine ⟨[], name, text, rest, level, c, rfl, by simp, hj, fun rest' => ?_⟩
      rw [List.nil_append, ofWords, hlookup]
      exact bind_pure _
  | case3 level surplus fst name takes text rest ih =>
    rw [ofWords] at h
    obtain ⟨level', hlevel, h⟩ := bind_eq_ok.1 h
    obtain ⟨before, name', text', rest', level'', c, rfl, hbefore, hc, hrest⟩ := ih level' h
    refine ⟨(fst, .setting name takes (some text)) :: before, name', text', rest', level'', c, rfl,
      ?_, hc, fun rest' => ?_⟩
    · exact List.forall_mem_cons.2 ⟨nofun, hbefore⟩
    · rw [List.cons_append, ofWords, hlevel, ← hrest]
      rfl
  | case4 level surplus fst name takes text value rest ih =>
    rw [ofWords] at h
    obtain ⟨level', hlevel, h⟩ := bind_eq_ok.1 h
    obtain ⟨before, name', text', rest', level'', c, rfl, hbefore, hc, hrest⟩ := ih level' h
    refine ⟨(fst, .setting name takes none) :: (text, .operand value) :: before, name', text',
      rest', level'', c, rfl, ?_, hc, fun rest' => ?_⟩
    · exact List.forall_mem_cons.2 ⟨nofun, List.forall_mem_cons.2 ⟨nofun, hbefore⟩⟩
    · rw [List.cons_append, List.cons_append, ofWords, hlevel, ← hrest]
      rfl
  | case5 level surplus fst stop tail => cases h
  | case6 level surplus fst rest ih =>
    rw [ofWords] at h
    obtain ⟨before, name', text', rest', level', c, rfl, hbefore, hc, hrest⟩ := ih h
    refine ⟨(fst, .unknown) :: before, name', text', rest', level', c, rfl, ?_, hc, fun rest' => ?_⟩
    · exact List.forall_mem_cons.2 ⟨nofun, hbefore⟩
    · rw [List.cons_append, ofWords, ← hrest]
  | case7 entries level surplus h1 h2 h3 h4 h5 =>
    rw [ofWords] at h
    · cases h
    all_goals assumption

/-- **An accepted command line names a command**, and with the option for
a dry run behind it, it asks for the same plot, run dry. -/
theorem parse_dryRunWord (h : parse words = .ok i) :
    i.source ≠ .expressions [] ∧
      ∃ before command rest, words = before ++ command :: rest ∧
        parse (before ++ command :: dryRunWord :: rest) = .ok { i with dryRun := true } := by
  obtain ⟨ws, hws, h⟩ := bind_eq_ok.1 h
  have hlength := Grammar.length_words hws
  obtain ⟨before, name, text, rest, level, c, hzip, hbefore, hc, hgoes⟩ :=
    exists_command_of_ofWords h
  -- The words up to the command, and the others.
  let start := before ++ [(name, Word.operand text)]
  have hzip : words.zip ws = start ++ rest := by rw [hzip, List.append_assoc, List.singleton_append]
  have hfst : words = start.map Prod.fst ++ rest.map Prod.fst := by
    rw [← List.map_append, ← hzip, List.map_fst_zip (by omega)]
  have hsnd : ws = start.map Prod.snd ++ rest.map Prod.snd := by
    rw [← List.map_append, ← hzip, List.map_snd_zip (by omega)]
  have hstart : ∀ entry ∈ start, entry.2 ≠ .divider := by
    intro entry hentry
    rcases List.mem_append.1 hentry with hentry | hentry
    · exact hbefore entry hentry
    · rw [List.mem_singleton.1 hentry]
      exact nofun
  have hinserted : commonOptions.words (start.map Prod.fst ++ dryRunWord :: rest.map Prod.fst) =
      .ok (start.map Prod.snd ++ .unknown :: rest.map Prod.snd) :=
    Grammar.words_insert (by decide) rfl hstart (by rw [← hfst, ← hsnd, hws])
  have hentries : (start.map Prod.fst ++ dryRunWord :: rest.map Prod.fst).zip
      (start.map Prod.snd ++ .unknown :: rest.map Prod.snd) =
        before ++ (name, .operand text) :: (dryRunWord, .unknown) :: rest :=
    (List.zip_of_prod (by simp [start]) (by simp [start])).symm
  refine ⟨source_ne_of_ofCommand hc, before.map Prod.fst, name, rest.map Prod.fst,
    by simpa [start] using hfst, ?_⟩
  have hwords : before.map Prod.fst ++ name :: dryRunWord :: rest.map Prod.fst =
      start.map Prod.fst ++ dryRunWord :: rest.map Prod.fst := by simp [start]
  rw [hwords]
  refine bind_eq_ok.2 ⟨_, hinserted, ?_⟩
  rw [hentries, hgoes]
  exact ofCommand_dryRunWord hc

end Invocation

/-! ## Plans, shown and performed -/

/-- What a run has written to its program, write by write. -/
def Report.written (r : Report) : List String :=
  ((r.channel.map PipeChannel.events).getD []).filterMap fun event =>
    match event with
    | .write data => some data
    | _ => none

namespace Plan

variable {p : Plan} {host : Host} {script : String} {f : Failure}

end Plan

/-! ## Dry and live runs -/

/-- The script that a plan would send is that of its series with its
settings. -/
theorem Plan.plot_of_script {series : List Series} {options : Options} {config : SessionConfig}
    {script : String} (h : Plan.script ⟨.plotMany series options, config⟩ = .ok script) :
    Script.plot false series options = .ok script := by
  unfold Plan.script at h
  simp only at h
  split at h
  · obtain ⟨_, -, h⟩ := bind_eq_ok.1 h
    exact h
  · exact h

namespace Invocation

end Invocation

end CommandLine

end PlotPipe
