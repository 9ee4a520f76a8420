import PlotPipe.Proofs.Outcome
import PlotPipe.Proofs.Script.Declared
/-!
# Scripts — what their lines are

The lines of a script are the lines of its settings, one that turns the
x axis where that is needed, the plot line, and the data. Only the plot
line plots, and only the line before it turns the x axis: the others are
`Neutral`. That holds of every request that stays on its line, whatever
its settings and data say.
-/

namespace PlotPipe

namespace Script

/-- Two texts of which neither opens with the other. -/
def Diverge (a b : String) : Prop := ¬ Opens a b ∧ ¬ Opens b a

/-- A command that stays on its line and neither plots nor turns the x
axis, whatever may follow it. -/
def Inert (command : String) : Prop :=
  OnOneLine command ∧ Diverge "plot " command ∧ Diverge "set xdata" command

/-- A line that neither plots nor turns the x axis. -/
def Neutral (line : String) : Prop :=
  ¬ Opens "plot " line ∧ line ≠ timeAxis ∧ line ≠ numericAxis

instance (a : String) : DecidablePred (Diverge a) := fun b =>
  inferInstanceAs (Decidable (¬ Opens a b ∧ ¬ Opens b a))

instance : DecidablePred Inert := fun command =>
  inferInstanceAs (Decidable
    (OnOneLine command ∧ Diverge "plot " command ∧ Diverge "set xdata" command))

instance : DecidablePred Neutral := fun line =>
  inferInstanceAs (Decidable (¬ Opens "plot " line ∧ line ≠ timeAxis ∧ line ≠ numericAxis))

variable {a b command : String} {ls : List String}

/-- Texts that differ go on to differ. -/
theorem Diverge.append (h : Diverge a b) (c : String) : Diverge a (b ++ c) := by
  obtain ⟨hab, hba⟩ := h
  have hb : b.toList <+: (b ++ c).toList := by
    rw [String.toList_append]
    exact List.prefix_append _ _
  refine ⟨fun ha => ?_, fun hc => hba (hb.trans hc)⟩
  -- Two openings of one text are openings of each other.
  rcases List.prefix_or_prefix_of_prefix ha hb with h | h
  · exact hab h
  · exact hba h

theorem Inert.append (ha : Inert a) (hb : OnOneLine b) : Inert (a ++ b) :=
  ⟨onOneLine_append.2 ⟨ha.1, hb⟩, ha.2.1.append b, ha.2.2.append b⟩

/-- Commands on one line are as inert as each of them. -/
theorem inert_joinCommands (hne : ls ≠ []) (h : ∀ command ∈ ls, Inert command) :
    Inert (joinCommands ls) := by
  obtain ⟨command, rest, rfl⟩ := List.exists_cons_of_ne_nil hne
  have hcommand := h command List.mem_cons_self
  cases rest with
  | nil => rwa [joinCommands, String.intercalate_singleton]
  | cons command' rest =>
    rw [joinCommands, String.intercalate_cons_cons, String.append_assoc]
    refine hcommand.append (onOneLine_append.2 ⟨by decide, onOneLine_intercalate (by decide) ?_⟩)
    exact fun command h' => (h command (List.mem_cons_of_mem _ h')).1

theorem Inert.neutral (h : Inert command) : Neutral command := by
  refine ⟨h.2.1.1, ?_, ?_⟩
  · rintro rfl
    exact h.2.2.1 (by decide)
  · rintro rfl
    exact h.2.2.1 (by decide)

/-! ## The lines of settings -/

variable {line : String} {d : Datum}

theorem onOneLine_fontPart (hd : d.QuotesOnLine) (h : Output.fontPart d = .ok a) :
    OnOneLine a := by
  unfold Output.fontPart at h
  split at h
  · cases h
    decide
  · obtain ⟨text, htext, rfl⟩ := map_eq_ok.1 h
    exact onOneLine_append.2 ⟨by decide, hd text htext⟩

theorem inert_terminalLine {terminal : Terminal} {font : String} (hfont : OnOneLine font)
    (hpath : ∀ path, terminal = .png path ∨ terminal = .eps path → path.QuotesOnLine)
    (h : Output.terminalLine terminal font = .ok line) : Inert line := by
  have hwindow : ∀ kind, Inert kind → Inert (kind ++ font ++ "; unset output") :=
    fun kind hkind => (hkind.append hfont).append (by decide)
  have hfile : ∀ kind separator path text, Inert kind → OnOneLine separator →
      (terminal = .png path ∨ terminal = .eps path) → path.quoted = .ok text →
      Inert (kind ++ font ++ separator ++ text) :=
    fun kind separator path text hkind hseparator hterminal htext =>
      ((hkind.append hfont).append hseparator).append (hpath path hterminal text htext)
  cases terminal with
  | wxt =>
    cases h
    exact hwindow _ (by decide)
  | x11 =>
    cases h
    exact hwindow _ (by decide)
  | qt =>
    cases h
    exact hwindow _ (by decide)
  | png path =>
    obtain ⟨text, htext, h⟩ := bind_eq_ok.1 h
    cases h
    exact hfile _ _ path text (by decide) (by decide) (.inl rfl) htext
  | eps path =>
    obtain ⟨text, htext, h⟩ := bind_eq_ok.1 h
    cases h
    exact hfile _ _ path text (by decide) (by decide) (.inr rfl) htext

theorem inert_outputDirective {output : Datum}
    (hfont : ∀ font, output.part "font" = .ok font → font.QuotesOnLine)
    (hpath : ∀ kind path, output.part "kind" = .ok kind →
      (Terminal.ofRecord? kind = some (.png path) ∨ Terminal.ofRecord? kind = some (.eps path)) →
      path.QuotesOnLine)
    (h : Output.directive output = .ok line) : Inert line := by
  unfold Output.directive at h
  obtain ⟨kind, hkind, h⟩ := bind_eq_ok.1 h
  obtain ⟨font, hfontPart, h⟩ := bind_eq_ok.1 h
  obtain ⟨fontText, hfontText, h⟩ := bind_eq_ok.1 h
  split at h
  · rename_i terminal hterminal
    refine inert_terminalLine (onOneLine_fontPart (hfont font hfontPart) hfontText) ?_ h
    intro path hpath'
    refine hpath kind path hkind ?_
    rcases hpath' with rfl | rfl
    · exact .inl hterminal
    · exact .inr hterminal
  · cases h

theorem inert_titleDirective (hd : d.QuotesOnLine) (h : Options.titleDirective d = .ok line) :
    Inert line := by
  obtain ⟨text, htext, rfl⟩ := map_eq_ok.1 h
  exact Inert.append (by decide) (hd text htext)

theorem inert_gridDirective (h : Options.gridDirective d = .ok line) : Inert line := by
  obtain ⟨on, -, rfl⟩ := map_eq_ok.1 h
  cases on <;> decide

theorem inert_fillDirective
    (hd : ∀ index, Filling.ofRecord? d = some (.pattern index) → index.DisplaysOnLine)
    (h : Filling.directive d = .ok line) : Inert line := by
  unfold Filling.directive Filling.writeWith at h
  split at h
  · rename_i filling hfilling
    cases filling with
    | solid =>
      cases h
      decide
    | pattern index =>
      obtain ⟨text, htext, rfl⟩ := map_eq_ok.1 h
      exact Inert.append (by decide) ((hd index hfilling).onOneLine htext)
  · cases h

theorem onOneLine_span {lo hi : Datum} (h : AxisRange.span lo hi = .ok a) : OnOneLine a := by
  unfold AxisRange.span at h
  obtain ⟨lo, hlo, h⟩ := bind_eq_ok.1 h
  obtain ⟨hi, hhi, h⟩ := bind_eq_ok.1 h
  cases h
  obtain ⟨x, -, rfl⟩ := map_eq_ok.1 hlo
  obtain ⟨y, -, rfl⟩ := map_eq_ok.1 hhi
  simp only [onOneLine_append, onOneLine_scriptText, and_true]
  decide

theorem inert_rangeText {range : AxisRange} (h : range.scriptText = .ok line) : Inert line := by
  cases range with
  | x lo hi =>
    obtain ⟨span, hspan, h⟩ := bind_eq_ok.1 h
    cases h
    exact Inert.append (by decide) (onOneLine_span hspan)
  | y lo hi =>
    obtain ⟨span, hspan, h⟩ := bind_eq_ok.1 h
    cases h
    exact Inert.append (by decide) (onOneLine_span hspan)
  | xy xlo xhi ylo yhi =>
    obtain ⟨x, hx, h⟩ := bind_eq_ok.1 h
    obtain ⟨y, hy, h⟩ := bind_eq_ok.1 h
    cases h
    refine Inert.append (Inert.append (Inert.append (by decide) (onOneLine_span hx)) ?_)
      (onOneLine_span hy)
    decide

theorem inert_rangeDirective (h : AxisRange.directive d = .ok line) : Inert line := by
  unfold AxisRange.directive AxisRange.writeWith at h
  split at h
  · exact inert_rangeText h
  · cases h

theorem inert_of_commandLine? (h : ∀ command ∈ ls, Inert command)
    (hline : line ∈ commandLine? ls) : Inert line := by
  unfold commandLine? at hline
  split at hline
  · cases hline
  · rename_i hne
    cases hline
    exact inert_joinCommands (by simpa using hne) h

theorem inert_labelCommand {axis : String} (haxis : axis = "x" ∨ axis = "y")
    (hd : d.QuotesOnLine) (h : Labels.command axis d = .ok ls) : ∀ c ∈ ls, Inert c := by
  unfold Labels.command at h
  split at h
  · cases h
    simp
  · obtain ⟨text, htext, rfl⟩ := map_eq_ok.1 h
    rintro command hcommand
    rw [List.mem_singleton.1 hcommand]
    refine Inert.append ?_ (hd text htext)
    rcases haxis with rfl | rfl <;> decide

theorem inert_labels {labels : Datum} {o : Option String}
    (hlabels : ∀ axis label, labels.part axis = .ok label → label.QuotesOnLine)
    (h : Labels.directive? labels = .ok o) : ∀ line ∈ o, Inert line := by
  unfold Labels.directive? at h
  obtain ⟨x, hx, h⟩ := bind_eq_ok.1 h
  obtain ⟨xcommand, hxcommand, h⟩ := bind_eq_ok.1 h
  obtain ⟨y, hy, h⟩ := bind_eq_ok.1 h
  obtain ⟨ycommand, hycommand, h⟩ := bind_eq_ok.1 h
  cases h
  refine fun line => inert_of_commandLine? fun command hcommand => ?_
  rcases List.mem_append.1 hcommand with hcommand | hcommand
  · exact inert_labelCommand (.inl rfl) (hlabels _ x hx) hxcommand command hcommand
  · exact inert_labelCommand (.inr rfl) (hlabels _ y hy) hycommand command hcommand

theorem onOneLine_placed {names : List Datum} {position : Nat}
    (hnames : ∀ name ∈ names, name.QuotesOnLine) (h : Titles.placed position names = .ok ls) :
    ∀ s ∈ ls, OnOneLine s := by
  induction names generalizing position ls with
  | nil =>
    cases h
    simp
  | cons name rest ih =>
    obtain ⟨text, htext, h⟩ := bind_eq_ok.1 h
    obtain ⟨others, hothers, h⟩ := bind_eq_ok.1 h
    cases h
    have htext' := hnames name List.mem_cons_self text htext
    have hposition : OnOneLine (toString position) := onOneLine_toString position
    intro s hs
    rcases List.mem_cons.1 hs with rfl | hs
    · simp only [onOneLine_append, htext', hposition, true_and, and_true]
      decide
    · exact ih (fun name hname => hnames name (List.mem_cons_of_mem _ hname)) hothers s hs

theorem onOneLine_namesPart
    (hd : ∀ items, d.items = .ok items → ∀ name ∈ items, name.QuotesOnLine)
    (h : Titles.namesPart d = .ok a) : OnOneLine a := by
  unfold Titles.namesPart at h
  split at h
  · cases h
    decide
  · obtain ⟨items, hitems, h⟩ := bind_eq_ok.1 h
    obtain ⟨texts, htexts, h⟩ := bind_eq_ok.1 h
    cases h
    have hjoined := onOneLine_intercalate (a := ", ") (by decide)
      (onOneLine_placed (hd items hitems) htexts)
    exact onOneLine_append.2 ⟨onOneLine_append.2 ⟨by decide, hjoined⟩, by decide⟩

theorem onOneLine_anglePart (hd : d.DisplaysOnLine) (h : Titles.anglePart d = .ok a) :
    OnOneLine a := by
  unfold Titles.anglePart at h
  split at h
  · cases h
    decide
  · obtain ⟨text, htext, rfl⟩ := map_eq_ok.1 h
    exact onOneLine_append.2 ⟨by decide, hd.onOneLine htext⟩

theorem inert_titlesCommand {axis : String} {names angle : Datum} (haxis : axis = "x" ∨ axis = "y")
    (hnames : ∀ items, names.items = .ok items → ∀ name ∈ items, name.QuotesOnLine)
    (hangle : angle.DisplaysOnLine) (h : Titles.command axis names angle = .ok ls) :
    ∀ c ∈ ls, Inert c := by
  unfold Titles.command at h
  split at h
  · cases h
    simp
  · obtain ⟨names, hnamesPart, h⟩ := bind_eq_ok.1 h
    obtain ⟨angle, hanglePart, h⟩ := bind_eq_ok.1 h
    cases h
    intro c hc
    rw [List.mem_singleton.1 hc]
    refine Inert.append (Inert.append ?_ (onOneLine_namesPart hnames hnamesPart))
      (onOneLine_anglePart hangle hanglePart)
    rcases haxis with rfl | rfl <;> decide

theorem inert_titles {titles : Datum} {o : Option String}
    (hnames : ∀ axis ∈ ["x", "y"], ∀ names items, titles.part axis = .ok names →
      names.items = .ok items → ∀ name ∈ items, name.QuotesOnLine)
    (hangles : ∀ axis ∈ ["xrotate", "yrotate"], ∀ angle, titles.part axis = .ok angle →
      angle.DisplaysOnLine)
    (h : Titles.directive? titles = .ok o) : ∀ line ∈ o, Inert line := by
  unfold Titles.directive? at h
  obtain ⟨x, hx, h⟩ := bind_eq_ok.1 h
  obtain ⟨xangle, hxangle, h⟩ := bind_eq_ok.1 h
  obtain ⟨xcommand, hxcommand, h⟩ := bind_eq_ok.1 h
  obtain ⟨y, hy, h⟩ := bind_eq_ok.1 h
  obtain ⟨yangle, hyangle, h⟩ := bind_eq_ok.1 h
  obtain ⟨ycommand, hycommand, h⟩ := bind_eq_ok.1 h
  cases h
  refine fun line => inert_of_commandLine? fun command hcommand => ?_
  rcases List.mem_append.1 hcommand with hcommand | hcommand
  · exact inert_titlesCommand (.inl rfl) (hnames "x" (by simp) x · hx)
      (hangles _ (by simp) xangle hxangle) hxcommand command hcommand
  · exact inert_titlesCommand (.inr rfl) (hnames "y" (by simp) y · hy)
      (hangles _ (by simp) yangle hyangle) hycommand command hcommand

/-- The line of a setting is what is written for it. -/
theorem inert_line {write : Datum → Except Failure String}
    (hwrite : ∀ line, write d = .ok line → Inert line) (h : Script.line write d = .ok ls) :
    ∀ line ∈ ls, Inert line := by
  unfold Script.line at h
  split at h
  · cases h
    simp
  · obtain ⟨line, hline, rfl⟩ := map_eq_ok.1 h
    simpa using hwrite line hline

theorem inert_line? {write : Datum → Except Failure (Option String)}
    (hwrite : ∀ o, write d = .ok o → ∀ line ∈ o, Inert line)
    (h : Script.line? write d = .ok ls) : ∀ line ∈ ls, Inert line := by
  unfold Script.line? at h
  split at h
  · cases h
    simp
  · obtain ⟨o, ho, rfl⟩ := map_eq_ok.1 h
    simpa using hwrite o ho

/-- **Settings are inert**, one line after the other. -/
theorem inert_directives {o : Options} (ho : o.OnOneLine) (h : o.directives = .ok ls) :
    ∀ line ∈ ls, Inert line := by
  unfold Options.directives at h
  obtain ⟨output, houtput, h⟩ := bind_eq_ok.1 h
  obtain ⟨title, htitle, h⟩ := bind_eq_ok.1 h
  obtain ⟨grid, hgrid, h⟩ := bind_eq_ok.1 h
  obtain ⟨fill, hfill, h⟩ := bind_eq_ok.1 h
  obtain ⟨range, hrange, h⟩ := bind_eq_ok.1 h
  obtain ⟨labels, hlabels, h⟩ := bind_eq_ok.1 h
  obtain ⟨titles, htitles, h⟩ := bind_eq_ok.1 h
  cases h
  intro line hline
  simp only [List.mem_append] at hline
  rcases hline with (((((hline | hline) | hline) | hline) | hline) | hline) | hline
  · exact inert_line (fun _ => inert_outputDirective ho.font ho.path) houtput line hline
  · exact inert_line (fun _ => inert_titleDirective ho.title) htitle line hline
  · exact inert_line (fun _ => inert_gridDirective) hgrid line hline
  · exact inert_line (fun _ => inert_fillDirective ho.fill) hfill line hline
  · exact inert_line (fun _ => inert_rangeDirective) hrange line hline
  · exact inert_line? (fun _ => inert_labels ho.labels) hlabels line hline
  · exact inert_line? (fun _ => inert_titles ho.names ho.angles) htitles line hline

/-! ## The lines that reset settings -/

theorem inert_resetRange (h : AxisRange.resetDirective d = .ok line) : Inert line := by
  unfold AxisRange.resetDirective AxisRange.writeWith at h
  split at h
  · rename_i range _
    cases h
    cases range <;> simp only [AxisRange.resetText] <;> decide
  · cases h

theorem inert_resetLabels (h : Labels.resetDirective d = .ok line) : Inert line := by
  unfold Labels.resetDirective at h
  obtain ⟨x, -, h⟩ := bind_eq_ok.1 h
  obtain ⟨y, -, h⟩ := bind_eq_ok.1 h
  cases h
  rcases x.isNull <;> rcases y.isNull <;> decide

theorem inert_resetTitles (h : Titles.resetDirective d = .ok line) : Inert line := by
  unfold Titles.resetDirective at h
  obtain ⟨x, -, h⟩ := bind_eq_ok.1 h
  obtain ⟨y, -, h⟩ := bind_eq_ok.1 h
  cases h
  cases x <;> cases y <;> decide

/-- **Resets are inert**, whatever is reset. -/
theorem inert_resetDirectives {dimensions : Dimensions}
    (h : dimensions.resetDirectives = .ok ls) : ∀ line ∈ ls, Inert line := by
  unfold Dimensions.resetDirectives at h
  obtain ⟨fill, hfill, h⟩ := bind_eq_ok.1 h
  obtain ⟨range, hrange, h⟩ := bind_eq_ok.1 h
  obtain ⟨labels, hlabels, h⟩ := bind_eq_ok.1 h
  obtain ⟨titles, htitles, h⟩ := bind_eq_ok.1 h
  cases h
  intro line hline
  simp only [List.mem_append] at hline
  rcases hline with ((hline | hline) | hline) | hline
  · refine inert_line (fun line hline => ?_) hfill line hline
    cases hline
    decide
  · exact inert_line (fun _ => inert_resetRange) hrange line hline
  · exact inert_line (fun _ => inert_resetLabels) hlabels line hline
  · exact inert_line (fun _ => inert_resetTitles) htitles line hline

/-! ## The plot line -/

/-- A clause is put together from its parts, each of which can be
written. -/
theorem clause_eq_ok_iff {s : Series} : s.clause = .ok a ↔
    ∃ source word title weight color fill, s.trace.source = .ok source ∧
      source.text? = some word ∧ Series.titlePart s.title = .ok title ∧
      Script.line (fun weight => weight.written.map fun text => "lw " ++ text) s.weight =
        .ok weight ∧
      Series.colorPart s.color = .ok color ∧ Script.line Filling.clause s.fill = .ok fill ∧
      " ".intercalate ([word, "with " ++ s.style.scriptText, title] ++ weight ++ color ++ fill)
        = a := by
  rw [Series.clause]
  constructor
  · intro h
    obtain ⟨source, hsource, h⟩ := bind_eq_ok.1 h
    obtain ⟨title, htitle, h⟩ := bind_eq_ok.1 h
    obtain ⟨weight, hweight, h⟩ := bind_eq_ok.1 h
    obtain ⟨color, hcolor, h⟩ := bind_eq_ok.1 h
    obtain ⟨fill, hfill, h⟩ := bind_eq_ok.1 h
    split at h
    · rename_i word hword
      exact ⟨source, word, title, weight, color, fill, hsource, hword, htitle, hweight, hcolor,
        hfill, pure_eq_ok.1 h⟩
    · cases h
  · rintro ⟨source, word, title, weight, color, fill, hsource, hword, htitle, hweight, hcolor,
      hfill, rfl⟩
    refine bind_eq_ok.2 ⟨source, hsource, bind_eq_ok.2 ⟨title, htitle, bind_eq_ok.2 ⟨weight, hweight,
      bind_eq_ok.2 ⟨color, hcolor, bind_eq_ok.2 ⟨fill, hfill, ?_⟩⟩⟩⟩⟩
    rw [hword]
    rfl

theorem onOneLine_titlePart (hd : d.QuotesOnLine) (h : Series.titlePart d = .ok a) :
    OnOneLine a := by
  unfold Series.titlePart at h
  split at h
  · cases h
    decide
  · obtain ⟨text, htext, rfl⟩ := map_eq_ok.1 h
    exact onOneLine_append.2 ⟨by decide, hd text htext⟩

theorem onOneLine_color {color : Color} (hname : ∀ name, color = .named name → name.QuotesOnLine)
    (h : color.scriptText = .ok a) : OnOneLine a := by
  cases color with
  | named name => exact hname name rfl a h
  | rgb red green blue =>
    obtain ⟨r, -, h⟩ := bind_eq_ok.1 h
    obtain ⟨g, -, h⟩ := bind_eq_ok.1 h
    obtain ⟨b, -, h⟩ := bind_eq_ok.1 h
    rw [← pure_eq_ok.1 h]
    exact onOneLine_quote _

theorem onOneLine_fillClause
    (hd : ∀ index, Filling.ofRecord? d = some (.pattern index) → index.DisplaysOnLine)
    (h : Filling.clause d = .ok a) : OnOneLine a := by
  unfold Filling.clause Filling.writeWith at h
  split at h
  · rename_i filling hfilling
    cases filling with
    | solid =>
      cases h
      decide
    | pattern index =>
      obtain ⟨text, htext, rfl⟩ := map_eq_ok.1 h
      exact onOneLine_append.2 ⟨by decide, (hd index hfilling).onOneLine htext⟩
  · cases h

theorem onOneLine_source {t : Trace} {source : Datum}
    (ht : ∀ value text, t = .expression value → value.text? = some text → OnOneLine text)
    (h : t.source = .ok source) (htext : source.text? = some a) : OnOneLine a := by
  unfold Trace.source at h
  split at h <;> cases h
  · cases htext
    decide
  · cases htext
    decide
  · cases htext
    decide
  · cases htext
    decide
  · exact ht _ a rfl htext

/-- What is written for a part that may be missing stays on its line. -/
theorem onOneLine_line {write : Datum → Except Failure String}
    (hwrite : ∀ line, write d = .ok line → OnOneLine line) (h : Script.line write d = .ok ls) :
    ∀ line ∈ ls, OnOneLine line := by
  unfold Script.line at h
  split at h
  · cases h
    simp
  · obtain ⟨line, hline, rfl⟩ := map_eq_ok.1 h
    simpa using hwrite line hline

theorem onOneLine_colorPart {color : Option Color}
    (hname : ∀ name, color = some (.named name) → name.QuotesOnLine)
    (h : Series.colorPart color = .ok ls) : ∀ part ∈ ls, OnOneLine part := by
  unfold Series.colorPart at h
  split at h
  · obtain ⟨text, htext, rfl⟩ := map_eq_ok.1 h
    intro part hpart
    rw [List.mem_singleton.1 hpart]
    refine onOneLine_append.2 ⟨by decide, onOneLine_color (fun name hcolor => ?_) htext⟩
    exact hname name (congrArg some hcolor)
  · cases h
    simp

/-- **A clause stays on its line.** -/
theorem onOneLine_clause {s : Series} (hs : s.OnOneLine) (h : s.clause = .ok a) : OnOneLine a := by
  obtain ⟨source, word, title, weight, color, fill, hsource, hword, htitle, hweight, hcolor, hfill,
    rfl⟩ := clause_eq_ok_iff.1 h
  refine onOneLine_intercalate (by decide) fun part hpart => ?_
  simp only [List.mem_append, List.mem_cons, List.not_mem_nil, or_false] at hpart
  rcases hpart with (((rfl | rfl | rfl) | hpart) | hpart) | hpart
  · exact onOneLine_source hs.expression hsource hword
  · cases s.style <;> decide
  · exact onOneLine_titlePart hs.title htitle
  · refine onOneLine_line (fun line hline => ?_) hweight part hpart
    obtain ⟨text, htext, rfl⟩ := map_eq_ok.1 hline
    exact onOneLine_append.2 ⟨by decide, hs.weight.onOneLine htext⟩
  · exact onOneLine_colorPart hs.color hcolor part hpart
  · exact onOneLine_line (fun _ => onOneLine_fillClause hs.fill) hfill part hpart

theorem onOneLine_clauses {series : List Series} (hseries : ∀ s ∈ series, s.OnOneLine)
    (h : Series.clauses series = .ok ls) : ∀ clause ∈ ls, OnOneLine clause := by
  induction series generalizing ls with
  | nil =>
    cases h
    simp
  | cons s rest ih =>
    obtain ⟨c, hc, h⟩ := bind_eq_ok.1 h
    obtain ⟨cs, hcs, h⟩ := bind_eq_ok.1 h
    cases h
    intro clause hclause
    rcases List.mem_cons.1 hclause with rfl | hclause
    · exact onOneLine_clause (hseries s List.mem_cons_self) hc
    · exact ih (fun s hs => hseries s (List.mem_cons_of_mem _ hs)) hcs clause hclause

/-! ## The lines of data -/

theorem not_opens_of_not_mem {c : Char} (hc : c ∈ a.toList) (hb : c ∉ b.toList) : ¬ Opens a b :=
  fun h => hb (h.subset hc)

/-- A row holds numbers and blanks only, and so does what ends the rows. -/
theorem isNumeral_of_mem_block {t : Trace} (h : line ∈ t.block) {c : Char}
    (hc : c ∈ line.toList) : c = ' ' ∨ isNumeral c := by
  unfold Trace.block at h
  split at h
  · rcases List.mem_append.1 h with h | h
    · obtain ⟨row, -, rfl⟩ := List.mem_map.1 h
      rcases Text.mem_toList_intercalate hc with hc | ⟨s, hs, hc⟩
      · exact .inl (by simpa using hc)
      · obtain ⟨x, -, rfl⟩ := List.mem_map.1 hs
        exact .inr (isNumeral_of_mem_scriptText hc)
    · rw [List.mem_singleton.1 h] at hc
      exact .inr (List.all_eq_true.1 (by decide) c hc)
  · cases h

/-- **Data are neutral**: neither a line end nor the letters of the
commands are among their characters. -/
theorem neutral_of_mem_block {t : Trace} (h : line ∈ t.block) :
    OnOneLine line ∧ Neutral line := by
  have hchar : ∀ c, c ≠ ' ' → isNumeral c = false → c ∉ line.toList := by
    intro c hblank hnumeral hc
    rcases isNumeral_of_mem_block h hc with hc | hc
    · exact hblank hc
    · rw [hnumeral] at hc
      cases hc
  refine ⟨hchar '\n' (by decide) (by decide),
    not_opens_of_not_mem (by decide) (hchar 'p' (by decide) (by decide)), ?_, ?_⟩
  · rintro rfl
    exact hchar 's' (by decide) (by decide) (by decide)
  · rintro rfl
    exact hchar 's' (by decide) (by decide) (by decide)

/-! ## The parts of a plot -/

theorem onOneLine_axisLines {resetTimeAxis time : Bool}
    (h : line ∈ Series.axisLines resetTimeAxis time) : OnOneLine line := by
  have hall : ∀ resetTimeAxis time, ∀ line ∈ Series.axisLines resetTimeAxis time,
      OnOneLine line := by decide
  exact hall _ _ line h

/-- **The script of a plot**: its settings, the line that turns the x axis
where that is needed, the plot line with the clauses, and the blocks of
data. -/
theorem exists_of_plot {resetTimeAxis : Bool} {series : List Series} {options : Options}
    {script : String} (h : Script.plot resetTimeAxis series options = .ok script) :
    ∃ settings clauses, options.directives = .ok settings ∧ Series.clauses series = .ok clauses ∧
      script = ofLines (settings
        ++ Series.axisLines resetTimeAxis (series.any fun s => s.trace.isTime)
        ++ ("plot " ++ ", ".intercalate clauses) :: series.flatMap fun s => s.trace.block) := by
  obtain ⟨settings, hsettings, h⟩ := bind_eq_ok.1 h
  obtain ⟨lines, hlines, h⟩ := bind_eq_ok.1 h
  unfold Series.plotLines at hlines
  split at hlines
  · cases hlines
  obtain ⟨clauses, hclauses, hlines⟩ := bind_eq_ok.1 hlines
  cases hlines
  refine ⟨settings, clauses, hsettings, hclauses, ?_⟩
  rw [← pure_eq_ok.1 h]
  simp only [List.append_assoc, List.singleton_append]

/-- A plot has something to send. -/
theorem ne_empty_of_plot {resetTimeAxis : Bool} {series : List Series} {options : Options}
    {script : String} (h : Script.plot resetTimeAxis series options = .ok script) :
    script ≠ "" := by
  obtain ⟨settings, clauses, -, -, rfl⟩ := exists_of_plot h
  exact ofLines_ne_empty (by simp)

/-- **The lines of the script of a plot** whose texts stay on their line.
Neither its settings nor its data are lines that plot. -/
theorem exists_lines_of_plot {resetTimeAxis : Bool} {series : List Series} {options : Options}
    {script : String} (hseries : ∀ s ∈ series, s.OnOneLine) (hoptions : options.OnOneLine)
    (h : Script.plot resetTimeAxis series options = .ok script) :
    ∃ settings clauses, options.directives = .ok settings ∧ Series.clauses series = .ok clauses ∧
      lines script = settings
        ++ Series.axisLines resetTimeAxis (series.any fun s => s.trace.isTime)
        ++ ("plot " ++ ", ".intercalate clauses)
          :: ((series.flatMap fun s => s.trace.block) ++ [""]) ∧
      ∀ line ∈ settings ++ series.flatMap fun s => s.trace.block, Neutral line := by
  obtain ⟨settings, clauses, hsettings, hclauses, rfl⟩ := exists_of_plot h
  refine ⟨settings, clauses, hsettings, hclauses, ?_, fun line hline => ?_⟩
  · rw [lines_ofLines]
    · simp only [List.append_assoc, List.cons_append]
    · intro line hline
      simp only [List.mem_append, List.mem_cons] at hline
      rcases hline with (hline | hline) | rfl | hline
      · exact (inert_directives hoptions hsettings line hline).1
      · exact onOneLine_axisLines hline
      · exact onOneLine_append.2
          ⟨by decide, onOneLine_intercalate (by decide) (onOneLine_clauses hseries hclauses)⟩
      · obtain ⟨s, -, hline⟩ := List.mem_flatMap.1 hline
        exact (neutral_of_mem_block hline).1
  · rcases List.mem_append.1 hline with hline | hline
    · exact (inert_directives hoptions hsettings line hline).neutral
    · obtain ⟨s, -, hline⟩ := List.mem_flatMap.1 hline
      exact (neutral_of_mem_block hline).2

end Script

/-! ## The lines of a request -/

/-- **The lines of a request.** Settings and resets have neutral lines
only. A plot has one line that plots, the line that turns the x axis
comes right before it, and the others are neutral. -/
inductive Request.HasLines (resetTimeAxis : Bool) (r : Request) : List String → Prop
  | settings {ls : List String} : r.timeAxis? = none →
      (∀ line ∈ ls, Script.OnOneLine line ∧ Script.Neutral line) → HasLines resetTimeAxis r ls
  | plot {settings data : List String} {plotLine : String} {time : Bool} :
      r.timeAxis? = some time →
      (∀ line ∈ settings ++ data, Script.OnOneLine line ∧ Script.Neutral line) →
      Script.OnOneLine plotLine → Script.Opens "plot " plotLine →
      HasLines resetTimeAxis r
        (settings ++ Series.axisLines resetTimeAxis time ++ plotLine :: data)

namespace Request

open Script

variable {r : Request} {resetTimeAxis : Bool} {script : String} {ls : List String}

/-- A request that plots has something to send. -/
theorem HasLines.ofLines_ne_empty {time : Bool} (hr : r.timeAxis? = some time)
    (h : r.HasLines resetTimeAxis ls) : ofLines ls ≠ "" := by
  cases h with
  | settings hr' => simp [hr] at hr'
  | plot => exact Script.ofLines_ne_empty (by simp)

/-- The script of a request is read line by line as it was made. -/
theorem HasLines.lines_ofLines (h : r.HasLines resetTimeAxis ls) :
    lines (ofLines ls) = ls ++ [""] := by
  refine Script.lines_ofLines fun line hline => ?_
  cases h with
  | settings _ hls => exact (hls line hline).1
  | @plot settings data plotLine time _ hneutral hplot _ =>
    simp only [List.mem_append, List.mem_cons] at hline hneutral
    rcases hline with (hline | hline) | rfl | hline
    · exact (hneutral line (.inl hline)).1
    · exact onOneLine_axisLines hline
    · exact hplot
    · exact (hneutral line (.inr hline)).1

/-- The script of a plot, line by line. -/
theorem hasLines_plot (series : List Series) {options : Options}
    (hr : r.timeAxis? = some (series.any fun s => s.trace.isTime))
    (hseries : ∀ s ∈ series, s.OnOneLine) (hoptions : options.OnOneLine)
    (h : Script.plot resetTimeAxis series options = .ok script) :
    ∃ ls, script = ofLines ls ∧ r.HasLines resetTimeAxis ls := by
  obtain ⟨settings, clauses, hsettings, hclauses, rfl⟩ := exists_of_plot h
  refine ⟨_, rfl, .plot hr ?_ ?_ ?_⟩
  · intro line hline
    rcases List.mem_append.1 hline with hline | hline
    · have hinert := inert_directives hoptions hsettings line hline
      exact ⟨hinert.1, hinert.neutral⟩
    · obtain ⟨s, -, hline⟩ := List.mem_flatMap.1 hline
      exact neutral_of_mem_block hline
  · exact onOneLine_append.2
      ⟨by decide, onOneLine_intercalate (by decide) (onOneLine_clauses hseries hclauses)⟩
  · exact (opens_append (by decide)).2 (by decide)

/-- **Every script is made of the lines of its request.** -/
theorem hasLines_of_script (hr : r.OnOneLine) (h : r.script resetTimeAxis = .ok script) :
    ∃ ls, script = ofLines ls ∧ r.HasLines resetTimeAxis ls := by
  cases r with
  | set options =>
    obtain ⟨ls, hls, h⟩ := bind_eq_ok.1 h
    cases h
    refine ⟨ls, rfl, .settings rfl fun line hline => ?_⟩
    have hinert := inert_directives hr hls line hline
    exact ⟨hinert.1, hinert.neutral⟩
  | unset dimensions =>
    obtain ⟨ls, hls, h⟩ := bind_eq_ok.1 h
    cases h
    refine ⟨ls, rfl, .settings rfl fun line hline => ?_⟩
    have hinert := inert_resetDirectives hls line hline
    exact ⟨hinert.1, hinert.neutral⟩
  | plot s options =>
    exact hasLines_plot [s] rfl (by simpa using hr.1) hr.2 h
  | plotMany series options => exact hasLines_plot series rfl hr.1 hr.2 h
  | plotExpression expression options =>
    exact hasLines_plot [_] rfl (by simpa using hr.1) hr.2 h

end Request

end PlotPipe
