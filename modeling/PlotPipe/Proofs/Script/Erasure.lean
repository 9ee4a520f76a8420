import Mathlib.Data.List.Forall2
import PlotPipe.Proofs.Script.Layout
import PlotPipe.Proofs.Script.Quoted
import PlotPipe.Proofs.Script.Typed
/-!
# Scripts — what texts cannot change

Whoever reads a script from left to right, and passes over what its
quoted texts say, reads the same whatever the texts of a plot are
(`erased_plot_eq`). Two parts of scripts that differ only in that respect
are `Alike`: what follows them is read alike, and they hold as many line
ends. Every part that is written of settings and series stays alike when
their texts are replaced, so that the whole script does.
-/

namespace PlotPipe

namespace Script

/-- A script without what its quoted texts say: each becomes an empty one.
An apostrophe that opens no quoted text stays. -/
def erase : List Char → List Char
  | [] => []
  | c :: cs =>
    if c = '\'' then
      match _ : readQuoted cs with
      | some (_, rest) => '\'' :: '\'' :: erase rest
      | none => '\'' :: erase cs
    else c :: erase cs
termination_by cs => cs.length
decreasing_by
  · exact Nat.lt_succ_of_lt (length_lt_of_readQuoted ‹_›)
  · exact Nat.lt_succ_self _
  · exact Nat.lt_succ_self _

/-- A script as it is read by someone who passes over its texts. -/
def erased (script : String) : String := String.ofList (erase script.toList)

variable {a b c d : String} {cs rest : List Char} {as bs : List String}

/-- Where there is no apostrophe, everything stays. -/
theorem erase_append_of_not_mem (h : '\'' ∉ cs) : erase (cs ++ rest) = cs ++ erase rest := by
  induction cs with
  | nil => rfl
  | cons c cs ih =>
    obtain ⟨hc, hcs⟩ : c ≠ '\'' ∧ '\'' ∉ cs := by
      simpa [eq_comm] using h
    rw [List.cons_append, erase, if_neg hc, ih hcs]
    rfl

/-- **What was quoted is passed over.** -/
theorem erase_quote_append (s : String) (h : rest.head? ≠ some '\'') :
    erase ((quote s).toList ++ rest) = '\'' :: '\'' :: erase rest := by
  obtain ⟨hquote, hread⟩ := readQuoted_quote s h
  rw [hquote, erase, if_pos rfl]
  split
  · rename_i content rest' hsome
    rw [hread] at hsome
    cases hsome
    rfl
  · rename_i hnone
    rw [hread] at hnone
    cases hnone

/-! ## Parts that are read alike -/

/-- **Two parts of scripts that are read alike**, and so is what follows
them, unless it goes on a quoted text at their ends. -/
structure Alike (a b : String) : Prop where
  lineEnds : a.toList.count '\n' = b.toList.count '\n'
  erase_append : ∀ {r r' : List Char}, r.head? ≠ some '\'' → r'.head? ≠ some '\'' →
    erase r = erase r' → erase (a.toList ++ r) = erase (b.toList ++ r')

/-- A part without apostrophes is read as it is. -/
theorem alike_of_not_mem (h : '\'' ∉ a.toList) : Alike a a where
  lineEnds := rfl
  erase_append _ _ hr := by rw [erase_append_of_not_mem h, erase_append_of_not_mem h, hr]

/-- **Quoted texts are alike**, whatever they say. -/
theorem alike_quote (s t : String) : Alike (quote s) (quote t) where
  lineEnds := by
    rw [List.count_eq_zero_of_not_mem (onOneLine_quote s),
      List.count_eq_zero_of_not_mem (onOneLine_quote t)]
  erase_append hr hr' h := by rw [erase_quote_append s hr, erase_quote_append t hr', h]

/-- A part behind another, which it does not go on. -/
theorem Alike.append (hab : Alike a b) (hcd : Alike c d) (hc : Apart c) (hd : Apart d) :
    Alike (a ++ c) (b ++ d) where
  lineEnds := by
    simp only [String.toList_append, List.count_append, hab.lineEnds, hcd.lineEnds]
  erase_append {r r'} hr hr' h := by
    -- Behind the first part comes the second one, or, where that is empty, what follows it.
    have hhead : ∀ {s : String} {r : List Char}, Apart s → r.head? ≠ some '\'' →
        (s.toList ++ r).head? ≠ some '\'' := by
      intro s r hs hr
      unfold Apart at hs
      cases hlist : s.toList with
      | nil => simpa using hr
      | cons c cs => rw [hlist] at hs; simpa using hs
    rw [String.toList_append, String.toList_append, List.append_assoc, List.append_assoc]
    exact hab.erase_append (hhead hc hr) (hhead hd hr') (hcd.erase_append hr hr' h)

theorem Alike.append_plain (hab : Alike a b) (hc : '\'' ∉ c.toList) : Alike (a ++ c) (b ++ c) :=
  hab.append (alike_of_not_mem hc) (apart_of_not_mem hc) (apart_of_not_mem hc)

/-- Anything may stand behind a part without apostrophes. -/
theorem Alike.plain_append (hcd : Alike c d) (ha : '\'' ∉ a.toList) : Alike (a ++ c) (a ++ d) where
  lineEnds := by simp only [String.toList_append, List.count_append, hcd.lineEnds]
  erase_append {r r'} hr hr' h := by
    rw [String.toList_append, String.toList_append, List.append_assoc, List.append_assoc,
      erase_append_of_not_mem ha, erase_append_of_not_mem ha, hcd.erase_append hr hr' h]

/-- Anything may stand behind a part that ends without an apostrophe. -/
theorem Alike.append_between (hab : Alike a b) {separator : String}
    (hseparator : '\'' ∉ separator.toList) (hne : separator ≠ "") (hcd : Alike c d) :
    Alike (a ++ separator ++ c) (b ++ separator ++ d) := by
  have hapart := apart_of_not_mem hseparator
  rw [String.append_assoc, String.append_assoc]
  exact hab.append (hcd.plain_append hseparator) (hapart.append hne) (hapart.append hne)

/-- Parts with one separator between them. -/
theorem alike_intercalate {separator : String} (hseparator : '\'' ∉ separator.toList)
    (hne : separator ≠ "") (h : List.Forall₂ Alike as bs) :
    Alike (separator.intercalate as) (separator.intercalate bs) := by
  induction h with
  | nil => exact alike_of_not_mem (by simp)
  | cons hab hrest ih =>
    cases hrest with
    | nil => simpa using hab
    | cons hab' hrest =>
      rw [String.intercalate_cons_cons, String.intercalate_cons_cons]
      exact hab.append_between hseparator hne ih

/-- Lines that are alike make scripts that are. -/
theorem alike_ofLines (h : List.Forall₂ Alike as bs) : Alike (ofLines as) (ofLines bs) := by
  induction h with
  | nil => exact alike_of_not_mem (by decide)
  | cons hab hrest ih =>
    rw [ofLines_cons, ofLines_cons]
    exact hab.append_between (by decide) (by decide) ih

/-! ## Settings with other texts -/

/-- A computation that writes without apostrophes. -/
theorem endAlike_of_not_mem {x : Except Failure String} (h : ∀ s, x = .ok s → '\'' ∉ s.toList) :
    EndAlike Alike x x :=
  .of_self fun s hs => alike_of_not_mem (h s hs)

theorem apostrophe_not_mem_written {i : Int} (h : (Datum.int i).written = .ok a) :
    '\'' ∉ a.toList := by
  rw [Datum.eq_display_of_written h]
  intro hmem
  exact absurd (isDigit_or_eq_of_mem_toString hmem) (by decide)

theorem apostrophe_not_mem_scriptNumber {n : Datum} (h : n.scriptNumber = .ok a) :
    '\'' ∉ a.toList := by
  obtain ⟨x, -, rfl⟩ := map_eq_ok.1 h
  intro hmem
  exact absurd (isNumeral_of_mem_scriptText hmem) (by decide)

section Settings

variable (f : String → String)

theorem alike_fontPart (font : Option String) :
    EndAlike Alike (Output.fontPart (.ofOption .text font))
      (Output.fontPart (.ofOption .text (font.map f))) := by
  cases font with
  | none => exact endAlike_of_not_mem (by rintro s ⟨⟩; decide)
  | some font => exact .ok ((alike_quote _ _).plain_append (by decide))

theorem alike_output (o : Output.Typed String) :
    EndAlike Alike (Output.directive o.datum) (Output.directive (o.map f).datum) := by
  obtain ⟨terminal, font⟩ := o
  refine (alike_fontPart f font).bind fun {part part'} hfont => ?_
  have hwindow : ∀ kind : String, '\'' ∉ kind.toList →
      Alike (kind ++ part ++ "; unset output") (kind ++ part' ++ "; unset output") :=
    fun kind hkind => (hfont.plain_append hkind).append_plain (by decide)
  have hfile : ∀ kind path : String, '\'' ∉ kind.toList →
      Alike (kind ++ part ++ "; set output " ++ quote path)
        (kind ++ part' ++ "; set output " ++ quote (f path)) :=
    fun kind path hkind => (hfont.plain_append hkind).append_between (by decide) (by decide)
      (alike_quote _ _)
  cases terminal with
  | wxt => exact .ok (hwindow _ (by decide))
  | x11 => exact .ok (hwindow _ (by decide))
  | qt => exact .ok (hwindow _ (by decide))
  | png path => exact .ok (hfile _ path (by decide))
  | eps path => exact .ok (hfile _ path (by decide))

theorem alike_title (title : String) :
    EndAlike Alike (Options.titleDirective (.text title))
      (Options.titleDirective (.text (f title))) :=
  .ok ((alike_quote _ _).plain_append (by decide))

/-- A filling is written without texts, in its line and in a clause. -/
theorem apostrophe_not_mem_fill {fill : Filling.Typed}
    (h : Filling.directive fill.datum = .ok a ∨ Filling.clause fill.datum = .ok a) :
    '\'' ∉ a.toList := by
  rw [Filling.directive, Filling.clause, Filling.writeWith_datum, Filling.writeWith_datum] at h
  cases fill with
  | solid => rcases h with h | h <;> cases h <;> decide
  | pattern index =>
    rcases h with h | h <;> obtain ⟨text, htext, rfl⟩ := map_eq_ok.1 h <;>
      simp [apostrophe_not_mem_written htext]

theorem apostrophe_not_mem_span {lo hi : Datum} (h : AxisRange.span lo hi = .ok a) :
    '\'' ∉ a.toList := by
  obtain ⟨lo, hlo, h⟩ := bind_eq_ok.1 h
  obtain ⟨hi, hhi, h⟩ := bind_eq_ok.1 h
  cases h
  simp [apostrophe_not_mem_scriptNumber hlo, apostrophe_not_mem_scriptNumber hhi]

theorem apostrophe_not_mem_range {range : AxisRange.Typed Datum}
    (h : AxisRange.directive range.datum = .ok a) : '\'' ∉ a.toList := by
  rw [AxisRange.directive_datum] at h
  cases range with
  | x lo hi =>
    obtain ⟨span, hspan, h⟩ := bind_eq_ok.1 h
    cases h
    simp [apostrophe_not_mem_span hspan]
  | y lo hi =>
    obtain ⟨span, hspan, h⟩ := bind_eq_ok.1 h
    cases h
    simp [apostrophe_not_mem_span hspan]
  | xy xlo xhi ylo yhi =>
    obtain ⟨x, hx, h⟩ := bind_eq_ok.1 h
    obtain ⟨y, hy, h⟩ := bind_eq_ok.1 h
    cases h
    simp [apostrophe_not_mem_span hx, apostrophe_not_mem_span hy]

theorem apostrophe_not_mem_grid {on : Bool} (h : Options.gridDirective (.truth on) = .ok a) :
    '\'' ∉ a.toList := by
  cases on <;> cases h <;> decide

/-- Commands that are alike make lines that are. -/
theorem alike_commandLine? (h : List.Forall₂ Alike as bs) :
    List.Forall₂ Alike (commandLine? as).toList (commandLine? bs).toList := by
  cases h with
  | nil => exact .nil
  | cons hab hrest =>
    exact .cons (alike_intercalate (by decide) (by decide) (.cons hab hrest)) .nil

theorem alike_labelCommand {axis : String} (haxis : '\'' ∉ axis.toList) (label : Option String) :
    EndAlike (List.Forall₂ Alike) (Labels.command axis (.ofOption .text label))
      (Labels.command axis (.ofOption .text (label.map f))) := by
  cases label with
  | none => exact .ok .nil
  | some label =>
    refine .ok (.cons ((alike_quote _ _).plain_append ?_) .nil)
    simp [haxis]

theorem alike_labels (l : Labels.Typed String) :
    EndAlike (fun o o' => List.Forall₂ Alike o.toList o'.toList)
      (Labels.directive? l.datum) (Labels.directive? (l.map f).datum) := by
  rw [Labels.Typed.datum, Labels.Typed.datum, Labels.directive?_record, Labels.directive?_record]
  refine (alike_labelCommand f (by decide) l.x).bind fun hx => ?_
  refine (alike_labelCommand f (by decide) l.y).bind fun hy => ?_
  exact .ok (alike_commandLine? (List.rel_append hx hy))

theorem alike_placed (names : List String) (position : Nat) :
    EndAlike (List.Forall₂ Alike) (Titles.placed position (names.map .text))
      (Titles.placed position ((names.map f).map .text)) := by
  induction names generalizing position with
  | nil => exact .ok .nil
  | cons name rest ih =>
    have hposition : '\'' ∉ (toString position).toList := fun h =>
      absurd (isDigit_of_mem_decimalDigits (toList_toString position ▸ h)) (by decide)
    refine (ih (position + 1)).bind fun hrest => .ok (.cons ?_ hrest)
    exact ((alike_quote _ _).append_plain (by decide)).append_plain hposition

theorem alike_namesPart (names : Option (List String)) :
    EndAlike Alike (Titles.namesPart (.ofOption Titles.namesDatum names))
      (Titles.namesPart (.ofOption Titles.namesDatum (names.map (List.map f)))) := by
  cases names with
  | none => exact .ok (alike_of_not_mem (by decide))
  | some names =>
    refine (alike_placed f names 0).bind fun hnames => .ok (Alike.append_plain ?_ (by decide))
    exact (alike_intercalate (by decide) (by decide) hnames).plain_append (by decide)

theorem apostrophe_not_mem_anglePart {angle : Option Int}
    (h : Titles.anglePart (.ofOption .int angle) = .ok a) : '\'' ∉ a.toList := by
  cases angle with
  | none =>
    cases h
    decide
  | some i =>
    obtain ⟨text, htext, rfl⟩ := map_eq_ok.1 h
    simp [apostrophe_not_mem_written htext]

theorem alike_ticks {axis : String} (haxis : '\'' ∉ axis.toList) (t : Titles.Ticks String) :
    EndAlike (List.Forall₂ Alike)
      (Titles.command axis (.ofOption Titles.namesDatum t.names) (.ofOption .int t.angle))
      (Titles.command axis (.ofOption Titles.namesDatum (t.map f).names)
        (.ofOption .int (t.map f).angle)) := by
  have hname : '\'' ∉ ("set " ++ axis ++ "tics").toList := by simp [haxis]
  simp only [Titles.command_ofOption, Titles.Ticks.map, Option.isNone_map]
  split
  · exact .ok .nil
  · refine (alike_namesPart f t.names).bind fun hnames => ?_
    -- The angle is the same on both sides, and no text.
    have hangle : EndAlike (fun angle angle' => angle = angle' ∧ '\'' ∉ angle.toList)
        (Titles.anglePart (.ofOption .int t.angle)) (Titles.anglePart (.ofOption .int t.angle)) :=
      .of_self fun _ hangle => ⟨rfl, apostrophe_not_mem_anglePart hangle⟩
    refine hangle.bind ?_
    rintro angle _ ⟨rfl, hangle⟩
    exact .ok (.cons ((hnames.plain_append hname).append_plain hangle) .nil)

theorem alike_titles (t : Titles.Typed String) :
    EndAlike (fun o o' => List.Forall₂ Alike o.toList o'.toList)
      (Titles.directive? t.datum) (Titles.directive? (t.map f).datum) := by
  rw [Titles.Typed.datum, Titles.Typed.datum, Titles.directive?_record, Titles.directive?_record]
  refine (alike_ticks f (by decide) t.x).bind fun hx => ?_
  refine (alike_ticks f (by decide) t.y).bind fun hy => ?_
  exact .ok (alike_commandLine? (List.rel_append hx hy))

/-- A setting is written alike where its value is. -/
theorem alike_line {α : Type} {datum : α → Datum} {write : Datum → Except Failure String}
    {g : α → α} {setting : Option α} (hne : ∀ value, datum value ≠ .null)
    (h : ∀ value, EndAlike Alike (write (datum value)) (write (datum (g value)))) :
    EndAlike (List.Forall₂ Alike) (line write (.ofOption datum setting))
      (line write (.ofOption datum (setting.map g))) := by
  cases setting with
  | none => exact .ok .nil
  | some value =>
    rw [Option.map_some, Datum.ofOption, Datum.ofOption, line_of_ne_null (hne _),
      line_of_ne_null (hne _)]
    exact (h value).map fun hline => .cons hline .nil

theorem alike_line? {α : Type} {datum : α → Datum} {write : Datum → Except Failure (Option String)}
    {g : α → α} {setting : Option α} (hne : ∀ value, datum value ≠ .null)
    (h : ∀ value, EndAlike (fun o o' => List.Forall₂ Alike o.toList o'.toList)
      (write (datum value)) (write (datum (g value)))) :
    EndAlike (List.Forall₂ Alike) (line? write (.ofOption datum setting))
      (line? write (.ofOption datum (setting.map g))) := by
  cases setting with
  | none => exact .ok .nil
  | some value =>
    rw [Option.map_some, Datum.ofOption, Datum.ofOption, line?_of_ne_null (hne _),
      line?_of_ne_null (hne _)]
    exact (h value).map fun hline => hline

/-- A setting without texts. -/
theorem alike_line_of_not_mem {α : Type} {write : Datum → Except Failure String}
    (datum : α → Datum) (setting : Option α) (hne : ∀ value, datum value ≠ .null)
    (h : ∀ value a, write (datum value) = .ok a → '\'' ∉ a.toList) :
    EndAlike (List.Forall₂ Alike) (line write (.ofOption datum setting))
      (line write (.ofOption datum setting)) := by
  have hline : EndAlike (List.Forall₂ Alike) (line write (.ofOption datum setting))
      (line write (.ofOption datum (setting.map id))) :=
    alike_line hne fun value => endAlike_of_not_mem (h value)
  rwa [Option.map_id] at hline

/-- **Settings are written alike**, line by line, whatever their texts
say. -/
theorem alike_directives (o : Options.Typed String Datum) :
    EndAlike (List.Forall₂ Alike) o.untyped.directives (o.map f id).untyped.directives := by
  have hrange : (o.map f id).range = o.range := by simp [Options.Typed.map]
  simp only [Options.directives, Options.Typed.untyped, hrange]
  refine (alike_line Output.Typed.datum_ne_null (alike_output f)).bind fun houtput => ?_
  refine (alike_line (by simp) (alike_title f)).bind fun htitle => ?_
  refine (alike_line_of_not_mem .truth o.grid (by simp)
    fun _ _ => apostrophe_not_mem_grid).bind fun hgrid => ?_
  refine (alike_line_of_not_mem Filling.Typed.datum o.fill Filling.Typed.datum_ne_null
    fun _ _ h => apostrophe_not_mem_fill (.inl h)).bind fun hfill => ?_
  refine (alike_line_of_not_mem AxisRange.Typed.datum o.range AxisRange.Typed.datum_ne_null
    fun _ _ => apostrophe_not_mem_range).bind fun hrange => ?_
  refine (alike_line? Labels.Typed.datum_ne_null (alike_labels f)).bind fun hlabels => ?_
  refine (alike_line? Titles.Typed.datum_ne_null (alike_titles f)).bind fun htitles => ?_
  exact .ok (List.rel_append (List.rel_append (List.rel_append (List.rel_append
    (List.rel_append (List.rel_append houtput htitle) hgrid) hfill) hrange) hlabels) htitles)

/-! ## Series with other texts -/

theorem alike_titlePart (title : Option String) :
    EndAlike Alike (Series.titlePart (.ofOption .text title))
      (Series.titlePart (.ofOption .text (title.map f))) := by
  cases title with
  | none => exact endAlike_of_not_mem (by rintro s ⟨⟩; decide)
  | some title => exact .ok ((alike_quote _ _).plain_append (by decide))

/-- A colour is quoted, whether it has a name or components. -/
theorem alike_colorPart (color : Option (Color.Typed String)) :
    EndAlike (List.Forall₂ Alike) (Series.colorPart (color.map Color.Typed.untyped))
      (Series.colorPart ((color.map (Color.Typed.map f)).map Color.Typed.untyped)) := by
  cases color with
  | none => exact .ok .nil
  | some color =>
    cases color with
    | named name => exact .ok (.cons ((alike_quote _ _).plain_append (by decide)) .nil)
    | rgb r g b => exact .ok (.cons ((alike_quote _ _).plain_append (by decide)) .nil)

theorem alike_source {t : Trace.Typed} (h : ∀ text, t = .expression text → '\'' ∉ text.toList) :
    Alike t.source t.source := by
  have hinline : ∀ columns : String, '\'' ∉ columns.toList →
      Alike (quote "-" ++ columns) (quote "-" ++ columns) :=
    fun columns hcolumns => (alike_quote _ _).append_plain hcolumns
  cases t with
  | heights values => exact hinline " using 1" (by decide)
  | points values => exact hinline " using 1:2" (by decide)
  | timeline values => exact hinline " using 1:2" (by decide)
  | candles values => exact hinline " using 1:2:3:4:5" (by decide)
  | expression text => exact alike_of_not_mem (h text rfl)

variable {s : Series.Typed String} {series : List (Series.Typed String)}

/-- **Clauses are written alike**, whatever their texts say. -/
theorem alike_clause (h : ∀ text, s.trace = .expression text → '\'' ∉ text.toList) :
    EndAlike Alike s.untyped.clause (s.map f).untyped.clause := by
  rw [Series.Typed.clause_untyped, Series.Typed.clause_untyped]
  refine (alike_titlePart f s.title).bind fun htitle => ?_
  refine (alike_line_of_not_mem .int s.weight (by simp) fun i a hi => ?_).bind fun hweight => ?_
  · obtain ⟨text, htext, rfl⟩ := map_eq_ok.1 hi
    simp [apostrophe_not_mem_written htext]
  refine (alike_colorPart f s.color).bind fun hcolor => ?_
  refine (alike_line_of_not_mem Filling.Typed.datum s.fill Filling.Typed.datum_ne_null
    fun _ _ h => apostrophe_not_mem_fill (.inr h)).bind fun hfill => ?_
  have hstyle : '\'' ∉ ("with " ++ s.style.scriptText).toList := by cases s.style <;> decide
  refine .ok (alike_intercalate (by decide) (by decide) ?_)
  exact List.rel_append (List.rel_append (List.rel_append
    (.cons (alike_source h) (.cons (alike_of_not_mem hstyle) (.cons htitle .nil))) hweight)
    hcolor) hfill

theorem alike_clauses
    (h : ∀ s ∈ series, ∀ text, s.trace = .expression text → '\'' ∉ text.toList) :
    EndAlike (List.Forall₂ Alike) (Series.clauses (series.map Series.Typed.untyped))
      (Series.clauses ((series.map (Series.Typed.map f)).map Series.Typed.untyped)) := by
  induction series with
  | nil => exact .ok .nil
  | cons s rest ih =>
    refine (alike_clause f (h s List.mem_cons_self)).bind fun hclause => ?_
    refine (ih fun s hs => h s (List.mem_cons_of_mem _ hs)).bind fun hclauses => ?_
    exact .ok (.cons hclause hclauses)

/-- Lines without apostrophes. -/
theorem alike_lines_of_not_mem {ls : List String} (h : ∀ line ∈ ls, '\'' ∉ line.toList) :
    List.Forall₂ Alike ls ls :=
  List.forall₂_same.2 fun line hline => alike_of_not_mem (h line hline)

theorem alike_axisLines (resetTimeAxis time : Bool) :
    List.Forall₂ Alike (Series.axisLines resetTimeAxis time)
      (Series.axisLines resetTimeAxis time) := by
  have htime : Alike ("set xdata time; set timefmt " ++ quote "%s")
      ("set xdata time; set timefmt " ++ quote "%s") := (alike_quote _ _).plain_append (by decide)
  cases time with
  | true => exact .cons htime .nil
  | false => exact alike_lines_of_not_mem (by cases resetTimeAxis <;> decide)

/-- Nothing that is read from data depends on texts. -/
theorem flatMap_block_map (series : List (Series.Typed String)) :
    (((series.map (Series.Typed.map f)).map Series.Typed.untyped).flatMap fun s => s.trace.block)
      = (series.map Series.Typed.untyped).flatMap fun s => s.trace.block := by
  rw [List.map_map, List.flatMap_map, List.flatMap_map]
  rfl

theorem any_isTime_map (series : List (Series.Typed String)) :
    (((series.map (Series.Typed.map f)).map Series.Typed.untyped).any fun s => s.trace.isTime)
      = (series.map Series.Typed.untyped).any fun s => s.trace.isTime := by
  rw [List.map_map, List.any_map, List.any_map]
  rfl

theorem alike_plotLines (resetTimeAxis : Bool)
    (h : ∀ s ∈ series, ∀ text, s.trace = .expression text → '\'' ∉ text.toList) :
    EndAlike (List.Forall₂ Alike)
      (Series.plotLines resetTimeAxis (series.map Series.Typed.untyped))
      (Series.plotLines resetTimeAxis
        ((series.map (Series.Typed.map f)).map Series.Typed.untyped)) := by
  unfold Series.plotLines
  rw [flatMap_block_map, any_isTime_map, List.isEmpty_map, List.isEmpty_map, List.isEmpty_map]
  split
  · exact .error _
  refine (alike_clauses f h).bind fun hclauses => ?_
  have hplot := (alike_intercalate (by decide : '\'' ∉ (", " : String).toList) (by decide)
    hclauses).plain_append (by decide : '\'' ∉ ("plot " : String).toList)
  refine .ok (List.rel_append (List.rel_append (alike_axisLines _ _) (.cons hplot .nil))
    (alike_lines_of_not_mem fun line hline => ?_))
  obtain ⟨s, -, hline⟩ := List.mem_flatMap.1 hline
  intro hmem
  exact absurd (isNumeral_of_mem_block hline hmem) (by decide)

/-- **The scripts of plots are written alike**, whatever their texts
say. -/
theorem alike_plot (resetTimeAxis : Bool) (o : Options.Typed String Datum)
    (h : ∀ s ∈ series, ∀ text, s.trace = .expression text → '\'' ∉ text.toList) :
    EndAlike Alike (Script.plot resetTimeAxis (series.map Series.Typed.untyped) o.untyped)
      (Script.plot resetTimeAxis ((series.map (Series.Typed.map f)).map Series.Typed.untyped)
        (o.map f id).untyped) := by
  refine (alike_directives f o).bind fun hsettings => ?_
  refine (alike_plotLines f resetTimeAxis h).bind fun hlines => ?_
  exact .ok (alike_ofLines (List.rel_append hsettings hlines))

end Settings

/-- What a script shows to someone who passes over its texts: what is
erased of it, and how many lines it has. -/
def shape (script : String) : String × Nat := (erased script, (lines script).length)

theorem Alike.shape_eq (h : Alike a b) : shape a = shape b := by
  have herase : erase a.toList = erase b.toList := by
    have happend : erase (a.toList ++ []) = erase (b.toList ++ []) :=
      h.erase_append (by decide) (by decide) rfl
    rwa [List.append_nil, List.append_nil] at happend
  rw [shape, shape, erased, erased, herase, length_lines, length_lines, h.lineEnds]

/-- **Texts cannot become commands.** Two plots that differ in what their
texts say, and in nothing else, fail for the same reason or have scripts
of the same shape. -/
theorem shape_plot_eq {series series' : List (Series.Typed String)}
    {o o' : Options.Typed String Datum} (resetTimeAxis : Bool)
    (hexpression : ∀ s ∈ series, ∀ text, s.trace = .expression text → '\'' ∉ text.toList)
    (hseries : series.map Series.Typed.outline = series'.map Series.Typed.outline)
    (ho : o.outline = o'.outline) :
    (Script.plot resetTimeAxis (series.map Series.Typed.untyped) o.untyped).map shape =
      (Script.plot resetTimeAxis (series'.map Series.Typed.untyped) o'.untyped).map shape := by
  -- Both become the same plot when every text is replaced by the empty one.
  let blank : String → String := fun _ => ""
  have hblankSeries : ∀ l : List (Series.Typed String), l.map (Series.Typed.map blank) =
      (l.map Series.Typed.outline).map (Series.Typed.map fun _ => "") := by
    intro l
    simp [Series.Typed.outline, blank, Function.comp_def]
  have hblank : ∀ options : Options.Typed String Datum, options.map blank id =
      options.outline.map (fun _ => "") id :=
    fun options => (options.map_map (fun _ => ()) (fun _ => "") id id).symm
  have hexpression' : ∀ s ∈ series', ∀ text, s.trace = .expression text → '\'' ∉ text.toList := by
    intro s' hs' text htext
    obtain ⟨s, hs, hs'⟩ := List.mem_map.1 (hseries ▸ List.mem_map_of_mem hs')
    have htrace : s.outline.trace = s'.outline.trace := by rw [hs']
    exact hexpression s hs text (htrace.trans htext)
  calc (Script.plot resetTimeAxis (series.map Series.Typed.untyped) o.untyped).map shape
      = (Script.plot resetTimeAxis ((series.map (Series.Typed.map blank)).map Series.Typed.untyped)
          (o.map blank id).untyped).map shape :=
        (alike_plot blank resetTimeAxis o hexpression).map_eq_map Alike.shape_eq
    _ = (Script.plot resetTimeAxis ((series'.map (Series.Typed.map blank)).map Series.Typed.untyped)
          (o'.map blank id).untyped).map shape := by
        rw [hblankSeries, hblankSeries, hseries, hblank, hblank, ho]
    _ = (Script.plot resetTimeAxis (series'.map Series.Typed.untyped) o'.untyped).map shape :=
        ((alike_plot blank resetTimeAxis o' hexpression').map_eq_map Alike.shape_eq).symm

/-- A title and a path that try to end their texts are passed over like
others. -/
theorem shape_plot_hostileTexts :
    let series (title : String) : List (Series.Typed String) :=
      [{ style := .lines, trace := .expression "sin(x)", title := some title }]
    let options (path : String) : Options.Typed String Datum := { output := some ⟨.png path, none⟩ }
    (Script.plot true ((series "sine").map Series.Typed.untyped)
        (options "a.png").untyped).map shape =
      (Script.plot true ((series "it's'\n").map Series.Typed.untyped)
        (options "'; !ls\n'").untyped).map shape :=
  shape_plot_eq true (by simp) rfl rfl

end Script

end PlotPipe
