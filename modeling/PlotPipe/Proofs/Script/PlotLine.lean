import PlotPipe.Proofs.Script.Decoding
/-!
# Scripts — what series can be told from their plot line

Plots of inline series that have the same plot line are plots of series
that look alike, one by one (`forall₂_looksLike_of_plottingLines`): the clauses
are told apart, however many there are and whatever their titles say, and
so is each part of a clause, there or missing.

A clause is read from left to right like the line of a setting. It starts
with one of a few sources; what may be missing opens in a way in which
nothing else in a clause does; and what follows a clause starts with a
comma.
-/

namespace PlotPipe

/-- A value with blanks for its line ends, where it is a text. -/
def Datum.flat : Datum → Datum
  | .text s => .text (Script.flattened s)
  | d => d

/-- **Two series look alike in a plot line**: only the line ends of their
titles, and colours that are written alike, may differ. -/
structure Series.LooksLike (s s' : Series) : Prop where
  style : s.style = s'.style
  source : s.trace.source = s'.trace.source
  title : s.title.flat = s'.title.flat
  weight : s.weight = s'.weight
  color : s.color.map Color.scriptText = s'.color.map Color.scriptText
  fill : s.fill = s'.fill

open Script

variable {r r' a : String}

/-! ## The text of a clause -/

namespace Series.Typed

/-- The part of a clause for a title. -/
def titleText : Option String → String
  | none => "notitle"
  | some title => "title " ++ quote title

/-- What is quoted of a colour. -/
def colorName : Color.Typed String → String
  | .named name => name
  | .rgb r g b => "#" ++ Datum.hexDigits r ++ Datum.hexDigits g ++ Datum.hexDigits b

/-- A colour in a clause. -/
def colorText (color : Color.Typed String) : String := quote (colorName color)

/-- A filling in a clause. -/
def fillText : Filling.Typed → String
  | .solid => "solid"
  | .pattern index => "pattern " ++ toString index

/-- What stands in a clause behind its title. -/
def appearanceText (s : Typed String) : String :=
  optionalPart " lw " toString s.weight ++ (optionalPart " lc rgb " colorText s.color
    ++ optionalPart " fs " fillText s.fill)

/-- The clause of a series. -/
def clauseText (s : Typed String) : String :=
  s.trace.source ++ (" with " ++ (s.style.scriptText ++ (" " ++ (titleText s.title
    ++ appearanceText s))))

variable {s s' : Typed String}

theorem titlePart_ofOption (title : Option String) :
    titlePart (.ofOption .text title) = .ok (titleText title) := by
  cases title <;> rfl

theorem scriptText_color (color : Color.Typed String) :
    color.untyped.scriptText = .ok (colorText color) := by
  cases color <;> rfl

theorem eq_of_fillClause {fill : Filling.Typed} (h : Filling.clause fill.datum = .ok a) :
    a = "fs " ++ fillText fill := by
  rw [Filling.clause, Filling.writeWith_datum] at h
  cases fill with
  | solid => exact (Except.ok.inj h).symm
  | pattern index =>
    obtain ⟨text, htext, rfl⟩ := map_eq_ok.1 h
    rw [Datum.eq_display_of_written htext]
    rfl

/-- A part that is there brings a blank before it. -/
theorem intercalate_append_part {α : Type} {word : String} {text : α → String} {parts : List String}
    (hne : parts ≠ []) (o : Option α) :
    " ".intercalate (parts ++ (o.map fun value => word ++ text value).toList) =
      " ".intercalate parts ++ optionalPart (" " ++ word) text o := by
  cases o with
  | none => rw [Option.map_none, Option.toList_none, List.append_nil, optionalPart,
      String.append_empty]
  | some value =>
    rw [Option.map_some, Option.toList_some,
      String.intercalate_append_of_ne_nil hne (List.cons_ne_nil _ _),
      String.intercalate_singleton, optionalPart, String.append_assoc, String.append_assoc]

/-- **What is written of a series is its clause.** -/
theorem eq_clauseText (h : s.untyped.clause = .ok a) : a = clauseText s := by
  rw [clause_untyped] at h
  obtain ⟨title, htitle, h⟩ := bind_eq_ok.1 h
  obtain ⟨weight, hweight, h⟩ := bind_eq_ok.1 h
  obtain ⟨color, hcolor, h⟩ := bind_eq_ok.1 h
  obtain ⟨fill, hfill, h⟩ := bind_eq_ok.1 h
  have htitle : title = titleText s.title := by
    rw [untyped, titlePart_ofOption] at htitle
    exact (Except.ok.inj htitle).symm
  have hweight : weight = (s.weight.map fun i => "lw " ++ toString i).toList := by
    refine eq_of_line Datum.int _ (by simp) (fun i line hline => ?_) hweight
    obtain ⟨text, htext, rfl⟩ := map_eq_ok.1 hline
    rw [Datum.eq_display_of_written htext]
    rfl
  have hcolor : color = (s.color.map fun c => "lc rgb " ++ colorText c).toList := by
    rw [untyped] at hcolor
    cases hc : s.color with
    | none =>
      rw [hc] at hcolor
      exact (Except.ok.inj hcolor).symm
    | some c =>
      rw [hc, Option.map_some, colorPart, scriptText_color] at hcolor
      exact (Except.ok.inj hcolor).symm
  have hfill : fill = (s.fill.map fun f => "fs " ++ fillText f).toList :=
    eq_of_line Filling.Typed.datum _ Filling.Typed.datum_ne_null
      (fun _ _ => eq_of_fillClause) hfill
  rw [← pure_eq_ok.1 h, htitle, hweight, hcolor, hfill, clauseText, appearanceText]
  rw [intercalate_append_part (by simp), intercalate_append_part (by simp),
    intercalate_append_part (by simp)]
  have hwith : ∀ rest : String, " " ++ ("with " ++ rest) = " with " ++ rest := by
    intro rest
    rw [← String.append_assoc]
    rfl
  simp [String.append_assoc, hwith]

theorem eq_of_clauses {series : List (Typed String)} {texts : List String}
    (h : clauses (series.map untyped) = .ok texts) : texts = series.map clauseText := by
  induction series generalizing texts with
  | nil => exact (Except.ok.inj h).symm
  | cons s rest ih =>
    obtain ⟨c, hc, h⟩ := bind_eq_ok.1 h
    obtain ⟨cs, hcs, h⟩ := bind_eq_ok.1 h
    rw [← pure_eq_ok.1 h, eq_clauseText hc, ih hcs, List.map_cons]

/-! ## Reading a clause -/

/-- A text that is over, or goes on with a comma. -/
def Over (r : String) : Prop := ∀ c ∈ r.toList.head?, c = ','

theorem Over.not_isNumeral (h : Over r) : ∀ c ∈ r.toList.head?, isNumeral c = false := by
  intro c hc
  rw [h c hc]
  rfl

theorem Over.apart (h : Over r) : Apart r := fun hhead => absurd (h '\'' hhead) (by decide)

/-- It does not open like a part of a clause. -/
theorem Over.not_opens (h : Over r) (ha : a.toList.head? = some ' ') : ¬ Opens a r := by
  rintro ⟨rest, hrest⟩
  have hhead : r.toList.head? = some ' ' := by
    rw [← hrest, List.head?_append, ha, Option.some_or]
  exact absurd (h ' ' hhead) (by decide)

theorem over_others (texts : List String) : Over (Titles.others texts) := by
  cases texts with
  | nil => exact nofun
  | cons text rest =>
    intro c hc
    simpa [Titles.others, String.toList_append] using hc.symm

/-- The sources of inline traces. -/
def inlineSources : List String := ["'-' using 1", "'-' using 1:2", "'-' using 1:2:3:4:5"]

theorem source_mem_inlineSources {t : Trace.Typed} (ht : t.untyped.isInline) :
    t.source ∈ inlineSources := by
  cases t with
  | expression text => cases ht
  | _ => simp [Trace.Typed.source, inlineSources]

theorem source_append_inj {t t' : Trace.Typed} (ht : t.untyped.isInline)
    (ht' : t'.untyped.isInline) (h : t.source ++ (" with " ++ r) = t'.source ++ (" with " ++ r')) :
    t.source = t'.source ∧ r = r' := by
  rw [← String.append_assoc, ← String.append_assoc] at h
  by_cases hsource : t.source = t'.source
  · rw [hsource] at h ⊢
    exact ⟨rfl, (String.append_right_inj _).1 h⟩
  · have hdiverge : ∀ a ∈ inlineSources, ∀ b ∈ inlineSources, a ≠ b →
        Diverge (a ++ " with ") (b ++ " with ") := by decide
    exact absurd h (hdiverge _ (source_mem_inlineSources ht) _ (source_mem_inlineSources ht')
      hsource).append_ne

theorem style_append_inj {style style' : PlotStyle}
    (h : style.scriptText ++ (" " ++ r) = style'.scriptText ++ (" " ++ r')) :
    style = style' ∧ r = r' := by
  rw [← String.append_assoc, ← String.append_assoc] at h
  by_cases hstyle : style = style'
  · subst hstyle
    exact ⟨rfl, (String.append_right_inj _).1 h⟩
  · have hdiverge : ∀ style style' : PlotStyle, style ≠ style' →
        Diverge (style.scriptText ++ " ") (style'.scriptText ++ " ") := by
      intro style style'
      cases style <;> cases style' <;> decide
    exact absurd h (Diverge.append_ne (hdiverge _ _ hstyle))

theorem titleText_append_inj {title title' : Option String} (hr : Apart r) (hr' : Apart r')
    (h : titleText title ++ r = titleText title' ++ r') :
    title.map flattened = title'.map flattened ∧ r = r' := by
  cases title with
  | none =>
    cases title' with
    | none => exact ⟨rfl, (String.append_right_inj _).1 h⟩
    | some text =>
      rw [titleText, titleText, String.append_assoc] at h
      exact absurd h (Diverge.append_ne (by decide))
  | some text =>
    cases title' with
    | none =>
      rw [titleText, titleText, String.append_assoc] at h
      exact absurd h (Diverge.append_ne (by decide))
    | some text' =>
      simp only [titleText, String.append_assoc, String.append_right_inj] at h
      obtain ⟨htext, hrest⟩ := quote_append_inj hr hr' h
      exact ⟨congrArg some htext, hrest⟩

/-- Colours are told apart as far as they are written. -/
theorem colorText_append_inj {c c' : Color.Typed String} (hr : Apart r) (hr' : Apart r')
    (h : colorText c ++ r = colorText c' ++ r') : colorText c = colorText c' ∧ r = r' := by
  obtain ⟨hname, hrest⟩ := quote_append_inj hr hr' h
  have hflat : flatten (colorName c).toList = flatten (colorName c').toList :=
    String.ofList_injective hname
  refine ⟨?_, hrest⟩
  rw [colorText, colorText, quote, quote, hflat]

theorem fillText_append_inj {fill fill' : Filling.Typed} (hr : Over r) (hr' : Over r')
    (h : fillText fill ++ r = fillText fill' ++ r') : fill = fill' ∧ r = r' := by
  cases fill with
  | solid =>
    cases fill' with
    | solid => exact ⟨rfl, (String.append_right_inj _).1 h⟩
    | pattern index =>
      rw [fillText, fillText, String.append_assoc] at h
      exact absurd h (Diverge.append_ne (by decide))
  | pattern index =>
    cases fill' with
    | solid =>
      rw [fillText, fillText, String.append_assoc] at h
      exact absurd h (Diverge.append_ne (by decide))
    | pattern index' =>
      simp only [fillText, String.append_assoc, String.append_right_inj] at h
      obtain ⟨rfl, hrest⟩ := toString_append_inj hr.not_isNumeral hr'.not_isNumeral h
      exact ⟨rfl, hrest⟩

/-- What stands behind a colour is no other colour and ends it. -/
theorem apart_behind_color (hr : Over r) (s : Typed String) :
    ¬ Opens " lc rgb " (optionalPart " fs " fillText s.fill ++ r) ∧
      Apart (optionalPart " fs " fillText s.fill ++ r) :=
  optionalPart_append_induction (fun text => ¬ Opens " lc rgb " text ∧ Apart text)
    ⟨hr.not_opens rfl, hr.apart⟩
    (fun rest => ⟨(Diverge.append (by decide) rest).1, Apart.append (by decide) (by decide)⟩) _

/-- What stands behind a weight is no other weight and ends it. -/
theorem not_isNumeral_behind_weight (hr : Over r) (s : Typed String) :
    ¬ Opens " lw " (optionalPart " lc rgb " colorText s.color
      ++ (optionalPart " fs " fillText s.fill ++ r)) ∧
    ∀ c ∈ (optionalPart " lc rgb " colorText s.color
      ++ (optionalPart " fs " fillText s.fill ++ r)).toList.head?, isNumeral c = false := by
  have hopening : ∀ opening ∈ [" lc rgb ", " fs "], ∀ rest : String,
      ¬ Opens " lw " (opening ++ rest) ∧
        ∀ c ∈ (opening ++ rest).toList.head?, isNumeral c = false := by
    intro opening hmem rest
    simp only [List.mem_cons, List.not_mem_nil, or_false] at hmem
    rcases hmem with rfl | rfl <;>
      exact ⟨(Diverge.append (by decide) rest).1, by simp [String.toList_append, isNumeral]⟩
  refine optionalPart_append_induction (fun text => ¬ Opens " lw " text ∧
    ∀ c ∈ text.toList.head?, isNumeral c = false) ?_ (hopening _ (by simp)) _
  exact optionalPart_append_induction (fun text => ¬ Opens " lw " text ∧
    ∀ c ∈ text.toList.head?, isNumeral c = false) ⟨hr.not_opens rfl, hr.not_isNumeral⟩
    (hopening _ (by simp)) _

/-- **Weight, colour and filling are told from a clause**, there or
missing. -/
theorem appearanceText_append_inj (hr : Over r) (hr' : Over r')
    (h : appearanceText s ++ r = appearanceText s' ++ r') :
    s.weight = s'.weight ∧ s.color.map colorText = s'.color.map colorText ∧ s.fill = s'.fill ∧
      r = r' := by
  simp only [appearanceText, String.append_assoc] at h
  -- Behind each part stands one that opens in another way, or the clause is over.
  obtain ⟨hlw, hnumeral⟩ := not_isNumeral_behind_weight hr s
  obtain ⟨hlw', hnumeral'⟩ := not_isNumeral_behind_weight hr' s'
  obtain ⟨hweight, h⟩ :=
    optionalPart_append_inj id hlw hlw' (toString_append_inj hnumeral hnumeral') h
  obtain ⟨hlc, hapart⟩ := apart_behind_color hr s
  obtain ⟨hlc', hapart'⟩ := apart_behind_color hr' s'
  obtain ⟨hcolor, h⟩ :=
    optionalPart_append_inj colorText hlc hlc' (colorText_append_inj hapart hapart') h
  obtain ⟨hfill, hrest⟩ := optionalPart_append_inj id (hr.not_opens rfl) (hr'.not_opens rfl)
    (fillText_append_inj hr hr') h
  exact ⟨by simpa using hweight, hcolor, by simpa using hfill, hrest⟩

theorem apart_appearanceText (hr : Over r) (s : Typed String) : Apart (appearanceText s ++ r) := by
  simp only [appearanceText, String.append_assoc]
  refine optionalPart_append_induction Apart ?_ (fun _ => Apart.append (by decide) (by decide)) _
  refine optionalPart_append_induction Apart ?_ (fun _ => Apart.append (by decide) (by decide)) _
  exact optionalPart_append_induction Apart hr.apart
    (fun _ => Apart.append (by decide) (by decide)) _

/-- Typed series look alike where their parts are told apart in no way. -/
theorem looksLike_untyped (hstyle : s.style = s'.style) (hsource : s.trace.source = s'.trace.source)
    (htitle : s.title.map flattened = s'.title.map flattened) (hweight : s.weight = s'.weight)
    (hcolor : s.color.map colorText = s'.color.map colorText) (hfill : s.fill = s'.fill) :
    s.untyped.LooksLike s'.untyped := by
  have hflat : ∀ title : Option String,
      (Datum.ofOption .text title).flat = .ofOption .text (title.map flattened) := by
    intro title
    cases title <;> rfl
  have hscript : ∀ color : Option (Color.Typed String),
      (color.map Color.Typed.untyped).map Color.scriptText =
        (color.map colorText).map Except.ok := by
    intro color
    cases color with
    | none => rfl
    | some c => exact congrArg some (scriptText_color c)
  refine ⟨hstyle, ?_, ?_, ?_, ?_, ?_⟩ <;> rw [untyped, untyped]
  · rw [s.trace.source_untyped, s'.trace.source_untyped, hsource]
  · rw [hflat, hflat, htitle]
  · rw [hweight]
  · rw [hscript, hscript, hcolor]
  · rw [hfill]

/-- **A clause is told from what follows it**, and its parts from each
other. -/
theorem clauseText_append_inj (hs : s.untyped.trace.isInline) (hs' : s'.untyped.trace.isInline)
    (hr : Over r) (hr' : Over r') (h : clauseText s ++ r = clauseText s' ++ r') :
    s.untyped.LooksLike s'.untyped ∧ r = r' := by
  simp only [clauseText, String.append_assoc] at h
  obtain ⟨hsource, h⟩ := source_append_inj hs hs' h
  obtain ⟨hstyle, h⟩ := style_append_inj h
  obtain ⟨htitle, h⟩ :=
    titleText_append_inj (apart_appearanceText hr s) (apart_appearanceText hr' s') h
  obtain ⟨hweight, hcolor, hfill, hrest⟩ := appearanceText_append_inj hr hr' h
  exact ⟨looksLike_untyped hstyle hsource htitle hweight hcolor hfill, hrest⟩

/-! ## Reading a plot line -/

/-- **Clauses are told apart**, one after the other, and where the last
one is. -/
theorem forall₂_looksLike_of_others {series series' : List (Typed String)}
    (hseries : ∀ s ∈ series, s.untyped.trace.isInline)
    (hseries' : ∀ s ∈ series', s.untyped.trace.isInline)
    (h : Titles.others (series.map clauseText) = Titles.others (series'.map clauseText)) :
    List.Forall₂ LooksLike (series.map untyped) (series'.map untyped) := by
  have hgoesOn : ∀ (text : String) (texts : List String), Titles.others (text :: texts) ≠ "" := by
    intro text texts hempty
    rw [Titles.others, String.append_eq_empty_iff] at hempty
    exact absurd hempty.1 (by decide)
  have hcons : ∀ (s : Typed String) (rest : List (Typed String)),
      Titles.others ((s :: rest).map clauseText) =
        ", " ++ (clauseText s ++ Titles.others (rest.map clauseText)) := by
    intro s rest
    cases rest with
    | nil => simp [Titles.others]
    | cons s' rest => simp [Titles.others, String.append_assoc]
  induction series generalizing series' with
  | nil =>
    cases series' with
    | nil => exact .nil
    | cons s' rest' => exact absurd h.symm (hgoesOn _ _)
  | cons s rest ih =>
    cases series' with
    | nil => exact absurd h (hgoesOn _ _)
    | cons s' rest' =>
      rw [hcons, hcons, String.append_right_inj] at h
      obtain ⟨halike, hrest⟩ := clauseText_append_inj (hseries s List.mem_cons_self)
        (hseries' s' List.mem_cons_self) (over_others _) (over_others _) h
      refine .cons halike (ih ?_ ?_ hrest)
      · exact fun t ht => hseries t (List.mem_cons_of_mem _ ht)
      · exact fun t ht => hseries' t (List.mem_cons_of_mem _ ht)

end Series.Typed

namespace Script

/-- The lines of a script that plot. -/
def plottingLines (script : String) : List String :=
  (lines script).filter fun line => Opens "plot " line

/-- **The script of a plot has one line that plots**, with the clauses of
the series. -/
theorem plottingLines_of_plot {series : List (Series.Typed String)}
    {o : Options.Typed String Binary64} {resetTimeAxis : Bool} {script : String}
    (hinline : ∀ s ∈ series, s.untyped.trace.isInline)
    (h : Script.plot resetTimeAxis (series.map Series.Typed.untyped) o.ofDoubles = .ok script) :
    plottingLines script = ["plot " ++ ", ".intercalate (series.map Series.Typed.clauseText)] := by
  have hseries : ∀ s ∈ series.map Series.Typed.untyped, s.OnOneLine := by
    intro s hs
    obtain ⟨t, ht, rfl⟩ := List.mem_map.1 hs
    refine t.declared.onOneLine fun text htext => ?_
    -- An expression is not inline.
    have hinline := hinline t ht
    rw [htext] at hinline
    cases hinline
  obtain ⟨settings, clauses, -, hclauses, hlines, hneutral⟩ :=
    exists_lines_of_plot hseries (Options.Typed.declared _).onOneLine h
  have hnone : ∀ ls : List String, (∀ line ∈ ls, ¬ Opens "plot " line) →
      (ls.filter fun line => Opens "plot " line) = [] := by
    intro ls hls
    exact List.filter_eq_nil_iff.2 fun line hline => by simpa using hls line hline
  have haxis : ∀ resetTimeAxis time, ∀ line ∈ Series.axisLines resetTimeAxis time,
      ¬ Opens "plot " line := by decide
  have hsettings := hnone settings fun line hline =>
    (hneutral line (List.mem_append_left _ hline)).1
  have hdata := hnone _ fun line hline => (hneutral line (List.mem_append_right _ hline)).1
  have hplot : Opens "plot " ("plot " ++ ", ".intercalate clauses) :=
    (opens_append (by decide)).2 (by decide)
  rw [plottingLines, hlines, List.filter_append, List.filter_append, hsettings, hnone _ (haxis _ _),
    List.filter_cons, if_pos (by simpa using hplot), List.filter_append, hdata,
    Series.Typed.eq_of_clauses hclauses]
  rfl

end Script

/-- Something is plotted in a plot. -/
theorem Series.ne_nil_of_plot {series : List Series} {o : Options} {resetTimeAxis : Bool}
    {script : String} (h : Script.plot resetTimeAxis series o = .ok script) : series ≠ [] := by
  rintro rfl
  obtain ⟨_, -, h⟩ := bind_eq_ok.1 h
  obtain ⟨_, h, -⟩ := bind_eq_ok.1 h
  cases h

/-- **Series can be told from the plot line.** Where plots of inline
series that were made, with settings of the types that they are declared
to have, have the same line that plots, the series look alike, one by
one. -/
theorem Series.forall₂_looksLike_of_plottingLines {series series' : List Series}
    {o o' : Options.Typed String Binary64} {resetTimeAxis resetTimeAxis' : Bool}
    {script script' : String} (hseries : ∀ s ∈ series, s.Built ∧ s.trace.isInline)
    (hseries' : ∀ s ∈ series', s.Built ∧ s.trace.isInline)
    (hplot : Script.plot resetTimeAxis series o.ofDoubles = .ok script)
    (hplot' : Script.plot resetTimeAxis' series' o'.ofDoubles = .ok script')
    (h : plottingLines script = plottingLines script') : List.Forall₂ LooksLike series series' := by
  obtain ⟨typed, rfl, -⟩ := exists_typed_of_forall_built fun s hs => (hseries s hs).1
  obtain ⟨typed', rfl, -⟩ := exists_typed_of_forall_built fun s hs => (hseries' s hs).1
  have hinline : ∀ t ∈ typed, t.untyped.trace.isInline := fun t ht =>
    (hseries _ (List.mem_map_of_mem ht)).2
  have hinline' : ∀ t ∈ typed', t.untyped.trace.isInline := fun t ht =>
    (hseries' _ (List.mem_map_of_mem ht)).2
  rw [plottingLines_of_plot hinline hplot, plottingLines_of_plot hinline' hplot', List.cons.injEq,
    String.append_right_inj] at h
  refine Typed.forall₂_looksLike_of_others hinline hinline' ?_
  -- A plot has a series, so that the clauses are those behind the comma of a longer list.
  cases typed with
  | nil => exact absurd rfl (ne_nil_of_plot hplot)
  | cons s rest =>
    cases typed' with
    | nil => exact absurd rfl (ne_nil_of_plot hplot')
    | cons s' rest' => exact congrArg (", " ++ ·) h.1

/-- Two series with hostile titles, of which one has a weight: the line
ends of a title and the kind of its axis are not seen, and a title that
says `lw 3` is told from a weight. -/
theorem Series.forall₂_looksLike_hostileTitles :
    let series : List (Typed String) :=
      [{ style := .points, trace := .points [(.zero, .zero)], title := some "a', 'b\nlw 3"
         weight := some 3 },
       { style := .lines, trace := .heights [.zero], title := some "x' lw 3"
         color := some (.named "#00ff00") }]
    let series' : List (Typed String) :=
      [{ style := .points, trace := .timeline [(.nan, .zero)], title := some "a', 'b lw 3"
         weight := some 3 },
       { style := .lines, trace := .heights [.nan], title := some "x' lw 3"
         color := some (.rgb 0 255 0) }]
    ∃ script script',
      Script.plot false (series.map Typed.untyped) (Options.Typed.ofDoubles {}) = .ok script ∧
      Script.plot false (series'.map Typed.untyped)
        (Options.Typed.ofDoubles { title := some "plot 'x'" }) = .ok script' ∧
      plottingLines script = plottingLines script' ∧
      List.Forall₂ LooksLike (series.map Typed.untyped) (series'.map Typed.untyped) := by
  intro series series'
  have hseries : ∀ s ∈ series.map Typed.untyped, s.Built ∧ s.trace.isInline := by
    have hweighted : Series.ofData .points .points (.list [.tuple [.real .zero, .real .zero]])
        { title := .text "a', 'b\nlw 3", weight := .int 3 } = .ok series[0].untyped := rfl
    have hnamed : Series.ofData .lines .heights (.list [.real .zero])
        { title := .text "x' lw 3", color := (Color.named (.text "#00ff00")).toDatum } =
          .ok series[1].untyped := rfl
    intro s hs
    simp only [series, List.map_cons, List.map_nil, List.mem_cons, List.not_mem_nil, or_false] at hs
    rcases hs with rfl | rfl
    · refine ⟨.data ?_ hweighted, rfl⟩
      exact ⟨⟨some _, rfl⟩, nofun, ⟨some 3, rfl⟩, ⟨none, rfl⟩⟩
    · refine ⟨.data ⟨⟨some _, rfl⟩, fun color hcolor => ?_, ⟨none, rfl⟩, ⟨none, rfl⟩⟩ hnamed, rfl⟩
      exact ⟨.named "#00ff00", (Option.some.inj hcolor).symm⟩
  have hseries' : ∀ s ∈ series'.map Typed.untyped, s.Built ∧ s.trace.isInline := by
    have htimed : Series.ofData .points .timeline (.list [.tuple [.real .nan, .real .zero]])
        { title := .text "a', 'b lw 3", weight := .int 3 } = .ok series'[0].untyped := rfl
    have hmixed : Series.ofData .lines .heights (.list [.real .nan])
        { title := .text "x' lw 3", color := .tuple [.int 0, .int 255, .int 0] } =
          .ok series'[1].untyped := rfl
    intro s hs
    simp only [series', List.map_cons, List.map_nil, List.mem_cons, List.not_mem_nil,
      or_false] at hs
    rcases hs with rfl | rfl
    · refine ⟨.data ?_ htimed, rfl⟩
      exact ⟨⟨some _, rfl⟩, nofun, ⟨some 3, rfl⟩, ⟨none, rfl⟩⟩
    · refine ⟨.data ?_ hmixed, rfl⟩
      exact ⟨⟨some _, rfl⟩, nofun, ⟨none, rfl⟩, ⟨none, rfl⟩⟩
  obtain ⟨script, hplot⟩ := exists_of_isOk (by decide +kernel :
    (Script.plot false (series.map Typed.untyped) (Options.Typed.ofDoubles {})).isOk)
  obtain ⟨script', hplot'⟩ := exists_of_isOk (by decide +kernel :
    (Script.plot false (series'.map Typed.untyped)
      (Options.Typed.ofDoubles { title := some "plot 'x'" })).isOk)
  have hlines : plottingLines script = plottingLines script' := by
    rw [plottingLines_of_plot (fun s hs => (hseries _ (List.mem_map_of_mem hs)).2) hplot,
      plottingLines_of_plot (fun s hs => (hseries' _ (List.mem_map_of_mem hs)).2) hplot']
    decide +kernel
  exact ⟨script, script', hplot, hplot', hlines,
    Series.forall₂_looksLike_of_plottingLines hseries hseries' hplot hplot' hlines⟩

end PlotPipe
