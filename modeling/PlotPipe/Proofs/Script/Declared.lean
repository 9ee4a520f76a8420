import PlotPipe.Proofs.Script.Lines
import PlotPipe.Session
/-!
# Scripts — what stays on its line

A request stays on its line (`Request.OnOneLine`) when none of its texts
brings a line end into the script. Most texts cannot: they are quoted.
What is written without quotes are expressions, weights, patterns and
angles; of the types that they are declared to have, only expressions are
texts, so that a declared request stays on its line where its expressions
do (`Request.Declared.onOneLine`).
-/

namespace PlotPipe

namespace Datum

/-- A value that stays on its line when it is written as it is. -/
def DisplaysOnLine (d : Datum) : Prop := Script.OnOneLine d.display

/-- A value that stays on its line when it is quoted. -/
def QuotesOnLine (d : Datum) : Prop := ∀ text, d.quoted = .ok text → Script.OnOneLine text

/-- What is written of a value is how it displays. -/
theorem eq_display_of_written {d : Datum} {text : String} (h : d.written = .ok text) :
    text = d.display := by
  unfold written at h
  split at h
  · split at h
    · cases h
    · exact (Except.ok.inj h).symm
  · exact (Except.ok.inj h).symm

theorem DisplaysOnLine.onOneLine {d : Datum} {text : String} (hd : d.DisplaysOnLine)
    (h : d.written = .ok text) : Script.OnOneLine text :=
  eq_display_of_written h ▸ hd

/-- A value that is shown in rows. -/
def isTable : Datum → Bool
  | column _ _ _ | frame _ => true
  | _ => false

/-- Everything but columns and tables stays on its line when it is
quoted. -/
theorem quotesOnLine_of_isTable {d : Datum} (h : d.isTable = false) : d.QuotesOnLine := by
  intro text htext
  unfold quoted at htext
  split at htext
  · cases h
  · cases h
  all_goals first | (cases htext; exact Script.onOneLine_quote _) | cases htext

end Datum

/-- The texts of settings stay on their line. -/
structure Options.OnOneLine (o : Options) : Prop where
  font : ∀ font, o.output.part "font" = .ok font → font.QuotesOnLine
  path : ∀ kind path, o.output.part "kind" = .ok kind →
    (Terminal.ofRecord? kind = some (.png path) ∨ Terminal.ofRecord? kind = some (.eps path)) →
    path.QuotesOnLine
  title : o.title.QuotesOnLine
  fill : ∀ index, Filling.ofRecord? o.fill = some (.pattern index) → index.DisplaysOnLine
  labels : ∀ axis label, o.labels.part axis = .ok label → label.QuotesOnLine
  names : ∀ axis ∈ ["x", "y"], ∀ names items, o.titles.part axis = .ok names →
    names.items = .ok items → ∀ name ∈ items, name.QuotesOnLine
  angles : ∀ axis ∈ ["xrotate", "yrotate"], ∀ angle, o.titles.part axis = .ok angle →
    angle.DisplaysOnLine

/-- The texts of a series stay on their line. -/
structure Series.OnOneLine (s : Series) : Prop where
  expression : ∀ value text, s.trace = .expression value → value.text? = some text →
    Script.OnOneLine text
  title : s.title.QuotesOnLine
  color : ∀ name, s.color = some (.named name) → name.QuotesOnLine
  weight : s.weight.DisplaysOnLine
  fill : ∀ index, Filling.ofRecord? s.fill = some (.pattern index) → index.DisplaysOnLine

/-- The texts of a request stay on their line. A reset has none. -/
def Request.OnOneLine : Request → Prop
  | .set options => options.OnOneLine
  | .unset _ => True
  | .plot s options => s.OnOneLine ∧ options.OnOneLine
  | .plotMany series options => (∀ s ∈ series, s.OnOneLine) ∧ options.OnOneLine
  | .plotExpression expression options =>
    Series.OnOneLine { style := .lines, trace := .expression expression } ∧ options.OnOneLine

/-! ## What the types of settings say

The texts and numbers that settings are declared to hold stay on their
line, so that an expression is the only text that can leave it. -/

namespace Datum

/-- A text, or nothing. -/
def IsText (d : Datum) : Prop := d = null ∨ ∃ s, d = text s

/-- A whole number, or nothing. -/
def IsWhole (d : Datum) : Prop := d = null ∨ ∃ i, d = int i

/-- A list or tuple of texts, or nothing. -/
def IsTexts (d : Datum) : Prop :=
  d = null ∨ ∃ texts : List String, d = list (texts.map text) ∨ d = tuple (texts.map text)

variable {d : Datum}

/-- A part of a record is one of its fields. -/
theorem mem_of_part_record {name key : String} {fields : List (String × Datum)}
    (h : (record name fields).part key = .ok d) : (key, d) ∈ fields := by
  unfold part lookup at h
  rcases hfound : fields.find? fun entry => entry.1 = key with _ | ⟨key', value⟩
  · simp [hfound] at h
  · simp only [hfound, Option.map_some, Except.ok.injEq] at h
    obtain rfl : key' = key := by simpa using List.find?_some hfound
    rw [← h]
    exact List.mem_of_find?_eq_some hfound

theorem IsText.quotesOnLine (h : d.IsText) : d.QuotesOnLine := by
  refine quotesOnLine_of_isTable ?_
  rcases h with rfl | ⟨s, rfl⟩ <;> rfl

theorem IsWhole.displaysOnLine (h : d.IsWhole) : d.DisplaysOnLine := by
  rcases h with rfl | ⟨i, rfl⟩
  · exact (by decide : Script.OnOneLine "None")
  · exact Script.onOneLine_toString_int i

theorem IsTexts.quotesOnLine (h : d.IsTexts) {items : List Datum} (hitems : d.items = .ok items)
    {item : Datum} (hitem : item ∈ items) : item.QuotesOnLine := by
  rcases h with rfl | ⟨texts, rfl | rfl⟩
  · cases hitems
  all_goals
    cases hitems
    obtain ⟨s, -, rfl⟩ := List.mem_map.1 hitem
    exact IsText.quotesOnLine (.inr ⟨s, rfl⟩)

end Datum

/-- Settings of the types that they are declared to have. -/
structure Options.Declared (o : Options) : Prop where
  output : o.output = .null ∨ ∃ (terminal : Terminal) (font : Datum),
    o.output = Output.record terminal.toDatum font ∧ font.IsText ∧
      ∀ path, terminal = .png path ∨ terminal = .eps path → path.IsText
  title : o.title.IsText
  fill : o.fill = .null ∨ ∃ filling, o.fill = Filling.toDatum filling ∧
    ∀ index, filling = .pattern index → index.IsWhole
  labels : o.labels = .null ∨ ∃ x y, o.labels = Labels.record x y ∧ x.IsText ∧ y.IsText
  titles : o.titles = .null ∨ ∃ x xrotate y yrotate,
    o.titles = Titles.record x xrotate y yrotate ∧
      x.IsTexts ∧ xrotate.IsWhole ∧ y.IsTexts ∧ yrotate.IsWhole

/-- A series of the types that it is declared to have. -/
structure Series.Declared (s : Series) : Prop where
  expression : ∀ value, s.trace = .expression value → value.IsText
  title : s.title.IsText
  color : ∀ name, s.color = some (.named name) → name.IsText
  weight : s.weight.IsWhole
  fill : s.fill = .null ∨ ∃ filling, s.fill = Filling.toDatum filling ∧
    ∀ index, filling = .pattern index → index.IsWhole

/-- A request of the types that it is declared to have. -/
def Request.Declared : Request → Prop
  | .set options => options.Declared
  | .unset _ => True
  | .plot s options => s.Declared ∧ options.Declared
  | .plotMany series options => (∀ s ∈ series, s.Declared) ∧ options.Declared
  | .plotExpression expression options => expression.IsText ∧ options.Declared

theorem Filling.ofRecord?_toDatum (filling : Filling) : ofRecord? filling.toDatum = some filling := by
  cases filling <;> rfl

theorem Terminal.ofRecord?_toDatum (terminal : Terminal) :
    ofRecord? terminal.toDatum = some terminal := by
  cases terminal <;> rfl

theorem Filling.displaysOnLine_index {d index : Datum}
    (h : d = .null ∨ ∃ filling, d = toDatum filling ∧ ∀ i, filling = .pattern i → i.IsWhole)
    (hd : ofRecord? d = some (.pattern index)) : index.DisplaysOnLine := by
  rcases h with rfl | ⟨filling, rfl, hindex⟩
  · cases hd
  · rw [ofRecord?_toDatum] at hd
    exact (hindex index (Option.some.inj hd)).displaysOnLine

/-- **Declared settings stay on their line.** -/
theorem Options.Declared.onOneLine {o : Options} (h : o.Declared) : o.OnOneLine where
  font font hfont := by
    rcases h.output with houtput | ⟨terminal, font', houtput, hfont', -⟩
    · rw [houtput] at hfont
      cases hfont
    · rw [houtput] at hfont
      cases hfont
      exact hfont'.quotesOnLine
  path kind path hkind hpath := by
    rcases h.output with houtput | ⟨terminal, font', houtput, -, hpath'⟩
    · rw [houtput] at hkind
      cases hkind
    · rw [houtput] at hkind
      cases hkind
      rw [Terminal.ofRecord?_toDatum, Option.some.injEq, Option.some.injEq] at hpath
      exact (hpath' path hpath).quotesOnLine
  title := h.title.quotesOnLine
  fill _ hindex := Filling.displaysOnLine_index h.fill hindex
  labels axis label hlabel := by
    rcases h.labels with hlabels | ⟨x, y, hlabels, hx, hy⟩
    · rw [hlabels] at hlabel
      cases hlabel
    · rw [hlabels] at hlabel
      have hmem := Datum.mem_of_part_record hlabel
      simp only [List.mem_cons, Prod.mk.injEq, List.not_mem_nil, or_false] at hmem
      rcases hmem with ⟨-, rfl⟩ | ⟨-, rfl⟩
      · exact hx.quotesOnLine
      · exact hy.quotesOnLine
  names axis haxis names items hnames hitems name hname := by
    rcases h.titles with htitles | ⟨x, xrotate, y, yrotate, htitles, hx, -, hy, -⟩
    · rw [htitles] at hnames
      cases hnames
    · rw [htitles] at hnames
      simp only [List.mem_cons, List.not_mem_nil, or_false] at haxis
      rcases haxis with rfl | rfl
      · cases hnames
        exact hx.quotesOnLine hitems hname
      · cases hnames
        exact hy.quotesOnLine hitems hname
  angles axis haxis angle hangle := by
    rcases h.titles with htitles | ⟨x, xrotate, y, yrotate, htitles, -, hx, -, hy⟩
    · rw [htitles] at hangle
      cases hangle
    · rw [htitles] at hangle
      simp only [List.mem_cons, List.not_mem_nil, or_false] at haxis
      rcases haxis with rfl | rfl
      · cases hangle
        exact hx.displaysOnLine
      · cases hangle
        exact hy.displaysOnLine

/-- **A declared series stays on its line** where its expression does. -/
theorem Series.Declared.onOneLine {s : Series} (h : s.Declared)
    (hexpression : ∀ text, s.trace = .expression (.text text) → Script.OnOneLine text) :
    s.OnOneLine where
  expression value text hvalue htext := by
    rcases h.expression value hvalue with rfl | ⟨text', rfl⟩
    · cases htext
    · cases htext
      exact hexpression text hvalue
  title := h.title.quotesOnLine
  color name hname := (h.color name hname).quotesOnLine
  weight := h.weight.displaysOnLine
  fill _ hindex := Filling.displaysOnLine_index h.fill hindex

/-- **A declared request stays on its line** where its expressions do. -/
theorem Request.Declared.onOneLine {r : Request} (h : r.Declared)
    (hexpression : ∀ series options, r.plotted? = some (series, options) → ∀ s ∈ series,
      ∀ text, s.trace = .expression (.text text) → Script.OnOneLine text) : r.OnOneLine := by
  cases r with
  | set options => exact Options.Declared.onOneLine h
  | unset dimensions => trivial
  | plot s options =>
    exact ⟨h.1.onOneLine (hexpression [s] options rfl s (by simp)), h.2.onOneLine⟩
  | plotMany series options =>
    exact ⟨fun s hs => (h.1 s hs).onOneLine (hexpression series options rfl s hs), h.2.onOneLine⟩
  | plotExpression expression options =>
    have hseries : Series.Declared { style := .lines, trace := .expression expression } :=
      ⟨fun _ hvalue => Trace.expression.inj hvalue ▸ h.1, .inl rfl, by simp, .inl rfl, .inl rfl⟩
    exact ⟨hseries.onOneLine (hexpression _ options rfl _ (by simp)), h.2.onOneLine⟩

end PlotPipe
