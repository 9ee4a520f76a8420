import PlotPipe.Proofs.Outcome
import PlotPipe.Proofs.Script.Declared
/-!
# Scripts — typed settings

Settings are records of values of any kind, and any of their parts may be
of a wrong one. The types of this file hold the settings whose parts are
what they are declared to be. They are over the type `τ` of their texts
and the type `ν` of their bounds: `map` replaces the texts and bounds of
settings and nothing else, so that two settings differ in their texts
only when they become the same over a type with a single text.

Typed settings are declared ones (`Options.Typed.declared`), and so are
the series that are made with declared styling (`Series.Built`).
-/

namespace PlotPipe

variable {τ τ' τ'' ν ν' ν'' : Type}

/-- A terminal whose path is a text. -/
inductive Terminal.Typed (τ : Type) where
  | wxt
  | x11
  | qt
  | png (path : τ)
  | eps (path : τ)
  deriving DecidableEq

/-- A terminal with a font, where it has one. -/
structure Output.Typed (τ : Type) where
  terminal : Terminal.Typed τ
  font : Option τ := none
  deriving DecidableEq

/-- A filling whose index is a whole number. -/
inductive Filling.Typed where
  | solid
  | pattern (index : Int)
  deriving DecidableEq

/-- A range between bounds of one type. -/
inductive AxisRange.Typed (ν : Type) where
  | x (lo hi : ν)
  | y (lo hi : ν)
  | xy (xlo xhi ylo yhi : ν)
  deriving DecidableEq

/-- Labels that are texts. -/
structure Labels.Typed (τ : Type) where
  x : Option τ := none
  y : Option τ := none
  deriving DecidableEq

/-- The ticks of an axis: names that are texts, and an angle that is a
whole number. -/
structure Titles.Ticks (τ : Type) where
  names : Option (List τ) := none
  angle : Option Int := none
  deriving DecidableEq

/-- The ticks of both axes. -/
structure Titles.Typed (τ : Type) where
  x : Titles.Ticks τ := {}
  y : Titles.Ticks τ := {}
  deriving DecidableEq

/-- A colour whose name is a text or whose components are whole numbers. -/
inductive Color.Typed (τ : Type) where
  | named (name : τ)
  | rgb (red green blue : Int)
  deriving DecidableEq

/-- A trace whose expression is a text. -/
inductive Trace.Typed where
  | heights (values : List Binary64)
  | points (values : List (Binary64 × Binary64))
  | timeline (values : List (Binary64 × Binary64))
  | candles (values : List Candle)
  | expression (text : String)

/-- Settings over texts and bounds of given types. -/
structure Options.Typed (τ ν : Type) where
  output : Option (Output.Typed τ) := none
  title : Option τ := none
  grid : Option Bool := none
  fill : Option Filling.Typed := none
  range : Option (AxisRange.Typed ν) := none
  labels : Option (Labels.Typed τ) := none
  titles : Option (Titles.Typed τ) := none
  deriving DecidableEq

/-- A series over texts of a given type. Its expression is not among
them. -/
structure Series.Typed (τ : Type) where
  style : PlotStyle
  trace : Trace.Typed
  title : Option τ := none
  color : Option (Color.Typed τ) := none
  weight : Option Int := none
  fill : Option Filling.Typed := none

/-! ## Other texts and bounds -/

namespace Terminal.Typed

/-- Replace the path. -/
def map (f : τ → τ') : Typed τ → Typed τ'
  | wxt => wxt
  | x11 => x11
  | qt => qt
  | png path => png (f path)
  | eps path => eps (f path)

@[simp] theorem map_map (f : τ → τ') (g : τ' → τ'') (t : Typed τ) :
    (t.map f).map g = t.map (g ∘ f) := by
  cases t <;> rfl

/-- A terminal as a terminal of any values. -/
def untyped : Typed String → Terminal
  | wxt => .wxt
  | x11 => .x11
  | qt => .qt
  | png path => .png (.text path)
  | eps path => .eps (.text path)

end Terminal.Typed

namespace Output.Typed

/-- Replace the texts. -/
def map (f : τ → τ') (o : Typed τ) : Typed τ' := ⟨o.terminal.map f, o.font.map f⟩

@[simp] theorem map_map (f : τ → τ') (g : τ' → τ'') (o : Typed τ) :
    (o.map f).map g = o.map (g ∘ f) := by
  simp [map]

/-- An output as a record. -/
def datum (o : Typed String) : Datum :=
  record o.terminal.untyped.toDatum (.ofOption .text o.font)

theorem datum_ne_null (o : Typed String) : o.datum ≠ .null := nofun

end Output.Typed

namespace Filling.Typed

/-- A filling as a filling of any value. -/
def untyped : Typed → Filling
  | solid => .solid
  | pattern index => .pattern (.int index)

/-- A filling as a record. -/
def datum (f : Typed) : Datum := f.untyped.toDatum

theorem datum_ne_null (f : Typed) : f.datum ≠ .null := by
  cases f <;> nofun

/-- The whole number that is written of a filling. -/
def whole? : Typed → Option Int
  | solid => none
  | pattern index => some index

end Filling.Typed

namespace AxisRange.Typed

/-- Replace the bounds. -/
def map (g : ν → ν') : Typed ν → Typed ν'
  | x lo hi => x (g lo) (g hi)
  | y lo hi => y (g lo) (g hi)
  | xy xlo xhi ylo yhi => xy (g xlo) (g xhi) (g ylo) (g yhi)

@[simp] theorem map_map (f : ν → ν') (g : ν' → ν'') (r : Typed ν) :
    (r.map f).map g = r.map (g ∘ f) := by
  cases r <;> rfl

@[simp] theorem map_id : (map id : Typed ν → Typed ν) = id := by
  funext r
  cases r <;> rfl

/-- A range as a range between any values. -/
def untyped : Typed Datum → AxisRange
  | x lo hi => .x lo hi
  | y lo hi => .y lo hi
  | xy xlo xhi ylo yhi => .xy xlo xhi ylo yhi

/-- A range as a record. -/
def datum (r : Typed Datum) : Datum := r.untyped.toDatum

theorem datum_ne_null (r : Typed Datum) : r.datum ≠ .null := by
  cases r <;> nofun

end AxisRange.Typed

namespace Labels.Typed

/-- Replace the texts. -/
def map (f : τ → τ') (l : Typed τ) : Typed τ' := ⟨l.x.map f, l.y.map f⟩

@[simp] theorem map_map (f : τ → τ') (g : τ' → τ'') (l : Typed τ) :
    (l.map f).map g = l.map (g ∘ f) := by
  simp [map]

/-- Labels as a record. -/
def datum (l : Typed String) : Datum := record (.ofOption .text l.x) (.ofOption .text l.y)

theorem datum_ne_null (l : Typed String) : l.datum ≠ .null := nofun

end Labels.Typed

namespace Titles

/-- Names of ticks as a value. -/
def namesDatum (names : List String) : Datum := .tuple (names.map .text)

namespace Ticks

/-- Replace the names. -/
def map (f : τ → τ') (t : Ticks τ) : Ticks τ' := ⟨t.names.map (List.map f), t.angle⟩

@[simp] theorem map_map (f : τ → τ') (g : τ' → τ'') (t : Ticks τ) :
    (t.map f).map g = t.map (g ∘ f) := by
  simp [map, Function.comp_def]

end Ticks

namespace Typed

/-- Replace the names. -/
def map (f : τ → τ') (t : Typed τ) : Typed τ' := ⟨t.x.map f, t.y.map f⟩

@[simp] theorem map_map (f : τ → τ') (g : τ' → τ'') (t : Typed τ) :
    (t.map f).map g = t.map (g ∘ f) := by
  simp [map]

/-- The ticks of both axes as a record. -/
def datum (t : Typed String) : Datum :=
  record (.ofOption namesDatum t.x.names) (.ofOption .int t.x.angle)
    (.ofOption namesDatum t.y.names) (.ofOption .int t.y.angle)

theorem datum_ne_null (t : Typed String) : t.datum ≠ .null := nofun

end Typed

end Titles

namespace Color.Typed

/-- Replace the name. -/
def map (f : τ → τ') : Typed τ → Typed τ'
  | named name => named (f name)
  | rgb r g b => rgb r g b

@[simp] theorem map_map (f : τ → τ') (g : τ' → τ'') (c : Typed τ) :
    (c.map f).map g = c.map (g ∘ f) := by
  cases c <;> rfl

/-- A colour as a colour of any values. -/
def untyped : Typed String → Color
  | named name => .named (.text name)
  | rgb r g b => .rgb (.int r) (.int g) (.int b)

end Color.Typed

/-- A trace as a trace of any expression. -/
def Trace.Typed.untyped : Trace.Typed → Trace
  | heights values => .heights values
  | points values => .points values
  | timeline values => .timeline values
  | candles values => .candles values
  | expression text => .expression (.text text)

namespace Options.Typed

/-- Replace the texts and the bounds. -/
def map (f : τ → τ') (g : ν → ν') (o : Typed τ ν) : Typed τ' ν' where
  output := o.output.map (Output.Typed.map f)
  title := o.title.map f
  grid := o.grid
  fill := o.fill
  range := o.range.map (AxisRange.Typed.map g)
  labels := o.labels.map (Labels.Typed.map f)
  titles := o.titles.map (Titles.Typed.map f)

@[simp] theorem map_map (f : τ → τ') (f' : τ' → τ'') (g : ν → ν') (g' : ν' → ν'')
    (o : Typed τ ν) : (o.map f g).map f' g' = o.map (f' ∘ f) (g' ∘ g) := by
  simp [map, Function.comp_def]

/-- What is left of settings without their texts. -/
def outline (o : Typed τ ν) : Typed Unit ν := o.map (fun _ => ()) id

/-- Settings as settings of any values. -/
def untyped (o : Typed String Datum) : Options where
  output := .ofOption Output.Typed.datum o.output
  title := .ofOption .text o.title
  grid := .ofOption .truth o.grid
  fill := .ofOption Filling.Typed.datum o.fill
  range := .ofOption AxisRange.Typed.datum o.range
  labels := .ofOption Labels.Typed.datum o.labels
  titles := .ofOption Titles.Typed.datum o.titles

/-- Settings whose bounds are doubles. -/
def ofDoubles (o : Typed String Binary64) : Options :=
  untyped { o with range := o.range.map (AxisRange.Typed.map .real) }

/-- The whole numbers that are written of settings. -/
def wholes (o : Typed τ ν) : List Int :=
  (o.fill.bind Filling.Typed.whole?).toList
    ++ (o.titles.bind fun t => t.x.angle).toList ++ (o.titles.bind fun t => t.y.angle).toList

end Options.Typed

namespace Series.Typed

/-- Replace the texts. -/
def map (f : τ → τ') (s : Typed τ) : Typed τ' where
  style := s.style
  trace := s.trace
  title := s.title.map f
  color := s.color.map (Color.Typed.map f)
  weight := s.weight
  fill := s.fill

@[simp] theorem map_map (f : τ → τ') (g : τ' → τ'') (s : Typed τ) :
    (s.map f).map g = s.map (g ∘ f) := by
  simp [map, Function.comp_def]

/-- What is left of a series without its texts. -/
def outline (s : Typed τ) : Typed Unit := s.map fun _ => ()

/-- A series as a series of any values. -/
def untyped (s : Typed String) : Series where
  style := s.style
  trace := s.trace.untyped
  title := .ofOption .text s.title
  color := s.color.map Color.Typed.untyped
  weight := .ofOption .int s.weight
  fill := .ofOption Filling.Typed.datum s.fill

/-- The whole numbers that are written of a series. -/
def wholes (s : Typed τ) : List Int :=
  s.weight.toList ++ (s.fill.bind Filling.Typed.whole?).toList

end Series.Typed

/-! ## How typed settings are written -/

namespace Script

variable {α : Type} {datum : α → Datum} {d : Datum}

/-- A setting that is there is written. -/
theorem line_of_ne_null {write : Datum → Except Failure String} (h : d ≠ .null) :
    line write d = (write d).map fun text => [text] := by
  unfold line
  split
  · exact absurd rfl h
  · rfl

theorem line?_of_ne_null {write : Datum → Except Failure (Option String)} (h : d ≠ .null) :
    line? write d = (write d).map Option.toList := by
  unfold line?
  split
  · exact absurd rfl h
  · rfl

end Script

/-- A named filling is written by its name, a pattern with its index. -/
theorem Filling.writeWith_datum (write : Filling → Except Failure String) (f : Filling.Typed) :
    Filling.writeWith write f.datum = write f.untyped := by
  cases f <;> rfl

theorem AxisRange.directive_datum (r : AxisRange.Typed Datum) :
    AxisRange.directive r.datum = r.untyped.scriptText := by
  cases r <;> rfl

/-- Labels are written axis by axis. -/
theorem Labels.directive?_record (x y : Datum) :
    Labels.directive? (Labels.record x y) = (do
      let x ← Labels.command "x" x
      let y ← Labels.command "y" y
      return Script.commandLine? (x ++ y)) := rfl

/-- Ticks are written axis by axis. -/
theorem Titles.directive?_record (x xrotate y yrotate : Datum) :
    Titles.directive? (Titles.record x xrotate y yrotate) = (do
      let x ← Titles.command "x" x xrotate
      let y ← Titles.command "y" y yrotate
      return Script.commandLine? (x ++ y)) := rfl

/-- Ticks are written where there are names or an angle. -/
theorem Titles.command_ofOption (axis : String) (names : Option (List String))
    (angle : Option Int) :
    Titles.command axis (.ofOption Titles.namesDatum names) (.ofOption .int angle) =
      if names.isNone && angle.isNone then .ok []
      else do
        let names ← Titles.namesPart (.ofOption Titles.namesDatum names)
        let angle ← Titles.anglePart (.ofOption .int angle)
        return ["set " ++ axis ++ "tics" ++ names ++ angle] := by
  cases names <;> cases angle <;> rfl

/-- What the clause of a trace says about its source. -/
def Trace.Typed.source : Trace.Typed → String
  | heights _ => "'-' using 1"
  | points _ | timeline _ => "'-' using 1:2"
  | candles _ => "'-' using 1:2:3:4:5"
  | expression text => text

theorem Trace.Typed.source_untyped (t : Trace.Typed) : t.untyped.source = .ok (.text t.source) := by
  cases t <;> rfl

theorem Trace.Typed.eq_expression_of_untyped {t : Trace.Typed} {text : String}
    (h : t.untyped = .expression (.text text)) : t = .expression text := by
  cases t with
  | expression text' =>
    cases h
    rfl
  | _ => cases h

/-- A whole number that is written of a series is its weight or the index
of its pattern. -/
theorem Series.Typed.eq_of_mem_wholes {i : Int} (s : Series.Typed String) (h : i ∈ s.wholes) :
    s.untyped.weight = .int i ∨ s.untyped.fill = (Filling.pattern (.int i)).toDatum := by
  rcases List.mem_append.1 h with h | h
  · left
    rw [untyped, Option.mem_toList.1 h]
    rfl
  · right
    obtain ⟨fill, hfill, hwhole⟩ := Option.bind_eq_some_iff.1 (Option.mem_toList.1 h)
    cases fill with
    | solid => cases hwhole
    | pattern index =>
      cases hwhole
      rw [untyped, hfill]
      rfl

/-- The clause of a typed series has a text for its first word. -/
theorem Series.Typed.clause_untyped (s : Series.Typed String) :
    s.untyped.clause = (do
      let title ← Series.titlePart s.untyped.title
      let weight ← Script.line (fun weight => weight.written.map fun text => "lw " ++ text)
        s.untyped.weight
      let color ← Series.colorPart s.untyped.color
      let fill ← Script.line Filling.clause s.untyped.fill
      return " ".intercalate
        ([s.trace.source, "with " ++ s.style.scriptText, title] ++ weight ++ color ++ fill)) := by
  have hsource : s.untyped.trace.source = .ok (.text s.trace.source) := s.trace.source_untyped
  rw [Series.clause, hsource]
  rfl

/-! ## Typed settings are declared -/

theorem Datum.isText_ofOption (o : Option String) : (Datum.ofOption .text o).IsText := by
  cases o with
  | none => exact .inl rfl
  | some s => exact .inr ⟨s, rfl⟩

theorem Datum.isWhole_ofOption (o : Option Int) : (Datum.ofOption .int o).IsWhole := by
  cases o with
  | none => exact .inl rfl
  | some i => exact .inr ⟨i, rfl⟩

theorem Titles.isTexts_ofOption (o : Option (List String)) :
    (Datum.ofOption Titles.namesDatum o).IsTexts := by
  cases o with
  | none => exact .inl rfl
  | some names => exact .inr ⟨names, .inr rfl⟩

/-- A filling that may be missing is missing or a record with a whole
number. -/
theorem Filling.Typed.declared (o : Option Filling.Typed) :
    Datum.ofOption datum o = .null ∨ ∃ filling, Datum.ofOption datum o = Filling.toDatum filling ∧
      ∀ index, filling = .pattern index → index.IsWhole := by
  cases o with
  | none => exact .inl rfl
  | some f =>
    refine .inr ⟨f.untyped, rfl, fun index hindex => ?_⟩
    cases f with
    | solid => cases hindex
    | pattern i => exact .inr ⟨i, (Filling.pattern.inj hindex).symm⟩

/-- **Typed settings are declared ones.** -/
theorem Options.Typed.declared (o : Options.Typed String Datum) : o.untyped.Declared where
  output := by
    cases houtput : o.output with
    | none => exact .inl (by simp [untyped, houtput, Datum.ofOption])
    | some output =>
      refine .inr ⟨output.terminal.untyped, .ofOption .text output.font, ?_,
        Datum.isText_ofOption _, fun path hpath => ?_⟩
      · simp [untyped, houtput, Datum.ofOption, Output.Typed.datum]
      · rcases hterminal : output.terminal with _ | _ | _ | p | p <;>
          simp only [hterminal, Terminal.Typed.untyped, reduceCtorEq, Terminal.png.injEq,
            Terminal.eps.injEq, or_false, false_or] at hpath
        · exact .inr ⟨p, hpath.symm⟩
        · exact .inr ⟨p, hpath.symm⟩
  title := Datum.isText_ofOption _
  fill := Filling.Typed.declared _
  labels := by
    cases hlabels : o.labels with
    | none => exact .inl (by simp [untyped, hlabels, Datum.ofOption])
    | some labels =>
      refine .inr ⟨_, _, ?_, Datum.isText_ofOption labels.x, Datum.isText_ofOption labels.y⟩
      simp [untyped, hlabels, Datum.ofOption, Labels.Typed.datum]
  titles := by
    cases htitles : o.titles with
    | none => exact .inl (by simp [untyped, htitles, Datum.ofOption])
    | some titles =>
      refine .inr ⟨_, _, _, _, ?_, Titles.isTexts_ofOption titles.x.names,
        Datum.isWhole_ofOption titles.x.angle, Titles.isTexts_ofOption titles.y.names,
        Datum.isWhole_ofOption titles.y.angle⟩
      simp [untyped, htitles, Datum.ofOption, Titles.Typed.datum]

/-- A typed series is a declared one. -/
theorem Series.Typed.declared (s : Series.Typed String) : s.untyped.Declared where
  expression value hvalue := by
    cases htrace : s.trace with
    | expression text =>
      rw [untyped, htrace] at hvalue
      exact .inr ⟨text, (Trace.expression.inj hvalue).symm⟩
    | _ => simp [untyped, htrace, Trace.Typed.untyped] at hvalue
  title := Datum.isText_ofOption _
  color name hname := by
    cases hcolor : s.color with
    | none => simp [untyped, hcolor] at hname
    | some c =>
      cases c with
      | named text =>
        exact .inr ⟨text, by simpa [untyped, hcolor, Color.Typed.untyped] using hname.symm⟩
      | rgb r g b => simp [untyped, hcolor, Color.Typed.untyped] at hname
  weight := Datum.isWhole_ofOption _
  fill := Filling.Typed.declared _

/-! ## What the constructors make -/

/-- A styling of the types that it is declared to have. A colour may also
be the name of one or a sequence of components; where it is a colour
already, it is a typed one. -/
structure Styling.Declared (s : Styling) : Prop where
  title : ∃ o : Option String, s.title = .ofOption .text o
  color : ∀ color, Color.ofRecord? s.color = some color →
    ∃ c : Color.Typed String, color = c.untyped
  weight : ∃ o : Option Int, s.weight = .ofOption .int o
  fill : ∃ o : Option Filling.Typed, s.fill = .ofOption Filling.Typed.datum o

/-- **A series that was made of data or of an expression** with a
declared styling. -/
inductive Series.Built : Series → Prop where
  | data {style : PlotStyle} {layout : Layout} {d : Datum} {styling : Styling} {s : Series} :
      styling.Declared → Series.ofData style layout d styling = .ok s → Built s
  | expression {style : PlotStyle} {text : String} {styling : Styling} {s : Series} :
      styling.Declared → Script.OnOneLine text →
      Series.ofExpression style (.text text) styling = .ok s → Built s

namespace Color

variable {d : Datum} {color : Color}

/-- A colour from components has whole numbers for them. -/
theorem exists_typed_of_ofComponents (h : ofComponents d = .ok color) :
    ∃ c : Typed String, color = c.untyped := by
  unfold ofComponents at h
  obtain ⟨length, -, h⟩ := bind_eq_ok.1 h
  -- Values of another length have no components to look at.
  split at h
  all_goals
    obtain ⟨components, -, h⟩ := bind_eq_ok.1 h
    dsimp only at h
    split at h
    · obtain ⟨r, -, h⟩ := bind_eq_ok.1 h
      obtain ⟨g, -, h⟩ := bind_eq_ok.1 h
      obtain ⟨b, -, h⟩ := bind_eq_ok.1 h
      exact ⟨.rgb r g b, (pure_eq_ok.1 h).symm⟩
    · cases h

/-- A colour that was read is typed. -/
theorem exists_typed_of_ofDatum
    (hrecord : ∀ color, ofRecord? d = some color → ∃ c : Typed String, color = c.untyped)
    (h : ofDatum d = .ok color) : ∃ c : Typed String, color = c.untyped := by
  unfold ofDatum at h
  split at h
  · rename_i found hfound
    cases h
    exact hrecord _ hfound
  · split at h
    · rename_i s _
      split at h
      · exact ⟨.named (lookupForm s), (Except.ok.inj h).symm⟩
      · cases h
    · exact exists_typed_of_ofComponents h

end Color

namespace Series

variable {style : PlotStyle} {s : Series} {styling : Styling}

/-- A trace keeps its styling, with a typed colour for one that is
there. -/
theorem exists_color_of_ofTrace {trace : Trace}
    (hcolor : ∀ color, Color.ofRecord? styling.color = some color →
      ∃ c : Color.Typed String, color = c.untyped)
    (h : ofTrace style trace styling = .ok s) :
    ∃ c : Option (Color.Typed String), s = {
      style, trace, title := styling.title, color := c.map Color.Typed.untyped,
      weight := styling.weight, fill := styling.fill } := by
  unfold ofTrace at h
  split at h
  · exact ⟨none, (pure_eq_ok.1 h).symm⟩
  · obtain ⟨color, hread, h⟩ := bind_eq_ok.1 h
    obtain ⟨found, hfound, rfl⟩ := map_eq_ok.1 hread
    obtain ⟨c, rfl⟩ := Color.exists_typed_of_ofDatum hcolor hfound
    exact ⟨some c, (pure_eq_ok.1 h).symm⟩

/-- A trace with a declared styling is a typed series. -/
theorem exists_typed_of_ofTrace (hstyling : styling.Declared) (trace : Trace.Typed)
    (h : ofTrace style trace.untyped styling = .ok s) :
    ∃ t : Typed String, t.trace = trace ∧ s = t.untyped := by
  obtain ⟨title, htitle⟩ := hstyling.title
  obtain ⟨weight, hweight⟩ := hstyling.weight
  obtain ⟨fill, hfill⟩ := hstyling.fill
  obtain ⟨c, rfl⟩ := exists_color_of_ofTrace hstyling.color h
  refine ⟨⟨style, trace, title, c, weight, fill⟩, rfl, ?_⟩
  rw [htitle, hweight, hfill]
  rfl

/-- Data are read as a typed trace that is no expression. -/
theorem exists_typed_of_read {layout : Layout} {d : Datum} {trace : Trace}
    (h : Trace.read layout d = .ok trace) :
    ∃ t : Trace.Typed, trace = t.untyped ∧ ∀ text, t ≠ .expression text := by
  cases layout with
  | heights =>
    obtain ⟨values, -, rfl⟩ := map_eq_ok.1 h
    exact ⟨.heights values, rfl, nofun⟩
  | points =>
    obtain ⟨values, -, rfl⟩ := map_eq_ok.1 h
    exact ⟨.points values, rfl, nofun⟩
  | timeline =>
    obtain ⟨values, -, rfl⟩ := map_eq_ok.1 h
    exact ⟨.timeline values, rfl, nofun⟩
  | candles =>
    obtain ⟨values, -, rfl⟩ := map_eq_ok.1 h
    exact ⟨.candles values, rfl, nofun⟩

/-- **A series that was made is typed**, and its expression stays on its
line. -/
theorem Built.exists_typed (h : s.Built) :
    ∃ t : Typed String, s = t.untyped ∧
      ∀ text, t.trace = .expression text → Script.OnOneLine text := by
  cases h with
  | data hstyling hs =>
    obtain ⟨trace, htrace, hs⟩ := bind_eq_ok.1 hs
    obtain ⟨t, rfl, ht⟩ := exists_typed_of_read htrace
    obtain ⟨typed, rfl, rfl⟩ := exists_typed_of_ofTrace hstyling t hs
    exact ⟨typed, rfl, fun text htext => absurd htext (ht text)⟩
  | expression hstyling hline hs =>
    obtain ⟨typed, htrace, rfl⟩ := exists_typed_of_ofTrace hstyling (.expression _) hs
    refine ⟨typed, rfl, fun text htext => ?_⟩
    rw [htrace] at htext
    cases htext
    exact hline

theorem exists_typed_of_forall_built {series : List Series} (h : ∀ s ∈ series, s.Built) :
    ∃ typed : List (Typed String), series = typed.map Typed.untyped ∧
      ∀ t ∈ typed, ∀ text, t.trace = .expression text → Script.OnOneLine text := by
  induction series with
  | nil => exact ⟨[], rfl, by simp⟩
  | cons s rest ih =>
    obtain ⟨t, rfl, ht⟩ := (h s List.mem_cons_self).exists_typed
    obtain ⟨typed, rfl, htyped⟩ := ih fun s hs => h s (List.mem_cons_of_mem _ hs)
    refine ⟨t :: typed, rfl, fun t' ht' => ?_⟩
    rcases List.mem_cons.1 ht' with rfl | ht'
    · exact ht
    · exact htyped t' ht'

end Series

end PlotPipe
