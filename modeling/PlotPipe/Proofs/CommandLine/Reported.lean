import PlotPipe.Proofs.CommandLine.DataFile
import PlotPipe.Proofs.Config.Settings
import PlotPipe.Proofs.Script.Ranges
import PlotPipe.Proofs.Session.Rejection
/-!
# Command line — what is reported

The command line reports failures of some kinds and leaves the others to
whoever asked for the run. A computation is `Unreported` when it fails in
one of the other ways. Part by part, most of what an invocation is made
of never does; what is left are a delimiter that no table can be cut at,
a packed file whose unpacking breaks off in such a way, and a
configuration that is nested too deep (`unreported_plan_iff`). In all
other cases a dry run shows its whole script or reports one failure.
-/

namespace PlotPipe

/-- A computation fails in a way that the command line does not report. -/
def Unreported {α : Type} (x : Except Failure α) : Prop :=
  ∃ f, x = .error f ∧ f.kind.isReported = false

section Unreported

variable {α β : Type} {x : Except Failure α} {f : Failure}

theorem not_unreported_ok (a : α) : ¬ Unreported (.ok a : Except Failure α) := nofun

theorem unreported_error : Unreported (.error f : Except Failure α) ↔ f.kind.isReported = false :=
  failsWith_error

theorem not_unreported_error (h : f.kind.isReported = true) :
    ¬ Unreported (.error f : Except Failure α) := by
  simp [unreported_error, h]

/-- One computation after another is unreported when the first one is, or
the second one after it. -/
theorem unreported_bind {g : α → Except Failure β} :
    Unreported (x >>= g) ↔ Unreported x ∨ ∃ a, x = .ok a ∧ Unreported (g a) :=
  failsWith_bind

theorem unreported_map {g : α → β} : Unreported (x.map g) ↔ Unreported x := failsWith_map

end Unreported

/-! ## Files -/

namespace Workspace

variable {w : Workspace} {p : Path} {content : ByteArray}

theorem isReported_pathFlaw (flaw : PathFlaw) (p : Path) :
    (flaw.failure p).kind.isReported = true := by
  cases flaw <;> rfl

theorem not_unreported_read : ¬ Unreported (w.read p) := by
  unfold read
  split
  · exact not_unreported_ok _
  all_goals exact not_unreported_error (isReported_pathFlaw _ p)

theorem not_unreported_exists? : ¬ Unreported (w.exists? p) := by
  unfold exists?
  split
  · exact not_unreported_error (isReported_pathFlaw _ p)
  · exact not_unreported_ok _

theorem not_unreported_decode : ¬ Unreported (decode content) := by
  unfold decode
  split
  · exact not_unreported_ok _
  · exact not_unreported_error rfl

/-- What can be read is there. -/
theorem exists?_of_read (h : w.read p = .ok content) : w.exists? p = .ok true := by
  unfold read at h
  unfold exists? has
  split at h
  · rename_i hlook
    rw [hlook]
  all_goals cases h

end Workspace

/-! ## Data files -/

namespace Table

variable {w : Workspace} {path : Path} {delimiter : Option String}

/-- A delimiter that no table can be cut at: it is not one character, or
the character has another use. -/
def Unusable (delimiter : String) : Prop :=
  ∀ c, delimiter.toList = [c] → c = commentMark ∨ c = '\n' ∨ c = '\r'

theorem not_unreported_address (s : String) : ¬ Unreported (Address.ofText s) := by
  unfold Address.ofText
  dsimp only
  split
  · exact not_unreported_error rfl
  · exact not_unreported_ok _

theorem not_unreported_fetch : ¬ Unreported (fetch w path) := by
  have hfind : ¬ Unreported (find? w path) := by
    rw [find?, unreported_bind]
    rintro (h | ⟨_, -, h⟩)
    · exact not_unreported_address _ h
    · exact not_unreported_ok _ h
  rw [fetch, unreported_bind]
  rintro (h | ⟨found, -, h⟩)
  · exact hfind h
  · cases found with
    | none => exact not_unreported_error rfl h
    | some found =>
      rcases unreported_bind.1 h with h | ⟨_, -, h⟩
      · exact Workspace.not_unreported_read h
      · exact not_unreported_ok _ h

/-- A delimiter gives a separator, or nothing that is reported. -/
theorem ofDelimiter_cases (delimiter : Option String) :
    (∀ d ∈ delimiter, ¬ Unusable d) ∧
        (∃ separator, Separator.ofDelimiter delimiter = .ok separator) ∨
      (∃ d ∈ delimiter, Unusable d) ∧ Unreported (Separator.ofDelimiter delimiter) := by
  cases delimiter with
  | none => exact .inl ⟨nofun, _, rfl⟩
  | some d =>
    simp only [Option.mem_some_iff, forall_eq', exists_eq_left', Separator.ofDelimiter]
    split
    · rename_i c hc
      simp only [Unusable, hc, List.cons.injEq, and_true, forall_eq']
      split
      · rename_i hcomment
        exact .inr ⟨.inl hcomment, unreported_error.2 rfl⟩
      · rename_i hcomment
        split
        · rename_i hend
          exact .inr ⟨.inr hend, unreported_error.2 rfl⟩
        · rename_i hend
          exact .inl ⟨not_or.2 ⟨hcomment, hend⟩, _, rfl⟩
    · rename_i hother
      exact .inr ⟨fun c hc => absurd hc (hother c), unreported_error.2 rfl⟩

theorem not_unreported_numbers (row column : ℕ) (cells : List (List Char)) :
    ¬ Unreported (numbers row column cells) := by
  induction cells generalizing column with
  | nil => exact not_unreported_ok _
  | cons cell rest ih =>
    rw [numbers]
    split
    · rw [unreported_map]
      exact ih (column + 1)
    · exact not_unreported_error rfl

theorem not_unreported_rowsFrom (row width : ℕ) (lines : List (List (List Char))) :
    ¬ Unreported (rowsFrom row width lines) := by
  induction lines generalizing row with
  | nil => exact not_unreported_ok _
  | cons cells rest ih =>
    rw [rowsFrom]
    split
    · exact not_unreported_error rfl
    · intro h
      rcases unreported_bind.1 h with h | ⟨xs, -, h⟩
      · exact not_unreported_numbers _ _ _ h
      rcases unreported_bind.1 h with h | ⟨others, -, h⟩
      · exact ih _ h
      · exact not_unreported_ok _ h

theorem not_unreported_ofText (separator : Separator) (s : String) :
    ¬ Unreported (ofText separator s) := by
  unfold ofText
  dsimp only
  split
  · exact not_unreported_ok _
  · intro h
    rcases unreported_bind.1 h with h | ⟨rows, -, h⟩
    · exact not_unreported_rowsFrom _ _ _ h
    · exact not_unreported_ok _ h

/-- **What is not reported of a data file**: a delimiter that no table can
be cut at, or a packed file whose unpacking breaks off in one of the other
ways, behind rows in order. -/
inductive Breaks (w : Workspace) (path : Path) (delimiter : Option String) : Prop
  | delimiter {found : ByteArray × Option Packing} {d : String} :
      fetch w path = .ok found → delimiter = some d → Unusable d → Breaks w path delimiter
  | packing {content : ByteArray} {packing : Packing} {separator : Separator} {text : String}
      {t : Table} {f : Failure} :
      fetch w path = .ok (content, some packing) → Separator.ofDelimiter delimiter = .ok separator →
      Workspace.decode (w.machine.unpack packing content).content = .ok text →
      ofText separator text = .ok t → (w.machine.unpack packing content).failure = some f →
      f.kind.isReported = false → Breaks w path delimiter

/-- What comes out of a file is read, or the command line reports why not,
unless it breaks off in another way behind rows in order. -/
theorem unreported_ofUnpacked_iff {separator : Separator} {u : Unpacked} :
    Unreported (ofUnpacked separator u) ↔ ∃ text t f, Workspace.decode u.content = .ok text ∧
      ofText separator text = .ok t ∧ u.failure = some f ∧ f.kind.isReported = false := by
  rw [ofUnpacked, unreported_bind, or_iff_right Workspace.not_unreported_decode]
  refine exists_congr fun text => ?_
  rw [unreported_bind, or_iff_right (not_unreported_ofText separator text)]
  cases u.failure with
  | none => simp [not_unreported_ok, pure, Except.pure]
  | some failure => simp [throw, throwThe, MonadExceptOf.throw, unreported_error]

/-- **A data file is read, or the command line reports why not**, unless
it breaks the reading. -/
theorem unreported_load_iff : Unreported (load w path delimiter) ↔ Breaks w path delimiter := by
  rw [load, unreported_bind, or_iff_right not_unreported_fetch]
  rcases ofDelimiter_cases delimiter with
    ⟨husable, separator, hseparator⟩ | ⟨⟨d, hd, hunusable⟩, hseparator⟩
  · rw [hseparator]
    constructor
    · rintro ⟨⟨content, packing⟩, hfetch, h⟩
      obtain ⟨text, t, f, htext, ht, hf, hkind⟩ := unreported_ofUnpacked_iff.1 h
      -- A file that is not packed has no failure.
      cases packing with
      | none => cases hf
      | some packing => exact .packing hfetch hseparator htext ht hf hkind
    · rintro (⟨-, hd, hunusable⟩ | ⟨hfetch, hseparator', htext, ht, hf, hkind⟩)
      · exact absurd hunusable (husable _ hd)
      · obtain rfl := Except.ok.inj (hseparator.symm.trans hseparator')
        exact ⟨_, hfetch, unreported_ofUnpacked_iff.2 ⟨_, _, _, htext, ht, hf, hkind⟩⟩
  · constructor
    · rintro ⟨found, hfetch, -⟩
      exact .delimiter hfetch hd hunusable
    · rintro (⟨hfetch, -, -⟩ | ⟨-, hseparator', -⟩)
      · exact ⟨_, hfetch, unreported_bind.2 (.inl hseparator)⟩
      · rw [hseparator'] at hseparator
        exact absurd hseparator (not_unreported_ok _)

end Table

/-! ## Configurations -/

/-- A document is nested deeper than is read. -/
def Toml.TooDeep (levels : Nat) (s : String) : Prop :=
  Toml.read levels s = .error (.nestedTooDeep none)

theorem Toml.unreported_read_iff {levels : Nat} {s : String} :
    Unreported (Toml.read levels s) ↔ Toml.TooDeep levels s := by
  unfold Toml.TooDeep Toml.read
  dsimp only
  split
  · exact iff_of_false (not_unreported_ok _) nofun
  · exact iff_of_false (not_unreported_error rfl) nofun
  · exact iff_of_false (not_unreported_error rfl) nofun
  · exact iff_of_true (unreported_error.2 rfl) rfl

namespace SessionConfig

theorem not_unreported_parse (values : List (String × Datum)) : ¬ Unreported (parse values) := by
  rintro ⟨failure, h, hkind⟩
  obtain ⟨fault, rfl⟩ := exists_fault_of_parse_eq_error h
  cases hkind

/-- **A configuration is read, or the command line reports why not**,
unless it is nested too deep. -/
theorem unreported_load_iff {w : Workspace} {path : Path} : Unreported (load w path) ↔
    ∃ content s, w.read path = .ok content ∧ Workspace.decode content = .ok s ∧
      Toml.TooDeep (w.machine.documentLevels s) s := by
  have hbytes : ∀ content, Unreported (ofBytes w.machine content) ↔
      ∃ s, Workspace.decode content = .ok s ∧ Toml.TooDeep (w.machine.documentLevels s) s := by
    intro content
    rw [ofBytes, unreported_bind, or_iff_right Workspace.not_unreported_decode]
    simp only [unreported_bind, not_unreported_parse, and_false, exists_false, or_false,
      Toml.unreported_read_iff]
  rw [load, unreported_bind, or_iff_right Workspace.not_unreported_exists?]
  constructor
  · rintro ⟨found, -, h⟩
    cases found with
    | false => exact absurd h (not_unreported_error rfl)
    | true =>
      obtain ⟨content, hread, h⟩ := (unreported_bind.1 h).resolve_left Workspace.not_unreported_read
      obtain ⟨s, hs⟩ := (hbytes content).1 h
      exact ⟨content, s, hread, hs⟩
  · rintro ⟨content, s, hread, hs⟩
    exact ⟨true, Workspace.exists?_of_read hread,
      unreported_bind.2 (.inr ⟨content, hread, (hbytes content).2 ⟨s, hs⟩⟩)⟩

end SessionConfig

/-! ## Strict checks -/

/-- A series that asks for no weight, no colour and no filling. -/
structure Series.Typed.Plain (s : Series.Typed String) : Prop where
  weight : s.weight = none
  color : s.color = none
  fill : s.fill = none

namespace Series.Typed.Plain

variable {s : Series.Typed String}

/-- There is nothing for the strict check to turn down. -/
theorem check_untyped (h : s.Plain) : s.untyped.check = .ok () := by
  rw [Series.check, Series.Typed.untyped, h.weight, h.color, h.fill]
  rfl

end Series.Typed.Plain

theorem Table.plain_of_mem_typedSeries {t : Table} {style : PlotStyle} {name : String}
    {s : Series.Typed String} (h : s ∈ t.typedSeries style name) : s.Plain := by
  unfold typedSeries at h
  split at h
  · rw [List.mem_singleton.1 h]
    exact ⟨rfl, rfl, rfl⟩
  · obtain ⟨n, -, rfl⟩ := List.mem_map.1 h
    exact ⟨rfl, rfl, rfl⟩

/-- Bounds that are doubles pass the check or are turned down by name. -/
theorem AxisRange.not_unreported_checkBounds (name : String) (lo hi : Binary64) :
    ¬ Unreported (checkBounds name (.real lo) (.real hi)) := by
  have hjudged : Bound.Judged (.real lo) (.real hi) (checkBounds name (.real lo) (.real hi)) :=
    Bound.judged_checkBounds name (.real lo) (.real hi)
  generalize checkBounds name (.real lo) (.real hi) = outcome at hjudged ⊢
  cases hjudged with
  | breaks hbreaks => exact absurd hbreaks (Bound.not_breaks_real lo hi)
  | rejects _ _ hkind => exact not_unreported_error (by rw [hkind]; rfl)
  | passes => exact not_unreported_ok _

theorem AxisRange.not_unreported_check (range : Typed Binary64) :
    ¬ Unreported (range.map .real).untyped.check := by
  cases range with
  | x lo hi => exact not_unreported_checkBounds "range" lo hi
  | y lo hi => exact not_unreported_checkBounds "range" lo hi
  | xy xlo xhi ylo yhi =>
    intro h
    rcases unreported_bind.1 h with h | ⟨_, -, h⟩
    · exact not_unreported_checkBounds "xrange" xlo xhi h
    · exact not_unreported_checkBounds "yrange" ylo yhi h

theorem Options.Typed.not_unreported_check {o : Options.Typed String Binary64}
    (hfill : o.fill = none) : ¬ Unreported o.ofDoubles.check := by
  have hrange : ∀ r : AxisRange.Typed Binary64, (r.map .real).datum.whenAsked AxisRange.checkDatum =
      (r.map .real).untyped.check := by
    intro r
    cases r <;> rfl
  rw [Options.check, unreported_bind]
  rintro (h | ⟨_, -, h⟩)
  · rw [ofDoubles, untyped, hfill] at h
    exact not_unreported_ok _ h
  · rw [ofDoubles, untyped] at h
    dsimp only at h
    cases hr : o.range with
    | none =>
      rw [hr] at h
      exact not_unreported_ok _ h
    | some r =>
      rw [hr] at h
      exact AxisRange.not_unreported_check r (hrange r ▸ h)

/-! ## Plans -/

namespace CommandLine

theorem not_unreported_span (name value : String) : ¬ Unreported (span name value) := by
  unfold span
  split
  · exact not_unreported_error rfl
  · split
    · exact not_unreported_ok _
    · exact not_unreported_error rfl

theorem not_unreported_span? (name : String) (value : Option String) :
    ¬ Unreported (span? name value) := by
  cases value with
  | none => exact not_unreported_ok _
  | some value =>
    rw [span?, unreported_map]
    exact not_unreported_span name value

theorem mem_of_lookup {α β : Type} [BEq α] [LawfulBEq α] {entries : List (α × β)} {key : α}
    {value : β} (h : entries.lookup key = some value) : (key, value) ∈ entries := by
  obtain ⟨before, after, rfl, -⟩ := List.lookup_eq_some_iff.1 h
  simp

/-- A name is that of a window, or the command line reports that it is
none. -/
theorem ofName_cases (literal name : String) :
    (∃ t : Terminal.Typed String, Terminal.ofName literal name = .ok t.untyped) ∨
      ∃ f, Terminal.ofName literal name = .error f ∧ f.kind.isReported = true := by
  unfold Terminal.ofName
  split
  · rename_i terminal hlookup
    have hmem := mem_of_lookup hlookup
    simp only [Terminal.windows, List.mem_cons, Prod.mk.injEq, List.not_mem_nil, or_false] at hmem
    rcases hmem with ⟨-, rfl⟩ | ⟨-, rfl⟩ | ⟨-, rfl⟩
    · exact .inl ⟨.wxt, rfl⟩
    · exact .inl ⟨.x11, rfl⟩
    · exact .inl ⟨.qt, rfl⟩
  · exact .inr ⟨_, rfl, rfl⟩

/-- An argument describes a terminal with a path that is a text, or the
command line reports why not. -/
theorem terminalOfArgument_cases (value : String) :
    (∃ t : Terminal.Typed String, Output.terminalOfArgument value = .ok t.untyped) ∨
      ∃ f, Output.terminalOfArgument value = .error f ∧ f.kind.isReported = true := by
  unfold Output.terminalOfArgument
  split
  rename_i kind path _
  dsimp only
  split
  · rename_i terminal hlookup
    split
    · exact .inr ⟨_, rfl, rfl⟩
    · have hmem := mem_of_lookup hlookup
      simp only [Output.fileTerminals, List.mem_cons, Prod.mk.injEq, List.not_mem_nil,
        or_false] at hmem
      rcases hmem with ⟨-, rfl⟩ | ⟨-, rfl⟩
      · exact .inl ⟨.png path, rfl⟩
      · exact .inl ⟨.eps path, rfl⟩
  · exact ofName_cases _ _

namespace Invocation

variable {i : Invocation} {w : Workspace}

theorem not_unreported_options : ¬ Unreported i.options := by
  have hterminal : ¬ Unreported (Output.terminalOfArgument i.output) := by
    rcases terminalOfArgument_cases i.output with ⟨t, h⟩ | ⟨f, h, hf⟩ <;> rw [h]
    · exact not_unreported_ok _
    · exact not_unreported_error hf
  simp [options, Output.ofArgument, unreported_bind, unreported_map, not_unreported_span?,
    hterminal, not_unreported_ok, pure, Except.pure]

/-- The settings of an invocation are typed, and ask for no filling. -/
theorem exists_typed_of_options {o : Options} (h : i.options = .ok o) :
    ∃ typed : Options.Typed String Binary64,
      o = typed.ofDoubles ∧ typed.fill = none := by
  obtain ⟨output, houtput, h⟩ := bind_eq_ok.1 h
  obtain ⟨xs, -, h⟩ := bind_eq_ok.1 h
  obtain ⟨ys, -, h⟩ := bind_eq_ok.1 h
  obtain ⟨terminal, hterminal, rfl⟩ := map_eq_ok.1 houtput
  obtain ⟨t, rfl⟩ : ∃ t : Terminal.Typed String, terminal = t.untyped := by
    rcases terminalOfArgument_cases i.output with ⟨t, ht⟩ | ⟨f, hf, -⟩
    · exact ⟨t, Except.ok.inj (hterminal.symm.trans ht)⟩
    · cases hterminal.symm.trans hf
  obtain ⟨range, hrange⟩ : ∃ range : Option (AxisRange.Typed Binary64),
      Datum.ofOption AxisRange.toDatum (rangeOf xs ys) =
        .ofOption AxisRange.Typed.datum (range.map (AxisRange.Typed.map .real)) := by
    rcases xs with _ | ⟨xlo, xhi⟩ <;> rcases ys with _ | ⟨ylo, yhi⟩
    · exact ⟨none, rfl⟩
    · exact ⟨some (.y ylo yhi), rfl⟩
    · exact ⟨some (.x xlo xhi), rfl⟩
    · exact ⟨some (.xy xlo xhi ylo yhi), rfl⟩
  obtain ⟨labels, hlabels⟩ : ∃ labels : Option (Labels.Typed String),
      labelsOf i.xlabel i.ylabel = .ofOption Labels.Typed.datum labels := by
    rcases i.xlabel with _ | x <;> rcases i.ylabel with _ | y
    · exact ⟨none, rfl⟩
    all_goals exact ⟨some ⟨_, _⟩, rfl⟩
  let grid : Option Bool := if i.grid then some true else none
  refine ⟨{ output := some ⟨t, i.font⟩, title := i.title, grid, range, labels }, ?_, rfl⟩
  rw [← pure_eq_ok.1 h, hrange, hlabels]
  dsimp only [grid]
  cases i.grid <;> rfl

/-- The series of an invocation are typed, and have no appearance of
their own. -/
theorem exists_typed_of_series {series : List Series} (h : i.series w = .ok series) :
    ∃ typed : List (Series.Typed String),
      series = typed.map Series.Typed.untyped ∧ ∀ s ∈ typed, s.Plain := by
  unfold Invocation.series at h
  split at h
  · rename_i texts _
    split at h
    · cases h
    · obtain rfl := pure_eq_ok.1 h
      let typed (text : String) : Series.Typed String :=
        { style := i.style, trace := .expression text, title := some text }
      have huntyped : (texts.map typed).map Series.Typed.untyped = texts.map fun text =>
          { style := i.style, trace := .expression (.text text), title := .text text } := by
        rw [List.map_map]
        rfl
      refine ⟨texts.map typed, huntyped.symm, fun s hs => ?_⟩
      obtain ⟨text, -, rfl⟩ := List.mem_map.1 hs
      exact ⟨rfl, rfl, rfl⟩
  · rename_i path delimiter _
    obtain ⟨t, -, h⟩ := bind_eq_ok.1 h
    split at h
    · cases h
    · obtain rfl := pure_eq_ok.1 h
      exact ⟨t.typedSeries i.style path.name, Table.untyped_typedSeries.symm,
        fun s hs => Table.plain_of_mem_typedSeries hs⟩

theorem unreported_series_iff : Unreported (i.series w) ↔
    ∃ path delimiter, i.source = .file path delimiter ∧ Table.Breaks w path delimiter := by
  unfold Invocation.series
  split
  · rename_i texts hsource
    refine iff_of_false ?_ (by simp [hsource])
    split
    · exact not_unreported_error rfl
    · exact not_unreported_ok _
  · rename_i path delimiter hsource
    have hrows : ∀ t : Table, ¬ Unreported (do
        if t.rows.isEmpty then throw (.table (.noRows path.text))
        return t.series i.style path.name : Except Failure (List Series)) := by
      intro t
      split
      · exact not_unreported_error rfl
      · exact not_unreported_ok _
    rw [unreported_bind, Table.unreported_load_iff, or_iff_left fun ⟨t, _, h⟩ => hrows t h]
    simp [hsource]

theorem unreported_sessionConfig_iff : Unreported (i.sessionConfig w) ↔
    ∃ path ∈ i.config, Unreported (SessionConfig.load w path) := by
  unfold Invocation.sessionConfig
  cases i.config with
  | none => exact iff_of_false (not_unreported_ok _) (by simp)
  | some path =>
    simp only [Option.mem_some_iff, exists_eq_left']
    rw [unreported_bind]
    exact or_iff_left fun ⟨_, _, h⟩ => not_unreported_ok _ h

/-- **What an invocation leaves to others**: a data file that breaks the
reading, or, behind series and settings in order, a configuration that is
nested too deep. -/
inductive Escapes (i : Invocation) (w : Workspace) : Prop
  | table {path : Path} {delimiter : Option String} :
      i.source = .file path delimiter → Table.Breaks w path delimiter → Escapes i w
  | config {series : List Series} {options : Options} {path : Path} {content : ByteArray}
      {s : String} :
      i.series w = .ok series → i.options = .ok options → i.config = some path →
      w.read path = .ok content → Workspace.decode content = .ok s →
      Toml.TooDeep (w.machine.documentLevels s) s → Escapes i w

/-- **A plan is made, or the command line reports why not**, unless the
invocation escapes. -/
theorem unreported_plan_iff : Unreported (i.plan w) ↔ i.Escapes w := by
  rw [plan, unreported_bind, unreported_series_iff]
  constructor
  · rintro (⟨path, delimiter, hsource, h⟩ | ⟨series, hseries, h⟩)
    · exact .table hsource h
    obtain ⟨options, hoptions, h⟩ := (unreported_bind.1 h).resolve_left not_unreported_options
    rcases unreported_bind.1 h with h | ⟨_, -, h⟩
    · obtain ⟨path, hpath, h⟩ := unreported_sessionConfig_iff.1 h
      obtain ⟨content, s, hread, hdecode, hdeep⟩ := SessionConfig.unreported_load_iff.1 h
      exact .config hseries hoptions hpath hread hdecode hdeep
    · exact absurd h (not_unreported_ok _)
  · rintro (⟨hsource, h⟩ | ⟨hseries, hoptions, hpath, hread, hdecode, hdeep⟩)
    · exact .inl ⟨_, _, hsource, h⟩
    · have hload := SessionConfig.unreported_load_iff.2 ⟨_, _, hread, hdecode, hdeep⟩
      have hconfig := unreported_sessionConfig_iff.2 ⟨_, hpath, hload⟩
      exact .inr ⟨_, hseries, unreported_bind.2 (.inr ⟨_, hoptions,
        unreported_bind.2 (.inl hconfig)⟩)⟩

end Invocation

open Script in
/-- Whole numbers that are too long to be written are reported. -/
theorem not_unreported_of_writes {α : Type} {wholes : List ℤ} {x : Except Failure α}
    (h : Writes wholes x) : ¬ Unreported x := by
  cases h with
  | ok a => exact not_unreported_ok a
  | tooLong => exact not_unreported_error rfl

/-- **The script of a plan is told, or the command line reports why
not.** -/
theorem Plan.not_unreported_script {series : List (Series.Typed String)}
    {o : Options.Typed String Binary64} (hne : series ≠ []) (hseries : ∀ s ∈ series, s.Plain)
    (hfill : o.fill = none) (config : SessionConfig) : ¬ Unreported
      (Plan.script ⟨.plotMany (series.map Series.Typed.untyped) o.ofDoubles, config⟩) := by
  have hscript : ¬ Unreported (Script.plot false (series.map Series.Typed.untyped) o.ofDoubles) :=
    not_unreported_of_writes (Script.writes_plot hne (fun _ hi => List.mem_append_left _ hi)
      fun s hs _ hi => List.mem_append_right _ (List.mem_flatMap.2 ⟨s, hs, hi⟩))
  have hcheck : Request.checkSeries (series.map Series.Typed.untyped) = .ok () := by
    rw [Request.checkSeries_eq_ok_iff]
    intro s hs
    obtain ⟨typed, htyped, rfl⟩ := List.mem_map.1 hs
    exact (hseries typed htyped).check_untyped
  rw [Plan.script]
  split
  · rw [unreported_bind, Request.check_eq, unreported_bind]
    rintro ((h | ⟨_, -, h⟩) | ⟨_, -, h⟩)
    · exact Options.Typed.not_unreported_check hfill h
    · exact not_unreported_ok () (hcheck ▸ h)
    · exact hscript h
  · exact hscript

/-! ## Runs -/

/-- **A dry run is settled**: it ends with the code 0 or 1, its output is
the whole script exactly when the code is 0, and otherwise there is no
output and one notice, of the failure. -/
structure Report.Settled (r : Report) (IsWhole : String → Prop) : Prop where
  code : r.code? = some 0 ∨ r.code? = some 1
  shown : IsWhole r.output ↔ r.code? = some 0
  complained : r.code? ≠ some 0 → r.output = "" ∧
    ∃ f : Failure, r.result = .error f ∧ r.allNotices = [.commandLine .error f.message]

/-- A run that failed before anything was shown is settled when its
failure is reported. -/
theorem Report.settled_iff_of_error {IsWhole : String → Prop} {f : Failure} {w : Workspace}
    (hempty : ¬ IsWhole "") :
    Report.Settled { result := .error f, workspace := w } IsWhole ↔ f.kind.isReported = true := by
  cases hkind : f.kind.isReported with
  | false =>
    have hcode : Report.code? { result := .error f, workspace := w } = none := by
      simp [Report.code?, Report.reported?, hkind]
    refine iff_of_false (fun h => ?_) (by decide)
    rcases h.code with h | h <;> cases h.symm.trans hcode
  | true =>
    have hreported : Report.reported? { result := .error f, workspace := w } = some f := by
      simp [Report.reported?, hkind]
    have hcode : Report.code? { result := .error f, workspace := w } = some 1 := by
      rw [Report.code?, hreported]
      rfl
    refine iff_of_true ⟨.inr hcode, ?_, fun _ => ⟨rfl, f, rfl, ?_⟩⟩ rfl
    · rw [hcode]
      exact iff_of_false hempty (by decide)
    · rw [Report.allNotices, hreported]
      rfl

namespace Invocation

/-- A text is the whole script of an invocation: that of its series with
its settings. -/
def IsWhole (i : Invocation) (w : Workspace) (script : String) : Prop :=
  ∃ series options, i.series w = .ok series ∧ i.options = .ok options ∧
    Script.plot false series options = .ok script

/-- **A dry run is settled**, for every command line that is accepted and
whatever the files hold, unless it comes to what the command line leaves
to others. -/
theorem settled_iff {words : List String} {i : Invocation} (hparse : parse words = .ok i)
    (hdry : i.dryRun = true) (host : Host) :
    (i.run host).Settled (i.IsWhole host.workspace) ↔ ¬ i.Escapes host.workspace := by
  obtain ⟨hsource, -⟩ := parse_dryRunWord hparse
  have hempty : ¬ i.IsWhole host.workspace "" := by
    rintro ⟨series, options, -, -, hplot⟩
    exact Script.ne_empty_of_plot hplot rfl
  rw [← unreported_plan_iff, run]
  cases hplan : i.plan host.workspace with
  | error f => simp [Report.settled_iff_of_error hempty, unreported_error]
  | ok plan =>
    -- All that may be left to others lies behind, so the run is settled.
    refine iff_of_true ?_ (not_unreported_ok plan)
    obtain ⟨series, hseries, hplan⟩ := bind_eq_ok.1 hplan
    obtain ⟨options, hoptions, hplan⟩ := bind_eq_ok.1 hplan
    obtain ⟨config, -, hplan⟩ := bind_eq_ok.1 hplan
    obtain rfl := pure_eq_ok.1 hplan
    dsimp only
    rw [if_pos hdry, Plan.preview]
    cases hscript : Plan.script ⟨.plotMany series options, config⟩ with
    | ok script =>
      have hwhole : i.IsWhole host.workspace script :=
        ⟨series, options, hseries, hoptions, Plan.plot_of_script hscript⟩
      exact ⟨.inl rfl, iff_of_true hwhole rfl, fun hcode => absurd rfl hcode⟩
    | error f =>
      obtain ⟨typed, rfl, hplain⟩ := exists_typed_of_series hseries
      obtain ⟨o, rfl, hfill⟩ := exists_typed_of_options hoptions
      have hne : typed ≠ [] := by simpa using series_ne_nil hsource hseries
      have hreported := Plan.not_unreported_script hne hplain hfill config
      rw [hscript, unreported_error, Bool.not_eq_false] at hreported
      exact (Report.settled_iff_of_error hempty).2 hreported

/-- A data file whose delimiter is two characters. -/
theorem not_settled_delimiter :
    let i : Invocation :=
      { source := .file (.ofText "d.txt") (some "::"), dryRun := true }
    let host : Host :=
      { workspace := { files := [(⟨.above 0, ["d.txt"]⟩, "1 2\n".toUTF8)] }
        start := fun _ => .ok { pid := 1, pipe := some {} } }
    parse ["data", "d.txt", "--delimiter", "::", "--dry-run"] = .ok i ∧
      ¬ (i.run host).Settled (i.IsWhole host.workspace) := by
  intro i host
  refine ⟨rfl, fun h => ?_⟩
  have hcode : (i.run host).code? = none := rfl
  rcases h.code with h | h <;> cases h.symm.trans hcode

/-- An expression, strictly checked. -/
theorem settled_iff_expression :
    let i : Invocation := { source := .expressions ["sin(x)"], strict := true, dryRun := true }
    let host : Host := { start := fun _ => .ok { pid := 1, pipe := some {} } }
    parse ["func", "sin(x)", "--strict", "--dry-run"] = .ok i ∧ i.dryRun = true ∧
      (i.run host).Settled (i.IsWhole host.workspace) := by
  intro i host
  have hparse : parse ["func", "sin(x)", "--strict", "--dry-run"] = .ok i := rfl
  refine ⟨hparse, rfl, (settled_iff hparse rfl host).2 ?_⟩
  rintro (⟨hsource, -⟩ | ⟨-, -, hconfig, -⟩)
  · cases hsource
  · cases hconfig

end Invocation

end CommandLine

end PlotPipe
