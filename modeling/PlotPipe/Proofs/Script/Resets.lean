import PlotPipe.Proofs.Script.Commands
import PlotPipe.Proofs.Script.Decoding
import PlotPipe.Proofs.Script.Framing
/-!
# Scripts — resetting what was set

Settings are reset by naming them again: what the line that resets a
dimension touches is what the line that sets it has assigned (`Undoes`),
and the lines of a script are those of its dimensions (`setLine?`,
`resetLine?`). Labels and ticks that name no axis are the one exception:
nothing is assigned for them, and both axes are reset
(`Dimensions.Typed.unset_undoes_set`).
-/

namespace PlotPipe

open Script

/-- The doubles that the bounds of a range have, where there is one. -/
def Options.Typed.HasBounds (o : Typed String Datum)
    (doubles : Option (AxisRange.Typed Binary64)) : Prop :=
  o.range.map (AxisRange.Typed.map Datum.toReal) = doubles.map (AxisRange.Typed.map .ok)

/-- The settings that can be set and reset, of the types that they are
declared to have. The bounds of a range may be any values. -/
structure Dimensions.Typed where
  fill : Option Filling.Typed := none
  range : Option (AxisRange.Typed Datum) := none
  labels : Option (Labels.Typed String) := none
  titles : Option (Titles.Typed String) := none

/-- The dimensions in the order of their lines. -/
def Script.Dimension.all : List Dimension := [.fill, .range, .labels, .titles]

theorem Script.Dimension.mem_all (dimension : Dimension) : dimension ∈ all := by
  cases dimension <;> decide

namespace Dimensions.Typed

/-- The settings, and nothing else that goes with a plot. -/
def options (d : Typed) : Options.Typed String Datum :=
  { fill := d.fill, range := d.range, labels := d.labels, titles := d.titles }

/-- A dimension is passed. -/
def isPassed (d : Typed) : Dimension → Bool
  | .fill => d.fill.isSome
  | .range => d.range.isSome
  | .labels => d.labels.isSome
  | .titles => d.titles.isSome

/-- The dimensions that are passed, in order. -/
def passed (d : Typed) : List Dimension := Dimension.all.filter d.isPassed

/-- Labels or ticks are passed that name no axis. -/
def NamesNoAxis (d : Typed) : Dimension → Prop
  | .labels => d.labels = some {}
  | .titles => d.titles = some {}
  | .fill | .range => False

/-- **Settings that can be written**: whole numbers have few enough
digits, and bounds have doubles. -/
structure IsWritable (d : Typed) : Prop where
  wholes : ∀ i ∈ d.options.wholes, i.natAbs < Datum.unwritable
  bounds : ∃ doubles, d.options.HasBounds doubles

end Dimensions.Typed

namespace Script

variable {dimension : Dimension} {empty : Prop} {set? reset? : Option String}

/-! ## Lines that undo others -/

/-- **A reset undoes a setting** of one dimension: both lines concern it,
and they touch the same settings; where the setting is empty, there is
nothing that is set, and all of the dimension is reset. -/
structure Undoes (dimension : Dimension) (empty : Prop) (set? reset? : Option String) : Prop where
  passed : set?.isSome → reset?.isSome
  setLine : ∀ line ∈ set?, Concerns .assigns dimension line
  resetLine : ∀ line ∈ reset?, Concerns .resets dimension line
  same : ∀ s, (∃ line ∈ set?, s ∈ settings .assigns line) ↔
    (∃ line ∈ reset?, s ∈ settings .resets line) ∧ ¬ empty
  all : empty → ∀ s : Setting, s.dimension = dimension →
    ∃ line ∈ reset?, s ∈ settings .resets line

/-- Where nothing is passed, there is nothing to undo. -/
theorem undoes_none (h : ¬ empty) : Undoes dimension empty none none :=
  ⟨id, nofun, nofun, fun _ => ⟨nofun, nofun⟩, fun hempty => absurd hempty h⟩

/-- What is set is what is reset, where the dimension is not empty. -/
theorem Undoes.mem_iff {empty : Dimension → Prop}
    (h : Undoes dimension (empty dimension) set? reset?) (s : Setting) :
    (∃ line ∈ set?, s ∈ settings .assigns line) ↔
      (∃ line ∈ reset?, s ∈ settings .resets line) ∧ ¬ empty s.dimension := by
  refine (h.same s).trans (and_congr_right ?_)
  rintro ⟨line, hline, hs⟩
  rw [dimension_of_mem_settings (h.resetLine line hline) hs]

/-- Commands undo others when they touch the same settings. -/
theorem undoes_of_performs {sets resets : List String} {assigned restored : List (List Setting)}
    (hset : List.Forall₂ (Performs .assigns) sets assigned) (hne : resets ≠ [])
    (hreset : List.Forall₂ (Performs .resets) resets restored)
    (hdimension : ∀ s ∈ restored.flatten, s.dimension = dimension)
    (hsame : ∀ s, s ∈ assigned.flatten ↔ s ∈ restored.flatten ∧ ¬ empty)
    (hall : empty → ∀ s : Setting, s.dimension = dimension → s ∈ restored.flatten) :
    Undoes dimension empty (commandLine? sets) (some (joinCommands resets)) := by
  obtain ⟨hconcerns, hrestored⟩ := concerns_joinCommands hne hreset fun found hfound s hs =>
    hdimension s (List.mem_flatten_of_mem hfound hs)
  have hassigned : ∀ s ∈ assigned.flatten, s.dimension = dimension := fun s hs =>
    hdimension s ((hsame s).1 hs).1
  have hreset (s : Setting) : (∃ line ∈ some (joinCommands resets), s ∈ settings .resets line) ↔
      s ∈ restored.flatten := by
    simp [hrestored]
  have hset : (∀ line ∈ commandLine? sets, Concerns .assigns dimension line) ∧
      ∀ s, (∃ line ∈ commandLine? sets, s ∈ settings .assigns line) ↔ s ∈ assigned.flatten := by
    -- Without commands there is no line, which is not the same as an empty one.
    by_cases hempty : sets = []
    · subst hempty
      cases hset
      exact ⟨nofun, fun _ => ⟨nofun, nofun⟩⟩
    · have hline : commandLine? sets = some (joinCommands sets) := if_neg (by simpa using hempty)
      obtain ⟨hconcerns, htouched⟩ := concerns_joinCommands hempty hset fun found hfound s hs =>
        hassigned s (List.mem_flatten_of_mem hfound hs)
      rw [hline]
      exact ⟨fun line hline => Option.some.inj hline ▸ hconcerns, fun s => by simp [htouched]⟩
  refine ⟨fun _ => rfl, hset.1, fun line hline => Option.some.inj hline ▸ hconcerns, fun s => ?_,
    fun h s hs => ?_⟩
  · rw [hset.2, hreset, hsame]
  · exact (hreset s).2 (hall h s hs)

theorem commandLine?_singleton (command : String) : commandLine? [command] = some command :=
  commandLine?_toList (some command)

/-- A single command undoes others. -/
theorem undoes_of_mem_resetting {sets : List String} {assigned : List (List Setting)}
    {restored : List Setting} {reset : String}
    (hset : List.Forall₂ (Performs .assigns) sets assigned)
    (hreset : (reset, restored) ∈ resetting) (hdimension : ∀ s ∈ restored, s.dimension = dimension)
    (hsame : assigned.flatten = restored) :
    Undoes dimension False (commandLine? sets) (some reset) := by
  have h : Undoes dimension False (commandLine? sets) (some (joinCommands [reset])) :=
    undoes_of_performs hset (by simp) (.cons (performs_of_mem_resetting hreset) .nil)
      (by simpa using hdimension) (by simp [hsame]) nofun
  rwa [joinCommands, String.intercalate_singleton] at h

/-- The line that resets the axes that are mentioned, or both when none
is. -/
def resetLine (resetText : Axis → String) (x y : Bool) : String :=
  joinCommands
    ((if !x && !y || x then [resetText .x] else [])
      ++ (if !x && !y || y then [resetText .y] else []))

/-- **What is set for the axes is undone** by a line for the axes that
are mentioned. -/
theorem undoes_axes (setting : Axis → Setting) (resetText : Axis → String) (x y : Option String)
    (hdimension : ∀ s : Setting, s.dimension = dimension ↔ s = setting .x ∨ s = setting .y)
    (hreset : ∀ axis, (resetText axis, [setting axis]) ∈ resetting)
    (hx : ∀ command ∈ x, Performs .assigns command [setting .x])
    (hy : ∀ command ∈ y, Performs .assigns command [setting .y]) :
    Undoes dimension (x = none ∧ y = none) (commandLine? (x.toList ++ y.toList))
      (some (resetLine resetText x.isSome y.isSome)) := by
  have hresets (axis : Axis) := performs_of_mem_resetting (hreset axis)
  have hof (axis : Axis) : (setting axis).dimension = dimension := by
    cases axis <;> simp [hdimension]
  -- Only where no axis is mentioned is more reset than was set.
  cases x with
  | none =>
    cases y with
    | none =>
      exact undoes_of_performs .nil (by simp) (.cons (hresets .x) (.cons (hresets .y) .nil))
        (by simp [hof]) (by simp) (by simp [hdimension])
    | some y =>
      exact undoes_of_performs (.cons (hy y rfl) .nil) (by simp) (.cons (hresets .y) .nil)
        (by simp [hof]) (by simp) (by simp)
  | some x =>
    cases y with
    | none =>
      exact undoes_of_performs (.cons (hx x rfl) .nil) (by simp) (.cons (hresets .x) .nil)
        (by simp [hof]) (by simp) (by simp)
    | some y =>
      exact undoes_of_performs (.cons (hx x rfl) (.cons (hy y rfl) .nil)) (by simp)
        (.cons (hresets .x) (.cons (hresets .y) .nil)) (by simp [hof]) (by simp) (by simp)

/-! ## The lines of dimensions -/

/-- A setting that can always be written. -/
theorem line_ofOption {α : Type} {datum : α → Datum} {write : Datum → Except Failure String}
    {text : α → String} (hne : ∀ value, datum value ≠ .null)
    (hwrite : ∀ value, write (datum value) = .ok (text value)) (setting : Option α) :
    line write (.ofOption datum setting) = .ok (setting.map text).toList := by
  cases setting with
  | none => rfl
  | some value =>
    rw [Datum.ofOption, line_of_ne_null (hne value), hwrite]
    rfl

section Lines

variable {deed : Deed} {dimensions : List Dimension} {line? : Dimension → Option String}

/-- A script with a line for some of the dimensions, each about its own,
is in order. -/
theorem inOrder_ofLines {passed : Dimension → Bool}
    (hline : ∀ line ∈ dimensions.filterMap line?, OnOneLine line)
    (hconcerns : ∀ dimension, ∀ line ∈ line? dimension, Concerns deed dimension line)
    (hpassed : ∀ dimension, (line? dimension).isSome → passed dimension) :
    InOrder deed (dimensions.filter passed) (ofLines (dimensions.filterMap line?)) := by
  refine ⟨dimensions.filter fun dimension => (line? dimension).isSome, _,
    List.monotone_filter_right _ hpassed, lines_ofLines hline, ?_⟩
  clear hline
  induction dimensions with
  | nil => exact .nil
  | cons dimension rest ih =>
    cases hsome : line? dimension with
    | none =>
      rw [List.filter_cons_of_neg (by simp [hsome]), List.filterMap_cons_none hsome]
      exact ih
    | some line =>
      rw [List.filter_cons_of_pos (by simp [hsome]), List.filterMap_cons_some hsome]
      exact .cons (hconcerns dimension line hsome) ih

/-- A script touches what its lines touch. -/
theorem mem_touched_ofLines {s : Setting}
    (hline : ∀ line ∈ dimensions.filterMap line?, OnOneLine line) :
    s ∈ touched deed (ofLines (dimensions.filterMap line?)) ↔
      ∃ dimension ∈ dimensions, ∃ line ∈ line? dimension, s ∈ settings deed line := by
  have hlast : settings deed "" = [] := by
    rw [settings, show commands "" = [""] by simp [commands, erase, separate]]
    rfl
  rw [touched, lines_ofLines hline, List.flatMap_append, List.flatMap_singleton, hlast,
    List.append_nil]
  simp only [List.mem_flatMap, List.mem_filterMap, Option.mem_def]
  constructor
  · rintro ⟨line, ⟨dimension, hdimension, hsome⟩, hs⟩
    exact ⟨dimension, hdimension, line, hsome, hs⟩
  · rintro ⟨dimension, hdimension, line, hsome, hs⟩
    exact ⟨line, ⟨dimension, hdimension, hsome⟩, hs⟩

end Lines

/-- A whole number ends no command and opens no text. -/
theorem plain_toString_int (i : ℤ) : '\'' ∉ (toString i).toList ∧ ';' ∉ (toString i).toList := by
  constructor <;> exact fun hmem => absurd (isDigit_or_eq_of_mem_toString hmem) (by decide)

theorem reads_toString_int (i : ℤ) : Reads (toString i) (toString i) :=
  reads_of_not_mem (plain_toString_int i).1 (plain_toString_int i).2

end Script

/-! ## Fillings and ranges -/

/-- **A filling is undone** whatever it is. -/
theorem Filling.undoes_line (fill : Typed) :
    Undoes .fill False (some fill.line) (some "set style fill empty") := by
  have hperforms : Performs .assigns fill.line [.fill] := by
    cases fill with
    | solid =>
      -- The reset opens with `set style fill` too, so it takes the whole command to tell.
      exact performs_append (by decide : Assigns "set style fill solid" _)
        (reads_of_not_mem (by decide : '\'' ∉ "".toList) (by decide))
    | pattern index =>
      exact performs_append (by decide : Assigns "set style fill pattern " _)
        (reads_toString_int index)
  rw [← commandLine?_singleton]
  exact undoes_of_mem_resetting (.cons hperforms .nil) (by decide) (by simp [Setting.dimension]) rfl

namespace AxisRange

variable {lo hi : Datum} {range : Typed Datum} {text : String}

/-- The axes of a range. -/
def Typed.axes {ν : Type} : Typed ν → List Axis
  | x _ _ => [.x]
  | y _ _ => [.y]
  | xy _ _ _ _ => [.x, .y]

@[simp] theorem Typed.axes_map {ν ν' : Type} (f : ν → ν') (range : Typed ν) :
    (range.map f).axes = range.axes := by
  cases range <;> rfl

/-- What stands between the brackets of a span is read as it is. -/
theorem reads_spanText (lo hi : Binary64) :
    Reads (spanText lo.scriptText hi.scriptText) (spanText lo.scriptText hi.scriptText) := by
  have hnumber (x : Binary64) : '\'' ∉ x.scriptText.toList ∧ ';' ∉ x.scriptText.toList := by
    constructor <;> exact fun hmem => absurd (isNumeral_of_mem_scriptText hmem) (by decide)
  refine reads_of_not_mem ?_ ?_ <;> simp [spanText, String.toList_append, hnumber]

theorem performs_x (lo hi : Binary64) :
    Performs .assigns ("set xrange " ++ spanText lo.scriptText hi.scriptText) [.range .x] :=
  performs_append (by decide) (reads_spanText lo hi)

theorem performs_y (lo hi : Binary64) :
    Performs .assigns ("set yrange " ++ spanText lo.scriptText hi.scriptText) [.range .y] :=
  performs_append (by decide) (reads_spanText lo hi)

/-- The line of a range has a command for each of its axes. -/
theorem line_eq_commandLine? (range : Typed Binary64) :
    ∃ commands, some (range.map Binary64.scriptText).line = commandLine? commands ∧
      List.Forall₂ (Performs .assigns) commands (range.axes.map fun axis => [.range axis]) := by
  cases range with
  | x lo hi => exact ⟨_, (commandLine?_singleton _).symm, .cons (performs_x lo hi) .nil⟩
  | y lo hi => exact ⟨_, (commandLine?_singleton _).symm, .cons (performs_y lo hi) .nil⟩
  | xy xlo xhi ylo yhi =>
    refine ⟨_, ?_, .cons (performs_x xlo xhi) (.cons (performs_y ylo yhi) .nil)⟩
    have hseparator : "; set yrange " = "; " ++ "set yrange " := rfl
    refine Eq.trans ?_ (commandLine?_cons _ (some _)).symm
    simp only [Typed.map, Typed.line, following, hseparator, String.append_assoc]

theorem resetText_mem (range : Typed Datum) :
    (range.untyped.resetText, range.axes.map .range) ∈ resetting := by
  cases range
  all_goals simp only [Typed.untyped, resetText, Typed.axes, List.map]; decide

/-- **A range is undone** on its axes. -/
theorem undoes_line {range : Typed Binary64} {given : Typed Datum}
    (haxes : range.axes = given.axes) :
    Undoes .range False (some (range.map Binary64.scriptText).line)
      (some given.untyped.resetText) := by
  obtain ⟨commands, hline, hcommands⟩ := line_eq_commandLine? range
  rw [hline]
  refine undoes_of_mem_resetting hcommands (resetText_mem given) (by simp [Setting.dimension]) ?_
  rw [haxes, ← List.flatMap_def, ← List.map_eq_flatMap]

/-! ## Bounds and their doubles -/

theorem exists_of_span (h : span lo hi = .ok text) :
    ∃ x y, lo.toReal = .ok x ∧ hi.toReal = .ok y := by
  obtain ⟨_, hlo, h⟩ := bind_eq_ok.1 h
  obtain ⟨_, hhi, -⟩ := bind_eq_ok.1 h
  obtain ⟨x, hx, -⟩ := map_eq_ok.1 hlo
  obtain ⟨y, hy, -⟩ := map_eq_ok.1 hhi
  exact ⟨x, y, hx, hy⟩

/-- The bounds of a range that can be written have doubles. -/
theorem exists_doubles_of_directive (h : directive range.datum = .ok text) :
    ∃ doubles : Typed Binary64, range.map Datum.toReal = doubles.map .ok := by
  rw [directive_datum] at h
  cases range with
  | x lo hi =>
    obtain ⟨_, hspan, -⟩ := bind_eq_ok.1 h
    obtain ⟨lo', hi', hlo, hhi⟩ := exists_of_span hspan
    exact ⟨.x lo' hi', by rw [Typed.map, Typed.map, hlo, hhi]⟩
  | y lo hi =>
    obtain ⟨_, hspan, -⟩ := bind_eq_ok.1 h
    obtain ⟨lo', hi', hlo, hhi⟩ := exists_of_span hspan
    exact ⟨.y lo' hi', by rw [Typed.map, Typed.map, hlo, hhi]⟩
  | xy xlo xhi ylo yhi =>
    obtain ⟨_, hx, h⟩ := bind_eq_ok.1 h
    obtain ⟨_, hy, -⟩ := bind_eq_ok.1 h
    obtain ⟨xlo', xhi', hxlo, hxhi⟩ := exists_of_span hx
    obtain ⟨ylo', yhi', hylo, hyhi⟩ := exists_of_span hy
    exact ⟨.xy xlo' xhi' ylo' yhi', by rw [Typed.map, Typed.map, hxlo, hxhi, hylo, hyhi]⟩

/-- **A range is written by the doubles of its bounds.** -/
theorem directive_eq_of_doubles {doubles : Typed Binary64}
    (h : range.map Datum.toReal = doubles.map .ok) :
    directive range.datum = directive (doubles.map .real).datum := by
  have hspan {lo hi : Datum} {lo' hi' : Binary64} (hlo : lo.toReal = .ok lo')
      (hhi : hi.toReal = .ok hi') : span lo hi = span (.real lo') (.real hi') := by
    rw [span, Datum.scriptNumber, Datum.scriptNumber, hlo, hhi]
    rfl
  rw [directive_datum, directive_datum]
  -- Bounds on other axes are no doubles of these.
  cases range <;> cases doubles <;>
    simp only [Typed.map, Typed.x.injEq, Typed.y.injEq, Typed.xy.injEq, reduceCtorEq] at h
  case x.x => simp only [Typed.map, Typed.untyped, scriptText, hspan h.1 h.2]
  case y.y => simp only [Typed.map, Typed.untyped, scriptText, hspan h.1 h.2]
  case xy.xy =>
    simp only [Typed.map, Typed.untyped, scriptText, hspan h.1 h.2.1, hspan h.2.2.1 h.2.2.2]

end AxisRange

/-! ## Labels and ticks -/

namespace Labels

/-- The command that removes the label of an axis. -/
def resetText : Axis → String
  | .x => "unset xlabel"
  | .y => "unset ylabel"

/-- The line that removes labels. -/
def Typed.resetLine (labels : Typed String) : String :=
  Script.resetLine resetText labels.x.isSome labels.y.isSome

theorem resetDirective_datum (labels : Typed String) :
    resetDirective labels.datum = .ok labels.resetLine := by
  rcases labels with ⟨_ | x, _ | y⟩ <;> rfl

/-- **Labels are undone** on the axes that they name. -/
theorem undoes_line? (labels : Typed String) :
    Undoes .labels (labels = {}) labels.line? (some labels.resetLine) := by
  have hperforms {axis : String} {setting : Setting} {label : Option String}
      (haxis : Assigns ("set " ++ axis ++ "label ") setting) :
      ∀ command ∈ label.map (labelText axis), Performs .assigns command [setting] := by
    intro command hcommand
    obtain ⟨text, -, rfl⟩ := Option.map_eq_some_iff.1 hcommand
    exact performs_append haxis (reads_quote text)
  have hempty : (labels.x.map (labelText "x") = none ∧ labels.y.map (labelText "y") = none) ↔
      labels = {} := by
    rcases labels with ⟨_ | x, _ | y⟩ <;> simp
  have h : Undoes .labels _ _ _ :=
    undoes_axes .label resetText (labels.x.map (labelText "x")) (labels.y.map (labelText "y"))
      (by rintro (_ | ⟨_ | _⟩ | ⟨_ | _⟩ | ⟨_ | _⟩) <;> decide) (by rintro (_ | _) <;> decide)
      (hperforms (by decide)) (hperforms (by decide))
  rwa [hempty, Option.isSome_map, Option.isSome_map] at h

end Labels

namespace Titles

/-- The command that restores the ticks of an axis. -/
def resetText : Axis → String
  | .x => "set xtics auto norotate"
  | .y => "set ytics auto norotate"

/-- The line that restores ticks. -/
def Typed.resetLine (titles : Typed String) : String :=
  Script.resetLine resetText titles.x.mentioned?.isSome titles.y.mentioned?.isSome

theorem resetDirective_datum (titles : Typed String) :
    resetDirective titles.datum = .ok titles.resetLine := by
  rcases titles with ⟨⟨_ | x, _ | xrotate⟩, ⟨_ | y, _ | yrotate⟩⟩ <;> rfl

/-- Of the names of ticks nothing is read. -/
theorem reads_nameTexts (names : List String) (position : Nat) :
    ∃ read, Reads (", ".intercalate (nameTexts position names)) read := by
  have hnothing : Reads "" "" := reads_of_not_mem (by decide) (by decide)
  induction names generalizing position with
  | nil => exact ⟨"", hnothing⟩
  | cons name rest ih =>
    -- Behind a name stand blanks and digits, so that its text ends where it was quoted.
    obtain ⟨read, hread⟩ := ih (position + 1)
    have hothers : ∃ read, Reads (others (nameTexts (position + 1) rest)) read := by
      cases hrest : nameTexts (position + 1) rest with
      | nil => exact ⟨"", hnothing⟩
      | cons text texts =>
        rw [hrest] at hread
        exact ⟨_, hread.plain_append (by decide) (by decide)⟩
    obtain ⟨read', hothers⟩ := hothers
    have hposition := plain_toString_int position
    rw [intercalate_nameTexts_cons]
    exact ⟨_, (reads_quote name).append
      ((hothers.plain_append hposition.1 hposition.2).plain_append (by decide) (by decide))
      (Apart.append (by decide) (by decide))⟩

theorem reads_angleText (angle : Option Int) : Reads (angleText angle) (angleText angle) := by
  cases angle with
  | none => exact reads_of_not_mem (by decide) (by decide)
  | some i => exact (reads_toString_int i).plain_append (by decide) (by decide)

/-- The command for ticks assigns them, with names or an angle alone. -/
theorem performs_command {axis : String} {setting : Setting}
    (hnames : Assigns ("set " ++ axis ++ "tics" ++ " (") setting)
    (hangle : Assigns ("set " ++ axis ++ "tics" ++ " rotate by ") setting) (ticks : Ticks String) :
    ∀ command ∈ ticks.mentioned?.map (Ticks.command axis), Performs .assigns command [setting] := by
  rintro command hcommand
  obtain ⟨names, angle⟩ := ticks
  -- Names and an angle open differently, and only the names bring texts.
  cases names with
  | none =>
    cases angle with
    | none => cases hcommand
    | some i =>
      cases hcommand
      simpa only [Ticks.command, namesText, angleText, String.append_empty, String.append_assoc]
        using performs_append hangle (reads_toString_int i)
  | some names =>
    cases hcommand
    obtain ⟨read, hread⟩ := reads_nameTexts names 0
    have hlist := hread.append ((reads_angleText angle).plain_append
      (by decide : '\'' ∉ ")".toList) (by decide)) (Apart.append (by decide) (by decide))
    simpa only [Ticks.command, namesText, String.append_assoc] using performs_append hnames hlist

/-- **Ticks are undone** on the axes that they name. -/
theorem undoes_line? (titles : Typed String) :
    Undoes .titles (titles = {}) titles.line? (some titles.resetLine) := by
  have hempty : (titles.x.mentioned?.map (Ticks.command "x") = none ∧
      titles.y.mentioned?.map (Ticks.command "y") = none) ↔ titles = {} := by
    rcases titles with ⟨⟨_ | x, _ | xrotate⟩, ⟨_ | y, _ | yrotate⟩⟩ <;> simp [Ticks.mentioned?]
  have h : Undoes .titles _ _ _ :=
    undoes_axes .ticks resetText (titles.x.mentioned?.map (Ticks.command "x"))
      (titles.y.mentioned?.map (Ticks.command "y"))
      (by rintro (_ | ⟨_ | _⟩ | ⟨_ | _⟩ | ⟨_ | _⟩) <;> decide) (by rintro (_ | _) <;> decide)
      (performs_command (by decide) (by decide) titles.x)
      (performs_command (by decide) (by decide) titles.y)
  rwa [hempty, Option.isSome_map, Option.isSome_map] at h

end Titles

/-! ## The lines of settings -/

namespace Options.Typed

variable {o : Typed String Datum} {doubles : Option (AxisRange.Typed Binary64)} {ls : List String}

/-- Settings that were written have bounds with doubles. -/
theorem exists_hasBounds (h : o.untyped.directives = .ok ls) : ∃ doubles, o.HasBounds doubles := by
  obtain ⟨_, -, h⟩ := bind_eq_ok.1 h
  obtain ⟨_, -, h⟩ := bind_eq_ok.1 h
  obtain ⟨_, -, h⟩ := bind_eq_ok.1 h
  obtain ⟨_, -, h⟩ := bind_eq_ok.1 h
  obtain ⟨written, hwritten, -⟩ := bind_eq_ok.1 h
  unfold HasBounds
  cases hrange : o.range with
  | none => exact ⟨none, rfl⟩
  | some range =>
    simp only [untyped, hrange, Datum.ofOption] at hwritten
    rw [line_of_ne_null range.datum_ne_null] at hwritten
    obtain ⟨text, htext, -⟩ := map_eq_ok.1 hwritten
    obtain ⟨doubles, hdoubles⟩ := AxisRange.exists_doubles_of_directive htext
    exact ⟨some doubles, congrArg some hdoubles⟩

/-- Bounds have doubles on the same axes. -/
theorem HasBounds.axes_eq (h : o.HasBounds doubles) :
    doubles.map AxisRange.Typed.axes = o.range.map AxisRange.Typed.axes := by
  have haxes := congrArg (Option.map AxisRange.Typed.axes) h.symm
  simpa [Function.comp_def] using haxes

/-- **Settings are written by the doubles of their bounds.** -/
theorem HasBounds.directives_eq (h : o.HasBounds doubles) :
    o.untyped.directives = (ofDoubles { o with range := doubles }).directives := by
  have hrange : line AxisRange.directive o.untyped.range =
      line AxisRange.directive (ofDoubles { o with range := doubles }).range := by
    unfold HasBounds at h
    unfold ofDoubles untyped
    cases hrange : o.range with
    | none =>
      rw [hrange] at h
      rw [Option.map_eq_none_iff.1 h.symm]
      rfl
    | some range =>
      rw [hrange] at h
      obtain ⟨doubles, rfl, hdoubles⟩ := Option.map_eq_some_iff.1 h.symm
      simp only [Datum.ofOption, Option.map_some]
      rw [line_of_ne_null (AxisRange.Typed.datum_ne_null _),
        line_of_ne_null (AxisRange.Typed.datum_ne_null _),
        AxisRange.directive_eq_of_doubles hdoubles.symm]
  unfold Options.directives
  rw [hrange]
  rfl

end Options.Typed

namespace Dimensions.Typed

variable {d : Typed} {doubles : Option (AxisRange.Typed Binary64)}

/-- The line that sets a dimension, where there is one. -/
def setLine? (d : Typed) (doubles : Option (AxisRange.Typed Binary64)) : Dimension → Option String
  | .fill => d.fill.map Filling.Typed.line
  | .range => doubles.map fun range => (range.map Binary64.scriptText).line
  | .labels => d.labels.bind Labels.Typed.line?
  | .titles => d.titles.bind Titles.Typed.line?

/-- The line that resets a dimension, where it is passed. -/
def resetLine? (d : Typed) : Dimension → Option String
  | .fill => d.fill.map fun _ => "set style fill empty"
  | .range => d.range.map fun range => range.untyped.resetText
  | .labels => d.labels.map Labels.Typed.resetLine
  | .titles => d.titles.map Titles.Typed.resetLine

/-- **The script that sets settings**, dimension by dimension. -/
theorem exists_of_set {set : String} (h : Script.set d.options.untyped = .ok set) :
    ∃ doubles, d.options.HasBounds doubles ∧
      set = ofLines (Dimension.all.filterMap (d.setLine? doubles)) ∧
      ∀ line ∈ Dimension.all.filterMap (d.setLine? doubles), OnOneLine line := by
  obtain ⟨ls, hls, h⟩ := bind_eq_ok.1 h
  obtain ⟨doubles, hbounds⟩ := Options.Typed.exists_hasBounds hls
  have hlines : ls = Dimension.all.filterMap (d.setLine? doubles) := by
    rw [hbounds.directives_eq] at hls
    rw [Options.Typed.eq_sections_of_directives hls, List.filterMap_eq_flatMap_toList]
    rfl
  subst hlines
  exact ⟨doubles, hbounds, (pure_eq_ok.1 h).symm, fun line hline =>
    (inert_directives (Options.Typed.declared _).onOneLine hls line hline).1⟩

/-- **The script that resets settings**, dimension by dimension. -/
theorem unset_untyped (d : Typed) :
    Script.unset d.options.untyped.toDimensions =
        .ok (ofLines (Dimension.all.filterMap d.resetLine?)) ∧
      ∀ line ∈ Dimension.all.filterMap d.resetLine?, OnOneLine line := by
  have hdirectives : d.options.untyped.resetDirectives =
      .ok (Dimension.all.filterMap d.resetLine?) := by
    have hfill : line (fun _ => .ok "set style fill empty") d.options.untyped.fill =
        .ok (d.resetLine? .fill).toList :=
      line_ofOption Filling.Typed.datum_ne_null (fun _ => rfl) _
    have hrange : line AxisRange.resetDirective d.options.untyped.range =
        .ok (d.resetLine? .range).toList :=
      line_ofOption AxisRange.Typed.datum_ne_null (fun range => by cases range <;> rfl) _
    have hlabels : line Labels.resetDirective d.options.untyped.labels =
        .ok (d.resetLine? .labels).toList :=
      line_ofOption Labels.Typed.datum_ne_null Labels.resetDirective_datum _
    have htitles : line Titles.resetDirective d.options.untyped.titles =
        .ok (d.resetLine? .titles).toList :=
      line_ofOption Titles.Typed.datum_ne_null Titles.resetDirective_datum _
    rw [Dimensions.resetDirectives, hfill, hrange, hlabels, htitles,
      List.filterMap_eq_flatMap_toList]
    simp [Dimension.all, bind, Except.bind, pure, Except.pure]
  refine ⟨?_, fun line hline => (inert_resetDirectives hdirectives line hline).1⟩
  rw [Script.unset, hdirectives]
  rfl

/-- **Each dimension is undone**, whatever the bounds of a range are. -/
theorem undoes (haxes : doubles.map AxisRange.Typed.axes = d.range.map AxisRange.Typed.axes)
    (dimension : Dimension) :
    Undoes dimension (d.NamesNoAxis dimension) (d.setLine? doubles dimension)
      (d.resetLine? dimension) := by
  cases dimension with
  | fill =>
    rw [setLine?, resetLine?, NamesNoAxis]
    cases d.fill with
    | none => exact undoes_none id
    | some fill => exact Filling.undoes_line fill
  | range =>
    rw [setLine?, resetLine?, NamesNoAxis]
    cases hrange : d.range with
    | none =>
      rw [hrange] at haxes
      rw [Option.map_eq_none_iff.1 haxes]
      exact undoes_none id
    | some range =>
      rw [hrange] at haxes
      obtain ⟨doubles, rfl, haxes⟩ := Option.map_eq_some_iff.1 haxes
      exact AxisRange.undoes_line (Option.some.inj haxes)
  | labels =>
    rw [setLine?, resetLine?, NamesNoAxis]
    cases d.labels with
    | none => exact undoes_none nofun
    | some labels =>
      rw [Option.some.injEq]
      exact Labels.undoes_line? labels
  | titles =>
    rw [setLine?, resetLine?, NamesNoAxis]
    cases d.titles with
    | none => exact undoes_none nofun
    | some titles =>
      rw [Option.some.injEq]
      exact Titles.undoes_line? titles

/-- Settings that can be written have a script. -/
theorem exists_set_of_isWritable (h : d.IsWritable) :
    ∃ set, Script.set d.options.untyped = .ok set := by
  obtain ⟨doubles, hbounds⟩ := h.bounds
  have hwrites : Writes d.options.wholes d.options.untyped.directives := by
    rw [hbounds.directives_eq]
    exact writes_directives fun _ hi => hi
  generalize hresult : d.options.untyped.directives = result at hwrites
  cases hwrites with
  | ok ls =>
    refine ⟨ofLines ls, ?_⟩
    rw [Script.set, hresult]
    rfl
  | tooLong hi hlong => exact absurd (h.wholes _ hi) (by omega)

/-- **A reset undoes what was set.** -/
theorem unset_undoes_set (d : Typed) : ∃ unset,
    Script.unset d.options.untyped.toDimensions = .ok unset ∧ InOrder .resets d.passed unset ∧
    (∀ s, d.NamesNoAxis s.dimension → s ∈ touched .resets unset) ∧
    (d.IsWritable → ∃ set, Script.set d.options.untyped = .ok set) ∧
    ∀ set, Script.set d.options.untyped = .ok set → InOrder .assigns d.passed set ∧
      ∀ s, s ∈ touched .assigns set ↔ s ∈ touched .resets unset ∧ ¬ d.NamesNoAxis s.dimension := by
  obtain ⟨hunset, hresetLines⟩ := d.unset_untyped
  have hpassed (dimension : Dimension) :
      (d.resetLine? dimension).isSome → d.isPassed dimension := by
    cases dimension <;> simp [resetLine?, isPassed]
  -- What is reset does not depend on the bounds of a range.
  have hreset (dimension : Dimension) : Undoes dimension (d.NamesNoAxis dimension)
      (d.setLine? (d.range.map (AxisRange.Typed.map fun _ => .zero)) dimension)
      (d.resetLine? dimension) := undoes (by simp [Function.comp_def]) dimension
  refine ⟨_, hunset, inOrder_ofLines hresetLines (fun dimension => (hreset dimension).resetLine)
    hpassed, fun s hs => ?_, exists_set_of_isWritable, fun set hset => ?_⟩
  · exact (mem_touched_ofLines hresetLines).2
      ⟨s.dimension, s.dimension.mem_all, (hreset s.dimension).all hs s rfl⟩
  · obtain ⟨doubles, hbounds, rfl, hsetLines⟩ := exists_of_set hset
    have hundoes := undoes hbounds.axes_eq
    refine ⟨inOrder_ofLines hsetLines (fun dimension => (hundoes dimension).setLine)
      (fun dimension hsome => hpassed dimension ((hundoes dimension).passed hsome)), fun s => ?_⟩
    rw [mem_touched_ofLines hsetLines, mem_touched_ofLines hresetLines]
    have hsame (dimension : Dimension) := Undoes.mem_iff (hundoes dimension) s
    simp only [hsame, ← and_assoc, exists_and_right]

/-- Labels that name no axis are reset on both; the name of a tick that
looks like commands is none. -/
theorem unset_undoes_set_lookalike :
    let ticks : Titles.Typed String :=
      { x := { names := some ["a'; unset ylabel; set yrange [0:1]"] } }
    let d : Typed := {
      fill := some (.pattern 4), range := some (.x (.int 0) (.int 10)), labels := some {},
      titles := some ticks }
    ∃ unset set, Script.unset d.options.untyped.toDimensions = .ok unset ∧
      Script.set d.options.untyped = .ok set ∧ d.IsWritable ∧
      (∀ axis, .label axis ∈ touched .resets unset) ∧
      InOrder .assigns [.fill, .range, .labels, .titles] set ∧
      ∀ s, s ∈ touched .assigns set ↔ s ∈ touched .resets unset ∧ s.dimension ≠ .labels := by
  intro ticks d
  have hwritable : d.IsWritable := by
    refine ⟨fun i hi => ?_, some (.x _ _), rfl⟩
    rw [List.mem_singleton.1 (hi : i ∈ [4])]
    exact Datum.lt_unwritable (by decide : 4 < 10 ^ 1) (by decide)
  obtain ⟨unset, hunset, -, hboth, hset, hundoes⟩ := unset_undoes_set d
  obtain ⟨set, hset⟩ := hset hwritable
  have hnames (s : Setting) : d.NamesNoAxis s.dimension ↔ s.dimension = .labels := by
    rcases s with _ | axis | axis | axis <;> simp [NamesNoAxis, Setting.dimension, d, ticks]
  refine ⟨unset, set, hunset, hset, hwritable, fun axis => hboth _ ((hnames _).2 rfl),
    (hundoes set hset).1, fun s => ?_⟩
  rw [(hundoes set hset).2, hnames]

end Dimensions.Typed

end PlotPipe
