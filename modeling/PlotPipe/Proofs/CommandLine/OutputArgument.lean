import PlotPipe.CommandLine.Plan
import PlotPipe.Proofs.Outcome
import PlotPipe.Proofs.Text.Spelling
/-!
# Command line — the grammar of outputs

An argument for the output is the name of a window, or the name of a file
format with a colon and a path behind it (`Describes`). It is read so
with one exception: behind the name of a window a colon and anything else
may stand, which is dropped (`Overlong`). For every other argument the
grammar is exact (`keepsGrammar_iff`).
-/

namespace PlotPipe

namespace Output

/-- The windows by name. -/
inductive NamesWindow : String → Terminal → Prop
  | wxt : NamesWindow "wxt" .wxt
  | x11 : NamesWindow "x11" .x11
  | qt : NamesWindow "qt" .qt

/-- The file formats by name, as terminals that draw into a path. -/
inductive NamesFormat : String → (String → Terminal) → Prop
  | png : NamesFormat "png" fun path => .png (.text path)
  | eps : NamesFormat "eps" fun path => .eps (.text path)

/-- An argument describes a terminal: a window by its name, or a file by
the name of its format and, behind the first colon, its path. -/
inductive Describes : List Char → Terminal → Prop
  | window {name : String} {terminal : Terminal} {argument : List Char} :
      NamesWindow name terminal → Text.Spells name argument → ':' ∉ argument →
      Describes argument terminal
  | file {name : String} {terminal : String → Terminal} {kind path : List Char} :
      NamesFormat name terminal → Text.Spells name kind → ':' ∉ kind → path ≠ [] →
      Describes (kind ++ ':' :: path) (terminal (String.ofList path))

/-- An argument names a window and goes on behind a colon. -/
inductive Overlong : List Char → Terminal → Prop
  | window {name : String} {terminal : Terminal} {kind rest : List Char} :
      NamesWindow name terminal → Text.Spells name kind → ':' ∉ kind →
      Overlong (kind ++ ':' :: rest) terminal

/-- An argument is taken as what it describes, and refused as a wrong
value if it describes nothing. -/
def KeepsGrammar (argument : String) (font : Option String) : Prop :=
  (∀ terminal, Describes argument.toList terminal →
    ofArgument argument font = .ok (Output.record terminal.toDatum (.ofOption .text font))) ∧
  ((∀ terminal, ¬ Describes argument.toList terminal) →
    ∃ failure, ofArgument argument font = .error failure ∧ failure.kind = .value)

variable {name name' word argument : String} {kind path : List Char} {terminal : Terminal}
  {format : String → Terminal} {font : Option String}

/-! ## The parts of an argument -/

/-- The terminal of the part before the first colon and the one behind
it. -/
def ofParts (kind path : String) : Except Failure Terminal :=
  match fileTerminals.lookup (lookupForm kind) with
  | some terminal =>
    if path.isEmpty then .error (.argument (.outputWithoutPath (lookupForm kind)))
    else .ok (terminal path)
  | none => Terminal.ofName (Text.literal (lookupForm kind)) (lookupForm kind)

theorem terminalOfArgument_of_append (hargument : argument.toList = kind ++ ':' :: path)
    (hkind : ':' ∉ kind) :
    terminalOfArgument argument = ofParts (String.ofList kind) (String.ofList path) := by
  unfold terminalOfArgument
  rw [hargument, Text.cutAt?_append_cons hkind]
  dsimp only
  unfold ofParts
  cases fileTerminals.lookup (lookupForm (String.ofList kind)) <;> rfl

theorem terminalOfArgument_of_not_mem (h : ':' ∉ argument.toList) :
    terminalOfArgument argument = ofParts argument "" := by
  unfold terminalOfArgument
  rw [Text.cutAt?_of_not_mem h]
  dsimp only
  unfold ofParts
  cases fileTerminals.lookup (lookupForm argument) <;> rfl

theorem NamesWindow.letters (h : NamesWindow name terminal) :
    ∀ n ∈ name.toList, n ∈ Text.plainLetters := by
  cases h <;> exact List.all_iff_forall_prop.1 (by decide)

theorem NamesFormat.letters (h : NamesFormat name format) :
    ∀ n ∈ name.toList, n ∈ Text.plainLetters := by
  cases h <;> exact List.all_iff_forall_prop.1 (by decide)

/-- The name of a format needs a path. -/
theorem ofParts_of_format (hname : NamesFormat name format) (h : Text.Spells name word.toList)
    (path : String) : ofParts word path =
      if path.isEmpty then .error (.argument (.outputWithoutPath name)) else .ok (format path) := by
  rw [ofParts, (lookupForm_eq_iff hname.letters).2 h]
  cases hname <;> rfl

/-- The name of a window needs none. -/
theorem ofParts_of_window (hname : NamesWindow name terminal) (h : Text.Spells name word.toList)
    (path : String) : ofParts word path = .ok terminal := by
  have hagain : Terminal.ofName (Text.literal name) name = .ok terminal := by
    rw [Terminal.ofName, (lookupForm_eq_iff hname.letters).2 (Text.spells_self name)]
    cases hname <;> rfl
  rw [ofParts, (lookupForm_eq_iff hname.letters).2 h, hagain]
  cases hname <;> rfl

/-- Other words are refused. -/
theorem ofParts_of_neither
    (hwindow : ∀ name terminal, NamesWindow name terminal → ¬ Text.Spells name word.toList)
    (hformat : ∀ name format, NamesFormat name format → ¬ Text.Spells name word.toList)
    (path : String) : ∃ failure, ofParts word path = .error failure ∧ failure.kind = .value := by
  have hformats : fileTerminals.lookup (lookupForm word) = none := by
    have hne : ∀ {name format}, NamesFormat name format → lookupForm word ≠ name :=
      fun hname hform => hformat _ _ hname ((lookupForm_eq_iff hname.letters).1 hform)
    simp [fileTerminals, List.lookup_eq_none_iff, hne .png, hne .eps]
  have hwindows : Terminal.windows.lookup (lookupForm (lookupForm word)) = none := by
    have hne : ∀ {name terminal}, NamesWindow name terminal → lookupForm (lookupForm word) ≠ name :=
      fun hname hform => hwindow _ _ hname ((lookupForm_lookupForm_eq_iff hname.letters).1 hform)
    simp [Terminal.windows, List.lookup_eq_none_iff, hne .wxt, hne .x11, hne .qt]
  rw [ofParts, hformats]
  dsimp only
  rw [Terminal.ofName, hwindows]
  exact ⟨_, rfl, rfl⟩

/-! ## The grammar -/

theorem Describes.terminalOfArgument_eq (h : Describes argument.toList terminal) :
    terminalOfArgument argument = .ok terminal := by
  generalize hargument : argument.toList = cs at h
  cases h with
  | window hname hspells hcolon =>
    subst hargument
    rw [terminalOfArgument_of_not_mem hcolon, ofParts_of_window hname hspells]
  | file hname hspells hcolon hpath =>
    rw [terminalOfArgument_of_append hargument hcolon,
      ofParts_of_format hname (by rwa [String.toList_ofList]), if_neg]
    rwa [String.isEmpty_iff, String.ofList_eq_empty_iff]

theorem Overlong.terminalOfArgument_eq (h : Overlong argument.toList terminal) :
    terminalOfArgument argument = .ok terminal := by
  generalize hargument : argument.toList = cs at h
  cases h with
  | window hname hspells hcolon =>
    rw [terminalOfArgument_of_append hargument hcolon,
      ofParts_of_window hname (by rwa [String.toList_ofList])]

/-- No window has the name of a format. -/
theorem NamesWindow.not_spells (hname : NamesWindow name terminal) (hname' : NamesFormat name' format)
    (h : Text.Spells name kind) : ¬ Text.Spells name' kind := by
  intro h'
  rw [← String.toList_ofList (l := kind)] at h h'
  have hform := (lookupForm_eq_iff hname.letters).2 h
  rw [(lookupForm_eq_iff hname'.letters).2 h'] at hform
  cases hname <;> cases hname' <;> exact absurd hform (by decide)

/-- An argument that goes on behind the name of a window describes
nothing. -/
theorem Overlong.not_describes {cs : List Char} {terminal' : Terminal} (h : Overlong cs terminal) :
    ¬ Describes cs terminal' := by
  cases h with
  | @window name _ kind rest hname hspells hcolon =>
    intro h'
    generalize hcs : kind ++ ':' :: rest = cs at h'
    cases h' with
    | window _ _ hcolon' =>
      rw [← hcs] at hcolon'
      exact hcolon' (by simp)
    | file hname' hspells' hcolon' =>
      have hcut := congrArg (Text.cutAt? ':') hcs
      rw [Text.cutAt?_append_cons hcolon, Text.cutAt?_append_cons hcolon'] at hcut
      cases hcut
      exact hname.not_spells hname' hspells hspells'

/-- Any other argument is refused as a wrong value. -/
theorem exists_terminalOfArgument_eq_error
    (hdescribes : ∀ terminal, ¬ Describes argument.toList terminal)
    (hoverlong : ∀ terminal, ¬ Overlong argument.toList terminal) :
    ∃ failure, terminalOfArgument argument = .error failure ∧ failure.kind = .value := by
  by_cases hcolon : ':' ∈ argument.toList
  · obtain ⟨kind, path, hargument, hkind⟩ := List.eq_append_cons_of_mem hcolon
    rw [terminalOfArgument_of_append hargument hkind]
    rw [hargument] at hdescribes hoverlong
    by_cases hformat : ∃ name format, NamesFormat name format ∧ Text.Spells name kind
    · obtain ⟨name, format, hname, hspells⟩ := hformat
      have hpath : path = [] := by
        by_contra hpath
        exact hdescribes _ (.file hname hspells hkind hpath)
      rw [ofParts_of_format hname (by rwa [String.toList_ofList]), hpath]
      exact ⟨_, rfl, rfl⟩
    · refine ofParts_of_neither (fun name terminal hname hspells => ?_)
        (fun name format hname hspells => ?_) _
      · rw [String.toList_ofList] at hspells
        exact hoverlong _ (.window hname hspells hkind)
      · rw [String.toList_ofList] at hspells
        exact hformat ⟨name, format, hname, hspells⟩
  · rw [terminalOfArgument_of_not_mem hcolon]
    by_cases hformat : ∃ name format, NamesFormat name format ∧ Text.Spells name argument.toList
    · obtain ⟨name, format, hname, hspells⟩ := hformat
      rw [ofParts_of_format hname hspells]
      exact ⟨_, rfl, rfl⟩
    · exact ofParts_of_neither (fun name terminal hname hspells =>
        hdescribes _ (.window hname hspells hcolon))
        (fun name format hname hspells => hformat ⟨name, format, hname, hspells⟩) _

theorem not_keepsGrammar_of_overlong (h : Overlong argument.toList terminal) :
    ¬ KeepsGrammar argument font := by
  rintro ⟨-, hrefused⟩
  obtain ⟨failure, hfailure, -⟩ := hrefused fun _ => h.not_describes
  rw [ofArgument, h.terminalOfArgument_eq] at hfailure
  cases hfailure

/-- **The grammar of outputs is exact** but for one thing: behind the name
of a window, a colon and what follows it are dropped. -/
theorem keepsGrammar_iff (argument : String) (font : Option String) :
    (KeepsGrammar argument font ↔ ∀ terminal, ¬ Overlong argument.toList terminal) ∧
      ∀ terminal, Overlong argument.toList terminal →
        ofArgument argument font
          = .ok (Output.record terminal.toDatum (.ofOption .text font)) := by
  refine ⟨⟨fun h terminal hoverlong => not_keepsGrammar_of_overlong hoverlong h, fun h => ⟨?_, ?_⟩⟩,
    fun terminal hoverlong => ?_⟩
  · intro terminal hdescribes
    rw [ofArgument, hdescribes.terminalOfArgument_eq]
    rfl
  · intro hdescribes
    obtain ⟨failure, hfailure, hkind⟩ := exists_terminalOfArgument_eq_error hdescribes h
    rw [ofArgument, hfailure]
    exact ⟨failure, rfl, hkind⟩
  · rw [ofArgument, hoverlong.terminalOfArgument_eq]
    rfl

/-- So a path behind the name of a window is accepted, and nothing is
written there. -/
theorem not_keepsGrammar_windowWithPath : ¬ KeepsGrammar "wxt:chart.png" none := by
  have hoverlong : Overlong "wxt:chart.png".toList .wxt :=
    .window .wxt (Text.spells_self "wxt") (by decide : ':' ∉ "wxt".toList)
  exact not_keepsGrammar_of_overlong hoverlong

end Output

end PlotPipe
