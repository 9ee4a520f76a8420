import Mathlib.Data.List.Forall2
import PlotPipe.Proofs.Script.Layout
import PlotPipe.Proofs.Script.Quoted
import PlotPipe.Proofs.Script.Typed
/-!
# Scripts — what settings can be told from their lines

Settings that have the same lines are the same (`normal_eq_of_directives`),
up to what their lines do not show: the line ends of texts, bounds that
are written alike, and labels or ticks that say nothing.

The lines fall into sections by how they open (`sections_inj`), one for
each setting. A line is read from left to right: a quoted text ends by
itself, a number ends at a character that numbers do not have, and what
may be missing is told from what follows by how that opens.
-/

namespace PlotPipe

namespace Script

variable {a a' b b' r r' : String}

/-! ## Telling parts apart -/

/-- Texts that differ are told apart whatever follows them. -/
theorem Diverge.append_ne (h : Diverge a b) : a ++ r ≠ b ++ r' := by
  intro heq
  have ha : a.toList <+: (a ++ r).toList := by
    rw [String.toList_append]
    exact List.prefix_append _ _
  have hb : b.toList <+: (a ++ r).toList := by
    rw [heq, String.toList_append]
    exact List.prefix_append _ _
  rcases List.prefix_or_prefix_of_prefix ha hb with hprefix | hprefix
  · exact h.1 hprefix
  · exact h.2 hprefix

/-- Values that are told from their texts. -/
theorem map_eq_map_of_imp {α β γ : Type} {f : α → β} {g : α → γ} {x y : Option α}
    (hfg : ∀ a b, f a = f b → g a = g b) (h : x.map f = y.map f) : x.map g = y.map g := by
  cases x with
  | none => rw [Option.map_eq_none_iff.1 h.symm]
  | some a =>
    obtain ⟨b, rfl, hb⟩ := Option.map_eq_some_iff.1 h.symm
    exact congrArg some (hfg a b hb.symm)

/-- The characters of one kind at the start of a text. -/
theorem takeWhile_toList_append {p : Char → Bool} (ha : ∀ c ∈ a.toList, p c)
    (hr : ∀ c ∈ r.toList.head?, p c = false) : (a ++ r).toList.takeWhile p = a.toList := by
  rw [String.toList_append, List.takeWhile_append_of_pos ha]
  cases hlist : r.toList with
  | nil => rw [List.takeWhile_nil, List.append_nil]
  | cons c cs =>
    rw [hlist] at hr
    rw [List.takeWhile_cons_of_neg (by simp [hr c rfl]), List.append_nil]

/-- **A part of characters of one kind** is told from what follows it when
that starts with a character of another. -/
theorem append_inj_of_kind {p : Char → Bool} (ha : ∀ c ∈ a.toList, p c)
    (ha' : ∀ c ∈ a'.toList, p c) (hr : ∀ c ∈ r.toList.head?, p c = false)
    (hr' : ∀ c ∈ r'.toList.head?, p c = false) (h : a ++ r = a' ++ r') : a = a' ∧ r = r' := by
  have haa' : a = a' := by
    rw [← String.toList_inj, ← takeWhile_toList_append ha hr, h, takeWhile_toList_append ha' hr']
  subst haa'
  exact ⟨rfl, (String.append_right_inj a).1 h⟩

/-- A number is told from what follows it. -/
theorem scriptText_append_inj {x x' : Binary64} (hr : ∀ c ∈ r.toList.head?, isNumeral c = false)
    (hr' : ∀ c ∈ r'.toList.head?, isNumeral c = false)
    (h : x.scriptText ++ r = x'.scriptText ++ r') : x.scriptText = x'.scriptText ∧ r = r' :=
  append_inj_of_kind (fun _ => isNumeral_of_mem_scriptText) (fun _ => isNumeral_of_mem_scriptText)
    hr hr' h

theorem toString_nat_inj {m n : Nat} (h : toString m = toString n) : m = n := by
  have hdigits : Nat.toDigits 10 m = Nat.toDigits 10 n := by
    rw [← decimalDigits, ← decimalDigits, ← toList_toString, ← toList_toString, h]
  rw [← @Nat.ofDigitChars_ten_toDigits m, hdigits, Nat.ofDigitChars_ten_toDigits]

/-- A whole number can be told from its digits. -/
theorem toString_int_inj {i j : Int} (h : toString i = toString j) : i = j := by
  -- A sign tells the negative numbers from the others.
  have hsign : ∀ m n : Nat, toString m ≠ "-" ++ toString n := by
    intro m n heq
    have hmem : '-' ∈ (toString m).toList := by
      rw [heq, String.toList_append]
      exact List.mem_append_left _ (by decide)
    exact absurd (isDigit_of_mem_decimalDigits (toList_toString m ▸ hmem)) (by decide)
  cases i with
  | ofNat m =>
    cases j with
    | ofNat n => exact congrArg Int.ofNat (toString_nat_inj h)
    | negSucc n => exact absurd h (hsign m (n + 1))
  | negSucc m =>
    cases j with
    | ofNat n => exact absurd h.symm (hsign n (m + 1))
    | negSucc n =>
      have hnat : m + 1 = n + 1 := toString_nat_inj ((String.append_right_inj "-").1 h)
      rw [Nat.succ.inj hnat]

/-- A text that is over, or goes on with another command. -/
def Closed (s : String) : Prop := ∀ c ∈ s.toList.head?, c = ';'

instance : DecidablePred Closed := fun s =>
  decidable_of_iff (s.toList.head?.all (· == ';')) (by simp [Closed, Option.all_eq_true])

theorem Closed.append (h : Closed a) (hne : a ≠ "") : Closed (a ++ b) := by
  obtain ⟨c, cs, hcs⟩ : ∃ c cs, a.toList = c :: cs :=
    List.exists_cons_of_ne_nil fun hnil => hne (String.toList_eq_nil_iff.1 hnil)
  unfold Closed at h ⊢
  rw [String.toList_append, hcs, List.cons_append, List.head?_cons]
  rwa [hcs, List.head?_cons] at h

theorem Closed.apart (h : Closed r) : Apart r := fun hhead => absurd (h '\'' hhead) (by decide)

/-- No number goes on with a text that is over or goes on with another
command. -/
theorem Closed.not_isNumeral (h : Closed r) : ∀ c ∈ r.toList.head?, isNumeral c = false := by
  intro c hc
  rw [h c hc]
  rfl

theorem Closed.not_opens (h : Closed r) (ha : a.toList.head? = some ' ') : ¬ Opens a r := by
  rintro ⟨rest, hrest⟩
  have hhead : r.toList.head? = some ' ' := by
    rw [← hrest, List.head?_append, ha, Option.some_or]
  exact absurd (h ' ' hhead) (by decide)

/-- A whole number is told from what follows it. -/
theorem toString_append_inj {i j : Int} (hr : ∀ c ∈ r.toList.head?, isNumeral c = false)
    (hr' : ∀ c ∈ r'.toList.head?, isNumeral c = false)
    (h : toString i ++ r = toString j ++ r') : i = j ∧ r = r' := by
  have hkind : ∀ i : Int, ∀ c ∈ (toString i).toList, isNumeral c = true := by
    intro i c hc
    rcases isDigit_or_eq_of_mem_toString hc with hdigit | rfl
    · exact isNumeral_of_isDigit hdigit
    · rfl
  obtain ⟨hij, hrr'⟩ := append_inj_of_kind (hkind i) (hkind j) hr hr' h
  exact ⟨toString_int_inj hij, hrr'⟩

/-! ## Parts that may be missing -/

/-- A part that may be missing; where it is there, it opens in one
way. -/
def optionalPart {α : Type} (opening : String) (text : α → String) : Option α → String
  | none => ""
  | some value => opening ++ text value

section OptionalPart

variable {α β : Type} {opening : String} {text : α → String} {x y : Option α}

/-- What holds of the text behind a part and of all texts that open like
the part holds with the part and without it. -/
theorem optionalPart_append_induction (P : String → Prop) (hr : P r)
    (hopening : ∀ rest, P (opening ++ rest)) (x : Option α) :
    P (optionalPart opening text x ++ r) := by
  cases x with
  | none =>
    rw [optionalPart, String.empty_append]
    exact hr
  | some value =>
    rw [optionalPart, String.append_assoc]
    exact hopening _

theorem opens_optionalPart (value : α) :
    Opens opening (optionalPart opening text (some value) ++ r) := by
  rw [optionalPart, String.append_assoc, Opens, String.toList_append]
  exact List.prefix_append _ _

/-- **A part that may be missing is told from what follows it** when that
does not open like the part. -/
theorem optionalPart_append_inj (view : α → β) (hr : ¬ Opens opening r) (hr' : ¬ Opens opening r')
    (hview : ∀ {u v : α}, text u ++ r = text v ++ r' → view u = view v ∧ r = r')
    (h : optionalPart opening text x ++ r = optionalPart opening text y ++ r') :
    x.map view = y.map view ∧ r = r' := by
  cases x with
  | none =>
    cases y with
    | none => exact ⟨rfl, (String.append_right_inj _).1 h⟩
    | some v =>
      rw [optionalPart, String.empty_append] at h
      exact absurd (h ▸ opens_optionalPart v) hr
  | some u =>
    cases y with
    | none =>
      rw [optionalPart.eq_def opening text none, String.empty_append] at h
      exact absurd (h ▸ opens_optionalPart u) hr'
    | some v =>
      simp only [optionalPart, String.append_assoc, String.append_right_inj] at h
      obtain ⟨huv, hrest⟩ := hview h
      exact ⟨congrArg some huv, hrest⟩

end OptionalPart

end Script

open Script

variable {a a' r r' : String}

/-! ## Output, filling and range -/

namespace Output

/-- The part of a line for a font. -/
def fontText : Option String → String
  | none => ""
  | some font => " font " ++ quote font

/-- The line of an output. -/
def Typed.line (output : Typed String) : String :=
  match output.terminal with
  | .wxt => "set terminal wxt persist" ++ fontText output.font ++ "; unset output"
  | .x11 => "set terminal x11 persist" ++ fontText output.font ++ "; unset output"
  | .qt => "set terminal qt persist" ++ fontText output.font ++ "; unset output"
  | .png path =>
    "set terminal pngcairo" ++ fontText output.font ++ "; set output " ++ quote path
  | .eps path =>
    "set terminal postscript eps enhanced color" ++ fontText output.font ++ "; set output "
      ++ quote path

theorem directive_datum (output : Typed String) : directive output.datum = .ok output.line := by
  obtain ⟨terminal, font⟩ := output
  cases terminal <;> cases font <;> rfl

theorem fontText_eq (font : Option String) : fontText font = optionalPart " font " quote font := by
  cases font <;> rfl

/-- A font is told from what follows it, and so is that there is none. -/
theorem fontText_append_inj {font font' : Option String} (hr : Closed r) (hr' : Closed r')
    (h : fontText font ++ r = fontText font' ++ r') :
    font.map flattened = font'.map flattened ∧ r = r' := by
  rw [fontText_eq, fontText_eq] at h
  exact optionalPart_append_inj flattened (hr.not_opens (by decide)) (hr'.not_opens (by decide))
    (quote_append_inj hr.apart hr'.apart) h

/-- **An output is told from its line.** -/
theorem Typed.map_eq_of_line_eq {output output' : Typed String} (h : output.line = output'.line) :
    output.map flattened = output'.map flattened := by
  obtain ⟨terminal, font⟩ := output
  obtain ⟨terminal', font'⟩ := output'
  have hwindow : ∀ {kind : String},
      kind ++ (fontText font ++ "; unset output") = kind ++ (fontText font' ++ "; unset output") →
        font.map flattened = font'.map flattened := fun h =>
    (fontText_append_inj (by decide) (by decide) ((String.append_right_inj _).1 h)).1
  have hfile : ∀ {kind path path' : String},
      kind ++ (fontText font ++ ("; set output " ++ quote path))
          = kind ++ (fontText font' ++ ("; set output " ++ quote path')) →
        font.map flattened = font'.map flattened ∧ flattened path = flattened path' := by
    intro kind path path' h
    obtain ⟨hfont, hpath⟩ := fontText_append_inj (Closed.append (by decide) (by decide))
      (Closed.append (by decide) (by decide)) ((String.append_right_inj _).1 h)
    exact ⟨hfont, flattened_eq_of_quote_eq ((String.append_right_inj _).1 hpath)⟩
  cases terminal <;> cases terminal' <;> simp only [line, String.append_assoc] at h
  -- The lines of two terminals of different kinds open differently.
  case wxt.wxt => rw [map, map, hwindow h]
  case x11.x11 => rw [map, map, hwindow h]
  case qt.qt => rw [map, map, hwindow h]
  case png.png path path' =>
    rw [map, map, (hfile h).1, Terminal.Typed.map, Terminal.Typed.map, (hfile h).2]
  case eps.eps path path' =>
    rw [map, map, (hfile h).1, Terminal.Typed.map, Terminal.Typed.map, (hfile h).2]
  all_goals exact absurd h (Diverge.append_ne (by decide))

end Output

namespace Filling.Typed

/-- The line of a filling. -/
def line : Typed → String
  | solid => "set style fill solid"
  | pattern index => "set style fill pattern " ++ toString index

theorem eq_line_of_directive {fill : Typed} (h : directive fill.datum = .ok a) : a = fill.line := by
  rw [directive, writeWith_datum] at h
  cases fill with
  | solid => exact (Except.ok.inj h).symm
  | pattern index =>
    obtain ⟨text, htext, rfl⟩ := map_eq_ok.1 h
    rw [Datum.eq_display_of_written htext]
    rfl

/-- **A filling is told from its line.** -/
theorem line_inj {fill fill' : Typed} (h : fill.line = fill'.line) : fill = fill' := by
  have hdiverge : ∀ index : Int, "set style fill " ++ "solid" ≠
      "set style fill " ++ ("pattern " ++ toString index) := fun index heq =>
    Diverge.append_ne (r := "") (by decide : Diverge "solid" "pattern ")
      (by simpa using (String.append_right_inj _).1 heq)
  cases fill with
  | solid =>
    cases fill' with
    | solid => rfl
    | pattern index => exact absurd h (hdiverge index)
  | pattern index =>
    cases fill' with
    | solid => exact absurd h.symm (hdiverge index)
    | pattern index' => rw [toString_int_inj ((String.append_right_inj _).1 h)]

end Filling.Typed

namespace AxisRange

/-- The text of two bounds. -/
def spanText (lo hi : String) : String := "[" ++ lo ++ ":" ++ hi ++ "]"

/-- The line of a range whose bounds are written already. -/
def Typed.line : Typed String → String
  | x lo hi => "set xrange " ++ spanText lo hi
  | y lo hi => "set yrange " ++ spanText lo hi
  | xy xlo xhi ylo yhi =>
    "set xrange " ++ spanText xlo xhi ++ "; set yrange " ++ spanText ylo yhi

theorem directive_real (range : Typed Binary64) :
    directive (range.map .real).datum = .ok (range.map Binary64.scriptText).line := by
  rw [directive_datum]
  cases range <;> rfl

variable {lo lo' hi hi' : Binary64}

/-- The numbers of a span are told from it, and what follows it. -/
theorem spanText_append_inj
    (h : spanText lo.scriptText hi.scriptText ++ r = spanText lo'.scriptText hi'.scriptText ++ r') :
    lo.scriptText = lo'.scriptText ∧ hi.scriptText = hi'.scriptText ∧ r = r' := by
  simp only [spanText, String.append_assoc, String.append_right_inj] at h
  obtain ⟨hlo, h⟩ := scriptText_append_inj (by simp [String.toList_append, isNumeral])
    (by simp [String.toList_append, isNumeral]) h
  obtain ⟨hhi, h⟩ := scriptText_append_inj (by simp [String.toList_append, isNumeral])
    (by simp [String.toList_append, isNumeral]) ((String.append_right_inj _).1 h)
  exact ⟨hlo, hhi, (String.append_right_inj _).1 h⟩

theorem spanText_inj
    (h : spanText lo.scriptText hi.scriptText = spanText lo'.scriptText hi'.scriptText) :
    lo.scriptText = lo'.scriptText ∧ hi.scriptText = hi'.scriptText := by
  have hnothing := spanText_append_inj (congrArg (fun span => span ++ "") h)
  exact ⟨hnothing.1, hnothing.2.1⟩

/-- **A range is told from its line**, up to bounds that are written
alike. -/
theorem Typed.map_eq_of_line_eq {range range' : Typed Binary64}
    (h : (range.map Binary64.scriptText).line = (range'.map Binary64.scriptText).line) :
    range.map Binary64.scriptText = range'.map Binary64.scriptText := by
  -- The line of both axes goes on where that of the first one is over.
  have hshort : ∀ {lo hi lo' hi' : Binary64} {rest : String}, rest ≠ "" →
      "set xrange " ++ spanText lo.scriptText hi.scriptText ≠
        "set xrange " ++ (spanText lo'.scriptText hi'.scriptText ++ rest) := by
    intro lo hi lo' hi' rest hrest h
    rw [String.append_right_inj] at h
    exact hrest (spanText_append_inj (r := "") (by rwa [String.append_empty])).2.2.symm
  have hrest : ∀ {lo hi : Binary64},
      "; set yrange " ++ spanText lo.scriptText hi.scriptText ≠ "" := by
    intro lo hi h
    exact absurd (String.append_eq_empty_iff.1 h).1 (by decide)
  cases range <;> cases range' <;> simp only [map, line, String.append_assoc] at h
  case x.x =>
    obtain ⟨hlo, hhi⟩ := spanText_inj ((String.append_right_inj _).1 h)
    rw [map, map, hlo, hhi]
  case y.y =>
    obtain ⟨hlo, hhi⟩ := spanText_inj ((String.append_right_inj _).1 h)
    rw [map, map, hlo, hhi]
  case xy.xy =>
    obtain ⟨hxlo, hxhi, h⟩ := spanText_append_inj ((String.append_right_inj _).1 h)
    obtain ⟨hylo, hyhi⟩ := spanText_inj ((String.append_right_inj _).1 h)
    rw [map, map, hxlo, hxhi, hylo, hyhi]
  case x.xy => exact absurd h (hshort hrest)
  case xy.x => exact absurd h.symm (hshort hrest)
  all_goals exact absurd h (Diverge.append_ne (by decide))

end AxisRange

/-! ## Commands for both axes -/

namespace Script

/-- What follows the command for the x axis on its line. -/
def following : Option String → String
  | none => ""
  | some command => "; " ++ command

theorem closed_following (command : Option String) : Closed (following command) := by
  cases command with
  | none => decide
  | some command => exact Closed.append (by decide) (by decide)

theorem following_inj {c c' : Option String} (h : following c = following c') : c = c' := by
  have hne : ∀ command : String, "" ≠ "; " ++ command := fun command h =>
    absurd (String.append_eq_empty_iff.1 h.symm).1 (by decide)
  cases c with
  | none =>
    cases c' with
    | none => rfl
    | some command => exact absurd h (hne command)
  | some command =>
    cases c' with
    | none => exact absurd h.symm (hne command)
    | some command' => rw [(String.append_right_inj _).1 h]

theorem commandLine?_cons (command : String) (other : Option String) :
    commandLine? (command :: other.toList) = some (command ++ following other) := by
  cases other with
  | none => simp [commandLine?, joinCommands, following]
  | some other => simp [commandLine?, joinCommands, following, String.append_assoc]

theorem commandLine?_toList (command : Option String) : commandLine? command.toList = command := by
  cases command <;> simp [commandLine?, joinCommands]

section Axes

variable {α β : Type} {x x' y y' : Option α}

/-- **What is set for the axes is told from the line** that sets it, as
far as it is told from the command for one axis and from what follows
it. -/
theorem commandLine?_inj (command : String → α → String) (view : α → β)
    (hview : ∀ {axis : String} {u v : α} {r r' : String}, Closed r → Closed r' →
      command axis u ++ r = command axis v ++ r' → view u = view v ∧ r = r')
    (hne : ∀ {u v : α} {r r' : String}, command "x" u ++ r ≠ command "y" v ++ r')
    (h : commandLine? ((x.map (command "x")).toList ++ (y.map (command "y")).toList) =
      commandLine? ((x'.map (command "x")).toList ++ (y'.map (command "y")).toList)) :
    x.map view = x'.map view ∧ y.map view = y'.map view := by
  have hy : y.map (command "y") = y'.map (command "y") → y.map view = y'.map view :=
    map_eq_map_of_imp fun u v huv =>
      (hview (by decide) (by decide) (congrArg (fun text => text ++ "") huv)).1
  -- A line with a command for the y axis only.
  have honly : ∀ {u : α} {rest y : Option α},
      some (command "x" u ++ following (rest.map (command "y"))) ≠ y.map (command "y") := by
    intro u rest y h
    obtain ⟨v, -, hv⟩ := Option.map_eq_some_iff.1 h.symm
    have heq : command "x" u ++ following (rest.map (command "y")) = command "y" v ++ "" := by
      rw [String.append_empty, hv]
    exact hne heq
  cases x with
  | none =>
    cases x' with
    | none =>
      simp only [Option.map_none, Option.toList_none, List.nil_append, commandLine?_toList] at h
      exact ⟨rfl, hy h⟩
    | some v =>
      simp only [Option.map_none, Option.toList_none, List.nil_append, commandLine?_toList,
        Option.map_some, Option.toList_some, List.singleton_append, commandLine?_cons] at h
      exact absurd h.symm honly
  | some u =>
    cases x' with
    | none =>
      simp only [Option.map_none, Option.toList_none, List.nil_append, commandLine?_toList,
        Option.map_some, Option.toList_some, List.singleton_append, commandLine?_cons] at h
      exact absurd h honly
    | some v =>
      simp only [Option.map_some, Option.toList_some, List.singleton_append, commandLine?_cons,
        Option.some.injEq] at h
      obtain ⟨huv, hrest⟩ := hview (closed_following _) (closed_following _) h
      exact ⟨congrArg some huv, hy (following_inj hrest)⟩

end Axes

end Script

namespace Labels

/-- The command for the label of an axis. -/
def labelText (axis text : String) : String := "set " ++ axis ++ "label " ++ quote text

theorem command_text (axis : String) (label : Option String) :
    command axis (.ofOption .text label) = .ok (label.map (labelText axis)).toList := by
  cases label <;> rfl

/-- The line of labels, where they say something. -/
def Typed.line? (labels : Typed String) : Option String :=
  commandLine? ((labels.x.map (labelText "x")).toList ++ (labels.y.map (labelText "y")).toList)

theorem directive?_datum (labels : Typed String) : directive? labels.datum = .ok labels.line? := by
  rw [Typed.datum, directive?_record, command_text, command_text]
  rfl

/-- **Labels are told from their line.** -/
theorem Typed.map_eq_of_line?_eq {labels labels' : Typed String}
    (h : labels.line? = labels'.line?) : labels.map flattened = labels'.map flattened := by
  obtain ⟨hx, hy⟩ := commandLine?_inj labelText flattened
    (fun {axis u v r r'} hr hr' h => by
      simp only [labelText, String.append_assoc, String.append_right_inj] at h
      exact quote_append_inj hr.apart hr'.apart h)
    (fun {u v r r'} h => by
      simp only [labelText, String.append_assoc, String.append_right_inj] at h
      exact Diverge.append_ne (by decide) h) h
  rw [map, map, hx, hy]

end Labels

namespace Titles

/-- Names with their positions, from `position` on. -/
def nameTexts : Nat → List String → List String
  | _, [] => []
  | position, name :: rest =>
    (quote name ++ " " ++ toString position) :: nameTexts (position + 1) rest

/-- The part of a command for the names of ticks. -/
def namesText : Option (List String) → String
  | none => ""
  | some names => " (" ++ ", ".intercalate (nameTexts 0 names) ++ ")"

/-- The part of a command for the angle of ticks. -/
def angleText : Option Int → String
  | none => ""
  | some angle => " rotate by " ++ toString angle

namespace Ticks

/-- The command for the ticks of an axis. -/
def command (axis : String) (ticks : Ticks String) : String :=
  "set " ++ axis ++ "tics" ++ namesText ticks.names ++ angleText ticks.angle

/-- Ticks of which something is said. -/
def mentioned? {τ : Type} (ticks : Ticks τ) : Option (Ticks τ) :=
  if ticks.names.isNone && ticks.angle.isNone then none else some ticks

end Ticks

theorem placed_text (names : List String) (position : Nat) :
    placed position (names.map .text) = .ok (nameTexts position names) := by
  induction names generalizing position with
  | nil => rfl
  | cons name rest ih =>
    rw [List.map_cons, placed, ih]
    rfl

theorem namesPart_names (names : Option (List String)) :
    namesPart (.ofOption namesDatum names) = .ok (namesText names) := by
  cases names with
  | none => rfl
  | some names =>
    have hplaced := placed_text names 0
    simp only [Datum.ofOption, namesDatum, namesPart, Datum.items, hplaced, bind, Except.bind]
    rfl

theorem eq_angleText_of_anglePart {angle : Option Int}
    (h : anglePart (.ofOption .int angle) = .ok a) : a = angleText angle := by
  cases angle with
  | none => exact (Except.ok.inj h).symm
  | some angle =>
    obtain ⟨text, htext, rfl⟩ := map_eq_ok.1 h
    rw [Datum.eq_display_of_written htext]
    rfl

theorem eq_of_command {axis : String} {ticks : Ticks String} {commands : List String}
    (h : command axis (.ofOption namesDatum ticks.names) (.ofOption .int ticks.angle)
      = .ok commands) :
    commands = (ticks.mentioned?.map (Ticks.command axis)).toList := by
  rw [command_ofOption] at h
  unfold Ticks.mentioned?
  split at h
  · rename_i hnone
    rw [if_pos hnone]
    exact (Except.ok.inj h).symm
  · rename_i hsome
    obtain ⟨names, hnames, h⟩ := bind_eq_ok.1 h
    obtain ⟨angle, hangle, h⟩ := bind_eq_ok.1 h
    rw [namesPart_names] at hnames
    cases hnames
    rw [if_neg hsome, ← pure_eq_ok.1 h, eq_angleText_of_anglePart hangle]
    rfl

/-- The line of ticks, where something is said of them. -/
def Typed.line? (titles : Typed String) : Option String :=
  commandLine? ((titles.x.mentioned?.map (Ticks.command "x")).toList
    ++ (titles.y.mentioned?.map (Ticks.command "y")).toList)

theorem Typed.eq_line?_of_directive? {titles : Typed String} {line : Option String}
    (h : directive? titles.datum = .ok line) : line = titles.line? := by
  rw [Typed.datum, directive?_record] at h
  obtain ⟨x, hx, h⟩ := bind_eq_ok.1 h
  obtain ⟨y, hy, h⟩ := bind_eq_ok.1 h
  rw [← pure_eq_ok.1 h, eq_of_command hx, eq_of_command hy]
  rfl

/-- What follows the first name of a list. -/
def others : List String → String
  | [] => ""
  | text :: rest => ", " ++ ", ".intercalate (text :: rest)

theorem intercalate_nameTexts_cons (name : String) (rest : List String) (position : Nat) :
    ", ".intercalate (nameTexts position (name :: rest)) =
      quote name ++ (" " ++ (toString position ++ others (nameTexts (position + 1) rest))) := by
  cases rest with
  | nil => simp only [nameTexts, others, String.intercalate_singleton, String.append_empty,
      String.append_assoc]
  | cons name' rest => simp only [nameTexts, others, String.intercalate_cons_cons,
      String.append_assoc]

/-- A list that goes on is told from one that is over. -/
theorem intercalate_eq_of_others_eq {texts texts' : List String}
    (h : others texts ++ (")" ++ r) = others texts' ++ (")" ++ r')) :
    ", ".intercalate texts ++ (")" ++ r) = ", ".intercalate texts' ++ (")" ++ r') := by
  cases texts with
  | nil =>
    cases texts' with
    | nil => exact h
    | cons text' rest' =>
      rw [others, others, String.empty_append, String.append_assoc] at h
      exact absurd h (Diverge.append_ne (by decide))
  | cons text rest =>
    cases texts' with
    | nil =>
      rw [others, others, String.empty_append, String.append_assoc] at h
      exact absurd h (Diverge.append_ne (by decide))
    | cons text' rest' =>
      rw [others, others, String.append_assoc, String.append_assoc, String.append_right_inj] at h
      exact h

/-- **Names are told from their list**, and so is what follows it. Both
lists count their positions from the same one. -/
theorem nameTexts_append_inj {names names' : List String} {position : Nat}
    (h : ", ".intercalate (nameTexts position names) ++ (")" ++ r)
      = ", ".intercalate (nameTexts position names') ++ (")" ++ r')) :
    names.map flattened = names'.map flattened ∧ r = r' := by
  -- A list that is over is told from one that goes on with a name.
  have hover : ∀ {r : String} (name rest : String), ")" ++ r ≠ quote name ++ rest := by
    intro r name rest h
    have hhead := congrArg (fun s => s.toList.head?) h
    simp [String.toList_append, toList_quote] at hhead
  induction names generalizing names' position with
  | nil =>
    cases names' with
    | nil => exact ⟨rfl, by simpa [nameTexts] using h⟩
    | cons name' rest' =>
      rw [intercalate_nameTexts_cons, String.append_assoc] at h
      exact absurd (by simpa [nameTexts] using h) (hover _ _)
  | cons name rest ih =>
    cases names' with
    | nil =>
      rw [intercalate_nameTexts_cons, String.append_assoc] at h
      exact absurd (by simpa [nameTexts] using h.symm) (hover _ _)
    | cons name' rest' =>
      simp only [intercalate_nameTexts_cons, String.append_assoc] at h
      obtain ⟨hname, h⟩ := quote_append_inj (Apart.append (by decide) (by decide))
        (Apart.append (by decide) (by decide)) h
      simp only [String.append_right_inj] at h
      have hrest := ih (intercalate_eq_of_others_eq h)
      rw [List.map_cons, List.map_cons, hname, hrest.1]
      exact ⟨rfl, hrest.2⟩

theorem namesText_eq (names : Option (List String)) :
    namesText names =
      optionalPart " (" (fun names => ", ".intercalate (nameTexts 0 names) ++ ")") names := by
  cases names with
  | none => rfl
  | some names => rw [namesText, optionalPart, String.append_assoc]

/-- Names are told from what follows them when that is no list. -/
theorem namesText_append_inj {names names' : Option (List String)} (hr : ¬ Opens " (" r)
    (hr' : ¬ Opens " (" r') (h : namesText names ++ r = namesText names' ++ r') :
    names.map (List.map flattened) = names'.map (List.map flattened) ∧ r = r' := by
  rw [namesText_eq, namesText_eq] at h
  refine optionalPart_append_inj (List.map flattened) hr hr' (fun {u v} h => ?_) h
  rw [String.append_assoc, String.append_assoc] at h
  exact nameTexts_append_inj h

theorem angleText_eq (angle : Option Int) :
    angleText angle = optionalPart " rotate by " toString angle := by
  cases angle <;> rfl

/-- An angle is told from what follows it. -/
theorem angleText_append_inj {angle angle' : Option Int} (hr : Closed r) (hr' : Closed r')
    (h : angleText angle ++ r = angleText angle' ++ r') : angle = angle' ∧ r = r' := by
  rw [angleText_eq, angleText_eq] at h
  obtain ⟨hangle, hrest⟩ := optionalPart_append_inj id (hr.not_opens (by decide))
    (hr'.not_opens (by decide)) (toString_append_inj hr.not_isNumeral hr'.not_isNumeral) h
  exact ⟨by simpa using hangle, hrest⟩

/-- **Ticks are told from their command**, and so is what follows it. -/
theorem Ticks.command_append_inj {axis : String} {ticks ticks' : Ticks String} (hr : Closed r)
    (hr' : Closed r') (h : ticks.command axis ++ r = ticks'.command axis ++ r') :
    ticks.map flattened = ticks'.map flattened ∧ r = r' := by
  have hnames : ∀ {r : String} (angle : Option Int), Closed r →
      ¬ Opens " (" (angleText angle ++ r) := by
    intro r angle hr
    rw [angleText_eq]
    refine optionalPart_append_induction (fun text => ¬ Opens " (" text)
      (hr.not_opens (by decide)) (fun rest => ?_) angle
    rw [opens_append (by decide)]
    decide
  simp only [command, String.append_assoc, String.append_right_inj] at h
  obtain ⟨hnames, h⟩ := namesText_append_inj (hnames _ hr) (hnames _ hr') h
  obtain ⟨hangle, hrest⟩ := angleText_append_inj hr hr' h
  rw [map, map, hnames, hangle]
  exact ⟨rfl, hrest⟩

/-- Only the ticks of which nothing is said are not mentioned. -/
theorem Ticks.getD_mentioned? {τ : Type} (ticks : Ticks τ) : ticks.mentioned?.getD {} = ticks := by
  rcases ticks with ⟨_ | names, _ | angle⟩ <;> rfl

theorem Ticks.mentioned?_inj {τ : Type} {ticks ticks' : Ticks τ}
    (h : ticks.mentioned? = ticks'.mentioned?) : ticks = ticks' := by
  rw [← ticks.getD_mentioned?, h, ticks'.getD_mentioned?]

theorem Ticks.mentioned?_map {τ τ' : Type} (f : τ → τ') (ticks : Ticks τ) :
    (ticks.map f).mentioned? = ticks.mentioned?.map (map f) := by
  rcases ticks with ⟨_ | names, _ | angle⟩ <;> rfl

/-- **Ticks are told from their line.** -/
theorem Typed.map_eq_of_line?_eq {titles titles' : Typed String}
    (h : titles.line? = titles'.line?) : titles.map flattened = titles'.map flattened := by
  obtain ⟨hx, hy⟩ := commandLine?_inj Ticks.command (Ticks.map flattened)
    (fun hr hr' h => Ticks.command_append_inj hr hr' h)
    (fun {u v r r'} h => by
      simp only [Ticks.command, String.append_assoc, String.append_right_inj] at h
      exact Diverge.append_ne (by decide) h) h
  rw [← Ticks.mentioned?_map, ← Ticks.mentioned?_map] at hx hy
  rw [map, map, Ticks.mentioned?_inj hx, Ticks.mentioned?_inj hy]

end Titles

/-! ## The lines of all settings -/

namespace Script

/-- A line that opens in one of several ways. -/
def OpensIn (openings : List String) (line : String) : Prop := ∃ a ∈ openings, Opens a line

instance (openings : List String) : DecidablePred (OpensIn openings) := fun line =>
  inferInstanceAs (Decidable (∃ a ∈ openings, Opens a line))

theorem OpensIn.append {openings : List String} (h : OpensIn openings a) (b : String) :
    OpensIn openings (a ++ b) := by
  obtain ⟨opening, hmem, hopens⟩ := h
  refine ⟨opening, hmem, hopens.trans ?_⟩
  rw [String.toList_append]
  exact List.prefix_append _ _

/-- Several commands open as the first one does. -/
theorem opensIn_of_commandLine? {openings commands : List String}
    (h : ∀ command ∈ commands, OpensIn openings command) {line : String}
    (hline : line ∈ commandLine? commands) : OpensIn openings line := by
  cases commands with
  | nil => cases hline
  | cons command rest =>
    have hcommand := h command List.mem_cons_self
    cases hline
    cases rest with
    | nil => rwa [joinCommands, String.intercalate_singleton]
    | cons other rest =>
      rw [joinCommands, String.intercalate_cons_cons, String.append_assoc]
      exact hcommand.append _

/-- A line of a section opens like its section. -/
theorem exists_opensIn_of_mem {openings : List (List String)} {sections : List (Option String)}
    {line : String}
    (h : List.Forall₂ (fun as line? => ∀ line ∈ line?, OpensIn as line) openings sections)
    (hline : line ∈ sections.flatMap Option.toList) : ∃ as ∈ openings, OpensIn as line := by
  induction h with
  | nil => cases hline
  | cons hfirst _ ih =>
    rw [List.flatMap_cons, List.mem_append] at hline
    rcases hline with hline | hline
    · exact ⟨_, List.mem_cons_self, hfirst line (Option.mem_toList.1 hline)⟩
    · obtain ⟨as, has, hopens⟩ := ih hline
      exact ⟨as, List.mem_cons_of_mem _ has, hopens⟩

/-- A line that opens like none of the sections is not among their
lines. -/
theorem not_mem_of_diverge {as : List String} {openings : List (List String)}
    {sections : List (Option String)} {line : String}
    (hdiverge : ∀ bs ∈ openings, ∀ a ∈ as, ∀ b ∈ bs, Diverge a b)
    (h : List.Forall₂ (fun as line? => ∀ line ∈ line?, OpensIn as line) openings sections)
    (hline : OpensIn as line) : line ∉ sections.flatMap Option.toList := by
  intro hmem
  obtain ⟨a, ha, hopens⟩ := hline
  obtain ⟨bs, hbs, b, hb, hopens'⟩ := exists_opensIn_of_mem h hmem
  obtain ⟨hab, hba⟩ := hdiverge bs hbs a ha b hb
  rcases List.prefix_or_prefix_of_prefix hopens hopens' with hprefix | hprefix
  · exact hab hprefix
  · exact hba hprefix

/-- **Sections of lines are told apart** by how their lines open: no line
can belong to two of them. -/
theorem sections_inj {openings : List (List String)} {sections sections' : List (Option String)}
    (hopenings : openings.Pairwise fun as bs => ∀ a ∈ as, ∀ b ∈ bs, Diverge a b)
    (h : List.Forall₂ (fun as line? => ∀ line ∈ line?, OpensIn as line) openings sections)
    (h' : List.Forall₂ (fun as line? => ∀ line ∈ line?, OpensIn as line) openings sections')
    (heq : sections.flatMap Option.toList = sections'.flatMap Option.toList) :
    sections = sections' := by
  induction h generalizing sections' with
  | nil =>
    cases h'
    rfl
  | @cons as line? bss sections hfirst hrest ih =>
    obtain ⟨hdiverge, hopenings⟩ := List.pairwise_cons.1 hopenings
    cases h' with
    | @cons _ line?' _ sections' hfirst' hrest' =>
      rw [List.flatMap_cons, List.flatMap_cons] at heq
      cases line? with
      | none =>
        cases line?' with
        | none => rw [ih hopenings hrest' heq]
        | some line' =>
          rw [Option.toList_none, List.nil_append] at heq
          -- The line of one section would be among those that follow the other.
          refine absurd ?_ (not_mem_of_diverge hdiverge hrest (hfirst' line' rfl))
          rw [heq]
          exact List.mem_cons_self
      | some line =>
        cases line?' with
        | none =>
          rw [Option.toList_none, List.nil_append] at heq
          refine absurd ?_ (not_mem_of_diverge hdiverge hrest' (hfirst line rfl))
          rw [← heq]
          exact List.mem_cons_self
        | some line' =>
          simp only [Option.toList_some, List.singleton_append, List.cons.injEq] at heq
          rw [heq.1, ih hopenings hrest' heq.2]

section Lines

variable {α : Type} {setting : Option α} {ls : List String}

/-- The lines of a setting are what its value is written as. -/
theorem eq_of_line {write : Datum → Except Failure String} (datum : α → Datum) (text : α → String)
    (hne : ∀ value, datum value ≠ .null)
    (hwrite : ∀ value line, write (datum value) = .ok line → line = text value)
    (h : line write (.ofOption datum setting) = .ok ls) : ls = (setting.map text).toList := by
  cases setting with
  | none => exact (Except.ok.inj h).symm
  | some value =>
    rw [Datum.ofOption, line_of_ne_null (hne value)] at h
    obtain ⟨line, hline, rfl⟩ := map_eq_ok.1 h
    rw [hwrite value line hline]
    rfl

theorem eq_of_line? {write : Datum → Except Failure (Option String)} (datum : α → Datum)
    (text : α → Option String) (hne : ∀ value, datum value ≠ .null)
    (hwrite : ∀ value line, write (datum value) = .ok line → line = text value)
    (h : line? write (.ofOption datum setting) = .ok ls) : ls = (setting.bind text).toList := by
  cases setting with
  | none => exact (Except.ok.inj h).symm
  | some value =>
    rw [Datum.ofOption, line?_of_ne_null (hne value)] at h
    obtain ⟨line, hline, rfl⟩ := map_eq_ok.1 h
    rw [hwrite value line hline]
    rfl

end Lines

end Script

namespace Options.Typed

/-- How the lines of the settings open. -/
def openings : List (List String) :=
  [["set terminal "], ["set title "], ["set grid", "unset grid"], ["set style fill "],
    ["set xrange ", "set yrange "], ["set xlabel ", "set ylabel "], ["set xtics", "set ytics"]]

/-- The line of each setting, where it has one. -/
def sections (o : Typed String Binary64) : List (Option String) :=
  [o.output.map Output.Typed.line, o.title.map fun title => "set title " ++ quote title,
    o.grid.map fun on => if on then "set grid" else "unset grid", o.fill.map Filling.Typed.line,
    o.range.map fun range => (range.map Binary64.scriptText).line,
    o.labels.bind Labels.Typed.line?, o.titles.bind Titles.Typed.line?]

/-- What of settings can be told from their lines: texts without their
line ends, bounds as they are written, and labels and ticks that say
something. -/
def normal (o : Typed String Binary64) : Typed String String :=
  let flat := o.map flattened Binary64.scriptText
  { flat with
    labels := flat.labels.filter (· ≠ {})
    titles := flat.titles.filter (· ≠ {}) }

variable {o o' : Typed String Binary64} {ls : List String}

/-- The lines of settings are those of their sections. -/
theorem eq_sections_of_directives (h : o.ofDoubles.directives = .ok ls) :
    ls = o.sections.flatMap Option.toList := by
  obtain ⟨output, houtput, h⟩ := bind_eq_ok.1 h
  obtain ⟨title, htitle, h⟩ := bind_eq_ok.1 h
  obtain ⟨grid, hgrid, h⟩ := bind_eq_ok.1 h
  obtain ⟨fill, hfill, h⟩ := bind_eq_ok.1 h
  obtain ⟨range, hrange, h⟩ := bind_eq_ok.1 h
  obtain ⟨labels, hlabels, h⟩ := bind_eq_ok.1 h
  obtain ⟨titles, htitles, h⟩ := bind_eq_ok.1 h
  have houtput : output = (o.output.map Output.Typed.line).toList := by
    refine eq_of_line Output.Typed.datum _ Output.Typed.datum_ne_null
      (fun output line hline => ?_) houtput
    rw [Output.directive_datum] at hline
    exact (Except.ok.inj hline).symm
  have htitle : title = (o.title.map fun title => "set title " ++ quote title).toList :=
    eq_of_line .text _ (by simp) (fun _ _ hline => (Except.ok.inj hline).symm) htitle
  have hgrid : grid = (o.grid.map fun on => if on then "set grid" else "unset grid").toList :=
    eq_of_line .truth _ (by simp) (fun _ _ hline => (Except.ok.inj hline).symm) hgrid
  have hfill : fill = (o.fill.map Filling.Typed.line).toList :=
    eq_of_line Filling.Typed.datum _ Filling.Typed.datum_ne_null
      (fun _ _ => Filling.Typed.eq_line_of_directive) hfill
  have hrange : range = (o.range.map fun range => (range.map Binary64.scriptText).line).toList := by
    have hdatum : o.ofDoubles.range =
        .ofOption (fun range => (range.map Datum.real).datum) o.range := by
      unfold ofDoubles untyped
      cases o.range <;> rfl
    rw [hdatum] at hrange
    refine eq_of_line _ _ (fun _ => AxisRange.Typed.datum_ne_null _)
      (fun range line hline => ?_) hrange
    rw [AxisRange.directive_real] at hline
    exact (Except.ok.inj hline).symm
  have hlabels : labels = (o.labels.bind Labels.Typed.line?).toList := by
    refine eq_of_line? Labels.Typed.datum _ Labels.Typed.datum_ne_null
      (fun labels line hline => ?_) hlabels
    rw [Labels.directive?_datum] at hline
    exact (Except.ok.inj hline).symm
  have htitles : titles = (o.titles.bind Titles.Typed.line?).toList :=
    eq_of_line? Titles.Typed.datum _ Titles.Typed.datum_ne_null
      (fun _ _ => Titles.Typed.eq_line?_of_directive?) htitles
  rw [← pure_eq_ok.1 h, houtput, htitle, hgrid, hfill, hrange, hlabels, htitles]
  simp [sections]

theorem opensIn_sections (o : Typed String Binary64) :
    List.Forall₂ (fun as line? => ∀ line ∈ line?, OpensIn as line) openings o.sections := by
  have hsetting : ∀ {α : Type} {openings : List String} {setting : Option α} {text : α → String},
      (∀ value, OpensIn openings (text value)) →
        ∀ line ∈ setting.map text, OpensIn openings line := by
    intro α openings setting text h line hline
    obtain ⟨value, -, rfl⟩ := Option.map_eq_some_iff.1 hline
    exact h value
  refine .cons (hsetting fun output => ?_) (.cons (hsetting fun title => ?_)
    (.cons (hsetting fun on => ?_) (.cons (hsetting fun fill => ?_)
      (.cons (hsetting fun range => ?_)
        (.cons (fun line hline => ?_) (.cons (fun line hline => ?_) .nil))))))
  · obtain ⟨terminal, font⟩ := output
    cases terminal <;> simp only [Output.Typed.line, String.append_assoc] <;>
      exact OpensIn.append (by decide) _
  · exact OpensIn.append (by decide) _
  · cases on <;> decide
  · cases fill with
    | solid => decide
    | pattern index => exact OpensIn.append (by decide) _
  · cases range <;>
      simp only [AxisRange.Typed.map, AxisRange.Typed.line, String.append_assoc] <;>
      exact OpensIn.append (by decide) _
  · obtain ⟨labels, -, hline⟩ := Option.bind_eq_some_iff.1 hline
    refine opensIn_of_commandLine? (fun command hcommand => ?_) hline
    rcases List.mem_append.1 hcommand with hcommand | hcommand <;>
      obtain ⟨text, -, rfl⟩ := Option.map_eq_some_iff.1 (Option.mem_toList.1 hcommand) <;>
      exact OpensIn.append (by decide) _
  · obtain ⟨titles, -, hline⟩ := Option.bind_eq_some_iff.1 hline
    refine opensIn_of_commandLine? (fun command hcommand => ?_) hline
    rcases List.mem_append.1 hcommand with hcommand | hcommand <;>
      obtain ⟨ticks, -, rfl⟩ := Option.map_eq_some_iff.1 (Option.mem_toList.1 hcommand) <;>
      exact (OpensIn.append (by decide) _).append _

/-- What says nothing is as good as nothing. -/
theorem filter_ne_eq_of_getD_eq {α : Type} [DecidableEq α] {d : α} {x y : Option α}
    (h : x.getD d = y.getD d) : x.filter (· ≠ d) = y.filter (· ≠ d) := by
  have hgetD : ∀ z : Option α, z.filter (· ≠ d) = (some (z.getD d)).filter (· ≠ d) := by
    intro z
    cases z with
    | none => simp [Option.filter]
    | some value => rfl
  rw [hgetD x, hgetD y, h]

/-- A value that says nothing is read as none. -/
theorem getD_map_eq_of_bind_eq {α β γ : Type} (f : α → Option β) (g : α → γ) (d : α)
    {x y : Option α} (hd : f d = none) (hfg : ∀ a b, f a = f b → g a = g b)
    (h : x.bind f = y.bind f) :
    (x.map g).getD (g d) = (y.map g).getD (g d) := by
  have hbind : ∀ z : Option α, z.bind f = f (z.getD d) := by
    intro z
    cases z with
    | none => exact hd.symm
    | some value => rfl
  rw [Option.getD_map, Option.getD_map]
  exact hfg _ _ (by rw [← hbind, ← hbind, h])

/-- **Settings can be told from their lines.** -/
theorem normal_eq_of_directives (h : o.ofDoubles.directives = .ok ls)
    (h' : o'.ofDoubles.directives = .ok ls) : o.normal = o'.normal := by
  -- First which line is of which setting, then each setting from its line.
  have hsections : o.sections = o'.sections :=
    sections_inj (by decide) o.opensIn_sections o'.opensIn_sections
      ((eq_sections_of_directives h).symm.trans (eq_sections_of_directives h'))
  simp only [sections, List.cons.injEq, and_true] at hsections
  obtain ⟨houtput, htitle, hgrid, hfill, hrange, hlabels, htitles⟩ := hsections
  have houtput := map_eq_map_of_imp (fun _ _ => Output.Typed.map_eq_of_line_eq) houtput
  have htitle : o.title.map flattened = o'.title.map flattened :=
    map_eq_map_of_imp (fun _ _ h => flattened_eq_of_quote_eq ((String.append_right_inj _).1 h))
      htitle
  have hgrid : o.grid = o'.grid := by
    have hid := map_eq_map_of_imp (g := id) (fun on on' h => ?_) hgrid
    · simpa using hid
    · cases on <;> cases on' <;> first | rfl | exact absurd h (by decide)
  have hfill : o.fill = o'.fill := by
    have hid := map_eq_map_of_imp (g := id) (fun _ _ => Filling.Typed.line_inj) hfill
    simpa using hid
  have hrange := map_eq_map_of_imp (fun _ _ => AxisRange.Typed.map_eq_of_line_eq) hrange
  have hlabels : (o.labels.map (Labels.Typed.map flattened)).getD {} =
      (o'.labels.map (Labels.Typed.map flattened)).getD {} :=
    getD_map_eq_of_bind_eq Labels.Typed.line? (Labels.Typed.map flattened) {} rfl
      (fun _ _ => Labels.Typed.map_eq_of_line?_eq) hlabels
  have htitles : (o.titles.map (Titles.Typed.map flattened)).getD {} =
      (o'.titles.map (Titles.Typed.map flattened)).getD {} :=
    getD_map_eq_of_bind_eq Titles.Typed.line? (Titles.Typed.map flattened) {} rfl
      (fun _ _ => Titles.Typed.map_eq_of_line?_eq) htitles
  simp only [normal, map, houtput, htitle, hgrid, hfill, hrange, filter_ne_eq_of_getD_eq hlabels,
    filter_ne_eq_of_getD_eq htitles]

/-- Line ends are blanks, and labels that say nothing are none; a comma or
an apostrophe in a name is told from those between names. -/
theorem normal_eq_lookalike :
    let ticks : Titles.Typed String := { x := { names := some ["it's', 'so"] } }
    let o : Typed String Binary64 :=
      { title := some "a\nb", labels := some {}, titles := some ticks }
    let o' : Typed String Binary64 := { title := some "a b", titles := some ticks }
    o.ofDoubles.directives = o'.ofDoubles.directives ∧ o.normal = o'.normal := by
  intro ticks o o'
  have h : o.ofDoubles.directives =
      .ok ["set title 'a b'", "set xtics ('it''s'', ''so' 0)"] := rfl
  exact ⟨rfl, normal_eq_of_directives h rfl⟩

end Options.Typed

end PlotPipe
