import Mathlib.Data.List.Find
import PlotPipe.Proofs.Script.Erasure
/-!
# Scripts — what commands touch

A line is read command by command, by someone who passes over what its
quoted texts say (`commands`). How a command opens says which setting it
assigns; the commands that restore defaults are few, and are known as a
whole (`effect?`). So it can be read off a script which settings it
touches (`touched`), and whether each of its lines is about one dimension
of a plot, in order (`InOrder`).
-/

namespace PlotPipe

namespace Script

/-- The axes of a plot. -/
inductive Axis where
  | x | y
  deriving DecidableEq

/-- The settings of a plot that can be reset. -/
inductive Setting where
  | fill
  | range (axis : Axis)
  | label (axis : Axis)
  | ticks (axis : Axis)
  deriving DecidableEq

/-- The dimensions of a plot, which are passed or not. -/
inductive Dimension where
  | fill | range | labels | titles
  deriving DecidableEq

/-- The dimension that a setting belongs to. -/
def Setting.dimension : Setting → Dimension
  | fill => .fill
  | range _ => .range
  | label _ => .labels
  | ticks _ => .titles

/-- What is done to a setting. -/
inductive Deed where
  | assigns | resets
  deriving DecidableEq

/-- The commands that restore defaults, with the settings they reset. -/
def resetting : List (String × List Setting) :=
  [("set style fill empty", [.fill]), ("set autoscale x", [.range .x]),
    ("set autoscale y", [.range .y]), ("set autoscale xy", [.range .x, .range .y]),
    ("unset xlabel", [.label .x]), ("unset ylabel", [.label .y]),
    ("set xtics auto norotate", [.ticks .x]), ("set ytics auto norotate", [.ticks .y])]

/-- The words that open a command, with the setting it assigns. -/
def assigning : List (String × Setting) :=
  [("set style fill ", .fill), ("set xrange ", .range .x), ("set yrange ", .range .y),
    ("set xlabel ", .label .x), ("set ylabel ", .label .y), ("set xtics ", .ticks .x),
    ("set ytics ", .ticks .y)]

/-- **What a command does** to which settings, where that is known. -/
def effect? (command : String) : Option (Deed × List Setting) :=
  match resetting.lookup command with
  | some settings => some (.resets, settings)
  | none =>
    (assigning.find? fun entry => Opens entry.1 command).map fun entry => (.assigns, [entry.2])

/-- Commands between semicolons, without the blanks before them. -/
def separate (cs : List Char) : List String :=
  (cs.splitOn ';').map fun command => String.ofList (command.dropWhile (· = ' '))

/-- **The commands of a line**, as they are read by someone who passes
over its texts. -/
def commands (line : String) : List String := separate (erase line.toList)

/-- The settings that a line assigns, or resets. -/
def settings (deed : Deed) (line : String) : List Setting :=
  (commands line).flatMap fun command =>
    match effect? command with
    | some (done, settings) => if done = deed then settings else []
    | none => []

/-- The settings that a script assigns, or resets. -/
def touched (deed : Deed) (script : String) : List Setting :=
  (lines script).flatMap (settings deed)

/-- **A line concerns a dimension**: each of its commands is known, and
does what the line is there for to settings of that dimension. -/
def Concerns (deed : Deed) (dimension : Dimension) (line : String) : Prop :=
  ∀ command ∈ commands line, ∃ settings, effect? command = some (deed, settings) ∧
    ∀ s ∈ settings, s.dimension = dimension

/-- **A script is in order**: each of its lines concerns a dimension of
its own among those that were passed, in their order. -/
def InOrder (deed : Deed) (passed : List Dimension) (script : String) : Prop :=
  ∃ used ls, used.Sublist passed ∧ lines script = ls ++ [""] ∧
    List.Forall₂ (Concerns deed) used ls

variable {a a' b b' command opening : String} {deed : Deed} {dimension : Dimension}
  {setting : Setting}

theorem dimension_of_mem_settings {line : String} (h : Concerns deed dimension line)
    (hmem : setting ∈ settings deed line) : setting.dimension = dimension := by
  obtain ⟨command, hcommand, hmem⟩ := List.mem_flatMap.1 hmem
  obtain ⟨found, heffect, hdimension⟩ := h command hcommand
  rw [heffect] at hmem
  dsimp only at hmem
  rw [if_pos rfl] at hmem
  exact hdimension setting hmem

/-! ## Reading past texts -/

/-- **A part is read as another** by someone who passes over texts; there
is no end of a command in it. -/
structure Reads (a b : String) : Prop where
  erase_append : ∀ {rest : List Char}, rest.head? ≠ some '\'' →
    erase (a.toList ++ rest) = b.toList ++ erase rest
  not_mem : ';' ∉ b.toList

/-- A part without texts is read as it is. -/
theorem reads_of_not_mem (h : '\'' ∉ a.toList) (hend : ';' ∉ a.toList) : Reads a a :=
  ⟨fun _ => erase_append_of_not_mem h, hend⟩

/-- Of a quoted text nothing is read. -/
theorem reads_quote (s : String) : Reads (quote s) "''" :=
  ⟨fun h => erase_quote_append s h, by decide⟩

theorem Reads.append (ha : Reads a a') (hb : Reads b b') (hapart : Apart b) :
    Reads (a ++ b) (a' ++ b') where
  erase_append {rest} hrest := by
    have hhead : (b.toList ++ rest).head? ≠ some '\'' := by
      unfold Apart at hapart
      cases hlist : b.toList with
      | nil => simpa using hrest
      | cons c cs => rw [hlist] at hapart; simpa using hapart
    rw [String.toList_append, String.toList_append, List.append_assoc, List.append_assoc,
      ha.erase_append hhead, hb.erase_append hrest]
  not_mem := by
    rw [String.toList_append, List.mem_append, not_or]
    exact ⟨ha.not_mem, hb.not_mem⟩

/-- Anything may stand behind a part without texts. -/
theorem Reads.plain_append (hb : Reads b b') (h : '\'' ∉ a.toList) (hend : ';' ∉ a.toList) :
    Reads (a ++ b) (a ++ b') where
  erase_append hrest := by
    rw [String.toList_append, String.toList_append, List.append_assoc, List.append_assoc,
      erase_append_of_not_mem h, hb.erase_append hrest]
  not_mem := by
    rw [String.toList_append, List.mem_append, not_or]
    exact ⟨hend, hb.not_mem⟩

/-! ## The commands of a line -/

/-- A command **performs** a deed on settings: it is read as one that does
so. -/
def Performs (deed : Deed) (command : String) (settings : List Setting) : Prop :=
  ∃ read, Reads command read ∧ read.toList.head? ≠ some ' ' ∧ effect? read = some (deed, settings)

theorem separate_blank (cs : List Char) : separate (' ' :: cs) = separate cs := by
  rw [separate, separate, List.splitOn_cons_eq_if_modifyHead, if_neg (by decide)]
  cases hsplit : cs.splitOn ';' with
  | nil => rfl
  | cons command rest => rfl

theorem ofList_dropWhile_blank {read : String} (hhead : read.toList.head? ≠ some ' ') :
    String.ofList (read.toList.dropWhile (· = ' ')) = read := by
  rw [← String.toList_inj, String.toList_ofList]
  cases hlist : read.toList with
  | nil => rfl
  | cons c cs =>
    rw [hlist] at hhead
    exact List.dropWhile_cons_of_neg (by simpa using hhead)

/-- A text without semicolons is a single command. -/
theorem separate_of_not_mem {read : String} (hend : ';' ∉ read.toList)
    (hhead : read.toList.head? ≠ some ' ') : separate read.toList = [read] := by
  rw [separate, List.splitOn_eq_singleton hend, List.map_singleton, ofList_dropWhile_blank hhead]

/-- The first command ends at the first semicolon. -/
theorem separate_append {read : String} (hend : ';' ∉ read.toList)
    (hhead : read.toList.head? ≠ some ' ') (rest : List Char) :
    separate (read.toList ++ ';' :: rest) = read :: separate rest := by
  rw [separate, List.splitOn_append_cons_self_of_not_mem hend, List.map_cons,
    ofList_dropWhile_blank hhead]
  rfl

/-- **Commands on one line are read one after the other.** -/
theorem forall₂_commands {cs : List String} {effects : List (List Setting)} (hne : cs ≠ [])
    (h : List.Forall₂ (Performs deed) cs effects) :
    List.Forall₂ (fun command settings => effect? command = some (deed, settings))
      (commands (joinCommands cs)) effects := by
  induction h with
  | nil => exact absurd rfl hne
  | @cons command settings cs effects hfirst hrest ih =>
    obtain ⟨read, hread, hhead, heffect⟩ := hfirst
    cases hrest with
    | nil =>
      have hsingle : erase (command.toList ++ []) = read.toList ++ erase [] :=
        hread.erase_append nofun
      rw [List.append_nil, erase, List.append_nil] at hsingle
      rw [joinCommands, String.intercalate_singleton, commands, hsingle,
        separate_of_not_mem hread.not_mem hhead]
      exact .cons heffect .nil
    | @cons command' settings' cs' effects' hsecond hrest' =>
      have hline : commands (joinCommands (command :: command' :: cs')) =
          read :: commands (joinCommands (command' :: cs')) := by
        have hjoin : (joinCommands (command :: command' :: cs')).toList =
            command.toList ++ ';' :: ' ' :: (joinCommands (command' :: cs')).toList := by
          simp [joinCommands, String.intercalate_cons_cons, String.toList_append]
        have hbetween (cs : List Char) : erase (';' :: ' ' :: cs) = ';' :: ' ' :: erase cs :=
          erase_append_of_not_mem (by decide : '\'' ∉ [';', ' '])
        rw [commands, hjoin, hread.erase_append (by simp), hbetween,
          separate_append hread.not_mem hhead, separate_blank]
        rfl
      rw [hline]
      exact .cons heffect (ih (by simp))

/-- What is read of commands on one line. -/
theorem concerns_joinCommands {cs : List String} {effects : List (List Setting)} (hne : cs ≠ [])
    (h : List.Forall₂ (Performs deed) cs effects)
    (hdimension : ∀ settings ∈ effects, ∀ s ∈ settings, s.dimension = dimension) :
    Concerns deed dimension (joinCommands cs) ∧
      settings deed (joinCommands cs) = effects.flatten := by
  have hcommands := forall₂_commands hne h
  rw [Concerns, settings]
  generalize commands (joinCommands cs) = read at hcommands
  clear h
  induction hcommands with
  | nil => exact ⟨nofun, rfl⟩
  | cons hfirst _ ih =>
    obtain ⟨hconcerns, hsettings⟩ := ih fun settings hmem => hdimension settings (by simp [hmem])
    constructor
    · exact List.forall_mem_cons.2 ⟨⟨_, hfirst, hdimension _ List.mem_cons_self⟩, hconcerns⟩
    · rw [List.flatMap_cons, List.flatten_cons, hsettings, hfirst]
      dsimp only
      rw [if_pos rfl]

/-! ## What single commands do -/

/-- A text **opens a command that assigns** a setting, whatever may follow
it: no command that restores a default goes on from it, and it is clear
from it which setting it is. -/
structure Assigns (opening : String) (setting : Setting) : Prop where
  plain : '\'' ∉ opening.toList ∧ ';' ∉ opening.toList
  head : opening.toList.head?.any (· ≠ ' ')
  not_resetting : ∀ entry ∈ resetting, ¬ Opens opening entry.1
  settled : ∀ entry ∈ assigning, Opens entry.1 opening ∨ Diverge entry.1 opening
  find : (assigning.find? fun entry => Opens entry.1 opening).map Prod.snd = some setting

instance (opening : String) (setting : Setting) : Decidable (Assigns opening setting) :=
  decidable_of_iff
    (('\'' ∉ opening.toList ∧ ';' ∉ opening.toList) ∧ opening.toList.head?.any (· ≠ ' ') ∧
      (∀ entry ∈ resetting, ¬ Opens opening entry.1) ∧
      (∀ entry ∈ assigning, Opens entry.1 opening ∨ Diverge entry.1 opening) ∧
      (assigning.find? fun entry => Opens entry.1 opening).map Prod.snd = some setting)
    ⟨fun ⟨plain, head, not_resetting, settled, find⟩ =>
        ⟨plain, head, not_resetting, settled, find⟩,
      fun ⟨plain, head, not_resetting, settled, find⟩ =>
        ⟨plain, head, not_resetting, settled, find⟩⟩

theorem effect?_append (h : Assigns opening setting) (rest : String) :
    effect? (opening ++ rest) = some (.assigns, [setting]) := by
  have hopens : Opens opening (opening ++ rest) := by
    rw [Opens, String.toList_append]
    exact List.prefix_append _ _
  have hlookup : resetting.lookup (opening ++ rest) = none := by
    refine List.lookup_eq_none_iff.2 fun entry hentry => ?_
    rw [bne_iff_ne]
    rintro heq
    exact h.not_resetting entry hentry (heq ▸ hopens)
  have hsame (entry : String × Setting) (hentry : entry ∈ assigning) :
      Opens entry.1 (opening ++ rest) ↔ Opens entry.1 opening := by
    refine ⟨fun hentry' => ?_, fun hentry' => hentry'.trans hopens⟩
    rcases h.settled entry hentry with hsettled | hsettled
    · exact hsettled
    · exact absurd hentry' (hsettled.append rest).1
  have hfound : (assigning.find? fun entry => Opens entry.1 (opening ++ rest)) =
      assigning.find? fun entry => Opens entry.1 opening :=
    List.find?_congr fun entry hentry => decide_eq_decide.2 (hsame entry hentry)
  obtain ⟨entry, hentry, rfl⟩ := Option.map_eq_some_iff.1 h.find
  rw [effect?, hlookup]
  dsimp only
  rw [hfound, hentry]
  rfl

/-- **A command that opens like that** assigns the setting, whatever its
texts say. -/
theorem performs_append (h : Assigns opening setting) (hb : Reads b b') :
    Performs .assigns (opening ++ b) [setting] := by
  refine ⟨_, hb.plain_append h.plain.1 h.plain.2, ?_, effect?_append h b'⟩
  obtain ⟨c, hhead, hc⟩ := (Option.any_eq_true _ _).1 h.head
  rw [String.toList_append, List.head?_append, hhead]
  simpa using hc

/-- The commands that restore defaults do so. -/
theorem performs_of_mem_resetting {touched : List Setting} (h : (command, touched) ∈ resetting) :
    Performs .resets command touched := by
  have hall : ∀ entry ∈ resetting, '\'' ∉ entry.1.toList ∧ ';' ∉ entry.1.toList ∧
      entry.1.toList.head? ≠ some ' ' ∧ effect? entry.1 = some (.resets, entry.2) := by
    decide
  obtain ⟨htext, hend, hhead, heffect⟩ := hall _ h
  exact ⟨command, reads_of_not_mem htext hend, hhead, heffect⟩

end Script

end PlotPipe
