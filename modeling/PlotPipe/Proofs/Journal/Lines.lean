import PlotPipe.Proofs.Journal.Books
import PlotPipe.Proofs.Text.Lines
/-!
# Journal — which objects a file holds

A line holds an object or it does not (`objectOn?`), whatever stands on
the other lines. The reader gets past every line that is no JSON, but it
fails at one that is given up as nested too deep or for an integer with
too many digits. So it reads a file exactly when the file is a text and
every line can be passed (`Passable`), and then it returns the objects on
the lines in their order (`rows_eq_ok_iff`).

Which objects a file holds can be told from its bytes alone (`objects`),
and so of any bytes: they are those on the lines that are texts.
-/

namespace PlotPipe

theorem Workspace.decode_eq_ok_iff {content : ByteArray} {s : String} :
    decode content = .ok s ↔ content = s.toUTF8 := by
  constructor
  · intro h
    rw [decode] at h
    split at h
    · rename_i hvalid
      cases h
      rw [String.fromUTF8?, Option.dite_none_right_eq_some] at hvalid
      obtain ⟨_, heq⟩ := hvalid
      cases heq
      rfl
    · cases h
  · rintro rfl
    exact decode_toUTF8 s

namespace Journal

variable {j : Journal} {content : ByteArray} {text : String} {line : List Char}
  {ls : List (List Char)} {rows : List Row} {row : Row} {found : Option Row}
  {levels levels' : Nat}

/-- The object on a line, if there is one that opens at most so many
levels. -/
def objectOn? (levels : Nat) (line : List Char) : Option Row :=
  match Json.readWithin levels (Text.trim (String.ofList line)) with
  | .ok (.object row) => some row
  | _ => none

/-- The object on a line of bytes, if the bytes are a text and hold
one. -/
def objectIn? (levels : Nat) (line : List UInt8) : Option Row :=
  (String.fromUTF8? line.toByteArray).bind fun s => objectOn? levels s.toList

/-- The objects of any bytes, in the order of their lines. -/
def objects (levels : Nat) (content : ByteArray) : List Row :=
  (Text.byteLines content.data.toList).filterMap (objectIn? levels)

/-- A line that a reader of so many levels gets past: if anything is wrong
with it, it is that it is no JSON. -/
def Passable (levels : Nat) (line : List Char) : Prop :=
  ∀ flaw, Json.readWithin levels (Text.trim (String.ofList line)) = .error flaw →
    flaw = .malformed

/-! ## The objects on lines -/

theorem filterMap_cons_eq_append {α β : Type} (f : α → Option β) (a : α) (as : List α) :
    (a :: as).filterMap f = (f a).toList ++ as.filterMap f := by
  rw [List.filterMap_cons]
  cases f a <;> rfl

/-- The reader finds the object on a line exactly when it gets past the
line. -/
theorem readLine_eq_ok_iff : readLine levels (String.ofList line) = .ok found ↔
    Passable levels line ∧ found = objectOn? levels line := by
  rw [readLine, Passable, objectOn?]
  split
  · -- A blank line holds no value, which is as wrong as a line can be.
    rename_i hempty
    have hread : Json.readWithin levels (Text.trim (String.ofList line)) = .error .malformed := by
      rw [String.isEmpty_iff.1 hempty]
      rfl
    rw [hread]
    simp [eq_comm]
  · cases Json.readWithin levels (Text.trim (String.ofList line)) with
    | ok value => cases value <;> simp [eq_comm]
    | error flaw => cases flaw <;> simp [flawFailure?, eq_comm]

theorem readLines_eq_ok_iff : readLines levels (ls.map String.ofList) = .ok rows ↔
    (∀ line ∈ ls, Passable levels line) ∧ rows = ls.filterMap (objectOn? levels) := by
  induction ls generalizing rows with
  | nil => simp [readLines, eq_comm]
  | cons line ls ih =>
    simp only [List.map_cons, readLines, bind_eq_ok, pure_eq_ok, readLine_eq_ok_iff, ih,
      List.forall_mem_cons, filterMap_cons_eq_append]
    constructor
    · rintro ⟨found, ⟨hline, hfound⟩, others, ⟨hls, hothers⟩, hrows⟩
      rw [← hrows, hfound, hothers]
      exact ⟨⟨hline, hls⟩, rfl⟩
    · intro h
      exact ⟨_, ⟨h.1.1, rfl⟩, _, ⟨h.1.2, rfl⟩, h.2.symm⟩

/-- What is written for an object is a line that holds it. -/
theorem passable_and_objectOn?_write (h : Json.Storable levels (.object row)) :
    Passable levels (Json.object row).write.toList ∧
      objectOn? levels (Json.object row).write.toList = some row := by
  have hline := readLine_line h
  rw [← String.ofList_toList (s := (Json.object row).write), readLine_eq_ok_iff] at hline
  exact ⟨hline.1, hline.2.symm⟩

/-- **A file is read exactly when it is a text and the reader gets past
every line**, and then the objects on the lines are found. -/
theorem rows_eq_ok_iff : Journal.rows levels content = .ok rows ↔
    ∃ text, content = text.toUTF8 ∧ (∀ line ∈ Text.lines text, Passable levels line) ∧
      rows = (Text.lines text).filterMap (objectOn? levels) := by
  simp only [Journal.rows, bind_eq_ok, Workspace.decode_eq_ok_iff, readLines_eq_ok_iff]

/-- The lines of a text are told apart in its bytes. -/
theorem objects_toUTF8 (text : String) :
    objects levels text.toUTF8 = (Text.lines text).filterMap (objectOn? levels) := by
  have hline : ∀ line : List Char, objectIn? levels (Text.utf8 line) = objectOn? levels line := by
    intro line
    have hvalid : String.fromUTF8? (Text.utf8 line).toByteArray = some (String.ofList line) := by
      rw [Text.toByteArray_utf8]
      exact dif_pos (String.ofList line).isValidUTF8
    rw [objectIn?, hvalid, Option.bind_some, String.toList_ofList]
  rw [objects, Text.toList_data_toUTF8, Text.byteLines_utf8, List.filterMap_map, Text.lines]
  exact congrArg (List.filterMap · _) (funext hline)

/-! ## Readers of more levels -/

/-- Whoever gets past a line with so many levels reads the same on it with
more. -/
theorem Passable.readWithin_eq (h : Passable levels line) (hle : levels ≤ levels') :
    Json.readWithin levels' (Text.trim (String.ofList line))
      = Json.readWithin levels (Text.trim (String.ofList line)) := by
  induction hle with
  | refl => rfl
  | @step m hle ih =>
    have hsame := Json.sameUnlessTooDeep_readWithin m (Text.trim (String.ofList line))
    rw [Passable, ← ih] at h
    rw [← ih]
    revert h hsame
    generalize Json.readWithin m _ = x, Json.readWithin (m + 1) _ = y
    rintro h (_ | ⟨opener⟩)
    · rfl
    · cases h _ rfl

theorem Passable.mono (h : Passable levels line) (hle : levels ≤ levels') :
    Passable levels' line := by
  rw [Passable, h.readWithin_eq hle]
  exact h

theorem objectOn?_eq_of_le (h : Passable levels line) (hle : levels ≤ levels') :
    objectOn? levels' line = objectOn? levels line := by
  rw [objectOn?, h.readWithin_eq hle, objectOn?]

theorem filterMap_objectOn?_eq_of_le (h : ∀ line ∈ ls, Passable levels line)
    (hle : levels ≤ levels') :
    ls.filterMap (objectOn? levels') = ls.filterMap (objectOn? levels) :=
  List.filterMap_congr fun line hline => objectOn?_eq_of_le (h line hline) hle

/-! ## The file of a journal -/

section File

variable (hlook : j.workspace.look j.path = .ok (.file content))

include hlook

theorem entries_eq_ok_iff : j.entries = .ok rows ↔
    ∃ text, content = text.toUTF8 ∧ (∀ line ∈ Text.lines text, Passable j.machine.levels line) ∧
      rows = objects j.machine.levels content := by
  rw [entries, load_of_file hlook, rows_eq_ok_iff]
  refine exists_congr fun text => and_congr_right fun htext => ?_
  rw [htext, objects_toUTF8]

theorem entries_eq_ok_iff_of_text (htext : content = text.toUTF8) : j.entries = .ok rows ↔
    (∀ line ∈ Text.lines text, Passable j.machine.levels line) ∧
      rows = (Text.lines text).filterMap (objectOn? j.machine.levels) := by
  rw [entries_eq_ok_iff hlook, htext, objects_toUTF8]
  constructor
  · rintro ⟨text', heq, hlines, hrows⟩
    obtain rfl : text = text' := String.toByteArray_inj.1 heq
    exact ⟨hlines, hrows⟩
  · exact fun h => ⟨text, rfl, h⟩

/-- A summary and a pruning read what is read by itself, if they get past
every line. -/
theorem load_inner_eq_ok_iff : j.load j.machine.innerReadLevels = .ok rows ↔
    ∃ text, content = text.toUTF8 ∧
      (∀ line ∈ Text.lines text, Passable j.machine.innerReadLevels line) ∧
      rows = objects j.machine.levels content := by
  rw [load_of_file hlook, rows_eq_ok_iff]
  refine exists_congr fun text => and_congr_right fun htext => and_congr_right fun hlines => ?_
  rw [htext, objects_toUTF8, filterMap_objectOn?_eq_of_le hlines j.machine.innerReadLevels_le]

end File

/-- A journal whose file has a content. -/
def written (content : ByteArray) : Journal :=
  { unwritten with workspace := unwritten.workspace.put unwritten.path content }

theorem look_written (content : ByteArray) :
    (written content).workspace.look (written content).path = .ok (.file content) :=
  Workspace.look_put (n := .nothing) rfl (by nofun) _

theorem levels_written (content : ByteArray) : (written content).machine.levels = 987 + 1 := rfl

/-- A line that holds no object, and two objects. -/
def mixed : List String :=
  ["not json", (Json.object [("a", .null)]).write, (Json.object [("b", .null)]).write]

/-- The text with these lines. -/
def mixedText : String := String.join (mixed.map (· ++ "\n"))

theorem storable_null (levels : Nat) (key : String) :
    Json.Storable (levels + 1) (.object [(key, .null)]) :=
  .object (List.pairwise_singleton _ _) (List.forall_mem_singleton.2 .null)

theorem lines_mixedText : Text.lines mixedText = mixed.map String.toList ++ [[]] := by
  refine Text.lines_join fun line hline => ?_
  have hplain : ∀ key, '\n' ∉ (Json.object [(key, .null)]).write.toList ∧
      '\r' ∉ (Json.object [(key, .null)]).write.toList := fun key =>
    ⟨fun hmem => absurd ((storable_null 0 key).isPlain _ hmem) (by decide),
      fun hmem => absurd ((storable_null 0 key).isPlain _ hmem) (by decide)⟩
  simp only [mixed, List.mem_cons, List.not_mem_nil, or_false] at hline
  rcases hline with rfl | rfl | rfl
  · decide
  · exact hplain "a"
  · exact hplain "b"

theorem objects_mixedText (levels : Nat) :
    objects (levels + 1) mixedText.toUTF8 = [[("a", .null)], [("b", .null)]] := by
  have hnone : objectOn? (levels + 1) "not json".toList = none := rfl
  have hempty : objectOn? (levels + 1) [] = none := rfl
  have hsome : ∀ key, objectOn? (levels + 1) (Json.object [(key, .null)]).write.toList
      = some [(key, .null)] := fun key => (passable_and_objectOn?_write (storable_null _ key)).2
  rw [objects_toUTF8, lines_mixedText, mixed]
  simp only [List.map_cons, List.map_nil, List.cons_append, List.nil_append, List.filterMap_cons,
    List.filterMap_nil, hnone, hempty, hsome]

theorem passable_mixedText (levels : Nat) :
    ∀ line ∈ Text.lines mixedText, Passable (levels + 1) line := by
  rw [lines_mixedText]
  simp only [mixed, List.map_cons, List.map_nil, List.cons_append, List.nil_append,
    List.forall_mem_cons]
  refine ⟨?_, ?_, ?_, ?_, nofun⟩
  · rintro flaw hflaw
    exact (Except.error.inj hflaw).symm
  · exact (passable_and_objectOn?_write (storable_null _ "a")).1
  · exact (passable_and_objectOn?_write (storable_null _ "b")).1
  · rintro flaw hflaw
    exact (Except.error.inj hflaw).symm

end Journal

end PlotPipe
