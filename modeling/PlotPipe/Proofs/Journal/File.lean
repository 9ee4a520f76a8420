import PlotPipe.Journal.Basic
import PlotPipe.Proofs.Json.Fitting
import PlotPipe.Proofs.Text.Blank
import PlotPipe.Proofs.Workspace.Put
/-!
# Journal — the file of a journal

A journal *holds* objects when its file has one line for each of them and
nothing else, or when there are none and the file is missing. Such a file
is read as the objects (`Holds.load_eq`): no text in an object can break its
line or be mistaken for the end of one, because an object is written in
printable ASCII. Appending the line of a storable object makes the
journal hold one more (`Holds.append_line`).
-/

namespace PlotPipe

namespace Journal

variable {j : Journal} {rows : List Row} {row : Row} {levels : Nat}

/-- The text of a file with these objects. -/
def fileText (rows : List Row) : String := String.join (rows.map fun row => line (.object row))

theorem fileText_cons (row : Row) (rows : List Row) :
    fileText (row :: rows) = line (.object row) ++ fileText rows := by
  rw [fileText, List.map_cons, String.join_cons]
  rfl

theorem fileText_append_singleton (rows : List Row) (row : Row) :
    fileText (rows ++ [row]) = fileText rows ++ line (.object row) := by
  rw [fileText, List.map_append, String.join_append]
  simp [fileText]

/-- Objects that are read back by a reader of so many levels. -/
def Readable (levels : Nat) (rows : List Row) : Prop :=
  ∀ row ∈ rows, Json.Storable levels (.object row)

theorem readLine_line (h : Json.Storable levels (.object row)) :
    readLine levels (Json.object row).write = .ok (some row) := by
  have htrim : Text.trim (Json.object row).write = (Json.object row).write := by
    cases h with
    | object hkeys _ =>
      rw [Text.trim, Json.toList_write_object hkeys, Text.trimBy_of_ends (by decide) (by decide),
        ← Json.toList_write_object hkeys, String.ofList_toList]
  have hempty : (Json.object row).write.isEmpty = false := by
    obtain ⟨c, cs, hcs, -⟩ := Json.exists_cons_write (.object row)
    rw [String.isEmpty_eq_false_iff]
    rintro hnil
    rw [hnil] at hcs
    cases hcs
  rw [readLine, htrim, hempty, Json.readWithin_write h]
  rfl

/-- The lines of a file are the texts of its objects. -/
theorem lines_fileText (h : Readable levels rows) :
    Text.lines (fileText rows) = rows.map (fun row => (Json.object row).write.toList) ++ [[]] := by
  have hends : ∀ text ∈ rows.map (fun row => (Json.object row).write),
      '\n' ∉ text.toList ∧ '\r' ∉ text.toList := by
    intro text htext
    obtain ⟨row, hrow, rfl⟩ := List.mem_map.1 htext
    exact ⟨fun hmem => absurd ((h row hrow).isPlain _ hmem) (by decide),
      fun hmem => absurd ((h row hrow).isPlain _ hmem) (by decide)⟩
  have htext : fileText rows =
      String.join ((rows.map fun row => (Json.object row).write).map (· ++ "\n")) := by
    rw [fileText, List.map_map]
    rfl
  rw [htext, Text.lines_join hends, List.map_map]
  rfl

theorem readLines_map_write (h : Readable levels rows) :
    readLines levels (rows.map (fun row => (Json.object row).write) ++ [""]) = .ok rows := by
  induction rows with
  | nil => rfl
  | cons row rows ih =>
    rw [List.map_cons, List.cons_append, readLines, readLine_line (h row List.mem_cons_self),
      ih fun r hr => h r (List.mem_cons_of_mem _ hr)]
    rfl

/-- **A file of objects is read as the objects.** -/
theorem rows_fileText (h : Readable levels rows) :
    Journal.rows levels (fileText rows).toUTF8 = .ok rows := by
  have hlines : (Text.lines (fileText rows)).map String.ofList
      = rows.map (fun row => (Json.object row).write) ++ [""] := by
    rw [lines_fileText h, List.map_append, List.map_map]
    simp [Function.comp_def]
  rw [Journal.rows, Workspace.decode_toUTF8]
  exact (congrArg (readLines levels) hlines).trans (readLines_map_write h)

/-- A journal with these objects: its file has their lines, or it is
missing and there are none. -/
structure Holds (j : Journal) (rows : List Row) : Prop where
  readable : Readable j.machine.writeLevels rows
  look : j.workspace.look j.path = .ok (.file (fileText rows).toUTF8) ∨
    rows = [] ∧ j.workspace.look j.path = .ok .nothing

/-- A journal whose file is missing holds nothing. -/
theorem holds_nil (h : j.workspace.look j.path = .ok .nothing) : j.Holds [] :=
  ⟨fun _ hrow => absurd hrow List.not_mem_nil, .inr ⟨rfl, h⟩⟩

theorem load_of_file {content : ByteArray}
    (hlook : j.workspace.look j.path = .ok (.file content)) :
    j.load levels = Journal.rows levels content := by
  have hexists : j.workspace.exists? j.path = .ok true := by
    rw [Workspace.exists?, Workspace.has, hlook]
  have hread : j.workspace.read j.path = .ok content := by
    rw [Workspace.read, hlook]
  rw [load, hexists]
  change (j.workspace.read j.path >>= Journal.rows levels) = _
  rw [hread]
  rfl

/-- **The objects of a journal are read**, by itself or within a summary
or a pruning. -/
theorem Holds.load_eq (h : j.Holds rows) (hlevels : j.machine.writeLevels ≤ levels) :
    j.load levels = .ok rows := by
  rcases h.look with hlook | ⟨rfl, hlook⟩
  · rw [load_of_file hlook]
    exact rows_fileText fun row hrow => (h.readable row hrow).mono hlevels
  · have hexists : j.workspace.exists? j.path = .ok false := by
      rw [Workspace.exists?, Workspace.has, hlook]
    rw [load, hexists]
    rfl

theorem Holds.load_inner (h : j.Holds rows) : j.load j.machine.innerReadLevels = .ok rows :=
  h.load_eq (Nat.le_refl _)

theorem Holds.entries_eq (h : j.Holds rows) : j.entries = .ok rows :=
  h.load_eq (Nat.sub_le ..)

/-- A file that is put holds what is in it. -/
theorem Holds.put (h : j.Holds rows) {rows' : List Row}
    (hreadable : Readable j.machine.writeLevels rows') :
    Holds { j with workspace := j.workspace.put j.path (fileText rows').toUTF8 } rows' := by
  refine ⟨hreadable, .inl ?_⟩
  rcases h.look with hlook | ⟨-, hlook⟩
  · exact Workspace.look_put hlook (by nofun) _
  · exact Workspace.look_put hlook (by nofun) _

/-- **The line of an object that is appended is one object more.** -/
theorem Holds.append_line (h : j.Holds rows)
    (hrow : Json.Storable j.machine.writeLevels (.object row)) :
    ∃ j', j.append (line (.object row)) = .ok j' ∧ j'.Holds (rows ++ [row]) ∧
      j'.machine = j.machine := by
  have hreadable : Readable j.machine.writeLevels (rows ++ [row]) := by
    intro r hr
    rcases List.mem_append.1 hr with hr | hr
    · exact h.readable r hr
    · exact List.mem_singleton.1 hr ▸ hrow
  have happend : j.workspace.append j.path (line (.object row)).toUTF8
      = .ok (j.workspace.put j.path (fileText (rows ++ [row])).toUTF8) := by
    rw [fileText_append_singleton, Workspace.append]
    rcases h.look with hlook | ⟨rfl, hlook⟩
    · rw [hlook]
      rfl
    · rw [hlook]
      rfl
  refine ⟨_, ?_, h.put hreadable, rfl⟩
  rw [Journal.append, happend]
  rfl

end Journal

end PlotPipe
