import PlotPipe.Proofs.Journal.Lines
import PlotPipe.Proofs.Json.Brackets
/-!
# Journal — entries behind anything

An entry is written behind what is in the file, so it goes on with the
last line of the file, whatever is on that (`lines_append_line`). Blanks
in front of an object mean nothing. With anything else in front of it the
object is none any more, and whatever was on the last line by itself is
gone too (`objectOn?_append_write_eq_none`). So an entry is added to the
objects of a file exactly when the file ends with a line end, up to
blanks (`appends_iff`).
-/

namespace PlotPipe

namespace Journal

variable {j : Journal} {text : String} {last : List Char} {entry : List (String × Datum)}
  {row : Row} {levels levels' : Nat}

/-! ## The line that an object is put on -/

/-- Blanks in front of an object mean nothing. -/
theorem trim_append_of_blank (h : ∀ c ∈ last, Text.isBlank c = true) (cs : List Char) :
    Text.trim (String.ofList (last ++ cs)) = Text.trim (String.ofList cs) := by
  rw [Text.trim, String.toList_ofList, Text.trimBy_append_of_forall h, Text.trim,
    String.toList_ofList]

/-- So an object behind them is still the same object. -/
theorem passable_and_objectOn?_append_write (h : Json.Storable levels (.object row))
    (hlast : ∀ c ∈ last, Text.isBlank c = true) :
    Passable levels (last ++ (Json.object row).write.toList) ∧
      objectOn? levels (last ++ (Json.object row).write.toList) = some row := by
  have hline := passable_and_objectOn?_write h
  rw [Passable, objectOn?] at hline ⊢
  rw [trim_append_of_blank hlast]
  exact hline

/-- What is no blank anywhere is none of JSON. -/
theorem isBlank_json_eq_false {c : Char} (h : Text.isBlank c = false) : Json.isBlank c = false := by
  have hblank : ∀ d ∈ [' ', '\t', '\n', '\r'], Text.isBlank d = true :=
    List.all_iff_forall_prop.1 (by decide)
  rw [Json.isBlank, Bool.eq_false_iff]
  intro hc
  rw [hblank c (by simpa [or_assoc] using hc)] at h
  cases h

/-- Behind anything else an object is left as it is, with something in
front of it. -/
theorem exists_trim_append_of_not_blank (hlast : ¬ ∀ c ∈ last, Text.isBlank c = true)
    (inner : List Char) : ∃ c front, Text.isBlank c = false ∧
      Text.trim (String.ofList (last ++ '\x7b' :: (inner ++ ['\x7d'])))
        = String.ofList (c :: front ++ '\x7b' :: (inner ++ ['\x7d'])) := by
  obtain ⟨c, front, hdrop⟩ : ∃ c front, last.dropWhile Text.isBlank = c :: front :=
    List.exists_cons_of_ne_nil fun hnil => hlast (List.dropWhile_eq_nil_iff.1 hnil)
  have hc : Text.isBlank c = false := by
    have hhead := List.head?_dropWhile_not Text.isBlank last
    rw [hdrop] at hhead
    exact hhead
  have hline : last ++ '\x7b' :: (inner ++ ['\x7d']) = last.takeWhile Text.isBlank ++
      c :: ((front ++ '\x7b' :: inner) ++ ['\x7d']) := by
    have hsplit : last = last.takeWhile Text.isBlank ++ c :: front := by
      rw [← hdrop, List.takeWhile_append_dropWhile]
    conv_lhs => rw [hsplit]
    simp
  refine ⟨c, front, hc, ?_⟩
  rw [hline, trim_append_of_blank fun d hd => List.all_eq_true.1 List.all_takeWhile d hd, Text.trim,
    String.toList_ofList, Text.trimBy_of_ends hc (by decide)]
  simp

/-- **An object behind anything else is none any more.** -/
theorem objectOn?_append_write_eq_none (h : Json.Storable levels' (.object row))
    (hlast : ¬ ∀ c ∈ last, Text.isBlank c = true) :
    objectOn? levels (last ++ (Json.object row).write.toList) = none := by
  have hclosed := h.closed_write
  obtain ⟨inner, hwrite⟩ :
      ∃ inner, (Json.object row).write.toList = '\x7b' :: (inner ++ ['\x7d']) := by
    cases h with
    | object hkeys _ => exact ⟨_, Json.toList_write_object hkeys⟩
  rw [hwrite] at hclosed ⊢
  obtain ⟨c, front, hc, htrim⟩ := exists_trim_append_of_not_blank hlast inner
  rw [objectOn?, htrim]
  split
  · rename_i hread
    exact absurd hread (Json.readWithin_ne_object hclosed (isBlank_json_eq_false hc))
  · rfl

/-! ## The objects of the file -/

/-- The last line of a text, which is empty if the text ends with a line
end. -/
def lastLine (text : String) : List Char :=
  (Text.lines text).getLast (Text.splitAt_ne_nil _ _)

/-- The lines of a text before the last one. -/
def linesBefore (text : String) : List (List Char) := (Text.lines text).dropLast

theorem lines_eq (text : String) : Text.lines text = linesBefore text ++ [lastLine text] :=
  (List.dropLast_append_getLast _).symm

/-- After an entry is taken the objects of the file are those from before,
followed by the object of the entry. -/
def Appends (j : Journal) (entry : List (String × Datum)) (row : Row) : Prop :=
  ∃ rows j', j.entries = .ok rows ∧ j.log (.dict entry) = .ok j' ∧
    j'.entries = .ok (rows ++ [row])

/-- A blank line holds no object, and is passed. -/
theorem passable_and_objectOn?_of_blank (h : ∀ c ∈ last, Text.isBlank c = true) :
    Passable levels last ∧ objectOn? levels last = none := by
  have hread : Json.readWithin levels (Text.trim (String.ofList last)) = .error .malformed := by
    rw [← List.append_nil last, trim_append_of_blank h]
    rfl
  rw [Passable, objectOn?, hread]
  exact ⟨fun flaw hflaw => (Except.error.inj hflaw).symm, rfl⟩

section Append

variable {j' : Journal} {rows : List Row}
  (hlook : j.workspace.look j.path = .ok (.file text.toUTF8))
  (hkeyed : (Datum.dict entry).Keyed) (hmeans : Json.Means (.dict entry) (.object row))
  (hstorable : Json.Storable j.machine.writeLevels (.object row))

include hlook hkeyed hmeans hstorable

/-- **An entry goes on with the last line of the file.** -/
theorem look_of_log : ∃ j', j.log (.dict entry) = .ok j' ∧
    j'.workspace.look j'.path = .ok (.file (text ++ line (.object row)).toUTF8) ∧
    j'.machine = j.machine := by
  have hjson : Json.ofDatum j.machine.writeLevels (.dict entry) = .ok (.object row) :=
    (Json.ofDatum_eq_ok_iff hkeyed).2 ⟨hmeans, hstorable⟩
  have happend : j.workspace.append j.path (line (.object row)).toUTF8
      = .ok (j.workspace.put j.path (text ++ line (.object row)).toUTF8) := by
    rw [Workspace.append, hlook]
    rfl
  refine ⟨{ j with workspace := j.workspace.put j.path (text ++ line (.object row)).toUTF8 }, ?_,
    Workspace.look_put hlook (by simp) _, rfl⟩
  rw [log, encode, hjson]
  change j.append (line (.object row)) = _
  rw [append, happend]
  rfl

omit hlook hkeyed hmeans in
theorem lines_append_write (text : String) :
    Text.lines (text ++ line (.object row))
      = linesBefore text ++ [lastLine text ++ (Json.object row).write.toList, []] := by
  obtain ⟨c, cs, hcs, -⟩ := Json.exists_cons_write (.object row)
  refine Text.lines_append_line (lines_eq text) (by rw [hcs]; nofun) ?_ ?_
  · exact fun hmem => absurd (hstorable.isPlain _ hmem) (by decide)
  · exact fun hmem => absurd (hstorable.isPlain _ hmem) (by decide)

/-- **Behind anything but blanks an entry is lost**, and what it stands
behind with it. -/
theorem entries_of_log_of_not_blank (hlast : ¬ ∀ c ∈ lastLine text, Text.isBlank c = true)
    (hlog : j.log (.dict entry) = .ok j') (hrows : j'.entries = .ok rows) :
    rows = (linesBefore text).filterMap (objectOn? j.machine.levels) := by
  obtain ⟨j'', hlog', hlook', hmachine⟩ := look_of_log hlook hkeyed hmeans hstorable
  rw [hlog] at hlog'
  cases hlog'
  obtain ⟨-, hrows⟩ := (entries_eq_ok_iff_of_text hlook' rfl).1 hrows
  rw [hmachine] at hrows
  have hempty : objectOn? j.machine.levels [] = none := rfl
  rw [hrows, lines_append_write hstorable text, List.filterMap_append, List.filterMap_cons_none
    (objectOn?_append_write_eq_none hstorable hlast), List.filterMap_cons_none hempty,
    List.filterMap_nil, List.append_nil]

theorem not_appends_of_not_blank (hlast : ¬ ∀ c ∈ lastLine text, Text.isBlank c = true) :
    ¬ j.Appends entry row := by
  rintro ⟨rows, j', hrows, hlog, hrows'⟩
  obtain ⟨-, rfl⟩ := (entries_eq_ok_iff_of_text hlook rfl).1 hrows
  have hlength := congrArg List.length
    (entries_of_log_of_not_blank hlook hkeyed hmeans hstorable hlast hlog hrows')
  rw [lines_eq text, List.filterMap_append] at hlength
  simp only [List.length_append, List.length_singleton] at hlength
  omega

/-- **What an entry adds.** It is added to the objects of the file exactly
when the reader gets past every line and the last line is blank. If
anything stands on the last line, that and the entry are lost. -/
theorem appends_iff :
    (j.Appends entry row ↔ (∀ line ∈ Text.lines text, Passable j.machine.levels line) ∧
      ∀ c ∈ lastLine text, Text.isBlank c = true) ∧
    ((¬ ∀ c ∈ lastLine text, Text.isBlank c = true) →
      ∀ j' rows, j.log (.dict entry) = .ok j' → j'.entries = .ok rows →
        rows = (linesBefore text).filterMap (objectOn? j.machine.levels)) := by
  refine ⟨⟨?_, ?_⟩, fun hlast j' rows =>
    entries_of_log_of_not_blank hlook hkeyed hmeans hstorable hlast⟩
  · intro h
    refine ⟨?_, by_contra fun hlast =>
      not_appends_of_not_blank hlook hkeyed hmeans hstorable hlast h⟩
    obtain ⟨rows, -, hrows, -⟩ := h
    exact ((entries_eq_ok_iff_of_text hlook rfl).1 hrows).1
  · rintro ⟨hpassable, hlast⟩
    rw [lines_eq text] at hpassable
    obtain ⟨hbefore, -⟩ := List.forall_mem_append.1 hpassable
    obtain ⟨j', hlog, hlook', hmachine⟩ := look_of_log hlook hkeyed hmeans hstorable
    have hlines := lines_append_write hstorable text
    have hempty : objectOn? j.machine.levels [] = none := rfl
    obtain ⟨hnew, hobject⟩ := passable_and_objectOn?_append_write
      (hstorable.mono j.machine.writeLevels_le) hlast
    have hnil : Passable j.machine.levels [] := (passable_and_objectOn?_of_blank (by simp)).1
    refine ⟨_, j', (entries_eq_ok_iff_of_text hlook rfl).2 ⟨lines_eq text ▸ hpassable, rfl⟩,
      hlog, ?_⟩
    rw [entries_eq_ok_iff_of_text hlook' rfl, hmachine, hlines]
    constructor
    · exact List.forall_mem_append.2 ⟨hbefore, List.forall_mem_cons.2
        ⟨hnew, List.forall_mem_singleton.2 hnil⟩⟩
    · rw [lines_eq text, List.filterMap_append, List.filterMap_append,
        List.filterMap_cons_none (passable_and_objectOn?_of_blank hlast).2,
        List.filterMap_cons_some hobject, List.filterMap_cons_none hempty, List.filterMap_nil,
        List.append_nil]

end Append

/-- An entry is added behind a line that holds no object, if the line has
its end. -/
theorem appends_mixed :
    (written mixedText.toUTF8).workspace.look (written mixedText.toUTF8).path
        = .ok (.file mixedText.toUTF8) ∧
      (Datum.dict [("c", .null)]).Keyed ∧
      Json.Means (.dict [("c", .null)]) (.object [("c", .null)]) ∧
      Json.Storable 987 (.object [("c", .null)]) ∧
      (written mixedText.toUTF8).Appends [("c", .null)] [("c", .null)] := by
  have hlook := look_written mixedText.toUTF8
  have hstorable : Json.Storable 987 (.object [("c", .null)]) := storable_null 986 "c"
  have hlast : lastLine mixedText = [] := by
    simp only [lastLine, lines_mixedText, List.getLast_append_singleton]
  refine ⟨hlook, hstorable.fits.keyed, hstorable.fits.means, hstorable,
    (appends_iff hlook hstorable.fits.keyed hstorable.fits.means hstorable).1.2 ⟨?_, ?_⟩⟩
  · exact fun line hline => passable_mixedText 987 line hline
  · rw [hlast]
    nofun

/-- Behind an object without a line end it is not. -/
theorem not_appends_noLineEnd :
    ¬ (written "\x7b\"a\":null\x7d".toUTF8).Appends [("b", .null)] [("b", .null)] := by
  have hstorable : Json.Storable 987 (.object [("b", .null)]) := storable_null 986 "b"
  exact not_appends_of_not_blank (look_written _) hstorable.fits.keyed hstorable.fits.means
    hstorable (mt List.all_eq_true.2 (by decide))

end Journal

end PlotPipe
