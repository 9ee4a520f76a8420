import PlotPipe.Proofs.Journal.Lines
/-!
# Journal — what pruning leaves in a file

A file is clean when each of its lines that is not empty holds one of its
objects (`Encodes`). Pruning makes it so when it writes the file again:
it has one line then for each of the newest objects, as entries are
written, and nothing else (`look_of_prune`). It writes the file only when
there are more objects than it may keep. Otherwise it leaves the file as
it is, with everything in it that holds no object (`leavesClean_iff`).
-/

namespace PlotPipe

namespace Journal

variable {j : Journal} {content : ByteArray} {text : String} {line : List Char}
  {rows rows' : List Row} {row : Row} {levels levels' limit : Nat}

/-! ## Objects that are written again -/

/-- Objects that were read, and as what they are written again: with
their keys in order. -/
def Rewritten (rows rows' : List Row) : Prop :=
  List.Forall₂ (fun row row' => Json.Means (Json.object row).toDatum (.object row')) rows rows'

theorem fits_of_objectOn? (h : objectOn? levels line = some row) :
    Json.Fits levels (.object row) := by
  unfold objectOn? at h
  split at h
  · rename_i hread
    cases h
    exact Json.fits_of_readWithin hread
  · cases h

theorem fits_of_mem_objects (h : row ∈ objects levels content) :
    Json.Fits levels (.object row) := by
  obtain ⟨bytes, -, hrow⟩ := List.mem_filterMap.1 h
  obtain ⟨s, -, hrow⟩ := Option.bind_eq_some_iff.1 hrow
  exact fits_of_objectOn? hrow

/-- **What is written again is what was read**, one line for each object,
with its keys in order. -/
theorem of_rewrite (h : ∀ row ∈ rows, Json.Fits levels (.object row)) {content : String}
    (hcontent : rewrite levels' rows = .ok content) :
    ∃ rows', Rewritten rows rows' ∧ Readable levels' rows' ∧ content = fileText rows' := by
  induction rows generalizing content with
  | nil =>
    cases hcontent
    exact ⟨[], .nil, nofun, rfl⟩
  | cons row rows ih =>
    obtain ⟨hrow, hrows⟩ := List.forall_mem_cons.1 h
    rw [rewrite, bind_eq_ok] at hcontent
    obtain ⟨first, hfirst, hcontent⟩ := hcontent
    obtain ⟨others, hothers, hcontent⟩ := bind_eq_ok.1 hcontent
    obtain ⟨rows', hrewritten, hreadable, rfl⟩ := ih hrows hothers
    obtain ⟨value, hvalue, rfl⟩ := map_eq_ok.1 hfirst
    obtain ⟨hmeans, hstorable⟩ := (Json.ofDatum_eq_ok_iff hrow.keyed).1 hvalue
    obtain ⟨row', rfl⟩ : ∃ row', value = .object row' := by
      rw [Json.toDatum] at hmeans
      cases hmeans
      exact ⟨_, rfl⟩
    refine ⟨row' :: rows', .cons hmeans hrewritten, List.forall_mem_cons.2 ⟨hstorable, hreadable⟩, ?_⟩
    rw [fileText_cons, ← pure_eq_ok.1 hcontent]

/-- Objects are written again when none of them is nested too deep. -/
theorem exists_rewrite_iff (h : ∀ row ∈ rows, Json.Fits levels (.object row)) :
    (∃ content, rewrite levels' rows = .ok content) ↔
      ∀ row ∈ rows, Json.Fits levels' (.object row) := by
  induction rows with
  | nil => exact ⟨fun _ => nofun, fun _ => ⟨_, rfl⟩⟩
  | cons row rows ih =>
    obtain ⟨hrow, hrows⟩ := List.forall_mem_cons.1 h
    rw [List.forall_mem_cons, ← ih hrows]
    simp only [rewrite, encode, bind_eq_ok, map_eq_ok, pure_eq_ok]
    rcases hrow.ofDatum_cases levels' with ⟨hfits, value, hvalue⟩ | ⟨hnot, hfailure⟩
    · constructor
      · rintro ⟨_, _, _, others, hothers, -⟩
        exact ⟨hfits, others, hothers⟩
      · rintro ⟨-, others, hothers⟩
        exact ⟨_, _, ⟨value, hvalue, rfl⟩, others, hothers, rfl⟩
    · constructor
      · rintro ⟨_, _, ⟨value, hvalue, -⟩, -⟩
        rw [hfailure] at hvalue
        cases hvalue
      · exact fun h => absurd h.1 hnot

/-! ## Clean files -/

/-- A line holds an object, with its keys in some order. -/
def Encodes (levels : Nat) (line : List Char) (row : Row) : Prop :=
  ∃ row', objectOn? levels line = some row' ∧
    Json.Means (Json.object row).toDatum (.object row')

/-- The lines of a text that are not empty. -/
def fullLines (text : String) : List (List Char) := (Text.lines text).filter (· ≠ [])

/-- Pruning leaves a file with one line for each of the newest objects, in
their order and no more than so many, and no other line that is not
empty. -/
def LeavesClean (j : Journal) (limit : Nat) : Prop :=
  ∃ rows dropped j' text, j.entries = .ok rows ∧ j.prune (some limit) = .ok (dropped, j') ∧
    j'.workspace.look j'.path = .ok (.file text.toUTF8) ∧
    List.Forall₂ (Encodes j.machine.levels) (fullLines text) (newest limit rows) ∧
    (fullLines text).length ≤ limit

theorem mem_of_mem_newest (h : row ∈ newest limit rows) : row ∈ rows := List.mem_of_mem_drop h

theorem length_newest_le (limit : Nat) (rows : List Row) : (newest limit rows).length ≤ limit := by
  rw [newest, List.length_drop]
  omega

/-- A file that was written again is clean. -/
theorem forall₂_encodes_fileText (h : Rewritten rows rows')
    (hreadable : Readable levels' rows') (hle : levels' ≤ levels) :
    List.Forall₂ (Encodes levels) (fullLines (fileText rows')) rows := by
  have hfull : fullLines (fileText rows') = rows'.map fun row => (Json.object row).write.toList := by
    rw [fullLines, lines_fileText hreadable, List.filter_append, List.filter_eq_self.2]
    · exact List.append_nil _
    · intro line hline
      obtain ⟨row, -, rfl⟩ := List.mem_map.1 hline
      obtain ⟨c, cs, hcs, -⟩ := Json.exists_cons_write (.object row)
      simp [hcs]
  rw [hfull, List.forall₂_map_left_iff]
  refine (Json.forall₂_and_right.2 ⟨h, hreadable⟩).flip.imp fun row' row hrow => ?_
  exact ⟨row', (passable_and_objectOn?_write (hrow.2.mono hle)).2, hrow.1⟩

/-- Each line that is not empty holds one of the objects exactly when
none of them holds something else. -/
theorem forall₂_encodes_objects_iff :
    List.Forall₂ (Encodes levels) (fullLines text) (objects levels text.toUTF8) ↔
      ∀ line ∈ Text.lines text, line ≠ [] → ∃ row, objectOn? levels line = some row := by
  rw [fullLines, objects_toUTF8]
  generalize Text.lines text = ls
  constructor
  · intro h line hline hne
    obtain ⟨_, row, hrow, -⟩ := Json.exists_of_forall₂ h
      (List.mem_filter.2 ⟨hline, decide_eq_true hne⟩)
    exact ⟨row, hrow⟩
  · intro h
    induction ls with
    | nil => exact .nil
    | cons line ls ih =>
      obtain ⟨hline, hls⟩ := List.forall_mem_cons.1 h
      by_cases hne : line = []
      · -- An empty line holds no object.
        have hnone : objectOn? levels line = none := by
          rw [hne]
          rfl
        rw [List.filter_cons_of_neg (by simp [hne]), List.filterMap_cons_none hnone]
        exact ih hls
      · obtain ⟨row, hrow⟩ := hline hne
        rw [List.filter_cons_of_pos (by simp [hne]), List.filterMap_cons_some hrow]
        exact .cons ⟨row, hrow, (fits_of_objectOn? hrow).means⟩ (ih hls)

section Prune

variable {dropped : Nat} {j' : Journal} (hlook : j.workspace.look j.path = .ok (.file content))
  (hlimit : 0 < limit)

include hlook hlimit

theorem load_of_prune (h : j.prune (some limit) = .ok (dropped, j')) :
    j.load j.machine.innerReadLevels = .ok (objects j.machine.levels content) := by
  rw [prune_eq j hlimit, bind_eq_ok] at h
  obtain ⟨rows, hload, -⟩ := h
  obtain ⟨text, -, -, hrows⟩ := (load_inner_eq_ok_iff hlook).1 hload
  rw [hload, hrows]

/-- A journal with few enough objects stays as it is. -/
theorem eq_of_prune_of_le (h : j.prune (some limit) = .ok (dropped, j'))
    (hfew : (objects j.machine.levels content).length ≤ limit) : dropped = 0 ∧ j' = j := by
  rw [prune_of_le (load_of_prune hlook hlimit h) hlimit hfew] at h
  cases h
  exact ⟨rfl, rfl⟩

/-- **A file that pruning writes again** has the lines of the newest
objects. -/
theorem look_of_prune_of_lt (h : j.prune (some limit) = .ok (dropped, j'))
    (hmany : limit < (objects j.machine.levels content).length) :
    ∃ rows', Rewritten (newest limit (objects j.machine.levels content)) rows' ∧
      Readable j.machine.rewriteLevels rows' ∧
      j'.workspace.look j'.path = .ok (.file (fileText rows').toUTF8) := by
  rw [prune_of_lt (load_of_prune hlook hlimit h) hlimit hmany, map_eq_ok] at h
  obtain ⟨text, htext, heq⟩ := h
  cases heq
  obtain ⟨rows', hrewritten, hreadable, rfl⟩ :=
    of_rewrite (fun row hrow => fits_of_mem_objects (mem_of_mem_newest hrow)) htext
  exact ⟨rows', hrewritten, hreadable, Workspace.look_put hlook (by nofun) _⟩

omit hlook in
theorem exists_prune_iff_of_lt
    (hload : j.load j.machine.innerReadLevels = .ok (objects j.machine.levels content))
    (hmany : limit < (objects j.machine.levels content).length) :
    (∃ r, j.prune (some limit) = .ok r) ↔
      ∀ row ∈ newest limit (objects j.machine.levels content),
        Json.Fits j.machine.rewriteLevels (.object row) := by
  rw [prune_of_lt hload hlimit hmany,
    ← exists_rewrite_iff fun row hrow => fits_of_mem_objects (mem_of_mem_newest hrow)]
  simp only [map_eq_ok]
  exact ⟨fun ⟨_, text, htext, _⟩ => ⟨text, htext⟩, fun ⟨text, htext⟩ => ⟨_, text, htext, rfl⟩⟩

/-- **What pruning leaves.** It leaves a clean file exactly when it can
read the file and either has to write it again, and can do so, or finds
nothing in it but objects and empty lines. A file that is written again
has the lines of the newest objects and no other ones; one with few
enough objects stays as it is. -/
theorem leavesClean_iff :
    (j.LeavesClean limit ↔ ∃ text, content = text.toUTF8 ∧
      (∀ line ∈ Text.lines text, Passable j.machine.innerReadLevels line) ∧
      (limit < (objects j.machine.levels content).length ∧
          (∀ row ∈ newest limit (objects j.machine.levels content),
            Json.Fits j.machine.rewriteLevels (.object row)) ∨
        (objects j.machine.levels content).length ≤ limit ∧
          ∀ line ∈ Text.lines text, line ≠ [] →
            ∃ row, objectOn? j.machine.levels line = some row)) ∧
      ∀ dropped j', j.prune (some limit) = .ok (dropped, j') →
        (limit < (objects j.machine.levels content).length → ∃ rows',
          Rewritten (newest limit (objects j.machine.levels content)) rows' ∧
          Readable j.machine.rewriteLevels rows' ∧
          j'.workspace.look j'.path = .ok (.file (fileText rows').toUTF8)) ∧
        ((objects j.machine.levels content).length ≤ limit → dropped = 0 ∧ j' = j) := by
  refine ⟨⟨?_, ?_⟩, fun dropped j' h =>
    ⟨look_of_prune_of_lt hlook hlimit h, eq_of_prune_of_le hlook hlimit h⟩⟩
  · rintro ⟨rows, dropped, j', left, hentries, hprune, hleft, hclean, -⟩
    obtain ⟨-, -, -, rfl⟩ := (entries_eq_ok_iff hlook).1 hentries
    have hload := load_of_prune hlook hlimit hprune
    obtain ⟨text, rfl, hlines, -⟩ := (load_inner_eq_ok_iff hlook).1 hload
    refine ⟨text, rfl, hlines, ?_⟩
    rcases Nat.lt_or_ge limit (objects j.machine.levels text.toUTF8).length with hmany | hfew
    · exact .inl ⟨hmany, (exists_prune_iff_of_lt hlimit hload hmany).1 ⟨_, hprune⟩⟩
    · refine .inr ⟨hfew, ?_⟩
      obtain ⟨-, rfl⟩ := eq_of_prune_of_le hlook hlimit hprune hfew
      rw [hlook] at hleft
      obtain rfl : text = left := String.toByteArray_inj.1 (Node.file.inj (Except.ok.inj hleft))
      rw [newest, Nat.sub_eq_zero_of_le hfew, List.drop_zero] at hclean
      exact forall₂_encodes_objects_iff.1 hclean
  · rintro ⟨text, rfl, hlines, hcases⟩
    have hload := (load_inner_eq_ok_iff hlook).2 ⟨text, rfl, hlines, rfl⟩
    have hentries := (entries_eq_ok_iff hlook).2
      ⟨text, rfl, fun line hline => (hlines line hline).mono j.machine.innerReadLevels_le, rfl⟩
    rcases hcases with ⟨hmany, hfits⟩ | ⟨hfew, hobjects⟩
    · obtain ⟨⟨dropped, j'⟩, hprune⟩ := (exists_prune_iff_of_lt hlimit hload hmany).2 hfits
      obtain ⟨rows', hrewritten, hreadable, hleft⟩ := look_of_prune_of_lt hlook hlimit hprune hmany
      have hclean := forall₂_encodes_fileText hrewritten hreadable j.machine.rewriteLevels_le
      exact ⟨_, dropped, j', _, hentries, hprune, hleft, hclean,
        hclean.length_eq ▸ length_newest_le limit _⟩
    · have hclean := forall₂_encodes_objects_iff.2 hobjects
      refine ⟨_, 0, j, text, hentries, prune_of_le hload hlimit hfew, hlook, ?_, ?_⟩
      · rw [newest, Nat.sub_eq_zero_of_le hfew, List.drop_zero]
        exact hclean
      · rw [hclean.length_eq]
        exact hfew

end Prune

/-- A file with a line that holds no object is made clean where an object
has to go. -/
theorem leavesClean_mixed :
    (written mixedText.toUTF8).workspace.look (written mixedText.toUTF8).path
        = .ok (.file mixedText.toUTF8) ∧
      0 < 1 ∧ (written mixedText.toUTF8).LeavesClean 1 := by
  refine ⟨look_written _, by decide, (leavesClean_iff (look_written _) (by decide)).1.2
    ⟨mixedText, rfl, passable_mixedText 986, .inl ⟨?_, ?_⟩⟩⟩
  · rw [levels_written, objects_mixedText]
    decide
  · rw [levels_written, objects_mixedText]
    exact List.forall_mem_singleton.2 (storable_null 984 "b").fits

/-- Where no object has to go, such a line stays. -/
theorem not_leavesClean_notJson : ¬ (written "not json\n".toUTF8).LeavesClean 5 := by
  rintro ⟨rows, dropped, j', left, hentries, hprune, hleft, hclean, -⟩
  have hnone : objects (written "not json\n".toUTF8).machine.levels "not json\n".toUTF8 = [] := rfl
  have hlook := look_written "not json\n".toUTF8
  obtain ⟨-, rfl⟩ := eq_of_prune_of_le hlook (by decide) hprune (by rw [hnone]; decide)
  obtain ⟨-, -, -, rfl⟩ := (entries_eq_ok_iff hlook).1 hentries
  rw [hlook] at hleft
  obtain rfl : "not json\n" = left :=
    String.toByteArray_inj.1 (Node.file.inj (Except.ok.inj hleft))
  have hfull : fullLines "not json\n" = ["not json".toList] := rfl
  rw [hnone, hfull] at hclean
  cases hclean

end Journal

end PlotPipe
