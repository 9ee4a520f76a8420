import PlotPipe.Proofs.Journal.Pruning
/-!
# Journal — damaged files

What a damaged file still holds can be told of any bytes (`objects`), and
a journal tolerates the damage when it finds just that, sums it up and
prunes it. It passes over damage of one kind only: lines that are no
JSON, or hold something else than an object. Bytes that are no text, and
lines that the reader gives up on, stop every call, and an object
without a proper size stops the summary (`toleratesDamage_iff`).
-/

namespace PlotPipe

namespace Journal

variable {j : Journal} {content : ByteArray} {rows : List Row} {row : Row} {count : Nat}

/-- A journal reads whatever its file holds: it finds the objects of the
file, counts each of them in a summary, and can be pruned. -/
structure ToleratesDamage (j : Journal) (content : ByteArray) : Prop where
  entries_eq : j.entries = .ok (objects j.machine.levels content)
  sumsUp : j.SumsUp (objects j.machine.levels content)
  exists_prune : ∀ limit, ∃ r, j.prune limit = .ok r

/-- Pruning never keeps the oldest object, if it drops any. -/
theorem mem_tail_of_mem_newest (h : row ∈ newest count rows) (hmany : count < rows.length) :
    row ∈ rows.tail := by
  cases rows with
  | nil => cases hmany
  | cons first rest =>
    rw [newest, List.length_cons, Nat.succ_sub (Nat.le_of_lt_succ hmany), List.drop_succ_cons] at h
    exact List.mem_of_mem_drop h

theorem newest_length_tail (hne : 0 < rows.length) : newest rows.tail.length rows = rows.tail := by
  cases rows with
  | nil => cases hne
  | cons first rest =>
    rw [newest, List.tail_cons, List.length_cons, Nat.add_sub_cancel_left, List.drop_succ_cons,
      List.drop_zero]

/-- **Every pruning succeeds** when it would with every object that it
could keep. -/
theorem forall_exists_prune_iff
    (hload : j.load j.machine.innerReadLevels = .ok (objects j.machine.levels content)) :
    (∀ limit, ∃ r, j.prune limit = .ok r) ↔ ∀ row ∈ (objects j.machine.levels content).tail,
      Json.Fits j.machine.rewriteLevels (.object row) := by
  constructor
  · intro h row hrow
    have hpos : 0 < (objects j.machine.levels content).tail.length := List.length_pos_of_mem hrow
    have hmany : (objects j.machine.levels content).tail.length <
        (objects j.machine.levels content).length := by
      rw [List.length_tail] at hpos ⊢
      omega
    refine (exists_prune_iff_of_lt hpos hload hmany).1 (h _) row ?_
    rw [newest_length_tail (by omega)]
    exact hrow
  · intro h limit
    cases limit with
    | none => exact ⟨_, rfl⟩
    | some limit =>
      by_cases hlimit : limit ≤ 0
      · exact ⟨_, if_pos hlimit⟩
      obtain ⟨count, rfl⟩ := Int.eq_ofNat_of_zero_le (by omega : 0 ≤ limit)
      have hpos : 0 < count := by omega
      rcases Nat.lt_or_ge count (objects j.machine.levels content).length with hmany | hfew
      · exact (exists_prune_iff_of_lt hpos hload hmany).2 fun row hrow =>
          h row (mem_tail_of_mem_newest hrow hmany)
      · exact ⟨_, prune_of_le hload hpos hfew⟩

/-- **Which damage a journal tolerates.** All of it, as long as the file is
a text, a reader gets past every line, each object has a size if it has a
field for it, and none but the oldest one is nested too deep to be
written again. -/
theorem toleratesDamage_iff (hlook : j.workspace.look j.path = .ok (.file content)) :
    j.ToleratesDamage content ↔ ∃ text, content = text.toUTF8 ∧
      (∀ line ∈ Text.lines text, Passable j.machine.innerReadLevels line) ∧
      (∀ row ∈ objects j.machine.levels content, ∃ size, rowSize row = .ok size) ∧
      ∀ row ∈ (objects j.machine.levels content).tail,
        Json.Fits j.machine.rewriteLevels (.object row) := by
  constructor
  · intro h
    obtain ⟨s, hsummary, -⟩ := h.sumsUp
    obtain ⟨rows, hload, -⟩ := bind_eq_ok.1 hsummary
    obtain ⟨text, htext, hlines, rfl⟩ := (load_inner_eq_ok_iff hlook).1 hload
    exact ⟨text, htext, hlines, (sumsUp_iff_of_load hload).1 h.sumsUp,
      (forall_exists_prune_iff hload).1 h.exists_prune⟩
  · rintro ⟨text, htext, hlines, hsizes, hfits⟩
    have hload := (load_inner_eq_ok_iff hlook).2 ⟨text, htext, hlines, rfl⟩
    have hentries := (entries_eq_ok_iff hlook).2 ⟨text, htext,
      fun line hline => (hlines line hline).mono j.machine.innerReadLevels_le, rfl⟩
    exact ⟨hentries, (sumsUp_iff_of_load hload).2 hsizes, (forall_exists_prune_iff hload).2 hfits⟩

theorem toleratesDamage_mixed :
    (written mixedText.toUTF8).workspace.look (written mixedText.toUTF8).path
        = .ok (.file mixedText.toUTF8) ∧
      (written mixedText.toUTF8).ToleratesDamage mixedText.toUTF8 := by
  refine ⟨look_written _, (toleratesDamage_iff (look_written _)).2
    ⟨mixedText, rfl, passable_mixedText 986, ?_, ?_⟩⟩
  · rw [levels_written, objects_mixedText]
    exact List.forall_mem_cons.2 ⟨⟨0, rfl⟩, List.forall_mem_singleton.2 ⟨0, rfl⟩⟩
  · rw [levels_written, objects_mixedText]
    exact List.forall_mem_singleton.2 (storable_null 984 "b").fits

/-- Neither bytes that are no text are tolerated, nor an object whose size
is null. -/
theorem not_toleratesDamage_notText_nullSize :
    ¬ (written ⟨#[0xFF, 0x0A]⟩).ToleratesDamage ⟨#[0xFF, 0x0A]⟩ ∧
      ¬ (written (fileText [[("bytes", .null)]]).toUTF8).ToleratesDamage
        (fileText [[("bytes", .null)]]).toUTF8 := by
  constructor
  · intro h
    obtain ⟨text, htext, -⟩ := (entries_eq_ok_iff (look_written _)).1 h.entries_eq
    have hdecode := Workspace.decode_eq_ok_iff.2 htext
    cases hdecode
  · intro h
    have hreadable : Readable 987 [[("bytes", .null)]] :=
      List.forall_mem_singleton.2 (storable_null 986 "bytes")
    have hload : (written (fileText [[("bytes", .null)]]).toUTF8).load 987
        = .ok [[("bytes", .null)]] := by
      rw [load_of_file (look_written _)]
      exact rows_fileText hreadable
    obtain ⟨-, -, -, hrows⟩ := (load_inner_eq_ok_iff (look_written _)).1 hload
    have hsums := h.sumsUp
    rw [← hrows, sumsUp_iff_of_load hload, List.forall_mem_singleton] at hsums
    obtain ⟨size, hsize⟩ := hsums
    cases hsize

end Journal

end PlotPipe
