import PlotPipe.Workspace
/-!
# Workspace — putting a file

Where a path leads to a file or to nothing, a file can be put, and then
the path leads to it (`look_put`). The folders on the way are still
there: none of them is the place of the file, since the path would lead
to a folder then.
-/

namespace PlotPipe

namespace Workspace

variable {w : Workspace} {p : Path} {q here : Place} {names : List String} {n : Node}
  {content : ByteArray}

/-- A path that can be followed leads to what is at its place. -/
theorem node_of_walk (h : w.walk here names = .ok n) : w.node (names.foldl Place.enter here) = n := by
  induction names generalizing here with
  | nil => exact Except.ok.inj h
  | cons name names ih =>
    rw [walk] at h
    split at h
    · cases h
    · cases h
    · split at h
      · cases h
      · exact ih h

theorem node_put_self : (w.put p content).node p.place = .file content := by
  have hnone : (w.files.filter fun entry => entry.1 ≠ p.place).find?
      (fun entry => entry.1 = p.place) = none := by
    rw [List.find?_eq_none]
    intro entry hentry
    simpa using (List.mem_filter.1 hentry).2
  have hfind : (w.put p content).files.find? (fun entry => entry.1 = p.place)
      = some (p.place, content) := by
    rw [put, List.find?_append, hnone]
    simp
  rw [node, hfind]

/-- A folder elsewhere is still there. -/
theorem node_put_of_folder (hne : q ≠ p.place) (h : w.node q = .folder) :
    (w.put p content).node q = .folder := by
  unfold node at h
  split at h
  · cases h
  · rename_i hnone
    have hfind : (w.put p content).files.find? (fun entry => entry.1 = q) = none := by
      rw [List.find?_eq_none] at hnone ⊢
      intro entry hentry
      rcases List.mem_append.1 hentry with hentry | hentry
      · exact hnone entry (List.mem_filter.1 hentry).1
      · rw [List.mem_singleton.1 hentry]
        simpa using hne.symm
    rw [node, hfind]
    split at h
    · rename_i hfolder
      refine if_pos ?_
      simp only [Bool.or_eq_true] at hfolder ⊢
      rcases hfolder with hfolder | hfile
      · exact .inl hfolder
      -- What lies below the folder may be the file itself, which is put again.
      · obtain ⟨entry, hentry, hbelow⟩ := List.any_eq_true.1 hfile
        refine .inr (List.any_eq_true.2 ?_)
        by_cases hplace : entry.1 = p.place
        · exact ⟨(p.place, content), List.mem_append_right _ List.mem_cons_self, hplace ▸ hbelow⟩
        · exact ⟨entry, List.mem_append_left _ (List.mem_filter.2 ⟨hentry, by simpa using hplace⟩),
            hbelow⟩
    · cases h

theorem walk_put (h : w.walk here names = .ok n) (hn : n ≠ .folder)
    (hend : names.foldl Place.enter here = p.place) :
    (w.put p content).walk here names = .ok (.file content) := by
  induction names generalizing here with
  | nil =>
    have hhere : here = p.place := hend
    rw [walk, hhere, node_put_self]
  | cons name names ih =>
    rw [walk] at h
    split at h
    · cases h
    · cases h
    · rename_i hfolder
      split at h
      · cases h
      · rename_i hshort
        have hne : here ≠ p.place := by
          rintro rfl
          have hnode := node_of_walk h
          rw [List.foldl_cons] at hend
          rw [hend, hfolder] at hnode
          exact hn hnode.symm
        rw [walk, node_put_of_folder hne hfolder]
        dsimp only
        rw [if_neg hshort]
        exact ih h hend

/-- **Where a file is put, it is.** -/
theorem look_put (h : w.look p = .ok n) (hn : n ≠ .folder) (content : ByteArray) :
    (w.put p content).look p = .ok (.file content) := by
  unfold look at h ⊢
  split at h
  · cases h
  · rename_i hzero
    split at h
    · cases h
    · rename_i hlong
      rw [if_neg hzero, if_neg hlong]
      exact walk_put h hn rfl

end Workspace

end PlotPipe
