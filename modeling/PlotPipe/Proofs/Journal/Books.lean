import PlotPipe.Proofs.Journal.File
import PlotPipe.Proofs.Journal.Summary
/-!
# Journal — the books of a run

Calls write entries and prune the journal. `Posts` says what one call
does to the objects on the books and what it returns: an entry that means
something storable is added as what it means, every other one is refused,
and pruning keeps the newest objects and returns how many it dropped. A
journal whose file was missing holds at every moment what is on its books
(`Holds.run`), so its objects are the entries that were taken and not
dropped since, in their order and unchanged, and their number and the
dropped ones make up the entries that were taken (`Books.length_add`).

Two things do not go as well as that. A summary fails where an object has
a size that is no integer, though any other value is accepted in every
place (`sumsUp_iff_of_load`), and pruning fails where it keeps an object
that is nested nearly as deep as an entry can be, since it stands deeper
itself when it writes the object again. It changes nothing then.
-/

namespace PlotPipe

namespace Journal

/-- A call that changes a journal. -/
inductive Call where
  | log (entry : List (String × Datum))
  | prune (limit : Option ℤ)

/-- What a call returns: pruning, how many objects it dropped. -/
abbrev Reply := Except Failure (Option Nat)

/-- Carry out a call. A call that fails leaves the journal as it was. -/
def perform (j : Journal) : Call → Reply × Journal
  | .log entry =>
    match j.log (.dict entry) with
    | .ok j' => (.ok none, j')
    | .error failure => (.error failure, j)
  | .prune limit =>
    match j.prune limit with
    | .ok (dropped, j') => (.ok (some dropped), j')
    | .error failure => (.error failure, j)

/-- Carry out calls one after another. -/
def run (j : Journal) : List Call → List Reply × Journal
  | [] => ([], j)
  | call :: calls =>
    let (reply, j) := j.perform call
    let (replies, j) := j.run calls
    (reply :: replies, j)

/-- The dictionaries of a call have each key once, as dictionaries do. -/
def Call.Keyed : Call → Prop
  | .log entry => (Datum.dict entry).Keyed
  | .prune _ => True

/-- The newest objects. -/
def newest (count : Nat) (rows : List Row) : List Row := rows.drop (rows.length - count)

/-- What a call does to the objects on the books, and what it returns. -/
inductive Posts (m : Machine) : List Row → Call → Reply → List Row → Prop
  | logged {rows : List Row} {entry : List (String × Datum)} {row : Row} :
      Json.Means (.dict entry) (.object row) → Json.Storable m.writeLevels (.object row) →
      Posts m rows (.log entry) (.ok none) (rows ++ [row])
  | refused {rows : List Row} {entry : List (String × Datum)} {failure : Failure} :
      (∀ row, Json.Means (.dict entry) (.object row) →
        ¬ Json.Storable m.writeLevels (.object row)) →
      Posts m rows (.log entry) (.error failure) rows
  /-- There is no limit, or there are no more objects than it allows. -/
  | idle {rows : List Row} {limit : Option ℤ} :
      (∀ count, limit = some count → 0 < count → (rows.length : ℤ) ≤ count) →
      Posts m rows (.prune limit) (.ok (some 0)) rows
  | pruned {rows : List Row} {count : Nat} : 0 < count → count < rows.length →
      Readable m.rewriteLevels (newest count rows) →
      Posts m rows (.prune (some count)) (.ok (some (rows.length - count))) (newest count rows)
  /-- An object that would be kept is nested too deep to be written
  again. -/
  | stuck {rows : List Row} {count : Nat} : 0 < count → count < rows.length →
      ¬ Readable m.rewriteLevels (newest count rows) →
      Posts m rows (.prune (some count)) (.error .writtenTooDeep) rows

/-- The objects on the books before and after several calls. -/
inductive Books (m : Machine) : List Row → List Call → List Reply → List Row → Prop
  | nil (rows : List Row) : Books m rows [] [] rows
  | cons {rows rows' rows'' : List Row} {call : Call} {reply : Reply} {calls : List Call}
      {replies : List Reply} : Posts m rows call reply rows' →
      Books m rows' calls replies rows'' → Books m rows (call :: calls) (reply :: replies) rows''

/-- An entry was taken. -/
def isTaken : Reply → Bool
  | .ok none => true
  | _ => false

/-- The number of objects that a call dropped. -/
def dropped : Reply → Nat
  | .ok (some count) => count
  | _ => 0

variable {m : Machine} {j : Journal} {rows rows' : List Row} {row : Row} {call : Call}
  {calls : List Call} {reply : Reply} {replies : List Reply}

/-! ## One call -/

/-- An entry that means something storable is added as what it means. -/
theorem Holds.log_of_means (h : j.Holds rows) {entry : List (String × Datum)}
    (hkeyed : (Datum.dict entry).Keyed) (hmeans : Json.Means (.dict entry) (.object row))
    (hstorable : Json.Storable j.machine.writeLevels (.object row)) :
    ∃ j', j.log (.dict entry) = .ok j' ∧ j'.Holds (rows ++ [row]) ∧ j'.machine = j.machine := by
  have hjson : Json.ofDatum j.machine.writeLevels (.dict entry) = .ok (.object row) :=
    (Json.ofDatum_eq_ok_iff hkeyed).2 ⟨hmeans, hstorable⟩
  obtain ⟨j', hj', hholds, hmachine⟩ := h.append_line hstorable
  refine ⟨j', ?_, hholds, hmachine⟩
  rw [Journal.log, encode, hjson]
  exact hj'

theorem Holds.perform_log (h : j.Holds rows) {entry : List (String × Datum)}
    (hkeyed : (Datum.dict entry).Keyed) :
    ∃ rows', Posts j.machine rows (.log entry) (j.perform (.log entry)).1 rows' ∧
      (j.perform (.log entry)).2.Holds rows' ∧
      (j.perform (.log entry)).2.machine = j.machine := by
  rw [perform]
  cases hjson : Json.ofDatum j.machine.writeLevels (.dict entry) with
  | ok value =>
    obtain ⟨hmeans, hstorable⟩ := (Json.ofDatum_eq_ok_iff hkeyed).1 hjson
    cases hmeans with
    | @object _ entries' row hperm hfst hvalues =>
      have hmeans : Json.Means (.dict entry) (.object row) := .object hperm hfst hvalues
      obtain ⟨j', hj', hholds, hmachine⟩ := h.log_of_means hkeyed hmeans hstorable
      rw [hj']
      exact ⟨rows ++ [row], .logged hmeans hstorable, hholds, hmachine⟩
  | error failure =>
    have hlog : j.log (.dict entry) = .error failure := by
      rw [Journal.log, encode, hjson]
      rfl
    rw [hlog]
    refine ⟨rows, .refused fun row hmeans hstorable => ?_, h, rfl⟩
    rw [(Json.ofDatum_eq_ok_iff hkeyed).2 ⟨hmeans, hstorable⟩] at hjson
    cases hjson

/-- Objects are written again as they are, unless one of them is nested
too deep. -/
theorem rewrite_of_readable (h : Readable m.writeLevels rows) :
    Readable m.rewriteLevels rows ∧ rewrite m.rewriteLevels rows = .ok (fileText rows) ∨
      ¬ Readable m.rewriteLevels rows ∧
        rewrite m.rewriteLevels rows = .error .writtenTooDeep := by
  induction rows with
  | nil => exact .inl ⟨fun _ hrow => absurd hrow List.not_mem_nil, rfl⟩
  | cons row rows ih =>
    have hrow := h row List.mem_cons_self
    rcases hrow.ofDatum_toDatum m.rewriteLevels with ⟨hagain, hjson⟩ | ⟨hdeep, hjson⟩
    · rcases ih fun r hr => h r (List.mem_cons_of_mem _ hr) with ⟨hrest, hrewrite⟩ | ⟨hrest, hrewrite⟩
      · refine .inl ⟨List.forall_mem_cons.2 ⟨hagain, hrest⟩, ?_⟩
        rw [rewrite, encode, hjson, hrewrite, fileText_cons]
        rfl
      · refine .inr ⟨fun hall => hrest (List.forall_mem_cons.1 hall).2, ?_⟩
        rw [rewrite, encode, hjson, hrewrite]
        rfl
    · refine .inr ⟨fun hall => hdeep (List.forall_mem_cons.1 hall).1, ?_⟩
      rw [rewrite, encode, hjson]
      rfl

/-- Pruning drops what is too much and writes the newest objects again. -/
theorem prune_eq (j : Journal) {count : Nat} (hpos : 0 < count) :
    j.prune (some count) = j.load j.machine.innerReadLevels >>= fun rows =>
      if rows.length - count = 0 then .ok (0, j)
      else (rewrite j.machine.rewriteLevels (newest count rows)).map fun content =>
        (rows.length - count, { j with workspace := j.workspace.put j.path content.toUTF8 }) := by
  rw [prune]
  dsimp only
  rw [if_neg (by omega)]
  refine bind_congr fun rows => ?_
  rw [Int.toNat_natCast]
  split
  · rfl
  · rw [newest]
    cases rewrite j.machine.rewriteLevels (rows.drop (rows.length - count)) <;> rfl

theorem prune_of_le (hload : j.load j.machine.innerReadLevels = .ok rows) {count : Nat}
    (hpos : 0 < count) (hfew : rows.length ≤ count) : j.prune (some count) = .ok (0, j) := by
  rw [prune_eq j hpos, hload]
  exact if_pos (by omega)

theorem prune_of_lt (hload : j.load j.machine.innerReadLevels = .ok rows) {count : Nat}
    (hpos : 0 < count) (hmany : count < rows.length) :
    j.prune (some count) =
      (rewrite j.machine.rewriteLevels (newest count rows)).map fun content =>
        (rows.length - count, { j with workspace := j.workspace.put j.path content.toUTF8 }) := by
  rw [prune_eq j hpos, hload]
  exact if_neg (by omega)

/-- Pruning that drops nothing does nothing. -/
theorem Holds.perform_prune_of_eq (h : j.Holds rows) {limit : Option ℤ}
    (hprune : j.prune limit = .ok (0, j))
    (hlimit : ∀ count, limit = some count → 0 < count → (rows.length : ℤ) ≤ count) :
    ∃ rows', Posts j.machine rows (.prune limit) (j.perform (.prune limit)).1 rows' ∧
      (j.perform (.prune limit)).2.Holds rows' ∧
      (j.perform (.prune limit)).2.machine = j.machine := by
  rw [perform, hprune]
  exact ⟨rows, .idle hlimit, h, rfl⟩

theorem Holds.perform_prune (h : j.Holds rows) (limit : Option ℤ) :
    ∃ rows', Posts j.machine rows (.prune limit) (j.perform (.prune limit)).1 rows' ∧
      (j.perform (.prune limit)).2.Holds rows' ∧
      (j.perform (.prune limit)).2.machine = j.machine := by
  cases limit with
  | none => exact h.perform_prune_of_eq rfl nofun
  | some limit =>
    by_cases hpos : limit ≤ 0
    · refine h.perform_prune_of_eq (if_pos hpos) ?_
      rintro count ⟨⟩ hcount
      omega
    obtain ⟨count, rfl⟩ := Int.eq_ofNat_of_zero_le (by omega : 0 ≤ limit)
    by_cases hfew : rows.length ≤ count
    · refine h.perform_prune_of_eq (prune_of_le h.load_inner (by omega) hfew) ?_
      rintro count' hcount -
      cases hcount
      omega
    have hkept : Readable j.machine.writeLevels (newest count rows) := fun row hrow =>
      h.readable row (List.mem_of_mem_drop hrow)
    rw [perform, prune_of_lt h.load_inner (by omega) (by omega)]
    rcases rewrite_of_readable hkept with ⟨hagain, hrewrite⟩ | ⟨hdeep, hrewrite⟩
    · rw [hrewrite]
      exact ⟨newest count rows, .pruned (by omega) (by omega) hagain, h.put hkept, rfl⟩
    · rw [hrewrite]
      exact ⟨rows, .stuck (by omega) (by omega) hdeep, h, rfl⟩

theorem eq_of_prune_eq_zero {limit : Option ℤ} {j' : Journal} (h : j.prune limit = .ok (0, j')) :
    j' = j := by
  unfold prune at h
  split at h
  · cases h
    rfl
  · split at h
    · cases h
      rfl
    · obtain ⟨rows, -, h⟩ := bind_eq_ok.1 h
      dsimp only at h
      split at h
      · exact (congrArg Prod.snd (Except.ok.inj h)).symm
      · rename_i hmany
        obtain ⟨content, -, h⟩ := bind_eq_ok.1 h
        exact absurd (congrArg Prod.fst (Except.ok.inj h)) hmany

/-- **After a call the journal holds what is on the books.** -/
theorem Holds.perform (h : j.Holds rows) (hcall : call.Keyed) :
    ∃ rows', Posts j.machine rows call (j.perform call).1 rows' ∧
      (j.perform call).2.Holds rows' ∧ (j.perform call).2.machine = j.machine := by
  cases call with
  | log entry => exact h.perform_log hcall
  | prune limit => exact h.perform_prune limit

/-- **A call that takes nothing and drops nothing changes nothing**: one
that fails, and pruning that has nothing to drop. -/
theorem perform_of_idle (htaken : isTaken (j.perform call).1 = false)
    (hdropped : dropped (j.perform call).1 = 0) : (j.perform call).2 = j := by
  cases call with
  | log entry =>
    rw [Journal.perform] at htaken ⊢
    split at htaken
    · cases htaken
    · rfl
  | prune limit =>
    rw [Journal.perform] at hdropped ⊢
    split at hdropped
    · rename_i count j' hprune
      obtain rfl : count = 0 := hdropped
      exact eq_of_prune_eq_zero hprune
    · rfl

/-- What a call adds to the books and what it drops. -/
theorem Posts.length_add (h : Posts m rows call reply rows') :
    rows'.length + dropped reply = rows.length + if isTaken reply then 1 else 0 := by
  cases h with
  | logged => simp [dropped, isTaken]
  | refused => rfl
  | idle => rfl
  | pruned hpos hmany =>
    simp only [newest, List.length_drop, dropped, isTaken, Bool.false_eq_true, if_false]
    omega
  | stuck => rfl

/-! ## A run -/

/-- **At every moment of a run the journal holds what is on the books.** -/
theorem Holds.run (h : j.Holds rows) (hcalls : ∀ call ∈ calls, call.Keyed) :
    ∃ rows', Books j.machine rows calls (j.run calls).1 rows' ∧
      (j.run calls).2.Holds rows' := by
  induction calls generalizing j rows with
  | nil => exact ⟨rows, .nil rows, h⟩
  | cons call calls ih =>
    obtain ⟨rows₁, hposts, hholds, hmachine⟩ := h.perform (hcalls call List.mem_cons_self)
    obtain ⟨rows₂, hbooks, hholds⟩ := ih hholds fun c hc => hcalls c (List.mem_cons_of_mem _ hc)
    rw [hmachine] at hbooks
    exact ⟨rows₂, .cons hposts hbooks, hholds⟩

/-- **The entries that were taken are still there or were dropped.** -/
theorem Books.length_add (h : Books m rows calls replies rows') :
    rows'.length + (replies.map dropped).sum = rows.length + replies.countP isTaken := by
  induction h with
  | nil => rfl
  | cons hposts _ ih =>
    have hstep := hposts.length_add
    rw [List.map_cons, List.sum_cons, List.countP_cons]
    omega

/-- A journal that sums up its objects. -/
def SumsUp (j : Journal) (rows : List Row) : Prop := ∃ s, j.summary = .ok s ∧ s.SumsUp rows

theorem summary_of_load (hload : j.load j.machine.innerReadLevels = .ok rows) :
    j.summary = summarize rows := by
  rw [summary, hload]
  rfl

/-- **A journal sums up its objects exactly when each of them has a
size.** -/
theorem sumsUp_iff_of_load (hload : j.load j.machine.innerReadLevels = .ok rows) :
    j.SumsUp rows ↔ ∀ row ∈ rows, ∃ size, rowSize row = .ok size := by
  rw [SumsUp, summary_of_load hload, ← exists_summarize_iff]
  constructor
  · rintro ⟨s, hs, -⟩
    exact ⟨s, hs⟩
  · rintro ⟨s, hs⟩
    exact ⟨s, hs, sumsUp_of_summarize hs⟩

/-- **The books of a run.** A journal whose file is missing is kept like
books: after any calls its objects are what the calls made of no objects,
the entries that were taken are still there or were dropped, and a
further call that takes and drops nothing changes nothing. Its summary is
right exactly when every object has a size, which integers are as they
stand. -/
theorem books_and_sumsUp_iff (hmissing : j.workspace.look j.path = .ok .nothing)
    (calls : List Call) (hcalls : ∀ call ∈ calls, call.Keyed) :
    ∃ rows, Books j.machine [] calls (j.run calls).1 rows ∧ (j.run calls).2.entries = .ok rows ∧
      rows.length + ((j.run calls).1.map dropped).sum = (j.run calls).1.countP isTaken ∧
      (∀ call, isTaken ((j.run calls).2.perform call).1 = false →
        dropped ((j.run calls).2.perform call).1 = 0 →
        ((j.run calls).2.perform call).2 = (j.run calls).2) ∧
      ((j.run calls).2.SumsUp rows ↔ ∀ row ∈ rows, ∃ size, rowSize row = .ok size) ∧
      ∀ sizes, Sized rows sizes →
        ∃ s, (j.run calls).2.summary = .ok s ∧ s.bytes = sizes.reduceOption.sum := by
  obtain ⟨rows, hbooks, hholds⟩ := (holds_nil hmissing).run hcalls
  have hlength := hbooks.length_add
  rw [List.length_nil, Nat.zero_add] at hlength
  exact ⟨rows, hbooks, hholds.entries_eq, hlength, fun _ => perform_of_idle,
    sumsUp_iff_of_load hholds.load_inner,
    fun _ hsizes => summary_of_load hholds.load_inner ▸ hsizes.exists_summarize⟩

/-- A journal in a folder where nothing is yet. -/
def unwritten : Journal := ⟨⟨.here, ["journal"]⟩, {}⟩

/-- Two entries, one of which is dropped again, and a third one that JSON
cannot hold. -/
def twoTaken : List Call :=
  [.log [("operation", .text "plot"), ("bytes", .int 7)], .log [("script", .text "a\n\u2028b")],
    .log [("script", .bytes [0])], .prune (some 1)]

theorem books_and_sumsUp_twoTaken :
    unwritten.workspace.look unwritten.path = .ok .nothing ∧ (∀ call ∈ twoTaken, call.Keyed) ∧
      ∃ rows, Books {} [] twoTaken (unwritten.run twoTaken).1 rows ∧
        (unwritten.run twoTaken).2.entries = .ok rows ∧
        rows.length + ((unwritten.run twoTaken).1.map dropped).sum
          = (unwritten.run twoTaken).1.countP isTaken ∧
        (∀ call, isTaken ((unwritten.run twoTaken).2.perform call).1 = false →
          dropped ((unwritten.run twoTaken).2.perform call).1 = 0 →
          ((unwritten.run twoTaken).2.perform call).2 = (unwritten.run twoTaken).2) ∧
        ((unwritten.run twoTaken).2.SumsUp rows ↔
          ∀ row ∈ rows, ∃ size, rowSize row = .ok size) ∧
        ∀ sizes, Sized rows sizes → ∃ s, (unwritten.run twoTaken).2.summary = .ok s ∧
          s.bytes = sizes.reduceOption.sum := by
  have hmissing : unwritten.workspace.look unwritten.path = .ok .nothing := rfl
  have hcalls : ∀ call ∈ twoTaken, call.Keyed := by
    intro call hcall
    simp only [twoTaken, List.mem_cons, List.not_mem_nil, or_false] at hcall
    rcases hcall with rfl | rfl | rfl | rfl
    · exact .dict (by decide) (List.forall_mem_cons.2
        ⟨.other nofun nofun nofun, List.forall_mem_singleton.2 (.other nofun nofun nofun)⟩)
    · exact .dict (by decide) (List.forall_mem_singleton.2 (.other nofun nofun nofun))
    · exact .dict (by decide) (List.forall_mem_singleton.2 (.other nofun nofun nofun))
    · exact trivial
  exact ⟨hmissing, hcalls, books_and_sumsUp_iff hmissing twoTaken hcalls⟩

/-- An entry whose size is null is taken, and the journal has no summary
any more. -/
theorem not_sumsUp_nullSize :
    ¬ ∃ rows, (unwritten.run [.log [("bytes", .null)]]).2.entries = .ok rows ∧
      (unwritten.run [.log [("bytes", .null)]]).2.SumsUp rows := by
  have hkeyed : (Datum.dict [("bytes", .null)]).Keyed :=
    .dict (by decide) (List.forall_mem_singleton.2 (.other nofun nofun nofun))
  have hstorable : Json.Storable (986 + 1) (.object [("bytes", .null)]) :=
    .object (List.pairwise_singleton _ _) (List.forall_mem_singleton.2 .null)
  have hmeans : Json.Means (.dict [("bytes", .null)]) (.object [("bytes", .null)]) :=
    .object (List.Perm.refl _) rfl (.cons .null .nil)
  obtain ⟨j', hj', hholds, -⟩ :=
    (holds_nil (j := unwritten) rfl).log_of_means hkeyed hmeans hstorable
  have hrun : (unwritten.run [.log [("bytes", .null)]]).2 = j' := by
    rw [Journal.run, perform, hj']
    rfl
  rw [hrun]
  rintro ⟨rows, hrows, hsums⟩
  rw [hholds.entries_eq] at hrows
  cases hrows
  obtain ⟨size, hsize⟩ := (sumsUp_iff_of_load hholds.load_inner).1 hsums _ List.mem_cons_self
  cases hsize

end Journal

end PlotPipe
