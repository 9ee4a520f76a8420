import Mathlib.Algebra.GroupWithZero.Nat
import Mathlib.Algebra.Ring.Int.Defs
import Mathlib.Data.List.Forall2
import Mathlib.Data.List.Induction
import Mathlib.Data.List.ReduceOption
import PlotPipe.Journal.Basic
import PlotPipe.Proofs.Outcome
/-!
# Journal — what a summary adds up to

A summary counts every object once, under its operation, and adds up the
sizes of the objects (`sumsUp_of_summarize`). There is a summary exactly
when every object has a size (`exists_summarize_iff`), which an object
without one has, since that counts as nothing. A size may be missing
only because what stands there for it is no integer.
-/

namespace PlotPipe

namespace Journal

/-- The operation that an object counts under. -/
def rowOperation (row : Row) : String :=
  (((Json.object row).get? "operation").map plainText).getD ""

/-- The size of an object. -/
def rowSize (row : Row) : Except Failure Int :=
  match (Json.object row).get? "bytes" with
  | some j => j.toDatum.toInt
  | none => .ok 0

/-- A summary adds up objects: their number, their operations and their
sizes. -/
structure Summary.SumsUp (s : Summary) (rows : List Row) : Prop where
  total_eq : s.total = rows.length
  sum_byOperation : (s.byOperation.map Prod.snd).sum = rows.length
  count_eq : ∀ name, (Datum.lookup name s.byOperation).getD 0
    = rows.countP fun row => rowOperation row = name
  bytes_eq : ∃ sizes, List.Forall₂ (fun row size => rowSize row = .ok size) rows sizes ∧
    s.bytes = sizes.sum

/-- Objects with these integers as their sizes; some may have none. -/
def Sized (rows : List Row) (sizes : List (Option Int)) : Prop :=
  List.Forall₂ (fun row size => (Json.object row).get? "bytes" = size.map .int) rows sizes

variable {row : Row} {rows : List Row} {sizes : List (Option Int)} {s s' : Summary}

/-- An integer is a size by itself, and a missing size is nothing. -/
theorem rowSize_of_get?_eq {size : Option Int}
    (h : (Json.object row).get? "bytes" = size.map .int) : rowSize row = .ok (size.getD 0) := by
  rw [rowSize, h]
  cases size <;> rfl

/-! ## Counting -/

theorem lookup_put {α : Type} (key key' : String) (value : α) (entries : List (String × α)) :
    Datum.lookup key' (Json.put key value entries)
      = if key = key' then some value else Datum.lookup key' entries := by
  induction entries with
  | nil => by_cases h : key = key' <;> simp [Datum.lookup, Json.put, h]
  | cons entry entries ih =>
    rw [Json.put]
    by_cases hentry : entry.1 = key
    · by_cases h : key = key' <;> simp [Datum.lookup, hentry, h]
    · rw [if_neg hentry]
      by_cases h : entry.1 = key'
      · have hne : key ≠ key' := fun heq => hentry (h.trans heq.symm)
        simp [Datum.lookup, h, hne]
      · simpa [Datum.lookup, h] using ih

/-- The new value of a key takes the place of the old one in a sum. -/
theorem sum_put (key : String) (value : Nat) (counts : List (String × Nat)) :
    ((Json.put key value counts).map Prod.snd).sum + (Datum.lookup key counts).getD 0
      = (counts.map Prod.snd).sum + value := by
  induction counts with
  | nil => simp [Json.put, Datum.lookup]
  | cons entry counts ih =>
    rw [Json.put]
    by_cases hentry : entry.1 = key
    · simp only [hentry, if_true, Datum.lookup, List.find?_cons, decide_true, List.map_cons,
        List.sum_cons, Option.map_some, Option.getD_some]
      omega
    · have hlookup : Datum.lookup key (entry :: counts) = Datum.lookup key counts := by
        simp [Datum.lookup, hentry]
      rw [if_neg hentry, hlookup, List.map_cons, List.sum_cons, List.map_cons, List.sum_cons]
      omega

theorem countOne_eq (name : String) (counts : List (String × Nat)) :
    countOne name counts = Json.put name ((Datum.lookup name counts).getD 0 + 1) counts := rfl

theorem sum_countOne (name : String) (counts : List (String × Nat)) :
    ((countOne name counts).map Prod.snd).sum = (counts.map Prod.snd).sum + 1 := by
  have hsum := sum_put name ((Datum.lookup name counts).getD 0 + 1) counts
  rw [countOne_eq]
  omega

theorem lookup_countOne (name name' : String) (counts : List (String × Nat)) :
    (Datum.lookup name' (countOne name counts)).getD 0
      = (Datum.lookup name' counts).getD 0 + if name = name' then 1 else 0 := by
  rw [countOne_eq, lookup_put]
  split
  · rename_i heq
    rw [heq, Option.getD_some]
  · rw [Nat.add_zero]

/-! ## Adding up -/

theorem add_eq (s : Summary) (row : Row) : s.add row = (rowSize row).map fun size =>
    ⟨s.total + 1, s.bytes + size, countOne (rowOperation row) s.byOperation⟩ := by
  rw [Summary.add, rowSize]
  cases Json.get? "bytes" (Json.object row) with
  | none => rfl
  | some j =>
    dsimp only
    cases j.toDatum.toInt <;> rfl

/-- One more object in a summary. -/
theorem Summary.SumsUp.add (h : s.SumsUp rows) (hs : s.add row = .ok s') :
    s'.SumsUp (rows ++ [row]) := by
  rw [add_eq, map_eq_ok] at hs
  obtain ⟨size, hsize, rfl⟩ := hs
  obtain ⟨sizes, hsizes, hbytes⟩ := h.bytes_eq
  constructor
  · simp [h.total_eq]
  · rw [sum_countOne, h.sum_byOperation, List.length_append, List.length_singleton]
  · intro name
    rw [lookup_countOne, h.count_eq, List.countP_append, List.countP_singleton]
    simp
  · refine ⟨sizes ++ [size], List.rel_append hsizes (.cons hsize .nil), ?_⟩
    rw [List.sum_append, List.sum_singleton, hbytes]

theorem sumsUp_nil : Summary.SumsUp ⟨0, 0, []⟩ [] :=
  ⟨rfl, rfl, fun _ => rfl, [], .nil, rfl⟩

theorem summarize_append_singleton (rows : List Row) (row : Row) :
    summarize (rows ++ [row]) = (summarize rows >>= fun s => s.add row) := by
  rw [summarize, List.foldlM_append]
  refine bind_congr fun s => ?_
  rw [List.foldlM_cons]
  exact bind_pure (s.add row)

/-- **A summary adds up the objects.** -/
theorem sumsUp_of_summarize (h : summarize rows = .ok s) : s.SumsUp rows := by
  induction rows using List.reverseRecOn generalizing s with
  | nil =>
    cases h
    exact sumsUp_nil
  | append_singleton rows row ih =>
    rw [summarize_append_singleton, bind_eq_ok] at h
    obtain ⟨before, hbefore, hadd⟩ := h
    exact (ih hbefore).add hadd

/-- **There is a summary exactly when every object has a size.** -/
theorem exists_summarize_iff :
    (∃ s, summarize rows = .ok s) ↔ ∀ row ∈ rows, ∃ size, rowSize row = .ok size := by
  induction rows using List.reverseRecOn with
  | nil => exact ⟨fun _ row hrow => absurd hrow List.not_mem_nil, fun _ => ⟨_, rfl⟩⟩
  | append_singleton rows row ih =>
    simp only [summarize_append_singleton, bind_eq_ok, add_eq, map_eq_ok]
    constructor
    · rintro ⟨_, before, hbefore, size, hsize, -⟩ r hr
      rcases List.mem_append.1 hr with hr | hr
      · exact ih.1 ⟨before, hbefore⟩ r hr
      · exact List.mem_singleton.1 hr ▸ ⟨size, hsize⟩
    · intro h
      obtain ⟨before, hbefore⟩ := ih.2 fun r hr => h r (List.mem_append_left _ hr)
      obtain ⟨size, hsize⟩ := h row (List.mem_append_right _ List.mem_cons_self)
      exact ⟨_, before, hbefore, size, hsize, rfl⟩

/-! ## Integer sizes -/

theorem Sized.exists_rowSize (h : Sized rows sizes) :
    ∀ row ∈ rows, ∃ size, rowSize row = .ok size := by
  induction h with
  | nil => exact fun row hrow => absurd hrow List.not_mem_nil
  | cons hrow _ ih => exact List.forall_mem_cons.2 ⟨⟨_, rowSize_of_get?_eq hrow⟩, ih⟩

theorem Sized.sum_eq (h : Sized rows sizes) {sizes' : List Int}
    (hsizes : List.Forall₂ (fun row size => rowSize row = .ok size) rows sizes') :
    sizes'.sum = sizes.reduceOption.sum := by
  induction h generalizing sizes' with
  | nil =>
    cases hsizes
    rfl
  | @cons row size rows sizes hrow _ ih =>
    cases hsizes with
    | cons hsize hrest =>
      rw [rowSize_of_get?_eq hrow] at hsize
      cases hsize
      rw [List.sum_cons, ih hrest]
      cases size <;> simp

/-- **Integers are added up**, and objects without a size add nothing. -/
theorem Sized.exists_summarize (h : Sized rows sizes) :
    ∃ s, summarize rows = .ok s ∧ s.bytes = sizes.reduceOption.sum := by
  obtain ⟨s, hs⟩ := exists_summarize_iff.2 h.exists_rowSize
  obtain ⟨sizes', hsizes, hbytes⟩ := (sumsUp_of_summarize hs).bytes_eq
  exact ⟨s, hs, hbytes.trans (h.sum_eq hsizes)⟩

end Journal

end PlotPipe
