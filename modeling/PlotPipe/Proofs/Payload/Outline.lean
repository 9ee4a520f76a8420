import Mathlib.Data.List.Infix
import PlotPipe.Payload.Outline

/-!
# Payload — what the outline of a nest is

A nest **conforms** to axes when it can be laid out on them: sequences
have the lengths of the axes at their depth, and what is laid out as a
block of its own has at least the axes that are left for it
(`Datum.Conforms`). The outline that one walk through the nest finds is
the longest of the axes that the nest conforms to, up to the number of
axes that a grid has: `prefix_ofNest_iff`.

The walk is followed by what its state still admits. A value that is met
at a depth leaves of the axes admitted so far those whose rest from that
depth on the value conforms to (`Narrows`), whether or not an earlier
value has settled the outline.
-/

namespace PlotPipe

namespace Datum

/-- A value that is a list or a tuple of some items. -/
def IsNest (d : Datum) (items : List Datum) : Prop := d = .list items ∨ d = .tuple items

/-- A value that takes part in a nest with all of its axes at once. -/
def isBlock : Datum → Bool
  | list _ | tuple _ | range _ _ _ => false
  | _ => true

/-- Induction over a nest: a list or a tuple after its items. -/
@[elab_as_elim]
theorem nest_induction {P : Datum → Prop} (d : Datum)
    (nest : ∀ d items, IsNest d items → (∀ item ∈ items, P item) → P d)
    (range : ∀ start stop step, P (.range start stop step))
    (block : ∀ d, d.isBlock = true → P d) : P d := by
  match d with
  | .list items =>
    exact nest _ items (.inl rfl) fun item hitem => nest_induction item nest range block
  | .tuple items =>
    exact nest _ items (.inr rfl) fun item hitem => nest_induction item nest range block
  | .range start stop step => exact range start stop step
  | .null | .truth _ | .int _ | .real _ | .exact _ | .complex _ _ | .text _ | .bytes _ | .buffer _
  | .dict _ | .date _ | .moment _ | .tick _ | .stamp _ | .noTime | .missing | .cell _ _
  | .array _ _ _ | .column _ _ _ | .frame _ | .record _ _ => exact block _ rfl
termination_by sizeOf d
decreasing_by all_goals
  have := List.sizeOf_lt_of_mem hitem
  simp only [list.sizeOf_spec, tuple.sizeOf_spec]
  omega

/-- **A nest conforms to axes**: it can be laid out on them. Below an
empty sequence there are no axes, and what is not a sequence has its own
axes. -/
def Conforms : Datum → List ℕ → Prop
  | _, [] => True
  | .list items, n :: axes | .tuple items, n :: axes =>
    items.length = n ∧ (items = [] → axes = []) ∧ ∀ item ∈ items, Conforms item axes
  | .range start stop step, n :: axes =>
    rangeLength start stop step = n ∧ n < lengthLimit ∧ axes = []
  | d, n :: axes => n :: axes <+: Outline.blockAxes d

section Conforms

variable {d : Datum} {axes : List ℕ} {items : List Datum} {start stop step : ℤ}

theorem conforms_nil (d : Datum) : d.Conforms [] := by
  unfold Conforms
  trivial

theorem conforms_nest (h : d.IsNest items) :
    d.Conforms axes ↔ (∀ n ∈ axes.head?, items.length = n) ∧ (items = [] → axes.tail = []) ∧
      ∀ item ∈ items, item.Conforms axes.tail := by
  cases axes with
  | nil => simp [conforms_nil]
  | cons n axes => rcases h with rfl | rfl <;> simp [Conforms]

theorem conforms_range :
    (Datum.range start stop step).Conforms axes ↔
      (∀ n ∈ axes.head?, rangeLength start stop step = n ∧ n < lengthLimit) ∧ axes.tail = [] := by
  cases axes with
  | nil => simp [conforms_nil]
  | cons n axes => simp [Conforms, and_assoc]

theorem conforms_block (h : d.isBlock = true) : d.Conforms axes ↔ axes <+: Outline.blockAxes d := by
  cases axes with
  | nil => simp [conforms_nil]
  | cons n axes => cases d <;> simp_all [Conforms, isBlock]

end Conforms

end Datum

namespace Outline

open Datum

variable {o o' : Outline} {depth : ℕ} {axes lengths : List ℕ} {P Q : List ℕ → Prop}

/-! ## What a state of the walk admits -/

/-- The axes that a state of the walk still admits: the beginnings of the
axes known so far, and all that go on from those while nothing has
settled how deep the nest is. -/
def Admits (o : Outline) (axes : List ℕ) : Prop :=
  axes.length ≤ o.limit ∧ (axes <+: o.lengths ∨ o.settled = false ∧ o.lengths <+: axes)

/-- The state of a walk at a depth: the limit is not above it, and the
axes are known down to the limit, or to the depth if nothing has settled
them. -/
structure IsAt (o : Outline) (depth : ℕ) : Prop where
  le_limit : depth ≤ o.limit
  known : if o.settled then o.limit ≤ o.lengths.length else o.lengths.length = depth

/-- **A part of the walk narrows** what is admitted to the axes whose
rest from a depth on is kept, and after it the outline is settled. -/
structure Narrows (o : Outline) (depth : ℕ) (Keeps : List ℕ → Prop) (o' : Outline) : Prop where
  settled : o'.settled = true
  le_limit : depth ≤ o'.limit
  known : o'.limit ≤ o'.lengths.length
  admits : ∀ axes, o'.Admits axes ↔ o.Admits axes ∧ Keeps (axes.drop depth)

theorem admits_of_settled (h : o.settled = true) :
    o.Admits axes ↔ axes.length ≤ o.limit ∧ axes <+: o.lengths := by
  simp [Admits, h]

theorem admits_of_not_settled (h : o.settled = false) :
    o.Admits axes ↔ axes.length ≤ o.limit ∧ (axes <+: o.lengths ∨ o.lengths <+: axes) := by
  simp [Admits, h]

namespace Narrows

theorem isAt (h : Narrows o depth P o') : o'.IsAt depth :=
  ⟨h.le_limit, by rw [h.settled]; exact h.known⟩

/-- Two parts of the walk at one depth keep what both keep. -/
theorem trans {o'' : Outline} (h : Narrows o depth P o') (h' : Narrows o' depth Q o'') :
    Narrows o depth (fun axes => P axes ∧ Q axes) o'' where
  settled := h'.settled
  le_limit := h'.le_limit
  known := h'.known
  admits axes := by rw [h'.admits, h.admits, and_assoc]

/-- What is kept counts on the axes that have been admitted so far. -/
theorem congr (h : Narrows o depth P o')
    (hPQ : ∀ axes, o.Admits axes → (P (axes.drop depth) ↔ Q (axes.drop depth))) :
    Narrows o depth Q o' :=
  { h with admits := fun axes => (h.admits axes).trans (and_congr_right (hPQ axes)) }

end Narrows

/-! ## One value of the walk -/

/-- A list begins a longer one that goes on from a known part when it
agrees with the known part and with the rest. -/
theorem prefix_append_iff {known rest : List ℕ} :
    axes <+: known ++ rest ↔
      (axes <+: known ∨ known <+: axes) ∧ axes.drop known.length <+: rest := by
  induction known generalizing axes with
  | nil => simp
  | cons n known ih =>
    cases axes with
    | nil => simp
    | cons m axes =>
      simp only [List.cons_append, List.cons_prefix_cons, ih, List.length_cons, List.drop_succ_cons]
      tauto

theorem differsAt?_cons_cons (n k : ℕ) (known lengths : List ℕ) :
    differsAt? (n :: known) (k :: lengths) =
      if n = k then (differsAt? known lengths).map (· + 1) else some 0 := by
  by_cases h : n = k <;> simp [differsAt?, List.findIdx?_cons, h]

/-- Of the beginnings of what is known, those up to the first difference
from other lengths are beginnings of these. -/
theorem prefix_iff_length_le {known : List ℕ} (hknown : axes <+: known)
    (hlength : lengths.length ≤ known.length) :
    axes <+: lengths ↔ axes.length ≤ (differsAt? known lengths).getD lengths.length := by
  induction known generalizing axes lengths with
  | nil => simp_all
  | cons n known ih =>
    cases axes with
    | nil => simp
    | cons m axes =>
      obtain ⟨rfl, hrest⟩ := List.cons_prefix_cons.1 hknown
      cases lengths with
      | nil => simp [differsAt?]
      | cons k lengths =>
        have ih := ih hrest (by simpa using hlength)
        rw [List.cons_prefix_cons, differsAt?_cons_cons]
        by_cases hk : m = k
        · rw [if_pos hk, ih]
          cases differsAt? known lengths <;> simp [hk]
        · simp [hk]

theorem getD_differsAt?_le (known lengths : List ℕ) :
    (differsAt? known lengths).getD lengths.length ≤ lengths.length := by
  cases h : differsAt? known lengths with
  | none => exact le_rfl
  | some place =>
    have hlt := (List.findIdx?_eq_some_iff_findIdx_eq.1 h).1
    rw [List.length_zip] at hlt
    exact (hlt.trans_le (Nat.min_le_right _ _)).le

/-- A block settles how deep the nest is. -/
theorem narrows_meetBlock_of_not_settled (h : o.IsAt depth) (hsettled : o.settled = false) :
    Narrows o depth (· <+: lengths) (o.meetBlock depth lengths) := by
  obtain ⟨hlimit, hknown⟩ := h
  have hdepth : o.lengths.length = depth := by simpa [hsettled] using hknown
  have hmeet : o.meetBlock depth lengths =
      ⟨min o.limit (depth + lengths.length), true, o.lengths ++ lengths.take (o.limit - depth)⟩ := by
    simp [meetBlock, put, hsettled, ← hdepth]
  rw [hmeet]
  constructor
  case settled => rfl
  case le_limit => exact le_min hlimit (Nat.le_add_right _ _)
  case known => simp only [List.length_append, List.length_take, hdepth]; omega
  intro axes
  rw [admits_of_settled rfl, admits_of_not_settled hsettled, prefix_append_iff,
    List.prefix_take_iff, hdepth, List.length_drop]
  dsimp only
  constructor
  · rintro ⟨hlen, hcompat, hrest, -⟩
    exact ⟨⟨by omega, hcompat⟩, hrest⟩
  · rintro ⟨⟨hlen, hcompat⟩, hrest⟩
    have hle := hrest.length_le
    rw [List.length_drop] at hle
    exact ⟨by omega, hcompat, hrest, by omega⟩

/-- A block that is met later cuts the known axes at the first
difference. -/
theorem narrows_meetBlock_of_settled (h : o.IsAt depth) (hsettled : o.settled = true) :
    Narrows o depth (· <+: lengths) (o.meetBlock depth lengths) := by
  obtain ⟨hlimit, hknown⟩ := h
  rw [if_pos hsettled] at hknown
  obtain ⟨kept, hkept, hmeet⟩ : ∃ kept, kept = (differsAt? (o.lengths.drop depth)
      (lengths.take (o.limit - depth))).getD (lengths.take (o.limit - depth)).length ∧
      o.meetBlock depth lengths = { o with limit := depth + kept } := by
    refine ⟨_, rfl, ?_⟩
    have hlt := getD_differsAt?_le (o.lengths.drop depth) (lengths.take (o.limit - depth))
    simp only [meetBlock, hsettled, Bool.not_true, Bool.false_eq_true, if_false]
    split <;> rename_i hdiffers <;> simp only [hdiffers, Option.getD, List.length_take] at hlt ⊢
    · congr 1
      omega
    · congr 1
      omega
  have hle : kept ≤ (lengths.take (o.limit - depth)).length := hkept ▸ getD_differsAt?_le _ _
  rw [List.length_take] at hle
  rw [hmeet]
  constructor
  case settled => exact hsettled
  case le_limit => exact Nat.le_add_right _ _
  case known => dsimp only; omega
  intro axes
  rw [admits_of_settled (by exact hsettled), admits_of_settled hsettled]
  dsimp only
  have hiff (hbegins : axes <+: o.lengths) :
      axes.drop depth <+: lengths.take (o.limit - depth) ↔ axes.length - depth ≤ kept := by
    rw [prefix_iff_length_le (hbegins.drop depth) (by simp; omega), ← hkept, List.length_drop]
  rw [List.prefix_take_iff, List.length_drop] at hiff
  constructor
  · rintro ⟨hlen, hbegins⟩
    exact ⟨⟨by omega, hbegins⟩, ((hiff hbegins).2 (by omega)).1⟩
  · rintro ⟨⟨hlen, hbegins⟩, hrest⟩
    have := (hiff hbegins).1 ⟨hrest, by omega⟩
    exact ⟨by omega, hbegins⟩

/-- **Meeting a block** keeps the beginnings of its axes. -/
theorem narrows_meetBlock (h : o.IsAt depth) (lengths : List ℕ) :
    Narrows o depth (· <+: lengths) (o.meetBlock depth lengths) :=
  match hsettled : o.settled with
  | false => narrows_meetBlock_of_not_settled h hsettled
  | true => narrows_meetBlock_of_settled h hsettled

/-- At the limit no more axes are admitted, so that nothing is known of
what a value there has to keep. -/
theorem narrows_meetBlock_of_limit (h : o.IsAt depth) (hlimit : o.limit = depth) (hnil : P []) :
    Narrows o depth P (o.meetBlock depth []) := by
  refine (narrows_meetBlock h []).congr fun axes haxes => ?_
  have hdrop : axes.drop depth = [] := List.drop_eq_nil_of_le (hlimit ▸ haxes.1)
  simpa [hdrop] using hnil

/-! ## A sequence of the walk -/

section Sequence

variable {n : ℕ}

/-- Lists that go on from a known part and one more length have that
length at their place. -/
theorem compatible_concat_iff {known : List ℕ} :
    (axes <+: known ++ [n] ∨ known ++ [n] <+: axes) ↔
      (axes <+: known ∨ known <+: axes) ∧ ∀ m ∈ (axes.drop known.length).head?, n = m := by
  induction known generalizing axes with
  | nil => cases axes <;> simp +contextual [List.cons_prefix_cons, eq_comm]
  | cons k known ih =>
    cases axes with
    | nil => simp
    | cons m axes =>
      simp only [List.cons_append, List.cons_prefix_cons, List.length_cons, List.drop_succ_cons]
      have := @ih axes
      tauto

/-- The length that admitted axes have at a depth is the known one. -/
theorem getElem?_of_admits (hsettled : o.settled = true) (h : o.Admits axes) {m : ℕ}
    (hm : m ∈ (axes.drop depth).head?) : o.lengths[depth]? = some m := by
  rw [List.head?_drop] at hm
  obtain ⟨rest, hrest⟩ := ((admits_of_settled hsettled).1 h).2
  rw [← hrest, List.getElem?_append_left (List.getElem?_eq_some_iff.1 hm).1]
  exact hm

/-- A sequence that fits adds its length to the axes. -/
theorem isAt_meetSequence (h : o.IsAt depth) (heq : o.meetSequence depth n = (o', true)) :
    o'.IsAt (depth + 1) ∧
      ∀ axes, o'.Admits axes ↔ o.Admits axes ∧ ∀ m ∈ (axes.drop depth).head?, n = m := by
  obtain ⟨hlimit, hknown⟩ := h
  unfold meetSequence at heq
  split at heq
  · cases heq
  cases hsettled : o.settled with
  | false =>
    simp only [hsettled, Bool.not_false, if_true, Prod.mk.injEq, and_true] at heq
    rw [if_neg (by simp [hsettled])] at hknown
    subst heq
    have htake : o.lengths.take depth = o.lengths := List.take_of_length_le hknown.le
    refine ⟨⟨by simp only [put]; omega, by simp [put, hsettled]; omega⟩, fun axes => ?_⟩
    rw [admits_of_not_settled (by exact hsettled), admits_of_not_settled hsettled, put, htake,
      compatible_concat_iff, hknown, and_assoc]
  | true =>
    simp only [hsettled, Bool.not_true, Bool.false_eq_true, if_false] at heq
    split at heq
    case isFalse => cases heq
    rename_i hlength
    cases heq
    refine ⟨⟨by omega, by simpa [hsettled] using hknown⟩, fun axes => ?_⟩
    refine (and_iff_left_of_imp fun hadmits m hm => ?_).symm
    exact Option.some_inj.1 (hlength.symm.trans (getElem?_of_admits hsettled hadmits hm))

/-- A sequence that does not fit is a cell, as all the values at its
depth are: its length is not that of the axis known there. -/
theorem narrows_meetSequence (h : o.IsAt depth) (hlt : depth < o.limit)
    (heq : o.meetSequence depth n = (o', false)) (hP : ∀ axes, P axes → ∀ m ∈ axes.head?, n = m)
    (hnil : P []) : Narrows o depth P o' := by
  obtain ⟨-, hknown⟩ := h
  rw [meetSequence, if_neg (not_le.2 hlt)] at heq
  cases hsettled : o.settled with
  | false => simp [hsettled] at heq
  | true =>
    simp only [hsettled, Bool.not_true, Bool.false_eq_true, if_false] at heq
    split at heq
    case isTrue => cases heq
    rename_i hlength
    cases heq
    rw [if_pos hsettled] at hknown
    refine ⟨rfl, le_rfl, by dsimp only; omega, fun axes => ?_⟩
    rw [admits_of_settled rfl]
    constructor
    · rintro ⟨hlen, hbegins⟩
      dsimp only at hlen
      refine ⟨(admits_of_settled hsettled).2 ⟨by omega, hbegins⟩, ?_⟩
      rw [List.drop_eq_nil_of_le hlen]
      exact hnil
    · rintro ⟨hadmits, hkeeps⟩
      refine ⟨not_lt.1 fun hlong => hlength ?_, ((admits_of_settled hsettled).1 hadmits).2⟩
      have hm : axes[depth] ∈ (axes.drop depth).head? := by
        rw [List.head?_drop, List.getElem?_eq_getElem hlong]
        rfl
      rw [hP _ hkeeps _ hm]
      exact getElem?_of_admits hsettled hadmits hm

/-- What follows below a sequence that fits is kept of the axes below
its length. -/
theorem Narrows.below {o'' : Outline}
    (hadmits : ∀ axes, o'.Admits axes ↔ o.Admits axes ∧ ∀ m ∈ (axes.drop depth).head?, n = m)
    (h : Narrows o' (depth + 1) P o'') :
    Narrows o depth (fun axes => (∀ m ∈ axes.head?, n = m) ∧ P axes.tail) o'' where
  settled := h.settled
  le_limit := (Nat.le_succ depth).trans h.le_limit
  known := h.known
  admits axes := by rw [h.admits, hadmits, and_assoc, List.tail_drop]

/-- The end of an empty sequence is a block without axes below it. -/
theorem narrows_close (h : o.IsAt (depth + 1)) :
    Narrows o (depth + 1) (· = []) (o.close depth 0) := by
  have hclose : o.close depth 0 = o.meetBlock (depth + 1) [] := by
    obtain ⟨hlimit, hknown⟩ := h
    cases hsettled : o.settled with
    | false =>
      rw [if_neg (by simp [hsettled])] at hknown
      simp [close, meetBlock, put, hsettled, ← hknown]
      omega
    | true => simp [close, meetBlock, differsAt?, hsettled]; omega
  rw [hclose]
  exact (narrows_meetBlock h []).congr fun _ _ => List.prefix_nil

end Sequence

/-! ## The whole walk -/

/-- Values that are met one after another at a depth keep what all of
them conform to. -/
theorem Narrows.meetAll {items : List Datum} (h : Narrows o depth P o')
    (hitems : ∀ item ∈ items, ∀ o : Outline, o.IsAt depth →
      Narrows o depth item.Conforms (o.meet depth item)) :
    Narrows o depth (fun axes => P axes ∧ ∀ item ∈ items, item.Conforms axes)
      (o'.meetAll depth items) := by
  induction items generalizing o' P with
  | nil => simpa [Outline.meetAll] using h
  | cons d rest ih =>
    obtain ⟨hd, hrest⟩ := List.forall_mem_cons.1 hitems
    rw [Outline.meetAll]
    refine (ih (h.trans (hd o' h.isAt)) hrest).congr fun axes _ => ?_
    rw [List.forall_mem_cons, and_assoc]

/-- The items of a list or a tuple, after it has been found to fit. -/
theorem narrows_items {items : List Datum} (h : o.IsAt (depth + 1))
    (hitems : ∀ item ∈ items, ∀ o : Outline, o.IsAt (depth + 1) →
      Narrows o (depth + 1) item.Conforms (o.meet (depth + 1) item)) :
    Narrows o (depth + 1)
      (fun axes => (items = [] → axes = []) ∧ ∀ item ∈ items, item.Conforms axes)
      ((o.meetAll (depth + 1) items).close depth items.length) := by
  cases items with
  | nil => simpa [meetAll] using narrows_close h
  | cons d rest =>
    obtain ⟨hd, hrest⟩ := List.forall_mem_cons.1 hitems
    refine ((hd o h).meetAll hrest).congr fun axes _ => ?_
    simp

/-- **Meeting a sequence** below the limit: its length is kept, and of the
axes below it what is kept of them there. -/
theorem narrows_sequence {n : ℕ} (f : Outline → Outline) (h : o.IsAt depth)
    (hlt : depth < o.limit) (hP : ∀ axes, P axes ↔ (∀ m ∈ axes.head?, n = m) ∧ Q axes.tail)
    (hnil : P []) (hf : ∀ o : Outline, o.IsAt (depth + 1) → Narrows o (depth + 1) Q (f o)) :
    Narrows o depth P
      (let (o, fits) := o.meetSequence depth n
       if fits then f o else o) := by
  obtain ⟨o', fits, heq⟩ : ∃ o' fits, o.meetSequence depth n = (o', fits) := ⟨_, _, rfl⟩
  simp only [heq]
  cases fits with
  | false => exact narrows_meetSequence h hlt heq (fun axes haxes => ((hP axes).1 haxes).1) hnil
  | true =>
    obtain ⟨hat, hadmits⟩ := isAt_meetSequence h heq
    exact (Narrows.below hadmits (hf o' hat)).congr fun axes _ => (hP _).symm

theorem meet_nest {d : Datum} {items : List Datum} (h : d.IsNest items) :
    o.meet depth d =
      if o.limit = depth then o.meetBlock depth []
      else
        let (o, fits) := o.meetSequence depth items.length
        if fits then (o.meetAll (depth + 1) items).close depth items.length else o := by
  rcases h with rfl | rfl <;> rw [meet]

theorem meet_range (start stop step : ℤ) :
    o.meet depth (.range start stop step) =
      if o.limit = depth ∨ lengthLimit ≤ rangeLength start stop step then o.meetBlock depth []
      else
        let (o, fits) := o.meetSequence depth (rangeLength start stop step)
        if fits then
          if rangeLength start stop step = 0 then o.close depth 0 else o.meetBlock (depth + 1) []
        else o := by
  rw [meet]
  simp only [Bool.or_eq_true, decide_eq_true_eq]
  obtain ⟨o', fits, heq⟩ :
    ∃ o' fits, o.meetSequence depth (rangeLength start stop step) = (o', fits) := ⟨_, _, rfl⟩
  rw [heq]
  cases fits <;> rfl

theorem meet_block {d : Datum} (h : d.isBlock = true) :
    o.meet depth d = o.meetBlock depth (blockAxes d) := by
  cases d <;> first | rfl | cases h

/-- **Meeting a value** keeps the axes that it conforms to. -/
theorem narrows_meet (d : Datum) (h : o.IsAt depth) :
    Narrows o depth d.Conforms (o.meet depth d) := by
  induction d using nest_induction generalizing o depth with
  | nest d items hnest ih =>
    rw [meet_nest hnest]
    split
    · exact narrows_meetBlock_of_limit h ‹_› (conforms_nil d)
    · refine narrows_sequence (fun o => (o.meetAll (depth + 1) items).close depth items.length) h
        (lt_of_le_of_ne h.le_limit (Ne.symm ‹_›)) (P := d.Conforms)
        (Q := fun axes => (items = [] → axes = []) ∧ ∀ item ∈ items, item.Conforms axes)
        (fun axes => conforms_nest hnest) (conforms_nil d) ?_
      exact fun o h => narrows_items h fun d hd o h => ih d hd h
  | range start stop step =>
    rw [meet_range]
    split
    · rename_i hcell
      rcases hcell with hlimit | hlong
      · exact narrows_meetBlock_of_limit h hlimit (conforms_nil _)
      · refine (narrows_meetBlock h []).congr fun axes _ => ?_
        rw [List.prefix_nil, conforms_range]
        cases axes.drop depth with
        | nil => simp
        | cons n rest => simp; omega
    · rename_i hcell
      obtain ⟨hlimit, hlong⟩ := not_or.1 hcell
      refine narrows_sequence
        (fun o => if rangeLength start stop step = 0 then o.close depth 0
          else o.meetBlock (depth + 1) [])
        h (lt_of_le_of_ne h.le_limit (Ne.symm hlimit)) (P := (range start stop step).Conforms)
        (Q := (· = []))
        (fun axes => conforms_range.trans ?_) (conforms_nil _) fun o h => ?_
      · refine and_congr_left fun _ => forall₂_congr fun n _ => and_iff_left_of_imp ?_
        rintro rfl
        exact not_le.1 hlong
      · split
        · exact narrows_close h
        · exact (narrows_meetBlock h []).congr fun _ _ => List.prefix_nil
  | block d hblock =>
    rw [meet_block hblock]
    exact (narrows_meetBlock h _).congr fun axes _ => (conforms_block hblock).symm

/-- **The outline of a nest is the longest of the axes that it conforms
to**, as long as there are no more of them than a grid has: the axes
that the nest conforms to are the beginnings of its outline. -/
theorem prefix_ofNest_iff {d : Datum} :
    axes <+: ofNest d ↔ axes.length ≤ axisLimit ∧ d.Conforms axes := by
  have h : Narrows ⟨axisLimit, false, []⟩ 0 d.Conforms (meet ⟨axisLimit, false, []⟩ 0 d) :=
    narrows_meet d ⟨Nat.zero_le _, rfl⟩
  have hadmits := h.admits axes
  rw [admits_of_settled h.settled, admits_of_not_settled rfl, List.drop_zero] at hadmits
  rw [ofNest, List.prefix_take_iff, and_comm, hadmits]
  simp

end Outline

end PlotPipe
