import PlotPipe.Proofs.Payload.Grid

/-!
# Payload — regular nests

A nest is **regular** on axes when it is made of lists and tuples only,
all of those at one depth have the length of the axis there, and what
lies below the last axis are single cells (`Datum.IsRegular`). Such a nest
conforms to the beginnings of its axes and to no others, so that they are
its outline (`ofNest_of_isRegular`), and its grid has the single cells in
order (`grid_of_isRegular`).
-/

namespace PlotPipe

open Payload

namespace Datum

variable {d : Datum} {n : ℕ} {axes other : List ℕ} {items : List Datum}

/-- A value that is a single cell in every nest: it cannot be opened, and
it has no axes of its own. -/
def isSingle : Datum → Bool
  | list _ | tuple _ | range _ _ _ | array _ _ _ | buffer _ | column _ _ _ | frame _ => false
  | _ => true

/-- **A regular nest** of single cells on axes. Below an empty list there
are no more axes. -/
def IsRegular : Datum → List ℕ → Prop
  | d, [] => d.isSingle = true
  | d, n :: axes => ∃ items, d.IsNest items ∧ items.length = n ∧ (items = [] → axes = []) ∧
      ∀ item ∈ items, item.IsRegular axes

theorem isRegular_nil : d.IsRegular [] ↔ d.isSingle = true := by
  rw [IsRegular]

theorem isRegular_cons :
    d.IsRegular (n :: axes) ↔ ∃ items, d.IsNest items ∧ items.length = n ∧
      (items = [] → axes = []) ∧ ∀ item ∈ items, item.IsRegular axes := by
  rw [IsRegular]

theorem isBlock_of_isSingle (h : d.isSingle = true) : d.isBlock = true := by
  cases d <;> first | rfl | cases h

theorem blockAxes_of_isSingle (h : d.isSingle = true) : Outline.blockAxes d = [] := by
  cases d <;> first | rfl | cases h

/-- **A regular nest conforms to the beginnings of its axes** and to no
others. -/
theorem IsRegular.conforms_iff (h : d.IsRegular axes) : d.Conforms other ↔ other <+: axes := by
  induction axes generalizing d other with
  | nil =>
    have h := isRegular_nil.1 h
    rw [conforms_block (isBlock_of_isSingle h), blockAxes_of_isSingle h]
  | cons n axes ih =>
    obtain ⟨items, hnest, hlength, hempty, hitems⟩ := isRegular_cons.1 h
    rw [conforms_nest hnest]
    cases other with
    | nil => simp [conforms_nil]
    | cons m other =>
      have hbelow : ((items = [] → other = []) ∧ ∀ item ∈ items, item.Conforms other) ↔
          other <+: axes := by
        cases items with
        | nil => simp [hempty rfl]
        | cons item rest =>
          have hother : ∀ item' ∈ item :: rest, item'.Conforms other ↔ other <+: axes :=
            fun item' hitem => ih (hitems item' hitem)
          constructor
          · exact fun ⟨_, hconforms⟩ => (hother item (by simp)).1 (hconforms item (by simp))
          · exact fun hprefix => ⟨nofun, fun item' hitem => (hother item' hitem).2 hprefix⟩
      simp only [List.head?_cons, Option.mem_some_iff, forall_eq', List.tail_cons, hbelow, hlength,
        List.cons_prefix_cons]
      exact and_congr_left fun _ => eq_comm

/-- There is nothing in a regular nest that could not fit. -/
theorem IsRegular.fits (h : d.IsRegular axes) : d.Fits axes := by
  induction axes generalizing d with
  | nil => exact fits_nil d
  | cons n axes ih =>
    obtain ⟨items, hnest, -, -, hitems⟩ := isRegular_cons.1 h
    exact (fits_nest hnest).2 fun item hitem => ih (hitems item hitem)

/-- **The outline of a regular nest** are its axes. -/
theorem ofNest_of_isRegular (h : d.IsRegular axes) (hlength : axes.length ≤ Outline.axisLimit) :
    Outline.ofNest d = axes := by
  refine (isOutline_iff.1 ⟨h.conforms_iff.2 (List.prefix_refl axes), hlength, ?_⟩).symm
  exact fun other hother _ => h.conforms_iff.1 hother

/-- A nest with single cells at one depth. -/
theorem isRegular_nest (h : d.IsNest items) (hcells : ∀ item ∈ items, item.isSingle = true) :
    d.IsRegular [items.length] :=
  isRegular_cons.2
    ⟨items, h, rfl, fun _ => rfl, fun item hitem => isRegular_nil.2 (hcells item hitem)⟩

/-- Its leaves are the cells. -/
theorem leaves_nest_single (h : d.IsNest items) : d.leaves [n] = items := by
  rw [leaves_nest h]
  simp only [leaves_nil, List.flatMap_singleton']

end Datum

namespace Payload

open Datum

variable {d : Datum} {label : String} {axes : List ℕ}

/-- **The grid of a regular nest** has its cells on its axes. -/
theorem grid_of_isRegular (h : d.IsRegular axes) (hne : axes ≠ [])
    (hlength : axes.length ≤ Outline.axisLimit) :
    grid label d = convert label axes (d.leaves axes) := by
  have hnest : d.isBlock = false := by
    cases axes with
    | nil => exact absurd rfl hne
    | cons n axes =>
      obtain ⟨items, hitems, -⟩ := isRegular_cons.1 h
      exact hitems.isBlock
  have hcuts := cutsInto_cellsOn (h.conforms_iff.2 (List.prefix_refl axes))
  rw [grid_of_isBlock hnest, ofNest_of_isRegular h hlength]
  generalize cellsOn axes d = cells at hcuts
  cases hcuts with
  | ok _ => rfl
  | notFitting source target hfits => exact absurd h.fits hfits

end Payload

end PlotPipe
