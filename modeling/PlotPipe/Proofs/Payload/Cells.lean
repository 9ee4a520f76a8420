import Mathlib.Data.Int.Notation
import Mathlib.Data.List.Forall2
import PlotPipe.Payload.Rows
import PlotPipe.Proofs.Outcome

/-!
# Payload — what a cell comes to

A cell of a payload is read as a double (`Datum.double?`), turned down
with a failure of the payload, or it breaks the payload: the conversion
fails in a way that no reader of payloads looks out for. What breaks is
told from the cell alone (`Datum.Breaks`, `escapes_toCell_iff`), and of
several cells it is the first one that is not read that counts
(`BreaksFirst`, `escapes_convertRows`).
-/

namespace PlotPipe

namespace Payload

/-- A computation **escapes** the payload: it fails, and the failure is
not one of the payload. -/
def Escapes {α : Type} (x : Except Failure α) : Prop := FailsWith (·.kind ≠ .seriesData) x

section Escapes

variable {α β : Type} {x : Except Failure α} {f : Failure}

theorem not_escapes_ok (a : α) : ¬ Escapes (.ok a : Except Failure α) := not_failsWith_ok a

theorem escapes_error : Escapes (.error f : Except Failure α) ↔ f.kind ≠ .seriesData :=
  failsWith_error

/-- One computation after another escapes when the first one does, or the
second one after it. -/
theorem escapes_bind {g : α → Except Failure β} :
    Escapes (x >>= g) ↔ Escapes x ∨ ∃ a, x = .ok a ∧ Escapes (g a) :=
  failsWith_bind

theorem escapes_map {g : α → β} : Escapes (x.map g) ↔ Escapes x := failsWith_map

end Escapes

end Payload

open Payload

namespace Datum

variable {d : Datum}

/-! ## A cell by itself -/

/-- **The double of a cell**. Nothing counts as not-a-number; texts and
byte strings have none. -/
def double? (d : Datum) : Option Binary64 :=
  match d with
  | .null => some .nan
  | .text _ | .cell .text _ | .bytes _ => none
  | .exact x => x.toBinary64?
  | _ => d.toReal.toOption

/-- **A number that is too large**: an integer that no double stands for,
by itself, as the count of a tick, or as a single cell. -/
inductive IsTooLarge : Datum → Prop
  | int {i : ℤ} : Binary64.ofInt? i = none → IsTooLarge (.int i)
  | tick {t : Tick} {i : ℤ} : plainTick t = .int i → Binary64.ofInt? i = none → IsTooLarge (.tick t)
  | cell {type : CellType} {value : Datum} : IsTooLarge value → IsTooLarge (.cell type value)
  | array {type : CellType} {value : Datum} : IsTooLarge value → IsTooLarge (.array type [] [value])

/-- **A cell breaks** the payload that it is in: it is a number that is too
large, or a decimal that signals, or it is no number and cannot be
shown. -/
inductive Breaks (d : Datum) : Prop
  | tooLarge : d.isText = false → d.IsTooLarge → Breaks d
  | signals {negative : Bool} {payload : ℕ} : d = .exact (.undefined negative true payload) → Breaks d
  | notShown : d.double? = none → d.isShowable = false → Breaks d

/-- How a value is turned into a double: it is a number, or too large, or
of the wrong type or without a number in it. -/
inductive AsDouble (d : Datum) : Except Failure Binary64 → Prop
  | ok (x : Binary64) : ¬ d.IsTooLarge → AsDouble d (.ok x)
  | tooLarge : d.IsTooLarge → AsDouble d (.error (.conversion .integerTooLarge))
  | refused {f : Failure} : ¬ d.IsTooLarge → f.kind = .type ∨ f.kind = .value → AsDouble d (.error f)

theorem asDouble_readReal (h : ¬ d.IsTooLarge) (literal text : String) :
    AsDouble d (readReal literal text) := by
  unfold readReal
  split
  · exact .ok _ h
  · exact .refused h (.inr rfl)

theorem asDouble_realOfExact (h : ¬ d.IsTooLarge) (x : Exact) : AsDouble d (realOfExact x) := by
  unfold realOfExact
  split
  · exact .ok _ h
  · exact .refused h (.inr rfl)

theorem asDouble_realOfInt {i : ℤ} (h : d.IsTooLarge ↔ Binary64.ofInt? i = none) :
    AsDouble d (realOfInt i) := by
  unfold realOfInt
  split
  · exact .ok _ (by simp_all)
  · exact .tooLarge (by simp_all)

theorem AsDouble.congr {value : Datum} {x : Except Failure Binary64} (h : AsDouble value x)
    (hd : d.IsTooLarge ↔ value.IsTooLarge) : AsDouble d x := by
  cases h with
  | ok x h => exact .ok x (hd.not.2 h)
  | tooLarge h => exact .tooLarge (hd.2 h)
  | refused h hkind => exact .refused (hd.not.2 h) hkind

theorem isTooLarge_int {i : ℤ} : (int i).IsTooLarge ↔ Binary64.ofInt? i = none :=
  ⟨fun | .int h => h, .int⟩

theorem isTooLarge_cell {type : CellType} {value : Datum} :
    (cell type value).IsTooLarge ↔ value.IsTooLarge := ⟨fun | .cell h => h, .cell⟩

theorem isTooLarge_array {type : CellType} {value : Datum} :
    (array type [] [value]).IsTooLarge ↔ value.IsTooLarge := ⟨fun | .array h => h, .array⟩

theorem asDouble_toReal (d : Datum) : AsDouble d d.toReal := by
  fun_induction toReal d with
  | case1 b =>
    obtain ⟨x, hx⟩ : ∃ x, realOfInt (if b then 1 else 0) = .ok x := by
      cases b <;> exact ⟨_, rfl⟩
    rw [hx]
    exact .ok x (by rintro ⟨⟩)
  | case2 i => exact asDouble_realOfInt isTooLarge_int
  | case3 x => exact .ok x (by rintro ⟨⟩)
  | case4 x => exact asDouble_realOfExact (by rintro ⟨⟩) x
  | case5 | case6 | case7 => exact asDouble_readReal (by rintro ⟨⟩) _ _
  | case8 t =>
    unfold realOfTick
    split
    · rename_i i hi
      refine asDouble_realOfInt ⟨?_, .tick hi⟩
      rintro (_ | ⟨hj, h⟩)
      cases hj.symm.trans hi
      exact h
    · rename_i hi
      refine .refused ?_ (.inl rfl)
      rintro (_ | ⟨hj, -⟩)
      exact hi _ hj
  | case9 s => exact asDouble_readReal (by rintro (_ | _ | ⟨⟨⟩⟩)) _ _
  | case10 bits re im => exact .ok _ (by rintro (_ | _ | ⟨⟨⟩⟩))
  | case11 type value _ _ ih => exact ih.congr isTooLarge_cell
  | case12 s => exact asDouble_readReal (by rintro (_ | _ | _ | ⟨⟨⟩⟩)) _ _
  | case13 type value _ ih => exact ih.congr isTooLarge_array
  | case14 type shape cells _ h =>
    refine .refused ?_ (.inl rfl)
    rintro (_ | _ | _ | _)
    exact h _ rfl rfl
  | case15 value =>
    refine .refused (fun h => ?_) (.inl rfl)
    cases h <;> simp_all

/-- A failure that shows a value escapes when the value cannot be shown. -/
theorem escapes_showing {α : Type} {cause : String → PayloadFault} :
    Escapes (.error (d.showing fun literal => .payload (cause literal)) : Except Failure α) ↔
      d.isShowable = false := by
  unfold showing
  rw [escapes_error]
  cases d.isShowable <;> simp [Failure.kind, Conversion.kind]

end Datum

namespace Payload

open Datum

variable {d : Datum} {x : Binary64} {label : String} {index : ℕ}

theorem toCell_eq_ok_iff : toCell label index d = .ok x ↔ d.double? = some x := by
  fun_cases toCell label index d with
  | case1 => simp [double?]
  | case2 y =>
    simp only [double?, realOfExact]
    cases y.toBinary64? <;> simp
  | case3 => simp [double?]
  | case4 => simp [double?]
  | case5 => simp [double?]
  | case6 => simp_all [double?, Except.toOption]
  | case7 => simp_all [double?, Except.toOption]
  | case8 => simp_all [double?, Except.toOption]

theorem toReal_of_isTooLarge (h : d.IsTooLarge) :
    d.toReal = .error (.conversion .integerTooLarge) := by
  have hreal := asDouble_toReal d
  generalize d.toReal = outcome at hreal
  cases hreal with
  | ok _ hnot | refused hnot _ => exact absurd h hnot
  | tooLarge _ => rfl

theorem double?_of_isTooLarge (h : d.IsTooLarge) : d.double? = none := by
  unfold double?
  split
  · cases h
  · rfl
  · rfl
  · rfl
  · cases h
  · rw [toReal_of_isTooLarge h]
    rfl

theorem not_breaks_of_double? (h : d.double? = some x) : ¬ d.Breaks := by
  rintro (⟨-, hlarge⟩ | rfl | ⟨hnone, -⟩)
  · cases h.symm.trans (double?_of_isTooLarge hlarge)
  · cases h
  · cases h.symm.trans hnone

/-- What is neither a number nor a decimal breaks its payload when it
cannot be shown. -/
theorem escapes_nonNumeric (hnone : d.double? = none) (hlarge : d.isText = false → ¬ d.IsTooLarge)
    (hexact : ∀ y, d ≠ .exact y) :
    Escapes (.error (nonNumeric label index d) : Except Failure Binary64) ↔ d.Breaks := by
  refine escapes_showing.trans ⟨.notShown hnone, ?_⟩
  rintro (⟨htext, h⟩ | h | ⟨-, h⟩)
  · exact absurd h (hlarge htext)
  · exact absurd h (hexact _)
  · exact h

/-- **A cell is read, turned down or breaks its payload.** -/
theorem escapes_toCell_iff : Escapes (toCell label index d) ↔ d.Breaks := by
  have hread : ∀ x, toCell label index d = .ok x → (Escapes (toCell label index d) ↔ d.Breaks) := by
    intro x h
    rw [h]
    exact iff_of_false (not_escapes_ok x) (not_breaks_of_double? (toCell_eq_ok_iff.1 h))
  fun_cases toCell label index d with
  | case1 => exact hread _ rfl
  | case2 y =>
    cases y with
    | finite | infinite => exact hread _ rfl
    | undefined negative signalling payload =>
      cases signalling with
      | false => exact hread _ rfl
      | true => exact iff_of_true ⟨_, rfl, nofun⟩ (.signals rfl)
  | case3 | case5 => exact escapes_nonNumeric rfl (by rintro - ⟨⟩) (by rintro _ ⟨⟩)
  | case4 => exact escapes_nonNumeric rfl nofun (by rintro _ ⟨⟩)
  | case6 _ x hx hnull hexact htext hcell hbytes =>
    rw [hx]
    refine iff_of_false (not_escapes_ok x) (not_breaks_of_double? (x := x) ?_)
    simp [double?, hx, Except.toOption]
  | case7 _ failure hfailure hkind hnull hexact htext hcell hbytes =>
    have hnone : d.double? = none := by simp [double?, hfailure, Except.toOption]
    rw [hfailure]
    dsimp only
    rw [if_pos hkind]
    refine escapes_nonNumeric hnone (fun _ hlarge => ?_) hexact
    obtain rfl := Except.error.inj (hfailure.symm.trans (toReal_of_isTooLarge hlarge))
    rcases hkind with h | h <;> cases h
  | case8 _ failure hfailure hkind hnull hexact htext hcell hbytes =>
    rw [hfailure]
    dsimp only
    rw [if_neg hkind]
    have hreal := asDouble_toReal d
    rw [hfailure] at hreal
    cases hreal with
    | refused _ h => exact absurd h hkind
    | tooLarge hlarge =>
      refine iff_of_true ⟨_, rfl, nofun⟩ (.tooLarge ?_ hlarge)
      unfold isText
      split
      · exact (htext _ rfl).elim
      · exact (hcell _ rfl).elim
      · rfl

/-- The double of an integer is the one that stands for it. -/
theorem double?_int (i : ℤ) : (int i).double? = Binary64.ofInt? i := by
  simp only [double?, toReal, realOfInt]
  cases Binary64.ofInt? i <;> rfl

/-! ## Several cells, and several rows -/

/-- **The first of several values that is not read breaks.** -/
def BreaksFirst {α : Type} (Reads Breaks : α → Prop) : List α → Prop
  | [] => False
  | a :: rest => Breaks a ∨ Reads a ∧ BreaksFirst Reads Breaks rest

section ConvertRows

variable {α : Type} {convert : ℕ → Datum → Except Failure α} {rows : List Datum}

/-- Rows are converted when each of them is. -/
theorem convertRows_eq_ok_iff {R : Datum → α → Prop} {xs : List α}
    (h : ∀ index row x, convert index row = .ok x ↔ R row x) :
    convertRows convert index rows = .ok xs ↔ List.Forall₂ R rows xs := by
  induction rows generalizing index xs with
  | nil => rw [convertRows, List.forall₂_nil_left_iff]; exact pure_eq_ok.trans eq_comm
  | cons row rows ih =>
    rw [convertRows, bind_eq_ok, List.forall₂_cons_left_iff]
    simp only [bind_eq_ok, h, ih, pure_eq_ok]
    constructor
    · rintro ⟨x, hx, rest, hrest, rfl⟩
      exact ⟨x, rest, hx, hrest, rfl⟩
    · rintro ⟨x, rest, hx, hrest, rfl⟩
      exact ⟨x, hx, rest, hrest, rfl⟩

/-- A conversion of rows escapes at the first row that is not converted. -/
theorem escapes_convertRows {Reads Breaks : Datum → Prop}
    (hreads : ∀ index row, (∃ x, convert index row = .ok x) ↔ Reads row)
    (hbreaks : ∀ index row, Escapes (convert index row) ↔ Breaks row) :
    Escapes (convertRows convert index rows) ↔ BreaksFirst Reads Breaks rows := by
  induction rows generalizing index with
  | nil => exact iff_of_false (not_escapes_ok _) id
  | cons row rows ih =>
    have hrest : ∀ x, Escapes (convertRows convert (index + 1) rows >>= fun xs => pure (x :: xs)) ↔
        BreaksFirst Reads Breaks rows := by
      intro x
      rw [escapes_bind, ih]
      exact or_iff_left fun ⟨_, _, h⟩ => not_escapes_ok _ h
    rw [convertRows, escapes_bind, hbreaks, BreaksFirst, ← hreads index]
    simp only [hrest, exists_and_right]

end ConvertRows

section Cells

variable {entry : ℕ → ℕ} {position : ℕ} {cells : List Datum} {xs : List Binary64}

/-- Cells are converted when each of them is read, whichever entry they
are of. -/
theorem convertCells_eq_ok_iff :
    convertRows (fun position d => toCell label (entry position) d) position cells = .ok xs ↔
      List.Forall₂ (fun d x => d.double? = some x) cells xs :=
  convertRows_eq_ok_iff fun _ _ _ => toCell_eq_ok_iff

theorem exists_toCell_iff : (∃ x, toCell label index d = .ok x) ↔ d.double?.isSome := by
  simp only [toCell_eq_ok_iff, Option.isSome_iff_exists]

theorem exists_convertCells_iff :
    (∃ xs, convertRows (fun position d => toCell label (entry position) d) position cells = .ok xs) ↔
      ∀ d ∈ cells, d.double?.isSome := by
  simp only [convertCells_eq_ok_iff, exists_forall₂_iff, Option.isSome_iff_exists]

theorem escapes_convertCells_iff :
    Escapes (convertRows (fun position d => toCell label (entry position) d) position cells) ↔
      BreaksFirst (·.double?.isSome) Breaks cells :=
  escapes_convertRows (fun _ _ => exists_toCell_iff) fun _ _ => escapes_toCell_iff

end Cells

theorem toCells_eq_convertRows (label : String) (width position : ℕ) (cells : List Datum) :
    toCells label width position cells =
      convertRows (fun position d => toCell label (position / width) d) position cells := by
  induction cells generalizing position with
  | nil => rfl
  | cons d cells ih =>
    rw [toCells, convertRows]
    simp only [ih]

end Payload

end PlotPipe
