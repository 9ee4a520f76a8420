import PlotPipe.Proofs.Number.Order
import PlotPipe.Proofs.Number.ReadBack
import PlotPipe.Proofs.Script.Decoding
/-!
# Scripts — checked ranges

A strict session checks the bounds of a range as they were given, and a
script has the doubles that they are rounded to. Rounding keeps the
order, so that what passes the check is never turned around in the
script; but two whole numbers past the precision of doubles can pass as
two and be written as one. The check itself asks for the double of a
bound, and shows the bounds in its message, and both can fail for a whole
number that is too large. `rendersReal_iff` says that nothing else goes
wrong.
-/

namespace PlotPipe

/-- A bound of an axis range: a whole number of any size, or a double. -/
inductive Bound where
  | whole (i : ℤ)
  | real (x : Binary64)

namespace Bound

/-- A bound as a value. -/
def datum : Bound → Datum
  | whole i => .int i
  | real x => .real x

/-- The double that a bound is written as, where there is one. -/
def double? : Bound → Option Binary64
  | whole i => Binary64.ofInt? i
  | real x => some x

/-- The value of a bound that is not infinite or undefined, as it was
given. -/
def value : Bound → ℚ
  | whole i => i
  | real x => x.value

/-- A whole number with more digits than are written. -/
def TooLong : Bound → Prop
  | whole i => Datum.unwritable ≤ i.natAbs
  | real _ => False

/-- **The check of two bounds breaks down**: no double stands for the
lower one, or for the upper one that is asked for after it, or the
message that the lower one is not finite cannot show the upper one. -/
inductive Breaks (lo hi : Bound) : Prop
  | lower : lo.double? = none → Breaks lo hi
  | upper {a : Binary64} : lo.double? = some a → a.isFinite → hi.double? = none → Breaks lo hi
  | message {a : Binary64} : lo.double? = some a → a.isFinite = false → hi.TooLong → Breaks lo hi

/-- Two bounds pass the check: finite doubles stand for them, and they are
in order as they were given. -/
def Passes (lo hi : Bound) : Prop :=
  ∃ a b, lo.double? = some a ∧ hi.double? = some b ∧ a.isFinite ∧ b.isFinite ∧ lo.value < hi.value

/-- One number is written for two bounds. -/
def Merge (lo hi : Bound) : Prop :=
  ∃ a b, lo.double? = some a ∧ hi.double? = some b ∧ a.value = b.value

variable {b lo hi : Bound} {x y : Binary64}

/-! ## A bound by itself -/

theorem toReal_datum (b : Bound) : b.datum.toReal =
    match b.double? with
    | some x => .ok x
    | none => .error (.conversion .integerTooLarge) := by
  cases b with
  | whole i => rfl
  | real x => rfl

theorem isFiniteBound_of_double (h : b.double? = some x) :
    AxisRange.isFiniteBound b.datum = .ok x.isFinite := by
  have hmagnitude : b.datum.magnitude = b.datum.toReal := by cases b <;> rfl
  rw [AxisRange.isFiniteBound, hmagnitude, toReal_datum, h]
  rfl

theorem isFiniteBound_of_none (h : b.double? = none) :
    AxisRange.isFiniteBound b.datum = .error (.conversion .integerTooLarge) := by
  have hmagnitude : b.datum.magnitude = b.datum.toReal := by cases b <;> rfl
  rw [AxisRange.isFiniteBound, hmagnitude, toReal_datum, h]
  rfl

/-- Whole numbers that doubles stand for do not have as many digits as
cannot be written. -/
theorem not_tooLong (h : b.double? = some x) : ¬ b.TooLong := by
  cases b with
  | real y => exact id
  | whole i =>
    obtain ⟨rfl, hfinite⟩ := Binary64.ofInt?_eq_some_iff.1 h
    have hrank : BinaryFormat.binary64.nearestRank i.natAbs 1 <
        (2046 + 1) * BinaryFormat.binary64.row := Magnitude.isFinite_nearest_iff.1 hfinite
    have hlt := BinaryFormat.lt_of_nearestRank_lt (by decide) Nat.one_pos hrank
    obtain ⟨bits, hbits, hle⟩ : ∃ bits : ℕ, ((BinaryFormat.binary64.precision : ℤ) +
        (BinaryFormat.binary64.minExponent + (2046 : ℕ))) = bits ∧ bits ≤ Datum.digitLimit :=
      ⟨1025, rfl, by decide⟩
    rw [hbits, Nat.cast_one, div_one, zpow_natCast] at hlt
    have hnat : i.natAbs < 2 ^ bits := by exact_mod_cast hlt
    exact not_le.2 (Datum.lt_unwritable (hnat.trans_le (Nat.pow_le_pow_left (by decide) bits)) hle)

theorem exists_written (h : ¬ b.TooLong) : ∃ text, b.datum.written = .ok text := by
  cases b with
  | whole i => exact ⟨_, if_neg h⟩
  | real x => exact ⟨_, rfl⟩

theorem written_of_tooLong (h : b.TooLong) :
    b.datum.written = .error (.conversion .tooManyDigitsToWrite) := by
  cases b with
  | whole i => exact if_pos h
  | real x => exact h.elim

/-- A bound is rounded to the double that stands for it. -/
theorem rounds_double (h : b.double? = some x) (hx : x.isFinite) : Binary64.Rounds b.value x := by
  cases b with
  | whole i => exact Binary64.rounds_of_ofInt? h
  | real y =>
    obtain rfl := Option.some.inj h
    cases y with
    | nan => cases hx
    | signed negative m => exact Binary64.rounds_value negative m

/-! ## The order of two bounds -/

/-- A bound as it is compared. -/
def amount : Bound → Amount
  | whole i => .whole i none
  | real x => .real x none

/-- A finite bound is compared by its value. -/
theorem exists_toExact (h : b.double? = some x) (hx : x.isFinite) :
    ∃ negative digits e, b.amount.toExact = .finite negative digits e ∧
      (Exact.finite negative digits e).value = b.value := by
  cases b with
  | whole i => exact ⟨decide (i < 0), i.natAbs, 0, rfl, Exact.value_ofInt i⟩
  | real y =>
    obtain rfl := Option.some.inj h
    cases y with
    | nan => cases hx
    | signed negative m =>
      obtain ⟨digits, e, hexact, hvalue⟩ := @Exact.exists_ofBinary64 negative m hx
      exact ⟨negative, digits, e, hexact, hvalue⟩

/-- **Finite bounds are compared as they were given.** -/
theorem isRelated_datum {a b : Binary64} (hlo : lo.double? = some a) (hhi : hi.double? = some b)
    (ha : a.isFinite) (hb : b.isFinite) :
    Datum.isRelated .atLeast lo.datum hi.datum = .ok (decide (hi.value ≤ lo.value)) := by
  obtain ⟨m, digits, e, hexact, hvalue⟩ := exists_toExact hlo ha
  obtain ⟨n, digits', e', hexact', hvalue'⟩ := exists_toExact hhi hb
  have horder : lo.amount.order? hi.amount = some (cmp lo.value hi.value) := by
    have hcommon : lo.amount.commonFormat? hi.amount = none := by cases lo <;> cases hi <;> rfl
    rw [Amount.order?, hcommon, hexact, hexact', Exact.order?_finite, hvalue, hvalue']
  have hrelated : Datum.isRelated .atLeast lo.datum hi.datum =
      lo.amount.isRelated .atLeast hi.amount := by cases lo <;> cases hi <;> rfl
  have hholds : Relation.atLeast.holds (cmp lo.value hi.value) = decide (hi.value ≤ lo.value) := by
    rw [Relation.holds, decide_eq_decide, ne_eq, cmp_eq_lt_iff, not_lt]
  have hanswer : ∀ order, lo.amount.order? hi.amount = some order →
      lo.amount.isRelated .atLeast hi.amount = .ok (Relation.atLeast.holds order) := by
    intro order h
    cases lo <;> cases hi <;> simp only [amount, Amount.isRelated] at h ⊢ <;> rw [h]
  rw [hrelated, hanswer _ horder, hholds]

/-! ## The check of two bounds -/

theorem breaks_iff_of_finite {a : Binary64} (hlo : lo.double? = some a) (ha : a.isFinite) :
    Breaks lo hi ↔ hi.double? = none := by
  constructor
  · rintro (h | ⟨-, -, h⟩ | ⟨h, hnot, -⟩)
    · cases h.symm.trans hlo
    · exact h
    · obtain rfl := Option.some.inj (h.symm.trans hlo)
      cases ha.symm.trans hnot
  · exact .upper hlo ha

theorem breaks_iff_of_not_finite {a : Binary64} (hlo : lo.double? = some a)
    (ha : a.isFinite = false) : Breaks lo hi ↔ hi.TooLong := by
  constructor
  · rintro (h | ⟨h, hfinite, -⟩ | ⟨-, -, h⟩)
    · cases h.symm.trans hlo
    · obtain rfl := Option.some.inj (h.symm.trans hlo)
      cases ha.symm.trans hfinite
    · exact h
  · exact .message hlo ha

theorem passes_iff {a b : Binary64} (hlo : lo.double? = some a) (hhi : hi.double? = some b) :
    Passes lo hi ↔ a.isFinite ∧ b.isFinite ∧ lo.value < hi.value := by
  constructor
  · rintro ⟨_, _, ha, hb, h⟩
    obtain rfl := Option.some.inj (ha.symm.trans hlo)
    obtain rfl := Option.some.inj (hb.symm.trans hhi)
    exact h
  · exact fun h => ⟨a, b, hlo, hhi, h⟩

/-- Doubles do not break the check. -/
theorem not_breaks_real (x y : Binary64) : ¬ Breaks (.real x) (.real y) := by
  rintro (h | ⟨-, -, h⟩ | ⟨-, -, h⟩) <;> cases h

/-- Doubles that pass are not merged: they are written as they were
given. -/
theorem Passes.not_merge_real (h : Passes (.real x) (.real y)) : ¬ Merge (.real x) (.real y) := by
  rintro ⟨a, b, ha, hb, heq⟩
  obtain ⟨-, -, hlt⟩ := (passes_iff ha hb).1 h
  obtain rfl := Option.some.inj ha
  obtain rfl := Option.some.inj hb
  exact hlt.ne heq

/-- How the check of two bounds ends: it breaks down, it turns them down
by name, or they pass. -/
inductive Judged (lo hi : Bound) : Except Failure Unit → Prop
  | breaks {f : Failure} : Breaks lo hi → f.kind ≠ .invalidValue → Judged lo hi (.error f)
  | rejects {f : Failure} : ¬ Breaks lo hi → ¬ Passes lo hi → f.kind = .invalidValue →
      Judged lo hi (.error f)
  | passes : ¬ Breaks lo hi → Passes lo hi → Judged lo hi (.ok ())

/-- **The check of two bounds** breaks down where they break it, and
otherwise ends in their favour or by turning them down. -/
theorem judged_checkBounds (name : String) (lo hi : Bound) :
    Judged lo hi (AxisRange.checkBounds name lo.datum hi.datum) := by
  unfold AxisRange.checkBounds
  rcases hlo : lo.double? with _ | a
  · rw [isFiniteBound_of_none hlo]
    show Judged lo hi (.error (.conversion .integerTooLarge))
    exact .breaks (.lower hlo) (by decide)
  obtain ⟨loText, hloText⟩ := exists_written (not_tooLong hlo)
  rw [isFiniteBound_of_double hlo, hloText]
  rcases ha : a.isFinite with _ | _
  · -- The upper bound is looked at for the message only.
    have hpasses : ¬ Passes lo hi := by
      rintro ⟨_, _, hlo', -, hfinite, -⟩
      obtain rfl := Option.some.inj (hlo'.symm.trans hlo)
      cases ha.symm.trans hfinite
    by_cases hlong : hi.TooLong
    · rw [written_of_tooLong hlong]
      show Judged lo hi (.error (.conversion .tooManyDigitsToWrite))
      exact .breaks (.message hlo ha hlong) (by decide)
    · obtain ⟨hiText, hhiText⟩ := exists_written hlong
      rw [hhiText]
      show Judged lo hi (.error (.strict (.boundsNotFinite name loText hiText)))
      exact .rejects ((breaks_iff_of_not_finite hlo ha).not.2 hlong) hpasses rfl
  rcases hhi : hi.double? with _ | b
  · rw [isFiniteBound_of_none hhi]
    show Judged lo hi (.error (.conversion .integerTooLarge))
    exact .breaks (.upper hlo ha hhi) (by decide)
  have hbreaks : ¬ Breaks lo hi := by simp [breaks_iff_of_finite hlo ha, hhi]
  obtain ⟨hiText, hhiText⟩ := exists_written (not_tooLong hhi)
  rw [isFiniteBound_of_double hhi, hhiText]
  rcases hb : b.isFinite with _ | _
  · show Judged lo hi (.error (.strict (.boundsNotFinite name loText hiText)))
    exact .rejects hbreaks (by simp [passes_iff hlo hhi, hb]) rfl
  rw [isRelated_datum hlo hhi ha hb]
  by_cases hle : hi.value ≤ lo.value
  · rw [decide_eq_true hle]
    show Judged lo hi (.error (.strict (.boundsNotOrdered name loText hiText)))
    refine .rejects hbreaks (fun h => ?_) rfl
    exact absurd ((passes_iff hlo hhi).1 h).2.2 (not_lt.2 hle)
  · rw [decide_eq_false hle]
    exact .passes hbreaks ((passes_iff hlo hhi).2 ⟨ha, hb, not_le.1 hle⟩)

/-- Bounds that pass are written as finite doubles that are not turned
around. -/
theorem Passes.exists_doubles (h : Passes lo hi) : ∃ a b, lo.double? = some a ∧
    hi.double? = some b ∧ a.isFinite ∧ b.isFinite ∧ a.value ≤ b.value ∧
    (Merge lo hi ↔ a.value = b.value) := by
  obtain ⟨a, b, hlo, hhi, ha, hb, hlt⟩ := h
  refine ⟨a, b, hlo, hhi, ha, hb, ?_, ?_⟩
  · exact (rounds_double hlo ha).mono (rounds_double hhi hb) hlt.le
  · constructor
    · rintro ⟨_, _, hlo', hhi', heq⟩
      obtain rfl := Option.some.inj (hlo'.symm.trans hlo)
      obtain rfl := Option.some.inj (hhi'.symm.trans hhi)
      exact heq
    · exact fun heq => ⟨a, b, hlo, hhi, heq⟩

end Bound

/-! ## The spans of a line -/

namespace Script

/-- The two sides of each pair of brackets in a line: between `[` and
`]`, before and after the first colon. -/
def spans (line : String) : List (List Char × List Char) :=
  (Text.splitAt '[' line.toList).tail.filterMap fun piece => do
    let (inside, _) ← Text.cutAt? ']' piece
    Text.cutAt? ':' inside

/-- Two texts are read as finite doubles, the first one below the second
one. -/
def ReadsInOrder (span : List Char × List Char) : Prop :=
  ∃ a b, Decimal.free? (.ofList span.1) = some a ∧ Decimal.free? (.ofList span.2) = some b ∧
    a.isFinite ∧ b.isFinite ∧ a.value < b.value

/-- A line has one span for each of its axes, and every span is a real
one. -/
def RealLine (axes : ℕ) (line : String) : Prop :=
  (spans line).length = axes ∧ ∀ span ∈ spans line, ReadsInOrder span

variable {a b : Binary64} {opening rest : String}

/-- The first span of a line, and those behind it. -/
theorem spans_append (hopening : '[' ∉ opening.toList) (a b : Binary64) (rest : String) :
    spans (opening ++ AxisRange.spanText a.scriptText b.scriptText ++ rest) =
      (a.scriptText.toList, b.scriptText.toList) :: spans rest := by
  have hapart : ∀ {c : Char}, isNumeral c = false → ∀ x : Binary64, c ∉ x.scriptText.toList :=
    fun hc x hmem => by cases hc.symm.trans (isNumeral_of_mem_scriptText hmem)
  obtain ⟨inside, hinside⟩ : ∃ inside, inside = a.scriptText.toList ++ ':' :: b.scriptText.toList :=
    ⟨_, rfl⟩
  have hopen : '[' ∉ inside ++ [']'] := by
    simp [hinside, hapart (show isNumeral '[' = false from rfl)]
  have hclose : ']' ∉ inside := by simp [hinside, hapart (show isNumeral ']' = false from rfl)]
  have hcolon : Text.cutAt? ':' inside = some (a.scriptText.toList, b.scriptText.toList) := by
    rw [hinside]
    exact Text.cutAt?_append_cons (hapart rfl a) _
  have hline : (opening ++ AxisRange.spanText a.scriptText b.scriptText ++ rest).toList =
      opening.toList ++ '[' :: ((inside ++ [']']) ++ rest.toList) := by
    simp [hinside, AxisRange.spanText, String.toList_append]
  obtain ⟨first, others, hrest⟩ :=
    List.exists_cons_of_ne_nil (Text.splitAt_ne_nil '[' rest.toList)
  have hcut : Text.cutAt? ']' (inside ++ [']'] ++ first) = some (inside, first) := by
    rw [List.append_assoc]
    exact Text.cutAt?_append_cons hclose _
  rw [spans, hline, Text.splitAt_append_cons hopening, Text.splitAt_append hopen hrest, spans,
    hrest, List.tail_cons, List.tail_cons, List.filterMap_cons, hcut]
  simp only [Option.bind_eq_bind, Option.bind_some]
  rw [hcolon]

/-- The texts of two finite doubles are read in order when the doubles
are. -/
theorem readsInOrder_scriptText (ha : a.isFinite) (hb : b.isFinite) :
    ReadsInOrder (a.scriptText.toList, b.scriptText.toList) ↔ a.value < b.value := by
  unfold ReadsInOrder
  simp only [String.ofList_toList, Binary64.free?_scriptText, Option.some.injEq]
  constructor
  · rintro ⟨_, _, rfl, rfl, -, -, h⟩
    exact h
  · exact fun h => ⟨a, b, rfl, rfl, ha, hb, h⟩

/-- The spans of a line are real ones when the first one is and those
behind it are. -/
theorem realLine_append (hopening : '[' ∉ opening.toList) (axes : ℕ) :
    RealLine (axes + 1) (opening ++ AxisRange.spanText a.scriptText b.scriptText ++ rest) ↔
      ReadsInOrder (a.scriptText.toList, b.scriptText.toList) ∧ RealLine axes rest := by
  rw [RealLine, RealLine, spans_append hopening, List.length_cons, List.forall_mem_cons,
    Nat.add_right_cancel_iff]
  exact and_left_comm

theorem realLine_empty : RealLine 0 "" := ⟨rfl, fun _ hmem => absurd hmem List.not_mem_nil⟩

end Script

open Script

namespace Bound

/-- Bounds that pass are written as a span, which is a real one unless
one number is written for both. -/
theorem Passes.exists_spanText (h : Passes lo hi) : ∃ a b : Binary64,
    AxisRange.span lo.datum hi.datum = .ok (AxisRange.spanText a.scriptText b.scriptText) ∧
      (ReadsInOrder (a.scriptText.toList, b.scriptText.toList) ↔ ¬ Merge lo hi) := by
  obtain ⟨a, b, hlo, hhi, ha, hb, hle, hmerge⟩ := h.exists_doubles
  refine ⟨a, b, ?_, ?_⟩
  · rw [AxisRange.span, Datum.scriptNumber, Datum.scriptNumber, toReal_datum, toReal_datum, hlo,
      hhi]
    rfl
  · rw [readsInOrder_scriptText ha hb, hmerge]
    exact hle.lt_iff_ne

end Bound

namespace AxisRange

/-- The axes that a range is about. -/
def axisCount : AxisRange → ℕ
  | x _ _ | y _ _ => 1
  | xy _ _ _ _ => 2

/-- **The check of a range keeps its promise**: it turns the range down by
name, or the range is written and every span of its line is a real one. -/
def RendersReal (range : AxisRange) : Prop :=
  match range.check with
  | .error f => f.kind = .invalidValue
  | .ok () => ∃ line, range.scriptText = .ok line ∧ RealLine range.axisCount line

/-- The bounds of a range neither break the check down nor pass it as two
numbers that are written as one. The second axis is looked at when the
first one passes. -/
def Typed.WellJudged : Typed Bound → Prop
  | x lo hi | y lo hi => ¬ Bound.Breaks lo hi ∧ (Bound.Passes lo hi → ¬ Bound.Merge lo hi)
  | xy xlo xhi ylo yhi =>
    ¬ Bound.Breaks xlo xhi ∧ (Bound.Passes xlo xhi →
      ¬ Bound.Breaks ylo yhi ∧ (Bound.Passes ylo yhi →
        ¬ Bound.Merge xlo xhi ∧ ¬ Bound.Merge ylo yhi))

/-- **Ranges of doubles are well judged**, whatever the doubles are. -/
theorem Typed.wellJudged_real (range : Typed Binary64) : (range.map .real).WellJudged := by
  cases range with
  | x lo hi | y lo hi => exact ⟨Bound.not_breaks_real lo hi, Bound.Passes.not_merge_real⟩
  | xy xlo xhi ylo yhi =>
    exact ⟨Bound.not_breaks_real xlo xhi, fun hx => ⟨Bound.not_breaks_real ylo yhi,
      fun hy => ⟨hx.not_merge_real, hy.not_merge_real⟩⟩⟩

variable {range : AxisRange} {lo hi : Bound} {opening : String}

theorem rendersReal_of_error {f : Failure} (h : range.check = .error f) :
    range.RendersReal ↔ f.kind = .invalidValue := by
  rw [RendersReal, h]

theorem rendersReal_of_ok {line : String} (h : range.check = .ok ())
    (htext : range.scriptText = .ok line) :
    range.RendersReal ↔ RealLine range.axisCount line := by
  simp [RendersReal, h, htext]

/-- A range of one axis. -/
theorem rendersReal_of_single (hopening : '[' ∉ opening.toList) (haxes : range.axisCount = 1)
    (hcheck : range.check = checkBounds "range" lo.datum hi.datum)
    (htext : range.scriptText = do return opening ++ (← span lo.datum hi.datum)) :
    range.RendersReal ↔ ¬ Bound.Breaks lo hi ∧ (Bound.Passes lo hi → ¬ Bound.Merge lo hi) := by
  have hjudged := Bound.judged_checkBounds "range" lo hi
  generalize checkBounds "range" lo.datum hi.datum = outcome at hjudged hcheck
  cases hjudged with
  | breaks hbreaks hkind => simp [rendersReal_of_error hcheck, hbreaks, hkind]
  | rejects hbreaks hpasses hkind => simp [rendersReal_of_error hcheck, hbreaks, hpasses, hkind]
  | passes hbreaks hpasses =>
    obtain ⟨a, b, hspan, hreads⟩ := hpasses.exists_spanText
    have hline : range.scriptText = .ok (opening ++ spanText a.scriptText b.scriptText ++ "") := by
      rw [htext, hspan, String.append_empty]
      rfl
    rw [rendersReal_of_ok hcheck hline, haxes, realLine_append hopening, hreads]
    simp [hbreaks, hpasses, realLine_empty]

/-- A range of both axes. -/
theorem rendersReal_xy (xlo xhi ylo yhi : Bound) :
    (xy xlo.datum xhi.datum ylo.datum yhi.datum).RendersReal ↔
      (Typed.xy xlo xhi ylo yhi).WellJudged := by
  have hx := Bound.judged_checkBounds "xrange" xlo xhi
  have hy := Bound.judged_checkBounds "yrange" ylo yhi
  have hcheck : (xy xlo.datum xhi.datum ylo.datum yhi.datum).check = (do
      checkBounds "xrange" xlo.datum xhi.datum
      checkBounds "yrange" ylo.datum yhi.datum) := rfl
  rw [Typed.WellJudged]
  generalize checkBounds "xrange" xlo.datum xhi.datum = first at hx hcheck
  generalize checkBounds "yrange" ylo.datum yhi.datum = second at hy hcheck
  cases hx with
  | breaks hbreaks hkind => simp [rendersReal_of_error hcheck, hbreaks, hkind]
  | rejects hbreaks hpasses hkind => simp [rendersReal_of_error hcheck, hbreaks, hpasses, hkind]
  | passes hbreaks hpasses =>
    cases hy with
    | breaks hbreaks' hkind => simp [rendersReal_of_error hcheck, hbreaks, hpasses, hbreaks', hkind]
    | rejects hbreaks' hpasses' hkind =>
      simp [rendersReal_of_error hcheck, hbreaks, hbreaks', hpasses', hkind]
    | passes hbreaks' hpasses' =>
      obtain ⟨a, b, hspan, hreads⟩ := hpasses.exists_spanText
      obtain ⟨a', b', hspan', hreads'⟩ := hpasses'.exists_spanText
      have hline : (xy xlo.datum xhi.datum ylo.datum yhi.datum).scriptText =
          .ok ("set xrange " ++ spanText a.scriptText b.scriptText ++
            ("; set yrange " ++ spanText a'.scriptText b'.scriptText ++ "")) := by
        rw [scriptText, hspan, hspan', String.append_empty, ← String.append_assoc]
        rfl
      rw [rendersReal_of_ok hcheck hline, axisCount, realLine_append (by decide),
        realLine_append (by decide), hreads, hreads']
      simp [hbreaks, hpasses, hbreaks', hpasses', realLine_empty]

/-- **The check of a range keeps its promise** exactly for the ranges that
it neither breaks down on nor lets through as one number: for all others
whatever passes is written as a range from one number up to another. -/
theorem rendersReal_iff (range : Typed Bound) :
    (range.map Bound.datum).untyped.RendersReal ↔ range.WellJudged := by
  cases range with
  | x lo hi => exact @rendersReal_of_single _ lo hi "set xrange " (by decide) rfl rfl rfl
  | y lo hi => exact @rendersReal_of_single _ lo hi "set yrange " (by decide) rfl rfl rfl
  | xy xlo xhi ylo yhi => exact rendersReal_xy xlo xhi ylo yhi

/-- All three happen: no double stands for a bound, a message shows a
number with too many digits, and two numbers past the precision of
doubles are written as one. -/
theorem not_rendersReal_wholeNumbers :
    ¬ (x (Bound.whole 0).datum (Bound.whole (Nat.pow 10 400)).datum).RendersReal ∧
      ¬ (x (Bound.real .nan).datum (Bound.whole Datum.unwritable).datum).RendersReal ∧
      ¬ (x (Bound.whole (2 ^ 53)).datum (Bound.whole (2 ^ 53 + 1)).datum).RendersReal := by
  have hsingle : ∀ lo hi : Bound, (x lo.datum hi.datum).RendersReal ↔
      ¬ Bound.Breaks lo hi ∧ (Bound.Passes lo hi → ¬ Bound.Merge lo hi) := fun lo hi =>
    @rendersReal_of_single _ lo hi "set xrange " (by decide) rfl rfl rfl
  rw [hsingle, hsingle, hsingle]
  refine ⟨fun h => h.1 ?_, fun h => h.1 (.message rfl rfl (le_refl _)), fun h => ?_⟩
  · have hnone : Binary64.ofInt? (Nat.pow 10 400) = none := by decide +kernel
    exact .upper (a := .zero) (by decide +kernel) (by decide) hnone
  · obtain ⟨a, ha, hb, hfinite⟩ : ∃ a, Binary64.ofInt? (2 ^ 53) = some a ∧
        Binary64.ofInt? (2 ^ 53 + 1) = some a ∧ a.isFinite :=
      ⟨.ofQuotient false (2 ^ 53) 1, by decide +kernel⟩
    have hlt : ((2 ^ 53 : ℤ) : ℚ) < (2 ^ 53 + 1 : ℤ) := Int.cast_lt.2 (by decide)
    exact h.2 ⟨a, a, ha, hb, hfinite, hfinite, hlt⟩ ⟨a, a, ha, hb, rfl⟩

end AxisRange

end PlotPipe
