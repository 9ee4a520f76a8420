import PlotPipe.Proofs.Number.Numeral
import PlotPipe.Proofs.Script.Lines
import PlotPipe.Proofs.Text.Blank
/-!
# Numbers — numbers are read back

The text of a double in a script is read as that double, wherever a
decimal number is read: as a cell of a data file, without blanks
(`plain?_scriptText`), and in free text (`free?_scriptText`). That holds
of every double, since the numeral of a finite one is read as the nearest
double, and the names of the others are known in every case of letters.
-/

namespace PlotPipe

namespace Decimal

/-- An exponent is read back, and so is its absence. -/
theorem exponent?_exponentText (e : Option ℤ) :
    exponent? (Numeral.exponentText e) = some (e.getD 0) := by
  cases e with
  | none => rfl
  | some e =>
    have hdigits : ∀ c ∈ paddedDigits 2 e.natAbs, c.isDigit := fun c hc =>
      isDigit_of_mem_paddedDigits hc
    have hend : ∀ c ∈ ([] : List Char).head?, c.isDigit = false := by simp
    have htake := takeDigits_append hdigits hend 0 0
    rw [List.append_nil, ofDigitChars_paddedDigits, Nat.zero_add] at htake
    have hlen : (paddedDigits 2 e.natAbs).length ≠ 0 := by
      simp [paddedDigits, decimalDigits_ne_nil]
    have hsign : (if e < 0 then '-' else '+') = if decide (e < 0) then '-' else '+' := by simp
    have hread : ∀ negative : Bool,
        takeSign ((if negative then '-' else '+') :: paddedDigits 2 e.natAbs) =
          (negative, paddedDigits 2 e.natAbs) := by
      intro negative
      cases negative <;> rfl
    rw [Numeral.exponentText, exponent?, if_pos (.inl rfl), hsign, hread]
    dsimp only
    rw [htake]
    dsimp only
    rw [if_neg hlen]
    by_cases he : e < 0
    · simp only [he, decide_true, if_true, Option.getD_some, Option.some.injEq]
      omega
    · simp only [he, decide_false, Bool.false_eq_true, if_false, Option.getD_some,
        Option.some.injEq]
      omega

/-- No digit opens an exponent. -/
theorem isDigit_head?_exponentText (e : Option ℤ) :
    ∀ c ∈ (Numeral.exponentText e).head?, c.isDigit = false ∧ c ≠ '.' := by
  cases e with
  | none => simp [Numeral.exponentText]
  | some e =>
    intro c hc
    cases hc
    decide

/-- **A numeral is read as what its parts add up to.** -/
theorem unsigned?_numeral (n : Numeral) :
    unsigned? n.text = some (n.scaled.digits, n.scaled.exponent) := by
  have hexponent := isDigit_head?_exponentText n.exponent
  have hlen : n.whole.length ≠ 0 := fun h => n.whole_ne (List.length_eq_zero_iff.1 h)
  have hwhole : takeDigits n.text 0 0 = (Nat.ofDigitChars 10 n.whole 0, n.whole.length,
      Numeral.placesText n.places ++ Numeral.exponentText n.exponent) := by
    rw [Numeral.text, List.append_assoc, takeDigits_append n.isDigit_of_mem_whole, Nat.zero_add]
    unfold Numeral.placesText
    split
    · exact fun c hc => (hexponent c hc).1
    · intro c hc
      cases hc
      rfl
  rw [unsigned?, hwhole]
  dsimp only
  -- Whether there are places decides about the point.
  by_cases hplaces : n.places = []
  · rw [Numeral.placesText, if_pos hplaces, List.nil_append]
    have hpoint : ∀ tail, Numeral.exponentText n.exponent ≠ '.' :: tail := by
      intro tail heq
      exact (hexponent '.' (by rw [heq]; rfl)).2 rfl
    split
    · exact absurd ‹_› (hpoint _)
    · rw [if_neg (by omega), exponent?_exponentText]
      simp [Numeral.scaled, hplaces]
  · have htake := takeDigits_append n.isDigit_of_mem_places (fun c hc => (hexponent c hc).1)
      (Nat.ofDigitChars 10 n.whole 0) 0
    rw [Nat.zero_add] at htake
    rw [Numeral.placesText, if_neg hplaces, List.cons_append]
    simp only [htake]
    rw [if_neg (by omega), exponent?_exponentText, Numeral.scaled, Nat.ofDigitChars_append]
    rfl

/-- A text that begins with a digit has no sign and is no name. -/
theorem plain?_of_isDigit {c : Char} {cs : List Char} (hc : c.isDigit) (negative : Bool) :
    plain? ((if negative then ['-'] else []) ++ c :: cs) =
      (unsigned? (c :: cs)).map fun (digits, exponent) => nearest negative digits exponent := by
  have hne : ∀ d : Char, d.isDigit = false → c ≠ d := by
    rintro d hd rfl
    rw [hc] at hd
    cases hd
  have hlower : c.toLower = c := by
    unfold Char.toLower
    rw [dif_neg]
    intro hupper
    simp only [Char.isDigit, Bool.and_eq_true, decide_eq_true_eq] at hc
    have h9 : c.val ≤ 57 := hc.2
    have hA : 65 ≤ c.val := hupper.1
    exact absurd (UInt32.le_trans hA h9) (by decide)
  have hsign : takeSign ((if negative then ['-'] else []) ++ c :: cs) = (negative, c :: cs) := by
    cases negative with
    | true => rfl
    | false =>
      show takeSign (c :: cs) = _
      unfold takeSign
      split
      · rename_i heq
        exact absurd (List.cons.inj heq).1 (hne '-' rfl)
      · rename_i heq
        exact absurd (List.cons.inj heq).1 (hne '+' rfl)
      · rfl
  have hname : ∀ d rest, d.isDigit = false → (c :: cs).map Char.toLower ≠ d :: rest := by
    intro d rest hd heq
    rw [List.map_cons, hlower] at heq
    exact hne d hd (List.cons.inj heq).1
  rw [plain?, hsign]
  dsimp only
  rw [if_neg, if_neg]
  · exact hname 'n' ['a', 'n'] rfl
  · rintro (h | h)
    · exact hname 'i' ['n', 'f'] rfl h
    · exact hname 'i' ['n', 'f', 'i', 'n', 'i', 't', 'y'] rfl h

end Decimal

open Script in
/-- What numbers are made of is neither blank nor an underscore, and no
digit of another script. -/
theorem of_isNumeral {c : Char} (h : isNumeral c) :
    Text.isBlank c = false ∧ c.toNat < 0x80 ∧ c ≠ '_' := by
  rcases Bool.or_eq_true_iff.1 h with hdigit | hother
  · simp only [Char.isDigit, Bool.and_eq_true, decide_eq_true_eq] at hdigit
    have hlo : 48 ≤ c.toNat := hdigit.1
    have hhi : c.toNat ≤ 57 := hdigit.2
    refine ⟨?_, by omega, ?_⟩
    · simp only [Text.isBlank, Bool.or_eq_false_iff, Bool.and_eq_false_iff, decide_eq_false_iff_not]
      omega
    · rintro rfl
      exact absurd hhi (by decide)
  · have hcases : c = '.' ∨ c = '+' ∨ c = '-' ∨ c = 'e' ∨ c = 'N' ∨ c = 'a' ∨ c = 'I' ∨ c = 'n' ∨
        c = 'f' := by simpa using hother
    rcases hcases with rfl | rfl | rfl | rfl | rfl | rfl | rfl | rfl | rfl <;>
      exact ⟨rfl, by decide, by decide⟩

namespace Decimal

/-- Without digits of other scripts there is nothing to fold. -/
theorem foldDigits_of_forall {cs : List Char} (h : ∀ c ∈ cs, c.toNat < 0x80) :
    foldDigits cs = cs := by
  rw [foldDigits]
  refine (List.map_congr_left fun c hc => ?_).trans (List.map_id cs)
  exact if_pos (h c hc)

/-- Without underscores there is nothing to drop. -/
theorem dropUnderscores?_of_not_mem {cs : List Char} (h : '_' ∉ cs) (afterDigit : Bool) :
    dropUnderscores? afterDigit cs = some cs := by
  fun_induction dropUnderscores? afterDigit cs
  all_goals simp_all

end Decimal

namespace Binary64

/-- A magnitude that is not finite is infinity. -/
theorem eq_infinity_of_not_isFinite {m : Magnitude} (h : ¬ m.isFinite) : m = .infinity := by
  obtain ⟨rank, hle⟩ := m
  have hrank : ¬ rank < BinaryFormat.binary64.infinityRank := by simpa [Magnitude.isFinite] using h
  rw [Magnitude.infinity, Magnitude.mk.injEq]
  omega

/-- **The text of a double is read as that double.** -/
theorem plain?_scriptText (x : Binary64) : Decimal.plain? x.scriptText.toList = some x := by
  cases x with
  | nan => rfl
  | signed negative m =>
    rw [scriptText, text]
    by_cases hfinite : m.isFinite
    · obtain ⟨n, htext, hread⟩ := m.exists_numeral hfinite
      obtain ⟨c, whole, hwhole⟩ := List.exists_cons_of_ne_nil n.whole_ne
      have hc : c.isDigit := n.isDigit_of_mem_whole c (hwhole ▸ List.mem_cons_self)
      have hcons : n.text = c :: (whole ++ Numeral.placesText n.places
          ++ Numeral.exponentText n.exponent) := by
        rw [Numeral.text, hwhole]
        rfl
      have hsign : (if negative then "-" else "").toList = if negative then ['-'] else [] := by
        cases negative <;> rfl
      rw [if_pos hfinite, String.toList_append, String.toList_ofList, hsign, ← htext, hcons,
        Decimal.plain?_of_isDigit hc, ← hcons, Decimal.unsigned?_numeral]
      exact congrArg some (hread negative)
    · rw [if_neg hfinite, eq_infinity_of_not_isFinite hfinite]
      cases negative <;> rfl

/-- **The text of a double in free text is read as that double.** -/
theorem free?_scriptText (x : Binary64) : Decimal.free? x.scriptText = some x := by
  have hchars : ∀ c ∈ x.scriptText.toList, Text.isBlank c = false ∧ c.toNat < 0x80 ∧ c ≠ '_' :=
    fun c hc => of_isNumeral (Script.isNumeral_of_mem_scriptText hc)
  have hmargin : ∀ c ∈ x.scriptText.toList, Decimal.isMargin c = false := fun c hc => by
    rw [Decimal.isMargin, (hchars c hc).1, Bool.false_and]
  have hunderscore : '_' ∉ x.scriptText.toList := fun hmem => (hchars '_' hmem).2.2 rfl
  rw [Decimal.free?, Decimal.normalize?, Text.trimBy_of_forall hmargin,
    Decimal.foldDigits_of_forall fun c hc => (hchars c hc).2.1,
    Decimal.dropUnderscores?_of_not_mem hunderscore]
  exact plain?_scriptText x

end Binary64

end PlotPipe
