import PlotPipe.Proofs.Json.Text
import PlotPipe.Proofs.Number.Order
import PlotPipe.Proofs.Script.Layout
import PlotPipe.Proofs.Script.Unquoting
/-!
# Scripts — colour codes

A colour of three components is written as a code: `#` and the components
in hexadecimal, one behind the other. Each of them has at least two
characters, and just two digits where it lies between 0 and 255
(`inByte_iff`). So the code has six digits exactly when the strict
check lets the colour pass, whichever components are short or long, and
then its pairs of digits are the components again
(`Color.check_eq_ok_iff_isCode`).
-/

namespace PlotPipe

/-! ## The check of a component -/

/-- Whole numbers are compared as whole numbers. -/
theorem Datum.isRelated_int (relation : Relation) (i j : ℤ) :
    Datum.isRelated relation (.int i) (.int j) = .ok (relation.holds (cmp i j)) := by
  have horder : (Amount.whole i none).order? (.whole j none) = some (cmp i j) := by
    have hcommon : (Amount.whole i none).commonFormat? (.whole j none) = none := rfl
    rw [Amount.order?, hcommon]
    change (Exact.ofInt i).order? (Exact.ofInt j) = _
    rw [Exact.ofInt, Exact.ofInt, Exact.order?_finite, ← Exact.ofInt, ← Exact.ofInt,
      Exact.value_ofInt, Exact.value_ofInt, Int.cast_strictMono.cmp_map_eq]
  have hanswer : ∀ order, (Amount.whole i none).order? (.whole j none) = some order →
      (Amount.whole i none).isRelated relation (.whole j none) = .ok (relation.holds order) := by
    intro order h
    simp only [Amount.isRelated, h]
  exact hanswer _ horder

namespace Color

variable {i r g b : ℤ} {c : Char}

/-- A whole number that has a place in a colour. -/
def InByte (i : ℤ) : Prop := 0 ≤ i ∧ i ≤ 255

instance : DecidablePred InByte := fun i => inferInstanceAs (Decidable (0 ≤ i ∧ i ≤ 255))

theorem isComponent_int (i : ℤ) : isComponent (.int i) = .ok (decide (InByte i)) := by
  have hholds : ∀ j k : ℤ, Relation.atMost.holds (cmp j k) = decide (j ≤ k) := by
    intro j k
    rw [Relation.holds, decide_eq_decide, ne_eq, cmp_eq_gt_iff, not_lt]
  rw [isComponent, Datum.isRelated_int, Datum.isRelated_int, hholds, hholds]
  by_cases hlow : 0 ≤ i
  · simp [hlow, InByte, bind, Except.bind]
  · simp [hlow, InByte, bind, Except.bind, pure, Except.pure]

theorem checkComponent_int_iff (name : String) :
    checkComponent name (.int i) = .ok () ↔ InByte i := by
  rw [checkComponent, isComponent_int]
  constructor
  · intro h
    obtain ⟨passes, hpasses, h⟩ := bind_eq_ok.1 h
    obtain rfl := Except.ok.inj hpasses
    by_contra hi
    rw [if_pos (by simp [hi])] at h
    obtain ⟨text, -, h⟩ := bind_eq_ok.1 h
    cases h
  · intro hi
    simp only [hi, decide_true]
    rfl

theorem check_rgb_iff :
    (rgb (.int r) (.int g) (.int b)).check = .ok () ↔ InByte r ∧ InByte g ∧ InByte b := by
  rw [check]
  constructor
  · intro h
    obtain ⟨⟨⟩, hr, h⟩ := bind_eq_ok.1 h
    obtain ⟨⟨⟩, hg, hb⟩ := bind_eq_ok.1 h
    exact ⟨(checkComponent_int_iff _).1 hr, (checkComponent_int_iff _).1 hg,
      (checkComponent_int_iff _).1 hb⟩
  · rintro ⟨hr, hg, hb⟩
    rw [(checkComponent_int_iff _).2 hr, (checkComponent_int_iff _).2 hg,
      (checkComponent_int_iff _).2 hb]
    rfl

/-! ## Components in hexadecimal -/

/-- A hexadecimal digit in lower case. -/
def isCodeDigit (c : Char) : Bool := c.isDigit || ('a' ≤ c && c ≤ 'f')

theorem isCodeDigit_digitChar {n : ℕ} (h : n < 16) : isCodeDigit n.digitChar := by
  have hall : ∀ n : Fin 16, isCodeDigit (Nat.digitChar n) := by decide
  exact hall ⟨n, h⟩

theorem isCodeDigit_of_mem_toDigits {n : ℕ} (h : c ∈ Nat.toDigits 16 n) : isCodeDigit c := by
  induction n using Nat.strongRecOn with
  | _ n ih =>
    by_cases hn : n < 16
    · rw [Nat.toDigits_of_lt_base hn, List.mem_singleton] at h
      exact h ▸ isCodeDigit_digitChar hn
    · rw [Nat.toDigits_of_base_le (by decide) (by omega), List.mem_append, List.mem_singleton] at h
      rcases h with h | rfl
      · exact ih (n / 16) (by omega) h
      · exact isCodeDigit_digitChar (by omega)

theorem isCodeDigit_of_mem_hex {width n : ℕ} (h : c ∈ (Text.hex width n).toList) :
    isCodeDigit c := by
  rw [Text.hex, String.toList_ofList, List.mem_append] at h
  rcases h with h | h
  · rw [List.eq_of_mem_replicate h]
    rfl
  · exact isCodeDigit_of_mem_toDigits h

theorem length_hex (width n : ℕ) :
    (Text.hex width n).toList.length = max width (Nat.toDigits 16 n).length := by
  rw [Text.hex, String.toList_ofList, List.length_append, List.length_replicate]
  omega

/-- A component is written with digits, and with a sign below zero. -/
theorem mem_hexDigits (h : c ∈ (Datum.hexDigits i).toList) : isCodeDigit c ∨ c = '-' := by
  unfold Datum.hexDigits at h
  split at h
  · rw [String.toList_append, List.mem_append] at h
    rcases h with h | h
    · exact .inr (by simpa using h)
    · exact .inl (isCodeDigit_of_mem_hex h)
  · exact .inl (isCodeDigit_of_mem_hex h)

/-- No component is too short for its place: a sign counts as well. -/
theorem two_le_length_hexDigits (i : ℤ) : 2 ≤ (Datum.hexDigits i).toList.length := by
  unfold Datum.hexDigits
  split
  · rw [String.toList_append, List.length_append, length_hex]
    have hsign : "-".toList.length = 1 := rfl
    omega
  · rw [length_hex]
    omega

/-- A component in its place has the two digits of a byte. -/
theorem toList_hexDigits (h : InByte i) : (Datum.hexDigits i).toList =
    [(i.toNat / 16).digitChar, (i.toNat % 16).digitChar] := by
  obtain ⟨n, rfl⟩ := Int.eq_ofNat_of_zero_le h.1
  have hn : n ≤ 255 := by exact_mod_cast h.2
  rw [Datum.hexDigits, if_neg (by omega), Text.hex, String.toList_ofList, Int.natAbs_natCast,
    Int.toNat_natCast]
  by_cases hsmall : n < 16
  · have hdigits : n / 16 = 0 ∧ n % 16 = n := by omega
    rw [Nat.toDigits_of_lt_base hsmall, hdigits.1, hdigits.2]
    rfl
  · rw [Nat.toDigits_of_base_le (by decide) (by omega), Nat.toDigits_of_lt_base (by omega)]
    rfl

/-- **Two digits are what a component has in its place**, and nowhere
else: beyond 255 it has three of them, and below zero it has a sign. -/
theorem inByte_iff : InByte i ↔
    (Datum.hexDigits i).toList.length = 2 ∧ ∀ c ∈ (Datum.hexDigits i).toList, isCodeDigit c := by
  constructor
  · intro h
    rw [toList_hexDigits h]
    have hn : i.toNat ≤ 255 := Int.toNat_le.2 h.2
    refine ⟨rfl, fun c hc => ?_⟩
    rcases List.mem_pair.1 hc with rfl | rfl
    · exact isCodeDigit_digitChar (by omega)
    · exact isCodeDigit_digitChar (by omega)
  · rintro ⟨hlength, hdigits⟩
    unfold Datum.hexDigits at hlength hdigits
    by_cases hi : i < 0
    · rw [if_pos hi] at hdigits
      exact absurd (hdigits '-' (by simp)) (by decide)
    · rw [if_neg hi, length_hex] at hlength
      have hlt : i.natAbs < 16 ^ 2 :=
        (Nat.length_toDigits_le_iff (by decide) (by decide)).1 (by omega)
      exact ⟨by omega, by omega⟩

/-! ## Codes -/

/-- The code of three components. -/
def code (r g b : ℤ) : String :=
  "#" ++ Datum.hexDigits r ++ Datum.hexDigits g ++ Datum.hexDigits b

theorem scriptText_rgb (r g b : ℤ) :
    (rgb (.int r) (.int g) (.int b)).scriptText = .ok (Script.quote (code r g b)) := rfl

/-- A code is quoted as it is. -/
theorem toList_quote_code (r g b : ℤ) : (Script.quote (code r g b)).toList =
    '\'' :: '#' :: ((Datum.hexDigits r).toList ++ (Datum.hexDigits g).toList ++
      (Datum.hexDigits b).toList ++ ['\'']) := by
  have hplain : ∀ c ∈ (code r g b).toList, c ≠ '\'' ∧ c ≠ '\r' ∧ c ≠ '\n' := by
    intro c hc
    have hcases : c = '#' ∨ isCodeDigit c ∨ c = '-' := by
      simp only [code, String.toList_append, List.mem_append] at hc
      rcases hc with ((hc | hc) | hc) | hc
      · exact .inl (by simpa using hc)
      all_goals exact .inr (mem_hexDigits hc)
    refine ⟨?_, ?_, ?_⟩ <;> rintro rfl <;> exact absurd hcases (by decide)
  rw [Script.toList_quote_of_forall hplain]
  simp [code, String.toList_append]

/-- **A colour code**, as a quoted text: `#` and six hexadecimal digits in
lower case. -/
def IsCode (text : String) : Prop :=
  ∃ digits : List Char, digits.length = 6 ∧ (∀ c ∈ digits, isCodeDigit c) ∧
    text.toList = '\'' :: '#' :: (digits ++ ['\''])

/-- Two hexadecimal digits as a number. -/
def byte? (high low : Char) : Option ℤ := do
  let high ← Text.hexDigit? high
  let low ← Text.hexDigit? low
  return ((16 * high + low : ℕ) : ℤ)

/-- The three numbers that a quoted code stands for. -/
def readCode? (text : String) : Option (ℤ × ℤ × ℤ) :=
  match text.toList with
  | ['\'', '#', r1, r2, g1, g2, b1, b2, '\''] => do
    return (← byte? r1 r2, ← byte? g1 g2, ← byte? b1 b2)
  | _ => none

/-- **A text is the code of a colour**: it is well formed, and read as the
components of the colour. -/
structure IsCodeOf (text : String) (r g b : ℤ) : Prop where
  isCode : IsCode text
  read : readCode? text = some (r, g, b)

/-- **A code is well formed where its components fit**: none of them makes
up for another one. -/
theorem isCode_quote_code_iff :
    IsCode (Script.quote (code r g b)) ↔ InByte r ∧ InByte g ∧ InByte b := by
  rw [IsCode, toList_quote_code, inByte_iff, inByte_iff, inByte_iff]
  have hr := two_le_length_hexDigits r
  have hg := two_le_length_hexDigits g
  have hb := two_le_length_hexDigits b
  constructor
  · rintro ⟨digits, hlength, hdigits, htext⟩
    obtain rfl := List.append_cancel_right (List.cons.inj (List.cons.inj htext).2).2
    simp only [List.length_append] at hlength
    simp only [List.mem_append] at hdigits
    exact ⟨⟨by omega, fun c hc => hdigits c (.inl (.inl hc))⟩,
      ⟨by omega, fun c hc => hdigits c (.inl (.inr hc))⟩,
      ⟨by omega, fun c hc => hdigits c (.inr hc)⟩⟩
  · rintro ⟨⟨hr, hrdigits⟩, ⟨hg, hgdigits⟩, ⟨hb, hbdigits⟩⟩
    refine ⟨_, ?_, fun c hc => ?_, rfl⟩
    · simp only [List.length_append]
      omega
    · simp only [List.mem_append] at hc
      rcases hc with (hc | hc) | hc
      · exact hrdigits c hc
      · exact hgdigits c hc
      · exact hbdigits c hc

theorem byte?_digits (h : InByte i) :
    byte? (i.toNat / 16).digitChar (i.toNat % 16).digitChar = some i := by
  have hn : i.toNat ≤ 255 := Int.toNat_le.2 h.2
  rw [byte?, Json.hexDigit?_digitChar (by omega), Json.hexDigit?_digitChar (by omega)]
  simp only [Option.bind_eq_bind, Option.bind_some, Option.pure_def, Option.some.injEq]
  have := h.1
  omega

/-- Components that fit are read back from their code. -/
theorem readCode?_quote_code (hr : InByte r) (hg : InByte g) (hb : InByte b) :
    readCode? (Script.quote (code r g b)) = some (r, g, b) := by
  rw [readCode?, toList_quote_code, toList_hexDigits hr, toList_hexDigits hg, toList_hexDigits hb]
  simp [byte?_digits hr, byte?_digits hg, byte?_digits hb]

/-- A colour passes exactly where its code is well formed. -/
theorem check_rgb_iff_isCode :
    (rgb (.int r) (.int g) (.int b)).check = .ok () ↔ IsCode (Script.quote (code r g b)) := by
  rw [check_rgb_iff, isCode_quote_code_iff]

/-- **A colour that passes has its code.** -/
theorem isCodeOf_of_check (h : (rgb (.int r) (.int g) (.int b)).check = .ok ()) :
    IsCodeOf (Script.quote (code r g b)) r g b := by
  obtain ⟨hr, hg, hb⟩ := check_rgb_iff.1 h
  exact ⟨check_rgb_iff_isCode.1 h, readCode?_quote_code hr hg hb⟩

end Color

/-! ## Codes in clauses -/

namespace Series

variable {s : Series} {color : Color} {text line : String}

/-- The strict check of a series is one of its colour. -/
theorem check_color_of_check (hcolor : s.color = some color) (h : s.check = .ok ()) :
    color.check = .ok () := by
  rw [check, hcolor] at h
  obtain ⟨⟨⟩, -, h⟩ := bind_eq_ok.1 h
  obtain ⟨⟨⟩, h, -⟩ := bind_eq_ok.1 h
  exact h

/-- **The place of a colour in a clause** is behind all that the clause
has without a colour and a filling. -/
theorem exists_clause_of_color (hcolor : s.color = some color)
    (htext : color.scriptText = .ok text) (h : s.clause = .ok line) :
    ∃ before after, { s with color := none, fill := .null : Series }.clause = .ok before ∧
      line = before ++ " lc rgb " ++ text ++ after := by
  obtain ⟨source, word, title, weight, parts, fill, hsource, hword, htitle, hweight, hparts, hfill,
    rfl⟩ := Script.clause_eq_ok_iff.1 h
  rw [hcolor, colorPart, htext] at hparts
  obtain rfl : ["lc rgb " ++ text] = parts := Except.ok.inj hparts
  refine ⟨_, if fill = [] then "" else " " ++ " ".intercalate fill, Script.clause_eq_ok_iff.2
    ⟨source, word, title, weight, [], [], hsource, hword, htitle, hweight, rfl, rfl, rfl⟩, ?_⟩
  have hopening : ∀ rest : String, " " ++ ("lc rgb " ++ rest) = " lc rgb " ++ rest := by
    intro rest
    rw [← String.append_assoc]
    rfl
  rw [List.append_assoc, String.intercalate_append_of_ne_nil (by simp) (by simp)]
  split
  · rename_i hnone
    simp [hnone, String.append_assoc, hopening]
  · rename_i hsome
    rw [String.intercalate_append_of_ne_nil (by simp) hsome]
    simp [String.append_assoc, hopening]

end Series

open Color in
/-- **The strict check lets a colour pass exactly where its code is well
formed.** Then the code is read as the components of the colour, and no
other colour that passes has that code. A series that passes has the code
of its colour in its clause, behind all that the clause has without a
colour and a filling. -/
theorem Color.check_eq_ok_iff_isCode (r g b : ℤ) :
    ∃ text, (rgb (.int r) (.int g) (.int b)).scriptText = .ok text ∧
      ((rgb (.int r) (.int g) (.int b)).check = .ok () ↔ IsCode text) ∧
      ((rgb (.int r) (.int g) (.int b)).check = .ok () → IsCodeOf text r g b) ∧
      (∀ r' g' b', (rgb (.int r) (.int g) (.int b)).check = .ok () →
        (rgb (.int r') (.int g') (.int b')).check = .ok () →
        (rgb (.int r') (.int g') (.int b')).scriptText = .ok text → (r, g, b) = (r', g', b')) ∧
      ∀ s : Series, s.color = some (rgb (.int r) (.int g) (.int b)) → s.check = .ok () →
        IsCodeOf text r g b ∧ Series.colorPart s.color = .ok ["lc rgb " ++ text] ∧
        ∀ line, s.clause = .ok line → ∃ before after,
          { s with color := none, fill := .null : Series }.clause = .ok before ∧
          line = before ++ " lc rgb " ++ text ++ after := by
  refine ⟨_, scriptText_rgb r g b, check_rgb_iff_isCode, isCodeOf_of_check,
    fun r' g' b' h h' htext => ?_, fun s hcolor h => ⟨?_, ?_, fun line hline => ?_⟩⟩
  · have heq : Script.quote (code r' g' b') = Script.quote (code r g b) := Except.ok.inj htext
    have hread := (isCodeOf_of_check h).read
    rw [← heq, (isCodeOf_of_check h').read] at hread
    exact (Option.some.inj hread).symm
  · exact isCodeOf_of_check (Series.check_color_of_check hcolor h)
  · rw [hcolor]
    rfl
  · exact Series.exists_clause_of_color hcolor (scriptText_rgb r g b) hline

open Color in
/-- A line in a colour whose components have one digit and two. -/
theorem Color.check_eq_ok_iff_isCode_blueLine :
    let s : Series := { style := .lines, trace := .heights []
                        color := some (rgb (.int 0) (.int 16) (.int 255)) }
    s.check = .ok () ∧
      ∃ text, IsCodeOf text 0 16 255 ∧ Series.colorPart s.color = .ok ["lc rgb " ++ text] := by
  intro s
  have hcheck : s.check = .ok () := by
    show ((rgb (.int 0) (.int 16) (.int 255)).check >>= fun _ => .ok ()) = .ok ()
    rw [check_rgb_iff.2 (by decide)]
    rfl
  obtain ⟨text, -, -, -, -, hseries⟩ := check_eq_ok_iff_isCode 0 16 255
  obtain ⟨hcode, hpart, -⟩ := hseries s rfl hcheck
  exact ⟨hcheck, text, hcode, hpart⟩

end PlotPipe
