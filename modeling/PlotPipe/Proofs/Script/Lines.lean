import PlotPipe.Proofs.Number.Digits
import PlotPipe.Proofs.Text.Blank
import PlotPipe.Script.Plot
/-!
# Scripts — lines

A script is read line by line, so what counts of a text inside it is
whether it stays on its line (`OnOneLine`) and how its line opens
(`Opens`). Quoted texts and numbers stay on their line whatever they say,
and the lines of a script are the lines it was made of (`lines_ofLines`).
-/

namespace PlotPipe

namespace Script

/-- The lines of a script. After the end of the last one comes the empty
line. -/
def lines (script : String) : List String := (script.toList.splitOn '\n').map String.ofList

/-- A text that stays on its line. -/
def OnOneLine (s : String) : Prop := '\n' ∉ s.toList

/-- A text that opens with another one. -/
def Opens (opening s : String) : Prop := opening.toList <+: s.toList

instance : DecidablePred OnOneLine := fun s => inferInstanceAs (Decidable ('\n' ∉ s.toList))

instance (opening : String) : DecidablePred (Opens opening) := fun s =>
  inferInstanceAs (Decidable (opening.toList <+: s.toList))

variable {line rest opening a b : String} {ls : List String}

/-! ## The lines of a script -/

theorem ofLines_cons (line : String) (ls : List String) :
    ofLines (line :: ls) = line ++ "\n" ++ ofLines ls := by
  rw [ofLines, List.map_cons, String.join_cons]
  rfl

/-- There is something to send where there is a line. -/
theorem ofLines_ne_empty (h : ls ≠ []) : ofLines ls ≠ "" := by
  obtain ⟨line, rest, rfl⟩ := List.exists_cons_of_ne_nil h
  intro hempty
  have hlist := congrArg String.toList hempty
  simp [ofLines_cons, String.toList_append] at hlist

/-- The first line of a script ends at its first line end. -/
theorem lines_cons (h : OnOneLine line) : lines (line ++ "\n" ++ rest) = line :: lines rest := by
  have hlist : (line ++ "\n" ++ rest).toList = line.toList ++ '\n' :: rest.toList := by
    simp [String.toList_append]
  rw [lines, hlist, List.splitOn_append_cons_self_of_not_mem h, List.map_cons, String.ofList_toList]
  rfl

/-- **The lines of a script are the lines it was made of.** -/
theorem lines_ofLines (h : ∀ line ∈ ls, OnOneLine line) : lines (ofLines ls) = ls ++ [""] := by
  induction ls with
  | nil => rfl
  | cons line ls ih =>
    have hrest : lines (ofLines ls) = ls ++ [""] :=
      ih fun l hl => h l (List.mem_cons_of_mem _ hl)
    rw [ofLines_cons, lines_cons (h line List.mem_cons_self), hrest]
    rfl

/-- A script has one line more than line ends. -/
theorem length_lines (script : String) : (lines script).length = script.toList.count '\n' + 1 := by
  rw [lines, List.length_map]
  induction script.toList with
  | nil => rfl
  | cons c cs ih =>
    rw [List.splitOn_cons_eq_if_modifyHead, List.count_cons]
    split
    · rw [List.length_cons, ih]
    · rw [List.length_modifyHead, ih, Nat.add_zero]

/-! ## Texts that stay on their line -/

@[simp] theorem onOneLine_append : OnOneLine (a ++ b) ↔ OnOneLine a ∧ OnOneLine b := by
  simp [OnOneLine, String.toList_append]

/-- Texts that stay on their line do so together. -/
theorem onOneLine_intercalate (ha : OnOneLine a) (h : ∀ s ∈ ls, OnOneLine s) :
    OnOneLine (a.intercalate ls) := by
  intro hmem
  rcases Text.mem_toList_intercalate hmem with hmem | ⟨s, hs, hmem⟩
  · exact ha hmem
  · exact h s hs hmem

theorem newline_not_mem_flatten (cs : List Char) : '\n' ∉ flatten cs := by
  induction cs using flatten.induct with
  | case1 => simp [flatten]
  | case2 rest ih => simpa [flatten] using ih
  | case3 rest ih => simpa [flatten] using ih
  | case4 rest _ ih => simpa [flatten] using ih
  | case5 c rest _ hc _ ih =>
    have hc' : '\n' ≠ c := fun heq => hc heq.symm
    simpa [flatten, hc'] using ih

theorem newline_not_mem_doubleQuotes {cs : List Char} (h : '\n' ∉ cs) : '\n' ∉ doubleQuotes cs := by
  induction cs using doubleQuotes.induct with
  | case1 => simp [doubleQuotes]
  | case2 rest ih => simpa [doubleQuotes] using ih (by simpa using h)
  | case3 c rest _ ih =>
    have hcs : '\n' ≠ c ∧ '\n' ∉ rest := by simpa using h
    simpa [doubleQuotes, hcs.1] using ih hcs.2

/-- **A quoted text stays on its line**, whatever it says. -/
theorem onOneLine_quote (s : String) : OnOneLine (quote s) := by
  unfold OnOneLine quote
  rw [String.toList_ofList]
  have hbody := newline_not_mem_doubleQuotes (newline_not_mem_flatten s.toList)
  simp [hbody]

/-! ## Openings -/

/-- A long text opens as its first part does. -/
theorem opens_append (h : opening.toList.length ≤ a.toList.length) :
    Opens opening (a ++ b) ↔ Opens opening a := by
  unfold Opens
  rw [String.toList_append]
  refine ⟨fun hprefix => ?_, fun hprefix => hprefix.trans (List.prefix_append _ _)⟩
  exact List.prefix_of_prefix_length_le hprefix (List.prefix_append _ _) h

/-! ## Numbers -/

/-- The characters that numbers are made of. -/
def isNumeral (c : Char) : Bool := c.isDigit || ".+-eNaInf".toList.contains c

theorem isNumeral_of_isDigit {c : Char} (h : c.isDigit) : isNumeral c := by
  rw [isNumeral, h, Bool.true_or]

/-- The characters that finite numbers are made of. -/
def isDecimal (c : Char) : Bool := c.isDigit || ".e+-".toList.contains c

theorem isDecimal_of_isDigit {c : Char} (h : c.isDigit) : isDecimal c := by
  rw [isDecimal, h, Bool.true_or]

theorem isNumeral_of_isDecimal {c : Char} (h : isDecimal c) : isNumeral c := by
  rcases Bool.or_eq_true_iff.1 h with hdigit | hother
  · exact isNumeral_of_isDigit hdigit
  · have hcases : c = '.' ∨ c = 'e' ∨ c = '+' ∨ c = '-' := by simpa using hother
    rcases hcases with rfl | rfl | rfl | rfl <;> rfl

theorem isDecimal_of_mem_positional {ds : List Char} (hds : ∀ c ∈ ds, c.isDigit) {e : Int}
    {c : Char} (h : c ∈ positional ds e) : isDecimal c := by
  have hc : c ∈ ds ∨ c = '0' ∨ c = '.' := by
    unfold positional at h
    split at h
    · simp only [List.mem_cons, List.mem_append, List.mem_replicate] at h
      rcases h with h | h | ⟨-, h⟩ | h <;> simp [h]
    · simp only [List.mem_cons, List.mem_append, List.mem_replicate] at h
      rcases h with (h | ⟨-, h⟩) | h | h
      · exact .inl (List.mem_of_mem_take h)
      · simp [h]
      · simp [h]
      · split at h
        · simp_all
        · exact .inl (List.mem_of_mem_drop h)
  rcases hc with h | rfl | rfl
  · exact isDecimal_of_isDigit (hds c h)
  · rfl
  · rfl

theorem isDecimal_of_mem_exponential {ds : List Char} (hds : ∀ c ∈ ds, c.isDigit) {e : Int}
    {c : Char} (h : c ∈ exponential ds e) : isDecimal c := by
  unfold exponential at h
  rcases List.mem_append.1 h with h | h
  · have hc : c ∈ ds ∨ c = '0' ∨ c = '.' := by
      split at h <;> simp_all
      rcases h with rfl | rfl | h <;> simp_all
    rcases hc with h | rfl | rfl
    · exact isDecimal_of_isDigit (hds c h)
    · rfl
    · rfl
  · rcases List.mem_cons.1 h with rfl | h
    · rfl
    rcases List.mem_cons.1 h with rfl | h
    · split <;> rfl
    · exact isDecimal_of_isDigit (isDigit_of_mem_paddedDigits h)

/-- **A finite number is made of digits**, points, signs and the letter of
exponents. -/
theorem isDecimal_of_mem_text {m : Magnitude} {c : Char} (h : c ∈ m.text) : isDecimal c := by
  unfold Magnitude.text at h
  split at h
  · exact List.all_eq_true.1 (by decide) c h
  -- What is left are numbers that are written with a point or with an exponent.
  have hdigits : ∀ d ∈ dropTrailingZeros (decimalDigits m.shortest.digits), d.isDigit := by
    intro d hd
    unfold dropTrailingZeros at hd
    rw [List.mem_reverse] at hd
    exact isDigit_of_mem_decimalDigits (List.mem_reverse.1 ((List.dropWhile_sublist _).subset hd))
  unfold Scaled.text at h
  simp only at h
  split at h
  · exact isDecimal_of_mem_positional hdigits h
  · exact isDecimal_of_mem_exponential hdigits h

/-- **A number is made of the characters of numbers**, infinite or not. -/
theorem isNumeral_of_mem_scriptText {x : Binary64} {c : Char} (h : c ∈ x.scriptText.toList) :
    isNumeral c := by
  unfold Binary64.scriptText Binary64.text at h
  split at h
  · exact List.all_eq_true.1 (by decide) c h
  · rw [String.toList_append, List.mem_append] at h
    rcases h with h | h
    · split at h
      · exact List.all_eq_true.1 (by decide) c h
      · simp at h
    split at h
    · rw [String.toList_ofList] at h
      exact isNumeral_of_isDecimal (isDecimal_of_mem_text h)
    · exact List.all_eq_true.1 (by decide) c h

theorem one_lt_length_positional (ds : List Char) (e : Int) : 1 < (positional ds e).length := by
  unfold positional
  split
  · simp
  · have hafter : 0 < (if (ds.drop (e.toNat + 1)).isEmpty then ['0']
        else ds.drop (e.toNat + 1)).length := by
      split
      · simp
      · rename_i hafter
        exact List.length_pos_iff.2 (by simpa using hafter)
    simp only [List.length_append, List.length_cons]
    omega

theorem one_lt_length_exponential (ds : List Char) (e : Int) :
    1 < (exponential ds e).length := by
  simp only [exponential, List.length_append, List.length_cons]
  omega

/-- **A number has several characters**, at least one of them behind its
point. -/
theorem one_lt_length_scriptText (x : Binary64) : 1 < x.scriptText.toList.length := by
  unfold Binary64.scriptText Binary64.text
  split
  · decide
  · rename_i negative m
    rw [String.toList_append, List.length_append]
    suffices hmagnitude : 1 < (if m.isFinite then String.ofList m.text
        else Spelling.script.infinity).toList.length by omega
    split
    · rw [String.toList_ofList]
      unfold Magnitude.text
      split
      · decide
      · unfold Scaled.text
        simp only
        split
        · exact one_lt_length_positional _ _
        · exact one_lt_length_exponential _ _
    · decide

theorem onOneLine_scriptText (x : Binary64) : OnOneLine x.scriptText := by
  intro h
  exact absurd (isNumeral_of_mem_scriptText h) (by decide)

/-- A whole number is made of digits and perhaps a sign. -/
theorem isDigit_or_eq_of_mem_toString {i : Int} {c : Char} (h : c ∈ (toString i).toList) :
    c.isDigit ∨ c = '-' := by
  cases i with
  | ofNat n => exact .inl (isDigit_of_mem_decimalDigits (toList_toString n ▸ h))
  | negSucc n =>
    have hsign : c ∈ ("-" ++ toString (n + 1)).toList := h
    rw [String.toList_append, List.mem_append, toList_toString] at hsign
    rcases hsign with hsign | hdigit
    · exact .inr (by simpa using hsign)
    · exact .inl (isDigit_of_mem_decimalDigits hdigit)

theorem onOneLine_toString_int (i : Int) : OnOneLine (toString i) := by
  intro h
  exact absurd (isDigit_or_eq_of_mem_toString h) (by decide)

theorem onOneLine_toString (n : Nat) : OnOneLine (toString n) := onOneLine_toString_int n

end Script

end PlotPipe
