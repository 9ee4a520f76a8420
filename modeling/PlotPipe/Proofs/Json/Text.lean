import PlotPipe.Json.Read
import PlotPipe.Json.Write
/-!
# JSON — texts are read back

A text between quotation marks is read back as it was written, whatever
it says (`text?_writeText`): each of its characters is written as one
escape or two, which are read as the UTF-16 units of the character
(`units?_escapeChar`), and the units of characters are told apart again
(`ofUnits_units`). Everything that is written is printable ASCII, so a
text never breaks the line that it stands on.
-/

namespace PlotPipe

namespace Json

/-- The UTF-16 units of a character. -/
def units (c : Char) : List Nat :=
  if c.toNat < 0x10000 then [c.toNat]
  else [0xD800 + (c.toNat - 0x10000) / 0x400, 0xDC00 + (c.toNat - 0x10000) % 0x400]

/-- A character that stands on a line of ASCII. -/
def IsPlain (c : Char) : Prop := 0x20 ≤ c.toNat ∧ c.toNat < 0x7F

instance : DecidablePred IsPlain := fun c =>
  inferInstanceAs (Decidable (0x20 ≤ c.toNat ∧ c.toNat < 0x7F))

/-! ## Hexadecimal digits -/

theorem hexDigit?_digitChar {n : Nat} (h : n < 16) : Text.hexDigit? n.digitChar = some n := by
  have hall : ∀ n : Fin 16, Text.hexDigit? (Nat.digitChar n) = some n.val := by decide
  exact hall ⟨n, h⟩

theorem isPlain_digitChar {n : Nat} (h : n < 16) : IsPlain n.digitChar := by
  have hall : ∀ n : Fin 16, IsPlain (Nat.digitChar n) := by decide
  exact hall ⟨n, h⟩

/-- Four hexadecimal digits. -/
theorem toList_hex {n : Nat} (h : n < 0x10000) : (Text.hex 4 n).toList
    = [(n / 0x1000).digitChar, (n / 0x100 % 16).digitChar, (n / 0x10 % 16).digitChar,
      (n % 16).digitChar] := by
  unfold Text.hex
  rw [String.toList_ofList]
  have hstep : ∀ {m : Nat}, 16 ≤ m →
      Nat.toDigits 16 m = Nat.toDigits 16 (m / 16) ++ [(m % 16).digitChar] :=
    fun hm => Nat.toDigits_of_base_le (by decide) hm
  have hlast : ∀ {m : Nat}, m < 16 → Nat.toDigits 16 m = [m.digitChar] :=
    fun hm => Nat.toDigits_of_lt_base hm
  have hzero : Nat.digitChar 0 = '0' := rfl
  -- The number of digits is found by hand, from one to four.
  by_cases h1 : n < 16
  · have hd : n / 0x1000 = 0 ∧ n / 0x100 % 16 = 0 ∧ n / 0x10 % 16 = 0 ∧ n % 16 = n := by omega
    rw [hlast h1, hd.1, hd.2.1, hd.2.2.1, hd.2.2.2]
    rfl
  by_cases h2 : n < 0x100
  · have hd : n / 0x1000 = 0 ∧ n / 0x100 % 16 = 0 ∧ n / 0x10 % 16 = n / 16 := by omega
    rw [hstep (by omega), hlast (by omega), hd.1, hd.2.1, hd.2.2]
    rfl
  by_cases h3 : n < 0x1000
  · have hd : n / 0x1000 = 0 ∧ n / 0x100 % 16 = n / 16 / 16 ∧ n / 0x10 % 16 = n / 16 % 16 := by
      omega
    rw [hstep (by omega), hstep (by omega), hlast (by omega), hd.1, hd.2.1, hd.2.2]
    rfl
  · have hd : n / 0x1000 = n / 16 / 16 / 16 ∧ n / 0x100 % 16 = n / 16 / 16 % 16
        ∧ n / 0x10 % 16 = n / 16 % 16 := by omega
    rw [hstep (by omega), hstep (by omega), hstep (by omega), hlast (by omega), hd.1, hd.2.1,
      hd.2.2]
    rfl

variable {n : Nat} {rest : List Char}

/-- **A unit is read back from its escape.** -/
theorem units?_unitEscape (h : n < 0x10000) : units? ((unitEscape n).toList ++ rest)
    = (units? rest).map fun (ns, after) => (n :: ns, after) := by
  have hunit : unit? (n / 0x1000).digitChar (n / 0x100 % 16).digitChar (n / 0x10 % 16).digitChar
      (n % 16).digitChar = some n := by
    rw [unit?, hexDigit?_digitChar (by omega), hexDigit?_digitChar (by omega),
      hexDigit?_digitChar (by omega), hexDigit?_digitChar (by omega)]
    dsimp only
    congr 1
    omega
  rw [unitEscape, String.toList_append, toList_hex h]
  change units? ('\\' :: 'u' :: _ :: _ :: _ :: _ :: rest) = _
  rw [units?, hunit]

/-- A character that may stand for itself is read as itself. -/
theorem units?_cons {c : Char} (hquote : c ≠ '"') (hslash : c ≠ '\\') (hlow : 0x20 ≤ c.toNat) :
    units? (c :: rest) = (units? rest).map fun (ns, after) => (c.toNat :: ns, after) := by
  rw [units?.eq_def]
  split
  · rename_i heq
    cases heq
  · rename_i heq
    exact absurd (List.cons.inj heq).1 hquote
  · rename_i heq
    exact absurd (List.cons.inj heq).1 hslash
  · rename_i heq
    exact absurd (List.cons.inj heq).1 hslash
  · rename_i heq
    exact absurd (List.cons.inj heq).1 hslash
  · rename_i heq
    cases heq
    exact if_neg (Nat.not_lt.2 hlow)

/-- A short escape is read as the character it stands for. -/
theorem units?_shortEscape {c : Char} (h : shortEscape? c = some n) :
    units? ('\\' :: c :: rest) = (units? rest).map fun (ns, after) => (n :: ns, after) := by
  have hu : c ≠ 'u' := by
    rintro rfl
    cases h
  rw [units?.eq_def]
  split
  · contradiction
  · rename_i heq
    cases heq
  · rename_i heq
    cases heq
    exact absurd rfl hu
  · rename_i heq
    cases heq
    rw [h]
  · rename_i heq
    cases heq
  · rename_i _ hslash _ heq
    cases heq
    exact absurd rfl (hslash _ _ rfl)

/-- **A character is read as its units.** -/
theorem units?_escapeChar (c : Char) : units? ((escapeChar c).toList ++ rest)
    = (units? rest).map fun (ns, after) => (units c ++ ns, after) := by
  have hvalid : c.toNat < 0xD800 ∨ 0xDFFF < c.toNat ∧ c.toNat < 0x110000 := c.valid
  have hone : c.toNat < 0x10000 → units c = [c.toNat] := fun h => if_pos h
  -- A short escape is found by its code.
  have hshort : ∀ {m : Nat} (s : Char), shortEscape? s = some m → m < 0x10000 → m = c.toNat →
      units? ('\\' :: s :: rest) = (units? rest).map fun (ns, after) => (units c ++ ns, after) := by
    intro m s hs hlt hm
    rw [units?_shortEscape hs, hone (hm ▸ hlt), hm]
    rfl
  unfold escapeChar
  dsimp only
  split
  · rename_i h
    exact hshort '"' rfl (by decide) (h ▸ rfl)
  split
  · rename_i h
    exact hshort '\\' rfl (by decide) (h ▸ rfl)
  split
  · rename_i h
    exact hshort 'n' rfl (by decide) (h ▸ rfl)
  split
  · rename_i h
    exact hshort 'r' rfl (by decide) (h ▸ rfl)
  split
  · rename_i h
    exact hshort 't' rfl (by decide) (h ▸ rfl)
  split
  · rename_i h
    exact hshort 'b' rfl (by decide) h.symm
  split
  · rename_i h
    exact hshort 'f' rfl (by decide) h.symm
  split
  · rename_i hquote hslash _ _ _ _ _ hplain
    rw [hone (by omega), Char.toString_eq_singleton, String.toList_singleton,
      List.singleton_append, units?_cons hquote hslash hplain.1]
    rfl
  split
  · rename_i hlt
    rw [hone hlt]
    exact units?_unitEscape hlt
  · rename_i hlarge
    rw [String.toList_append, List.append_assoc, units?_unitEscape (by omega),
      units?_unitEscape (by omega), units, if_neg hlarge, Option.map_map]
    rfl

/-- A unit that is no half of a pair is a character by itself. -/
theorem ofUnits_cons (h : ¬ (0xD800 ≤ n ∧ n < 0xE000)) (ns : List Nat) :
    ofUnits (n :: ns) = Char.ofNat n :: ofUnits ns := by
  have hhigh : ¬ (0xD800 ≤ n ∧ n < 0xDC00) := by omega
  cases ns with
  | nil => simp [ofUnits, h]
  | cons lo ns =>
    have hpair : ¬ (0xD800 ≤ n ∧ n < 0xDC00 ∧ 0xDC00 ≤ lo ∧ lo < 0xE000) :=
      fun hp => hhigh ⟨hp.1, hp.2.1⟩
    simp only [ofUnits, if_neg hpair, if_neg h]

/-- **The units of characters are the characters again.** -/
theorem ofUnits_units (cs : List Char) : ofUnits (cs.flatMap units) = cs := by
  induction cs with
  | nil => rfl
  | cons c cs ih =>
    have hvalid : c.toNat < 0xD800 ∨ 0xDFFF < c.toNat ∧ c.toNat < 0x110000 := c.valid
    rw [List.flatMap_cons, units]
    split
    · rw [List.singleton_append, ofUnits_cons (by omega), Char.ofNat_toNat, ih]
    · have hpair : 0x10000 + (0xD800 + (c.toNat - 0x10000) / 0x400 - 0xD800) * 0x400
          + (0xDC00 + (c.toNat - 0x10000) % 0x400 - 0xDC00) = c.toNat := by omega
      rw [List.cons_append, List.singleton_append, ofUnits, if_pos (by omega), hpair,
        Char.ofNat_toNat, ih]

theorem units?_join (cs : List Char) : units? ((cs.flatMap fun c => (escapeChar c).toList)
    ++ '"' :: rest) = some (cs.flatMap units, rest) := by
  induction cs with
  | nil => rw [List.flatMap_nil, List.nil_append, units?]; rfl
  | cons c cs ih =>
    rw [List.flatMap_cons, List.append_assoc, units?_escapeChar, ih]
    rfl

theorem toList_writeText (s : String) : (writeText s).toList
    = '"' :: ((s.toList.flatMap fun c => (escapeChar c).toList) ++ ['"']) := by
  rw [writeText, String.toList_append, String.toList_append, String.toList_join, List.flatMap_map]
  rfl

/-- **A text is read back**, up to its closing quotation mark. -/
theorem text?_writeText (s : String) (rest : List Char) :
    ∃ cs, (writeText s).toList = '"' :: cs ∧ text? (cs ++ rest) = some (s, rest) := by
  refine ⟨_, toList_writeText s, ?_⟩
  rw [List.append_assoc, List.singleton_append, text?, units?_join]
  dsimp only [Option.map_some]
  rw [ofUnits_units, String.ofList_toList]

/-! ## Plain characters -/

theorem isPlain_of_all {s : String} (h : s.toList.all fun c => decide (IsPlain c)) {c : Char}
    (hc : c ∈ s.toList) : IsPlain c :=
  of_decide_eq_true (List.all_eq_true.1 h c hc)

theorem isPlain_of_mem_unitEscape (hn : n < 0x10000) {c : Char}
    (h : c ∈ (unitEscape n).toList) : IsPlain c := by
  rw [unitEscape, String.toList_append, toList_hex hn] at h
  rcases List.mem_append.1 h with h | h
  · exact isPlain_of_all (by decide) h
  · simp only [List.mem_cons, List.not_mem_nil, or_false] at h
    rcases h with rfl | rfl | rfl | rfl <;> exact isPlain_digitChar (by omega)

/-- **A text is written in printable ASCII.** -/
theorem isPlain_of_mem_writeText {s : String} {c : Char} (h : c ∈ (writeText s).toList) :
    IsPlain c := by
  have hescape : ∀ d : Char, ∀ c ∈ (escapeChar d).toList, IsPlain c := by
    intro d c hc
    have hvalid : d.toNat < 0xD800 ∨ 0xDFFF < d.toNat ∧ d.toNat < 0x110000 := d.valid
    unfold escapeChar at hc
    dsimp only at hc
    repeat' split at hc
    -- The short escapes are written out.
    iterate 7 exact isPlain_of_all (by decide) hc
    · rename_i hplain
      rw [Char.toString_eq_singleton, String.toList_singleton, List.mem_singleton] at hc
      exact hc ▸ hplain
    · rename_i hlt
      exact isPlain_of_mem_unitEscape hlt hc
    · rcases List.mem_append.1 (String.toList_append ▸ hc) with hc | hc
      · exact isPlain_of_mem_unitEscape (by omega) hc
      · exact isPlain_of_mem_unitEscape (by omega) hc
  rw [toList_writeText, List.mem_cons, List.mem_append, List.mem_flatMap,
    List.mem_singleton] at h
  rcases h with rfl | ⟨d, -, h⟩ | rfl
  · decide
  · exact hescape d c h
  · decide

end Json

end PlotPipe
