import PlotPipe.Proofs.Text.Blank
/-!
# Text — lines of bytes, and lines that are appended

The lines of a text can be found in its bytes already, since no byte of
another character is a line end (`byteLines_utf8`). So bytes that are no
text as a whole have lines as well, each of which may be a text.

A text that is put behind another one and does not begin with a line feed
goes on with the last line of the other one (`lines_append_line`).
-/

namespace PlotPipe

namespace Text

variable {cs ds : List Char} {c separator : Char} {b : UInt8} {bs rest : List UInt8}

/-! ## Lines of bytes -/

/-- The lines of bytes, without their ends, which are those of a text. -/
def byteLines : List UInt8 → List (List UInt8)
  | [] => [[]]
  | 13 :: 10 :: rest => [] :: byteLines rest
  | b :: rest =>
    if b = 10 ∨ b = 13 then [] :: byteLines rest else (byteLines rest).modifyHead (b :: ·)

/-- The bytes of characters. -/
def utf8 (cs : List Char) : List UInt8 := cs.flatMap String.utf8EncodeChar

theorem utf8_cons (c : Char) (cs : List Char) :
    utf8 (c :: cs) = String.utf8EncodeChar c ++ utf8 cs := List.flatMap_cons

theorem toList_data_toUTF8 (s : String) : s.toUTF8.data.toList = utf8 s.toList := by
  have h : s.toUTF8 = (utf8 s.toList).toByteArray := by
    conv_lhs => rw [← String.ofList_toList (s := s)]
    exact String.toByteArray_ofList
  rw [h, List.data_toByteArray]

theorem toByteArray_utf8 (cs : List Char) : (utf8 cs).toByteArray = (String.ofList cs).toUTF8 :=
  String.toByteArray_ofList.symm

/-- An ASCII byte is a character by itself. -/
theorem toNat_eq_of_mem_utf8EncodeChar (hb : b ∈ String.utf8EncodeChar c) (hascii : b.toNat < 128) :
    c.toNat = b.toNat := by
  -- The bytes of all other characters begin with a one.
  have hne : ∀ n, 128 ≤ n → n < 256 → b ≠ UInt8.ofNat n := by
    rintro n hhigh hn rfl
    rw [UInt8.toNat_ofNat_of_lt' hn] at hascii
    omega
  rw [String.utf8EncodeChar] at hb
  split at hb
  · rename_i hlow
    obtain rfl := List.mem_singleton.1 hb
    have hlow : c.toNat < 256 := Nat.lt_of_le_of_lt hlow (by decide)
    exact (UInt8.toNat_ofNat_of_lt' hlow).symm
  · exfalso
    split at hb
    · simp only [List.mem_cons, List.not_mem_nil, or_false] at hb
      rcases hb with hb | hb <;> exact hne _ (by omega) (by omega) hb
    · split at hb
      · simp only [List.mem_cons, List.not_mem_nil, or_false] at hb
        rcases hb with hb | hb | hb <;> exact hne _ (by omega) (by omega) hb
      · simp only [List.mem_cons, List.not_mem_nil, or_false] at hb
        rcases hb with hb | hb | hb | hb <;> exact hne _ (by omega) (by omega) hb

/-- Line ends have bytes of their own. -/
theorem ne_of_mem_utf8EncodeChar (hb : b ∈ String.utf8EncodeChar c) :
    (c ≠ '\n' → b ≠ 10) ∧ (c ≠ '\r' → b ≠ 13) := by
  constructor
  · rintro hc rfl
    exact hc (Char.toNat_inj.1 (toNat_eq_of_mem_utf8EncodeChar hb (by decide)))
  · rintro hc rfl
    exact hc (Char.toNat_inj.1 (toNat_eq_of_mem_utf8EncodeChar hb (by decide)))

theorem byteLines_cons_of_ne (hfeed : b ≠ 10) (hreturn : b ≠ 13) (rest : List UInt8) :
    byteLines (b :: rest) = (byteLines rest).modifyHead (b :: ·) := by
  rw [byteLines]
  · rw [if_neg (by simp [hfeed, hreturn])]
  · exact fun _ h => absurd h hreturn

/-- What holds no line end stays with the first line behind it. -/
theorem byteLines_append (h : ∀ b ∈ bs, b ≠ 10 ∧ b ≠ 13) (rest : List UInt8) :
    byteLines (bs ++ rest) = (byteLines rest).modifyHead (bs ++ ·) := by
  induction bs with
  | nil => exact (List.modifyHead_id).symm ▸ rfl
  | cons b bs ih =>
    obtain ⟨hb, hbs⟩ := List.forall_mem_cons.1 h
    rw [List.cons_append, byteLines_cons_of_ne hb.1 hb.2, ih hbs, List.modifyHead_modifyHead]
    rfl

/-- A carriage return by itself ends a line of bytes. -/
theorem byteLines_return (h : ∀ rest', rest ≠ 10 :: rest') :
    byteLines (13 :: rest) = [] :: byteLines rest := by
  rw [byteLines]
  · rfl
  · exact fun rest' _ => h rest'

/-- **The lines of a text are the lines of its bytes.** -/
theorem byteLines_utf8 (cs : List Char) :
    byteLines (utf8 cs) = (splitAt '\n' (unifyLineEnds cs)).map utf8 := by
  induction cs using unifyLineEnds.induct with
  | case1 => rfl
  | case2 rest ih =>
    have hlines : byteLines (utf8 ('\r' :: '\n' :: rest)) = [] :: byteLines (utf8 rest) := rfl
    rw [hlines, ih, unifyLineEnds, splitAt_cons_self]
    rfl
  | case3 rest hnext ih =>
    have hlines : byteLines (utf8 ('\r' :: rest)) = [] :: byteLines (utf8 rest) := by
      change byteLines (13 :: utf8 rest) = _
      refine byteLines_return fun rest' heq => ?_
      cases rest with
      | nil => cases heq
      | cons c rest =>
        have hc : c ≠ '\n' := fun hc => hnext rest (hc ▸ rfl)
        obtain ⟨b, bs, hbytes⟩ : ∃ b bs, String.utf8EncodeChar c = b :: bs :=
          List.exists_cons_of_ne_nil (String.utf8EncodeChar_ne_nil)
        rw [utf8_cons, hbytes] at heq
        exact (ne_of_mem_utf8EncodeChar (hbytes ▸ List.mem_cons_self)).1 hc (List.cons.inj heq).1
    rw [hlines, ih, unifyLineEnds, splitAt_cons_self]
    · rfl
    · exact hnext
  | case4 c rest hpair hreturn ih =>
    rw [unifyLineEnds]
    · by_cases hc : c = '\n'
      · subst hc
        have hlines : byteLines (utf8 ('\n' :: rest)) = [] :: byteLines (utf8 rest) := rfl
        rw [hlines, ih, splitAt_cons_self]
        rfl
      · rw [utf8_cons, byteLines_append, ih, splitAt_cons_of_ne hc]
        · cases splitAt '\n' (unifyLineEnds rest) <;> rfl
        · intro b hb
          exact ⟨(ne_of_mem_utf8EncodeChar hb).1 hc, (ne_of_mem_utf8EncodeChar hb).2 hreturn⟩
    · exact hpair
    · exact hreturn

/-! ## Lines that are appended -/

/-- Line ends are told apart where a text ends, unless a line feed stands
behind it. -/
theorem unifyLineEnds_append (h : ∀ ds', ds ≠ '\n' :: ds') :
    unifyLineEnds (cs ++ ds) = unifyLineEnds cs ++ unifyLineEnds ds := by
  induction cs using unifyLineEnds.induct with
  | case1 => rfl
  | case2 rest ih => rw [List.cons_append, List.cons_append, unifyLineEnds, ih]; rfl
  | case3 rest hnext ih =>
    rw [List.cons_append, unifyLineEnds, ih, unifyLineEnds]
    · rfl
    · exact hnext
    · intro ds' heq
      cases rest with
      | nil => exact h ds' heq
      | cons c rest => exact hnext rest (congrArg (· :: rest) (List.cons.inj heq).1)
  | case4 c rest hpair hreturn ih =>
    rw [List.cons_append, unifyLineEnds, ih, unifyLineEnds]
    · rfl
    · exact hpair
    · exact hreturn
    · exact fun _ hc _ => hreturn hc
    · exact hreturn

/-- **A line goes on with the last line** of the text before it. -/
theorem lines_append_line {text s : String} {whole : List (List Char)} {last : List Char}
    (htext : lines text = whole ++ [last]) (hne : s.toList ≠ []) (hfeed : '\n' ∉ s.toList)
    (hreturn : '\r' ∉ s.toList) :
    lines (text ++ (s ++ "\n")) = whole ++ [last ++ s.toList, []] := by
  have hline : (s ++ "\n").toList = s.toList ++ ['\n'] := String.toList_append
  have hunify : unifyLineEnds (s.toList ++ ['\n']) = s.toList ++ ['\n'] := by
    refine unifyLineEnds_of_not_mem fun hmem => ?_
    rcases List.mem_append.1 hmem with hmem | hmem
    · exact hreturn hmem
    · exact absurd hmem (by decide)
  rw [lines, String.toList_append, hline, unifyLineEnds_append, hunify]
  · exact splitAt_append_eq htext (splitAt_append_cons hfeed [])
  · intro ds' heq
    obtain ⟨c, cs, hcs⟩ := List.exists_cons_of_ne_nil hne
    rw [hcs] at hfeed heq
    exact hfeed (List.mem_cons.2 (.inl (List.cons.inj heq).1.symm))

end Text

end PlotPipe
