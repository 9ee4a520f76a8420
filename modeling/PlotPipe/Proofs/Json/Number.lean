import PlotPipe.Json.Read
import PlotPipe.Json.Write
import PlotPipe.Proofs.Number.Numeral
/-!
# JSON — numbers and words are read back

What is neither a text nor a list nor an object is read up to the
character that follows it, which inside of a JSON text is a comma or a
closing bracket (`Follows`). Integers of any sign are read back
(`scalar_int`), and so are the doubles (`scalar_real`), the zero with a
sign, the infinities and not-a-number among them: the numeral that a
double is written as is read as the nearest double, which is the one that
was written.
-/

namespace PlotPipe

namespace Json

/-- What may follow a value: nothing, a comma or a closing bracket. -/
def Follows (rest : List Char) : Prop := ∀ c ∈ rest.head?, c = ',' ∨ c = ']' ∨ c = '\x7d'

variable {rest : List Char} {c : Char}

theorem Follows.isDigit (h : Follows rest) : ∀ c ∈ rest.head?, c.isDigit = false := by
  intro c hc
  rcases h c hc with rfl | rfl | rfl <;> rfl

theorem Follows.exponent? (h : Follows rest) : exponent? rest = none := by
  cases rest with
  | nil => rfl
  | cons c rest =>
    have hc : ¬ (c = 'e' ∨ c = 'E') := by
      rcases h c rfl with rfl | rfl | rfl <;> decide
    rw [Json.exponent?, if_neg hc]

/-- There are no places where there is no point. -/
theorem places_of_head? (h : rest.head? ≠ some '.') (value : Nat) :
    places value rest = (value, 0, rest) := by
  unfold places
  split
  · exact absurd rfl h
  · rfl

theorem whole?_append {ds : List Char} (hds : ∀ c ∈ ds, c.isDigit) (hne : ds ≠ [])
    (hlead : ds = ['0'] ∨ ds.head? ≠ some '0') (hrest : ∀ c ∈ rest.head?, c.isDigit = false) :
    whole? (ds ++ rest) = some (Nat.ofDigitChars 10 ds 0, ds.length, rest) := by
  rcases hlead with rfl | hhead
  · rfl
  · obtain ⟨c, ds, rfl⟩ := List.exists_cons_of_ne_nil hne
    have hzero : c ≠ '0' := by simpa using hhead
    have hc : c.isDigit := hds c List.mem_cons_self
    unfold whole?
    split
    · rename_i heq
      exact absurd (List.cons.inj heq).1 hzero
    · rename_i heq
      rw [← (List.cons.inj heq).1, if_pos hc, Decimal.takeDigits_append hds hrest, Nat.zero_add]
    · rename_i heq
      cases heq

/-! ## The parts of a numeral -/

theorem head?_exponentText (h : Follows rest) (e : Option ℤ) :
    ∀ c ∈ (Numeral.exponentText e ++ rest).head?, c.isDigit = false ∧ c ≠ '.' := by
  cases e with
  | none =>
    intro c hc
    refine ⟨h.isDigit c hc, ?_⟩
    rcases h c hc with rfl | rfl | rfl <;> decide
  | some e =>
    intro c hc
    cases hc
    decide

theorem places_placesText {ps : List Char} (hps : ∀ c ∈ ps, c.isDigit)
    (hrest : ∀ c ∈ rest.head?, c.isDigit = false ∧ c ≠ '.') (value : Nat) :
    places value (Numeral.placesText ps ++ rest)
      = (Nat.ofDigitChars 10 ps value, ps.length, rest) := by
  unfold Numeral.placesText
  split
  · rename_i hnil
    rw [hnil, List.nil_append, places_of_head? (fun h => (hrest '.' h).2 rfl)]
    rfl
  · rename_i hne
    have htake := Decimal.takeDigits_append hps (fun c hc => (hrest c hc).1) value 0
    rw [Nat.zero_add] at htake
    rw [List.cons_append, places, htake]
    split
    · rename_i hzero
      have hlen : ps.length = 0 := congrArg (fun found => found.2.1) hzero
      exact absurd (List.length_eq_zero_iff.1 hlen) hne
    · rfl

theorem exponent?_exponentText (h : Follows rest) (e : ℤ) :
    exponent? (Numeral.exponentText (some e) ++ rest) = some (e, rest) := by
  have hdigits : ∀ c ∈ paddedDigits 2 e.natAbs, c.isDigit := fun c hc =>
    isDigit_of_mem_paddedDigits hc
  have htake := Decimal.takeDigits_append hdigits h.isDigit 0 0
  rw [ofDigitChars_paddedDigits, Nat.zero_add] at htake
  have hlen : (paddedDigits 2 e.natAbs).length ≠ 0 := by
    simp [paddedDigits, decimalDigits_ne_nil]
  have hread : ∀ negative : Bool, Decimal.takeSign
      ((if negative then '-' else '+') :: (paddedDigits 2 e.natAbs ++ rest))
        = (negative, paddedDigits 2 e.natAbs ++ rest) := by
    intro negative
    cases negative <;> rfl
  have hsign : (if e < 0 then '-' else '+') = if decide (e < 0) then '-' else '+' := by simp
  rw [Numeral.exponentText, List.cons_append, List.cons_append, exponent?, if_pos (.inl rfl),
    hsign, hread]
  dsimp only
  rw [htake]
  split
  · rename_i hzero
    exact absurd (congrArg (fun found => found.2.1) hzero) hlen
  · rename_i heq
    cases heq
    by_cases he : e < 0
    · simp only [he, decide_true, if_true, Option.some.injEq, Prod.mk.injEq, and_true]
      omega
    · simp only [he, decide_false, Bool.false_eq_true, if_false, Option.some.injEq, Prod.mk.injEq,
        and_true]
      omega

/-- **A numeral is read as the nearest double.** -/
theorem number_numeral (h : Follows rest) (n : Numeral) (negative : Bool) :
    number negative (n.text ++ rest)
      = .ok (.real (Decimal.nearest negative n.scaled.digits n.scaled.exponent), rest) := by
  have hexp := head?_exponentText h n.exponent
  have hplaces : ∀ c ∈ (Numeral.placesText n.places ++ (Numeral.exponentText n.exponent ++ rest)).head?,
      c.isDigit = false := by
    unfold Numeral.placesText
    split
    · exact fun c hc => (hexp c hc).1
    · intro c hc
      cases hc
      rfl
  have hwhole := whole?_append n.isDigit_of_mem_whole n.whole_ne n.leading hplaces
  rw [Numeral.text, List.append_assoc, List.append_assoc, number, hwhole]
  dsimp only
  rw [places_placesText n.isDigit_of_mem_places hexp]
  dsimp only
  rw [Numeral.scaled, Nat.ofDigitChars_append]
  cases he : n.exponent with
  | some e =>
    rw [exponent?_exponentText h]
    rfl
  | none =>
    have hdecimals : 0 < n.places.length := by
      refine List.length_pos_iff.2 fun hnil => ?_
      have := n.isSome_of_places hnil
      rw [he] at this
      cases this
    rw [Numeral.exponentText, List.nil_append, h.exponent?]
    dsimp only
    rw [if_pos hdecimals, Option.getD_none, Int.zero_sub]

theorem length_decimalDigits_le_digitLimit {n : Nat} (h : n < Datum.unwritable) :
    (decimalDigits n).length ≤ Datum.digitLimit := by
  -- The bound is far too large to be computed, so it must not be known.
  have hlimit : 0 < Datum.digitLimit := by decide
  revert h hlimit
  unfold Datum.unwritable
  generalize Datum.digitLimit = limit
  exact fun h hlimit => length_decimalDigits_le hlimit h

/-- **A natural number with few enough digits is read back.** -/
theorem number_decimalDigits (h : Follows rest) {n : Nat} (hn : n < Datum.unwritable)
    (negative : Bool) : number negative (decimalDigits n ++ rest)
      = .ok (.int (if negative then -(n : Int) else n), rest) := by
  have hlead : decimalDigits n = ['0'] ∨ (decimalDigits n).head? ≠ some '0' := by
    by_cases hzero : n = 0
    · exact .inl (hzero ▸ Nat.toDigits_zero 10)
    · exact .inr (head?_decimalDigits hzero)
  have hcount := length_decimalDigits_le_digitLimit hn
  have hpoint : rest.head? ≠ some '.' := by
    intro hhead
    rcases h '.' hhead with heq | heq | heq <;> exact absurd heq (by decide)
  have hvalue : Nat.ofDigitChars 10 (decimalDigits n) 0 = n := Nat.ofDigitChars_ten_toDigits
  rw [number, whole?_append (fun c hc => isDigit_of_mem_decimalDigits hc) (decimalDigits_ne_nil n) hlead
    h.isDigit]
  dsimp only
  rw [places_of_head? hpoint]
  dsimp only
  rw [h.exponent?]
  dsimp only
  rw [if_neg (Nat.lt_irrefl 0), if_neg (by omega), hvalue]

/-! ## Scalars -/

theorem scalar_of_isDigit {cs : List Char} (h : ∀ c ∈ cs.head?, c.isDigit) (hne : cs ≠ []) :
    scalar cs = number false cs := by
  obtain ⟨c, cs, rfl⟩ := List.exists_cons_of_ne_nil hne
  have hc : ∀ d : Char, d.isDigit = false → d ≠ c := by
    rintro d hd rfl
    rw [h d rfl] at hd
    cases hd
  have hword : words.find? (fun word => word.1.toList.isPrefixOf (c :: cs)) = none := by
    simp [words, hc]
  have hminus : ∀ tail, c :: cs ≠ '-' :: tail := fun tail heq =>
    hc '-' rfl (List.cons.inj heq).1.symm
  rw [scalar, hword]
  exact hminus

theorem scalar_minus {cs : List Char} (h : ∀ c ∈ cs.head?, c.isDigit) (hne : cs ≠ []) :
    scalar ('-' :: cs) = number true cs := by
  obtain ⟨c, cs, rfl⟩ := List.exists_cons_of_ne_nil hne
  have hc : 'I' ≠ c := by
    rintro rfl
    exact absurd (h 'I' rfl) (by decide)
  have hword : words.find? (fun word => word.1.toList.isPrefixOf ('-' :: c :: cs)) = none := by
    simp [words, hc]
  rw [scalar, hword]

/-- **An integer with few enough digits is read back.** -/
theorem scalar_int (h : Follows rest) {i : ℤ} (hi : i.natAbs < Datum.unwritable) :
    scalar ((toString i).toList ++ rest) = .ok (.int i, rest) := by
  have hhead : ∀ n : Nat, ∀ c ∈ (decimalDigits n ++ rest).head?, c.isDigit := by
    intro n c hc
    rw [List.head?_append_of_ne_nil _ (decimalDigits_ne_nil n)] at hc
    exact isDigit_of_mem_decimalDigits (List.mem_of_mem_head? hc)
  have hne : ∀ n : Nat, decimalDigits n ++ rest ≠ [] := fun n =>
    List.append_ne_nil_of_left_ne_nil (decimalDigits_ne_nil n) rest
  cases i with
  | ofNat n =>
    have htext : (toString (Int.ofNat n)).toList = decimalDigits n := toList_toString n
    rw [htext, scalar_of_isDigit (hhead n) (hne n), number_decimalDigits (n := n) h hi]
    rfl
  | negSucc n =>
    have htext : (toString (Int.negSucc n)).toList = '-' :: decimalDigits (n + 1) := by
      change ("-" ++ toString (n + 1)).toList = _
      rw [String.toList_append, toList_toString]
      rfl
    rw [htext, List.cons_append, scalar_minus (hhead _) (hne _),
      number_decimalDigits (n := n + 1) h hi]
    rfl

/-- **A double is read back**, whatever it is. -/
theorem scalar_real (h : Follows rest) (x : Binary64) :
    scalar ((x.text .journal).toList ++ rest) = .ok (.real x, rest) := by
  cases x with
  | nan => rfl
  | signed negative m =>
    rw [Binary64.text]
    by_cases hfinite : m.isFinite
    · obtain ⟨n, htext, hread⟩ := m.exists_numeral hfinite
      have hhead : ∀ c ∈ (n.text ++ rest).head?, c.isDigit := by
        intro c hc
        rw [Numeral.text, List.append_assoc, List.append_assoc,
          List.head?_append_of_ne_nil _ n.whole_ne] at hc
        exact n.isDigit_of_mem_whole c (List.mem_of_mem_head? hc)
      have hne : n.text ++ rest ≠ [] := by simp [Numeral.text, n.whole_ne]
      rw [if_pos hfinite, String.toList_append, String.toList_ofList, ← htext]
      cases negative with
      | false =>
        rw [List.append_assoc]
        change scalar (n.text ++ rest) = _
        rw [scalar_of_isDigit hhead hne, number_numeral h, hread]
      | true =>
        rw [List.append_assoc]
        change scalar ('-' :: (n.text ++ rest)) = _
        rw [scalar_minus hhead hne, number_numeral h, hread]
    · have hinf : m = .infinity := by
        obtain ⟨rank, hle⟩ := m
        have hrank : ¬ rank < BinaryFormat.binary64.infinityRank := by
          simpa [Magnitude.isFinite] using hfinite
        rw [Magnitude.infinity, Magnitude.mk.injEq]
        omega
      rw [if_neg hfinite, hinf]
      cases negative <;> rfl

end Json

end PlotPipe
