import PlotPipe.Json.Read
import PlotPipe.Proofs.Number.Digits
/-!
# JSON — how scalars are read

Numbers and words are read from characters that have no meaning of their
own elsewhere in a JSON text (`IsBare`). What is read is null, a truth
value, a double, or an integer with no more digits than are written again
(`of_scalar`).
-/

namespace PlotPipe

namespace Json

/-- A character of a number or of a word. -/
def IsBare (c : Char) : Prop := c.isAlphanum ∨ c ∈ ['.', '+', '-']

instance : DecidablePred IsBare := fun c =>
  inferInstanceAs (Decidable (c.isAlphanum ∨ c ∈ ['.', '+', '-']))

/-- Something was read that is written in characters of numbers and
words. -/
def Bare (cs rest : List Char) : Prop := ∃ word, cs = word ++ rest ∧ ∀ c ∈ word, IsBare c

variable {cs rest rest' : List Char} {c : Char} {j : Json}

theorem isBare_of_isDigit (h : c.isDigit) : IsBare c :=
  .inl (by rw [Char.isAlphanum, h, Bool.or_true])

theorem Bare.refl (cs : List Char) : Bare cs cs := ⟨[], rfl, nofun⟩

theorem Bare.cons (hc : IsBare c) (h : Bare cs rest) : Bare (c :: cs) rest := by
  obtain ⟨word, rfl, hword⟩ := h
  exact ⟨c :: word, rfl, List.forall_mem_cons.2 ⟨hc, hword⟩⟩

theorem Bare.trans (h : Bare cs rest) (h' : Bare rest rest') : Bare cs rest' := by
  obtain ⟨word, rfl, hword⟩ := h
  obtain ⟨word', rfl, hword'⟩ := h'
  exact ⟨word ++ word', (List.append_assoc _ _ _).symm, List.forall_mem_append.2 ⟨hword, hword'⟩⟩

theorem bare_dropWhile (cs : List Char) : Bare cs (cs.dropWhile Char.isDigit) :=
  ⟨cs.takeWhile Char.isDigit, List.takeWhile_append_dropWhile.symm, fun _ hc =>
    isBare_of_isDigit (List.all_eq_true.1 List.all_takeWhile _ hc)⟩

theorem bare_takeSign (cs : List Char) : Bare cs (Decimal.takeSign cs).2 := by
  unfold Decimal.takeSign
  split
  · exact (Bare.refl _).cons (by decide)
  · exact (Bare.refl _).cons (by decide)
  · exact .refl _

/-- The digits of a whole number bound it. -/
theorem bare_of_whole? {value count : Nat} (h : whole? cs = some (value, count, rest)) :
    Bare cs rest ∧ value < 10 ^ count := by
  unfold whole? at h
  split at h
  · cases h
    exact ⟨(Bare.refl _).cons (by decide), by decide⟩
  · split at h
    · rw [Decimal.takeDigits_eq] at h
      cases h
      refine ⟨bare_dropWhile _, ?_⟩
      rw [Nat.zero_add]
      refine lt_of_lt_of_eq (ofDigitChars_lt (fun d hd => ?_) 0) (by rw [Nat.zero_add, Nat.one_mul])
      exact List.all_eq_true.1 List.all_takeWhile d hd
    · cases h
  · cases h

theorem bare_places (value : Nat) (cs : List Char) : Bare cs (places value cs).2.2 := by
  unfold places
  split
  · split
    · exact .refl _
    · rw [Decimal.takeDigits_eq]
      exact (bare_dropWhile _).cons (by decide)
  · exact .refl _

theorem bare_of_exponent? {e : Int} (h : exponent? cs = some (e, rest)) : Bare cs rest := by
  unfold exponent? at h
  split at h
  · cases h
  · split at h
    · rename_i c cs hc
      have hsign := bare_takeSign cs
      dsimp only at h
      rw [Decimal.takeDigits_eq] at h
      split at h
      · cases h
      · rename_i heq
        cases heq
        cases h
        refine Bare.cons ?_ (hsign.trans (bare_dropWhile _))
        rcases hc with rfl | rfl <;> decide
    · cases h

/-- A number that is read is a double, or an integer with few enough
digits. -/
theorem of_number {negative : Bool} (h : number negative cs = .ok (j, rest)) :
    Bare cs rest ∧ ((∃ x, j = .real x) ∨ ∃ i : Int, i.natAbs < Datum.unwritable ∧ j = .int i) := by
  unfold number at h
  split at h
  · cases h
  · rename_i value count after hwhole
    obtain ⟨hbare, hvalue⟩ := bare_of_whole? hwhole
    have hplaces := hbare.trans (bare_places value after)
    revert hplaces h
    dsimp only
    rcases places value after with ⟨digits, decimals, after⟩
    intro h hplaces
    dsimp only at h hplaces
    split at h
    · rename_i hexponent
      cases h
      exact ⟨hplaces.trans (bare_of_exponent? hexponent), .inl ⟨_, rfl⟩⟩
    · split at h
      · cases h
        exact ⟨hplaces, .inl ⟨_, rfl⟩⟩
      · split at h
        · cases h
        · rename_i hcount
          cases h
          refine ⟨hplaces, .inr ⟨_, ?_, rfl⟩⟩
          have hbound := Datum.lt_unwritable hvalue (Nat.le_of_not_lt hcount)
          cases negative <;> simpa using hbound

/-- **A scalar is written in characters of numbers and words**, and is no
text, array or object. -/
theorem of_scalar (h : scalar cs = .ok (j, rest)) :
    Bare cs rest ∧ (j = .null ∨ (∃ b, j = .truth b) ∨ (∃ x, j = .real x) ∨
      ∃ i : Int, i.natAbs < Datum.unwritable ∧ j = .int i) := by
  unfold scalar at h
  split at h
  · rename_i word _ hword
    cases h
    have hfront : word.toList.isPrefixOf cs := by simpa using List.find?_some hword
    obtain ⟨rest, rfl⟩ := List.isPrefixOf_iff_prefix.1 hfront
    have hmem := List.mem_of_find?_eq_some hword
    have hdrop : (word.toList ++ rest).drop word.length = rest := by
      rw [← String.length_toList, List.drop_left]
    rw [hdrop]
    simp only [words, List.mem_cons, List.not_mem_nil, or_false, Prod.mk.injEq] at hmem
    have hbare : ∀ s : String, (s.toList.all fun c => decide (IsBare c)) = true →
        Bare (s.toList ++ rest) rest := fun s hs =>
      ⟨s.toList, rfl, fun c hc => of_decide_eq_true (List.all_eq_true.1 hs c hc)⟩
    rcases hmem with ⟨rfl, rfl⟩ | ⟨rfl, rfl⟩ | ⟨rfl, rfl⟩ | ⟨rfl, rfl⟩ | ⟨rfl, rfl⟩ | ⟨rfl, rfl⟩
    · exact ⟨hbare _ (by decide), .inl rfl⟩
    · exact ⟨hbare _ (by decide), .inr (.inl ⟨_, rfl⟩)⟩
    · exact ⟨hbare _ (by decide), .inr (.inl ⟨_, rfl⟩)⟩
    · exact ⟨hbare _ (by decide), .inr (.inr (.inl ⟨_, rfl⟩))⟩
    · exact ⟨hbare _ (by decide), .inr (.inr (.inl ⟨_, rfl⟩))⟩
    · exact ⟨hbare _ (by decide), .inr (.inr (.inl ⟨_, rfl⟩))⟩
  · split at h
    · obtain ⟨hbare, hj⟩ := of_number h
      exact ⟨hbare.cons (by decide), .inr (.inr hj)⟩
    · obtain ⟨hbare, hj⟩ := of_number h
      exact ⟨hbare, .inr (.inr hj)⟩

end Json

end PlotPipe
