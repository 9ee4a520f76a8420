import Mathlib.Algebra.Group.Nat.Defs
import Mathlib.Data.List.Basic
import PlotPipe.Datum.Convert
import PlotPipe.Number.Reading
import PlotPipe.Number.Spelling
/-!
# Numbers — digits

A natural number is written as its digits and read back from them. The
digits of a number do not begin with a zero, unless it is zero, and what
is read stops at the first character that is no digit
(`takeDigits_append`, `takeDigits_eq`).
-/

namespace PlotPipe

theorem isDigit_of_mem_decimalDigits {n : Nat} {c : Char} (h : c ∈ decimalDigits n) : c.isDigit :=
  Nat.isDigit_of_mem_toDigits (by decide) (by decide) h

theorem isDigit_of_mem_paddedDigits {width n : Nat} {c : Char} (h : c ∈ paddedDigits width n) :
    c.isDigit := by
  rcases List.mem_append.1 h with h | h
  · rw [List.eq_of_mem_replicate h]
    rfl
  · exact isDigit_of_mem_decimalDigits h

theorem decimalDigits_ne_nil (n : Nat) : decimalDigits n ≠ [] := Nat.toDigits_ne_nil

/-- A number below a power of ten has no more digits than its exponent. -/
theorem length_decimalDigits_le {n limit : Nat} (hlimit : 0 < limit) (h : n < Nat.pow 10 limit) :
    (decimalDigits n).length ≤ limit :=
  (Nat.length_toDigits_le_iff (by decide) hlimit).2 h

/-- The digits of a number but zero do not begin with a zero. -/
theorem head?_decimalDigits {n : Nat} (h : n ≠ 0) : (decimalDigits n).head? ≠ some '0' := by
  induction n using Nat.strongRecOn with
  | _ n ih =>
    by_cases hn : n < 10
    · rw [decimalDigits, Nat.toDigits_of_lt_base hn]
      simpa using h
    · rw [decimalDigits, Nat.toDigits_of_base_le (by decide) (by omega), ← decimalDigits,
        List.head?_append_of_ne_nil _ (decimalDigits_ne_nil _)]
      exact ih (n / 10) (by omega) (by omega)

theorem ofDigitChars_paddedDigits (width n : Nat) :
    Nat.ofDigitChars 10 (paddedDigits width n) 0 = n := by
  rw [paddedDigits, Nat.ofDigitChars_append, Nat.ofDigitChars_replicate_zero, Nat.mul_zero]
  exact Nat.ofDigitChars_ten_toDigits

theorem toList_toString (n : Nat) : (toString n).toList = decimalDigits n := by
  rw [Nat.toString_eq_ofList_toDigits, String.toList_ofList]
  rfl

theorem exists_replicate_dropTrailingZeros (ds : List Char) :
    ∃ k, ds = dropTrailingZeros ds ++ List.replicate k '0' := by
  refine ⟨(ds.reverse.takeWhile (· == '0')).length, ?_⟩
  have hzeros : ds.reverse.takeWhile (· == '0')
      = List.replicate (ds.reverse.takeWhile (· == '0')).length '0' :=
    List.eq_replicate_iff.2 ⟨rfl, fun c hc => by simpa using List.all_eq_true.1 List.all_takeWhile c hc⟩
  have hreverse := congrArg List.reverse
    (List.takeWhile_append_dropWhile (p := (· == '0')) (l := ds.reverse))
  rw [List.reverse_append, List.reverse_reverse, hzeros, List.reverse_replicate] at hreverse
  exact hreverse.symm

/-- **Digits are read up to the first character that is none.** -/
theorem Decimal.takeDigits_append {ds rest : List Char} (hds : ∀ c ∈ ds, c.isDigit)
    (hrest : ∀ c ∈ rest.head?, c.isDigit = false) (value count : Nat) :
    takeDigits (ds ++ rest) value count
      = (Nat.ofDigitChars 10 ds value, count + ds.length, rest) := by
  induction ds generalizing value count with
  | nil =>
    cases rest with
    | nil => rfl
    | cons c rest =>
      have hc : Text.asciiDigit? c = none := by simp [Text.asciiDigit?, hrest c rfl]
      simp [takeDigits, hc, Nat.ofDigitChars_nil]
  | cons c ds ih =>
    have hc : Text.asciiDigit? c = some (c.toNat - 48) := by
      simp [Text.asciiDigit?, hds c List.mem_cons_self]
    rw [List.cons_append, takeDigits, hc]
    dsimp only
    rw [ih (fun d hd => hds d (List.mem_cons_of_mem _ hd)), Nat.ofDigitChars_cons,
      List.length_cons]
    have hzero : '0'.toNat = 48 := rfl
    rw [hzero]
    congr 2
    omega

/-- Digits are read from the front of any text. -/
theorem Decimal.takeDigits_eq (cs : List Char) (value count : Nat) :
    takeDigits cs value count = (Nat.ofDigitChars 10 (cs.takeWhile Char.isDigit) value,
      count + (cs.takeWhile Char.isDigit).length, cs.dropWhile Char.isDigit) := by
  have hsplit : takeDigits (cs.takeWhile Char.isDigit ++ cs.dropWhile Char.isDigit) value count
      = (Nat.ofDigitChars 10 (cs.takeWhile Char.isDigit) value,
        count + (cs.takeWhile Char.isDigit).length, cs.dropWhile Char.isDigit) := by
    refine takeDigits_append (fun c hc => List.all_eq_true.1 List.all_takeWhile c hc)
      (fun c hc => ?_) value count
    have hhead := List.head?_dropWhile_not Char.isDigit cs
    rw [Option.mem_def] at hc
    rw [hc] at hhead
    simpa using hhead
  rwa [List.takeWhile_append_dropWhile] at hsplit

/-- A number with so many digits is below that power of ten. -/
theorem ofDigitChars_lt {ds : List Char} (hds : ∀ c ∈ ds, c.isDigit) (value : Nat) :
    Nat.ofDigitChars 10 ds value < (value + 1) * 10 ^ ds.length := by
  induction ds generalizing value with
  | nil => simp [Nat.ofDigitChars_nil]
  | cons c ds ih =>
    have hc : c.isDigit := hds c List.mem_cons_self
    have hrange : 48 ≤ c.val ∧ c.val ≤ 57 := by simpa [Char.isDigit] using hc
    have hhigh : c.toNat ≤ 57 := UInt32.le_iff_toNat_le.1 hrange.2
    have hzero : '0'.toNat = 48 := rfl
    rw [Nat.ofDigitChars_cons, List.length_cons, Nat.pow_succ]
    calc Nat.ofDigitChars 10 ds (10 * value + (c.toNat - '0'.toNat))
        < (10 * value + (c.toNat - '0'.toNat) + 1) * 10 ^ ds.length :=
          ih (fun d hd => hds d (List.mem_cons_of_mem _ hd)) _
      _ ≤ ((value + 1) * 10) * 10 ^ ds.length := Nat.mul_le_mul_right _ (by omega)
      _ = (value + 1) * (10 ^ ds.length * 10) := by rw [Nat.mul_assoc, Nat.mul_comm 10]

/-- A number with few enough digits can be written. -/
theorem Datum.lt_unwritable {value count : Nat} (h : value < 10 ^ count)
    (hcount : count ≤ digitLimit) : value < unwritable := by
  -- The bound is far too large to be computed, so it must not be known.
  unfold unwritable
  generalize digitLimit = limit at hcount ⊢
  exact Nat.lt_of_lt_of_le h (Nat.pow_le_pow_right (by decide) hcount)

end PlotPipe
