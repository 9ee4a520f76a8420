import Mathlib.Data.Bool.AllAny
import Mathlib.Data.List.Forall2
import Mathlib.Data.List.TakeWhile
import PlotPipe.Proofs.Text.Blank
import PlotPipe.Style.Coerce
/-!
# Text — names in any case

A text spells a name when it is the name in any case, with any blanks
around it (`Spells`). Lower case is defined for all letters, some of
which are far from ASCII and become more than one character, but nothing
besides a small letter of ASCII and its capital becomes that small
letter, apart from `i` and `k`. So a name without these is found by its
form for look-up exactly when it is spelled (`lookupForm_eq_iff`). A form
for look-up has such a form itself, and that does not change what is
spelled (`lookupForm_lookupForm_eq_iff`).
-/

namespace PlotPipe

namespace Text

variable {c d n : Char} {cs ds name word before after : List Char} {p : Char → Bool}

/-! ## What is left between blanks -/

theorem exists_append_trimBy (p : Char → Bool) (cs : List Char) :
    ∃ before after, cs = before ++ trimBy p cs ++ after ∧ (∀ c ∈ before, p c = true) ∧
      ∀ c ∈ after, p c = true := by
  have hall : ∀ ds : List Char, ∀ c ∈ ds.takeWhile p, p c = true := fun ds c hc =>
    List.all_eq_true.1 List.all_takeWhile c hc
  refine ⟨cs.takeWhile p, ((cs.dropWhile p).reverse.takeWhile p).reverse, ?_, hall cs,
    fun c hc => hall _ c (List.mem_reverse.1 hc)⟩
  rw [trimBy, List.append_assoc, ← List.reverse_append, List.takeWhile_append_dropWhile,
    List.reverse_reverse, List.takeWhile_append_dropWhile]

theorem trimBy_append_right (h : ∀ c ∈ after, p c = true) (cs : List Char) :
    trimBy p (cs ++ after) = trimBy p cs := by
  rw [trimBy, List.dropWhile_append, trimBy]
  split
  · rename_i hempty
    rw [List.dropWhile_eq_nil_iff.2 h, List.isEmpty_iff.1 hempty]
  · rw [List.reverse_append, List.dropWhile_append_of_pos fun c hc => h c (List.mem_reverse.1 hc)]

/-- What stands between characters of the class is left, if it holds none
of them. -/
theorem trimBy_append_append (hbefore : ∀ c ∈ before, p c = true) (hword : ∀ c ∈ word, p c = false)
    (hafter : ∀ c ∈ after, p c = true) : trimBy p (before ++ word ++ after) = word := by
  rw [trimBy_append_right hafter, trimBy_append_of_forall hbefore, trimBy_of_forall hword]

/-- What is left neither begins nor ends with a character of the class. -/
theorem trimBy_ends (p : Char → Bool) (cs : List Char) :
    (∀ c ∈ (trimBy p cs).head?, p c = false) ∧ ∀ c ∈ (trimBy p cs).getLast?, p c = false := by
  have hhead : ∀ ds : List Char, ∀ c ∈ (ds.dropWhile p).head?, p c = false := by
    intro ds c hc
    have h := List.head?_dropWhile_not p ds
    rw [Option.mem_def.1 hc] at h
    exact h
  rw [trimBy, List.head?_reverse, List.getLast?_reverse]
  refine ⟨fun c hc => ?_, hhead _⟩
  -- What is dropped at the end leaves the beginning as it is.
  refine hhead cs c ?_
  rw [← List.reverse_reverse (cs.dropWhile p), List.head?_reverse,
    ← List.takeWhile_append_dropWhile (p := p) (l := (cs.dropWhile p).reverse),
    List.getLast?_append]
  rw [Option.mem_def] at hc ⊢
  rw [hc]
  rfl

/-- A text without such ends stays as it is. -/
theorem trimBy_eq_self (hhead : ∀ c ∈ cs.head?, p c = false)
    (hlast : ∀ c ∈ cs.getLast?, p c = false) : trimBy p cs = cs := by
  have hdrop : ∀ {ds : List Char}, (∀ c ∈ ds.head?, p c = false) → ds.dropWhile p = ds := by
    intro ds hds
    cases ds with
    | nil => rfl
    | cons c ds => exact List.dropWhile_cons_of_neg (by simp [hds c rfl])
  rw [trimBy, hdrop hhead, hdrop (by rwa [List.head?_reverse]), List.reverse_reverse]

/-! ## Lower case -/

/-- The small letters and digits of ASCII, without `i` and `k`, which are
the lower case of other letters than their capitals too. -/
def plainLetters : List Char := "abcdefghjlmnopqrstuvwxyz0123456789".toList

/-- A character is a letter or a digit in either case. -/
def Same (n c : Char) : Prop := c = n ∨ c = n.toUpper

instance (n c : Char) : Decidable (Same n c) := inferInstanceAs (Decidable (c = n ∨ c = n.toUpper))

/-- The letters of the table that are no ASCII become neither blanks nor,
but for the kelvin sign, ASCII. -/
theorem lowercaseRuns_spec : ∀ r ∈ lowercaseRuns, r.2.1 < 0x80 ∨ ∀ k < r.2.1 - r.1 + 1,
    isBlank (Char.ofNat ((r.1 + k : ℕ) + r.2.2.2).toNat) = false ∧
      (0x80 ≤ (Char.ofNat ((r.1 + k : ℕ) + r.2.2.2).toNat).toNat ∨
        Char.ofNat ((r.1 + k : ℕ) + r.2.2.2).toNat = 'k') := by
  decide +kernel

/-- A letter that is no ASCII becomes no ASCII but `i` and `k`, and no blank. -/
theorem of_mem_lowercaseChar (hc : 0x80 ≤ c.toNat) (hd : d ∈ lowercaseChar c) :
    (d = c ∨ isBlank d = false) ∧ (0x80 ≤ d.toNat ∨ d = 'i' ∨ d = 'k') := by
  rw [lowercaseChar, if_neg (by omega)] at hd
  split at hd
  · simp only [List.mem_cons, List.not_mem_nil, or_false] at hd
    rcases hd with rfl | rfl
    · exact ⟨.inr (by decide), .inr (.inl rfl)⟩
    · exact ⟨.inr (by decide), .inl (by decide)⟩
  · split at hd
    · rename_i r hr
      obtain rfl := List.mem_singleton.1 hd
      have hfound := List.find?_some hr
      simp only [Bool.and_eq_true, decide_eq_true_eq] at hfound
      rcases lowercaseRuns_spec r (List.mem_of_find?_eq_some hr) with hlow | hspec
      · omega
      · have hstep : (c.toNat : ℤ) = (r.1 + (c.toNat - r.1) : ℕ) := by omega
        obtain ⟨hblank, hascii⟩ := hspec (c.toNat - r.1) (by omega)
        rw [hstep]
        exact ⟨.inr hblank, hascii.imp_right .inr⟩
    · obtain rfl := List.mem_singleton.1 hd
      exact ⟨.inl rfl, .inl hc⟩

theorem lowercaseChar_ne_nil (c : Char) : lowercaseChar c ≠ [] := by
  unfold lowercaseChar
  repeat' split
  all_goals exact List.cons_ne_nil _ _

theorem of_ascii {P : Char → Prop} (h : ∀ k < 0x80, P (Char.ofNat k)) (hc : c.toNat < 0x80) : P c :=
  Char.ofNat_toNat c ▸ h c.toNat hc

/-- A character becomes some characters, which are no blanks unless it is
one. ASCII stays ASCII, and other characters become none but `i` and
`k`. -/
theorem exists_lowercaseFrom_cons (before : List Char) (c : Char) (rest : List Char) :
    ∃ d ds, lowercaseFrom before (c :: rest) = d :: ds ++ lowercaseFrom (c :: before) rest ∧
      (isBlank c = false → ∀ e ∈ d :: ds, isBlank e = false) ∧
      (c.toNat < 0x80 ∧ d = c.toLower ∧ ds = [] ∨
        0x80 ≤ c.toNat ∧ (0x80 ≤ d.toNat ∨ d = 'i' ∨ d = 'k')) := by
  rw [lowercaseFrom]
  by_cases hsigma : c.toNat = 0x3A3
  · rw [if_pos hsigma]
    refine ⟨_, [], rfl, fun _ => List.forall_mem_singleton.2 ?_, .inr ⟨by omega, .inl ?_⟩⟩
    all_goals split <;> decide
  rw [if_neg hsigma]
  rcases Nat.lt_or_ge c.toNat 0x80 with hc | hc
  · have hlower : lowercaseChar c = [c.toLower] := if_pos hc
    rw [hlower]
    refine ⟨_, [], rfl, fun hblank => List.forall_mem_singleton.2 ?_, .inl ⟨hc, rfl, rfl⟩⟩
    have hstays : ∀ k < 0x80, isBlank (Char.ofNat k) = false →
        isBlank (Char.ofNat k).toLower = false := by decide
    exact of_ascii (P := fun c => isBlank c = false → isBlank c.toLower = false) hstays hc hblank
  · obtain ⟨d, ds, hchars⟩ := List.exists_cons_of_ne_nil (lowercaseChar_ne_nil c)
    have hspec := fun e (he : e ∈ d :: ds) => of_mem_lowercaseChar hc (hchars ▸ he)
    refine ⟨d, ds, by rw [hchars], fun hblank e he => ?_, .inr ⟨hc, (hspec d List.mem_cons_self).2⟩⟩
    rcases (hspec e he).1 with rfl | he
    · exact hblank
    · exact he

theorem lowercaseFrom_getLast? (hlast : ∀ c ∈ cs.getLast?, isBlank c = false)
    (before : List Char) : ∀ c ∈ (lowercaseFrom before cs).getLast?, isBlank c = false := by
  induction cs generalizing before with
  | nil => nofun
  | cons c cs ih =>
    obtain ⟨d, ds, hchars, hblank, -⟩ := exists_lowercaseFrom_cons before c cs
    intro e he
    rw [hchars, List.getLast?_append, Option.mem_def, Option.or_eq_some_iff] at he
    cases cs with
    | nil =>
      have he : (d :: ds).getLast? = some e := by simpa [lowercaseFrom] using he
      exact hblank (hlast c rfl) e (List.mem_of_mem_getLast? he)
    | cons c' cs =>
      rcases he with he | ⟨hnone, -⟩
      · exact ih (fun c hc => hlast c (by rwa [List.getLast?_cons_cons])) (c :: before) e he
      · obtain ⟨d', ds', hchars', -⟩ := exists_lowercaseFrom_cons (c :: before) c' cs
        rw [hchars', List.getLast?_eq_none_iff] at hnone
        cases hnone

/-- What does not begin or end with a blank does not do so in lower case
either. -/
theorem trimBy_lowercaseFrom_trimBy (before cs : List Char) :
    trimBy isBlank (lowercaseFrom before (trimBy isBlank cs))
      = lowercaseFrom before (trimBy isBlank cs) := by
  obtain ⟨hhead, hlast⟩ := trimBy_ends isBlank cs
  refine trimBy_eq_self ?_ (lowercaseFrom_getLast? hlast before)
  cases htrim : trimBy isBlank cs with
  | nil => nofun
  | cons c rest =>
    rw [htrim] at hhead
    obtain ⟨d, ds, hchars, hblank, -⟩ := exists_lowercaseFrom_cons before c rest
    rw [hchars]
    rintro e ⟨⟩
    exact hblank (hhead c rfl) _ List.mem_cons_self

theorem Same.ascii (hn : n ∈ plainLetters) (h : Same n c) : c.toNat < 0x80 ∧ c ≠ 'i' ∧ c ≠ 'k' := by
  have hall : ∀ n ∈ plainLetters, (n.toNat < 0x80 ∧ n ≠ 'i' ∧ n ≠ 'k') ∧
      n.toUpper.toNat < 0x80 ∧ n.toUpper ≠ 'i' ∧ n.toUpper ≠ 'k' :=
    List.all_iff_forall_prop.1 (by decide)
  rcases h with rfl | rfl
  · exact (hall c hn).1
  · exact (hall n hn).2

theorem toLower_of_same (hn : n ∈ plainLetters) (h : Same n c) : c.toLower = n := by
  have hall : ∀ n ∈ plainLetters, n.toLower = n ∧ n.toUpper.toLower = n :=
    List.all_iff_forall_prop.1 (by decide)
  rcases h with rfl | rfl
  · exact (hall c hn).1
  · exact (hall n hn).2

/-- Lower case changes nothing about which letter a character is. -/
theorem same_toLower_iff (hn : n ∈ plainLetters) (hc : c.toNat < 0x80) :
    Same n c.toLower ↔ Same n c := by
  refine ⟨fun h => ?_, fun h => .inl (toLower_of_same hn h)⟩
  have hcases : ∀ k < 0x80, Char.ofNat k = (Char.ofNat k).toLower ∨
      Char.ofNat k = (Char.ofNat k).toLower.toUpper := by decide
  have hupper : ∀ n ∈ plainLetters, n.toUpper.toUpper = n.toUpper :=
    List.all_iff_forall_prop.1 (by decide)
  rcases of_ascii (P := fun c => c = c.toLower ∨ c = c.toLower.toUpper) hcases hc with heq | heq
  · rwa [heq]
  · rcases h with h | h
    · exact .inr (h ▸ heq)
    · exact .inr (hupper n hn ▸ h ▸ heq)

section Name

variable (hname : ∀ n ∈ name, n ∈ plainLetters)

include hname

/-- **The lower case of a text is a name in any case exactly when the text
is.** -/
theorem forall₂_same_lowercaseFrom_iff (before : List Char) :
    List.Forall₂ Same name (lowercaseFrom before cs) ↔ List.Forall₂ Same name cs := by
  induction cs generalizing before name with
  | nil => rw [lowercaseFrom]
  | cons c cs ih =>
    obtain ⟨d, ds, hchars, -, hcases⟩ := exists_lowercaseFrom_cons before c cs
    rw [hchars]
    cases name with
    | nil => simp
    | cons n name =>
      obtain ⟨hn, hname⟩ := List.forall_mem_cons.1 hname
      rcases hcases with ⟨hc, rfl, rfl⟩ | ⟨hc, hd⟩
      · rw [List.singleton_append, List.forall₂_cons, List.forall₂_cons, same_toLower_iff hn hc,
          ih hname]
      · rw [List.cons_append, List.forall₂_cons, List.forall₂_cons]
        constructor
        · rintro ⟨hsame, -⟩
          obtain ⟨hlow, hi, hk⟩ := hsame.ascii hn
          rcases hd with hd | rfl | rfl
          · omega
          · exact absurd rfl hi
          · exact absurd rfl hk
        · rintro ⟨hsame, -⟩
          have hlow := (hsame.ascii hn).1
          omega

/-- **The lower case of a text is a name exactly when the text is the name
in any case.** -/
theorem lowercaseFrom_eq_iff (before : List Char) :
    lowercaseFrom before cs = name ↔ List.Forall₂ Same name cs := by
  constructor
  · intro h
    rw [← forall₂_same_lowercaseFrom_iff hname before, h]
    exact List.forall₂_same.2 fun n _ => .inl rfl
  · intro h
    induction h generalizing before with
    | nil => rfl
    | @cons n c name cs hsame _ ih =>
      obtain ⟨hn, hname⟩ := List.forall_mem_cons.1 hname
      obtain ⟨d, ds, hchars, -, hcases⟩ := exists_lowercaseFrom_cons before c cs
      rcases hcases with ⟨-, rfl, rfl⟩ | ⟨hc, -⟩
      · rw [hchars, ih hname, toLower_of_same hn hsame]
        rfl
      · have hlow := (hsame.ascii hn).1
        omega

end Name

/-- A text is a name in any case, with any blanks around it. -/
def Spells (name : String) (cs : List Char) : Prop :=
  ∃ before word after, cs = before ++ word ++ after ∧ (∀ c ∈ before, isBlank c = true) ∧
    (∀ c ∈ after, isBlank c = true) ∧ List.Forall₂ Same name.toList word

/-- Letters are no blanks. -/
theorem isBlank_of_same (hn : n ∈ plainLetters) (h : Same n c) : isBlank c = false := by
  have hall : ∀ n ∈ plainLetters, isBlank n = false ∧ isBlank n.toUpper = false :=
    List.all_iff_forall_prop.1 (by decide)
  rcases h with rfl | rfl
  · exact (hall c hn).1
  · exact (hall n hn).2

theorem not_isBlank_of_forall₂ (hname : ∀ n ∈ name, n ∈ plainLetters)
    (h : List.Forall₂ Same name word) : ∀ c ∈ word, isBlank c = false := by
  induction h with
  | nil => nofun
  | cons hsame _ ih =>
    obtain ⟨hn, hname⟩ := List.forall_mem_cons.1 hname
    exact List.forall_mem_cons.2 ⟨isBlank_of_same hn hsame, ih hname⟩

/-- A text spells a name when what is left between blanks is the name in
any case. -/
theorem spells_iff {name : String} (hname : ∀ n ∈ name.toList, n ∈ plainLetters) :
    Spells name cs ↔ List.Forall₂ Same name.toList (trimBy isBlank cs) := by
  constructor
  · rintro ⟨before, word, after, rfl, hbefore, hafter, hword⟩
    rwa [trimBy_append_append hbefore (not_isBlank_of_forall₂ hname hword) hafter]
  · intro h
    obtain ⟨before, after, hcs, hbefore, hafter⟩ := exists_append_trimBy isBlank cs
    exact ⟨before, _, after, hcs, hbefore, hafter, h⟩

theorem spells_self (name : String) : Spells name name.toList :=
  ⟨[], name.toList, [], by simp, nofun, nofun, List.forall₂_same.2 fun _ _ => .inl rfl⟩

end Text

section Lookup

variable {name s : String} (hname : ∀ n ∈ name.toList, n ∈ Text.plainLetters)

include hname

/-- **A name is found by its form for look-up exactly when it is
spelled.** -/
theorem lookupForm_eq_iff : lookupForm s = name ↔ Text.Spells name s.toList := by
  rw [lookupForm, Text.lowercase, Text.trim, String.toList_ofList, ← String.toList_inj,
    String.toList_ofList, Text.lowercaseFrom_eq_iff hname, Text.spells_iff hname]

/-- The same goes for the form of the form. -/
theorem lookupForm_lookupForm_eq_iff :
    lookupForm (lookupForm s) = name ↔ Text.Spells name s.toList := by
  have hform : (lookupForm s).toList = Text.lowercaseFrom [] (Text.trimBy Text.isBlank s.toList) := by
    rw [lookupForm, Text.lowercase, Text.trim, String.toList_ofList, String.toList_ofList]
  rw [lookupForm_eq_iff hname, Text.spells_iff hname, hform, Text.trimBy_lowercaseFrom_trimBy,
    Text.forall₂_same_lowercaseFrom_iff hname, Text.spells_iff hname]

end Lookup

end PlotPipe
