import Mathlib.Data.List.Basic
import PlotPipe.Text.Blank
import PlotPipe.Workspace
/-!
# Text — blanks and lines

How a text falls into lines and into words when it was put together from
them: lines that hold no line end are the pieces between the line ends
(`splitAt_append_cons`), and words that hold no blank are the words
between the blanks (`words_intercalate`).
-/

namespace PlotPipe

namespace Text

/-- Without carriage returns all line ends are line feeds already. -/
theorem unifyLineEnds_of_not_mem {cs : List Char} (h : '\r' ∉ cs) : unifyLineEnds cs = cs := by
  induction cs using unifyLineEnds.induct with
  | case1 => rfl
  | case2 rest ih => exact absurd List.mem_cons_self h
  | case3 rest _ ih => exact absurd List.mem_cons_self h
  | case4 c rest hpair hreturn ih =>
    rw [unifyLineEnds, ih fun hmem => h (List.mem_cons_of_mem _ hmem)]
    · exact hpair
    · exact hreturn

theorem splitAt_ne_nil (separator : Char) (cs : List Char) : splitAt separator cs ≠ [] := by
  cases cs with
  | nil => exact List.cons_ne_nil _ _
  | cons c cs =>
    rw [splitAt]
    split
    · exact List.cons_ne_nil _ _
    · split <;> exact List.cons_ne_nil _ _

/-- The first piece ends at the first separator. -/
theorem splitAt_append_cons {separator : Char} {piece : List Char} (h : separator ∉ piece)
    (rest : List Char) :
    splitAt separator (piece ++ separator :: rest) = piece :: splitAt separator rest := by
  induction piece with
  | nil =>
    obtain ⟨first, others, hsplit⟩ := List.exists_cons_of_ne_nil (splitAt_ne_nil separator rest)
    rw [List.nil_append, splitAt, hsplit]
    exact if_pos rfl
  | cons c piece ih =>
    rw [List.mem_cons, not_or] at h
    rw [List.cons_append, splitAt, ih h.2]
    exact if_neg (Ne.symm h.1)

/-- What holds no separator is cut at the separator behind it. -/
theorem cutAt?_append_cons {separator : Char} {piece : List Char} (h : separator ∉ piece)
    (rest : List Char) : cutAt? separator (piece ++ separator :: rest) = some (piece, rest) := by
  induction piece with
  | nil => exact if_pos rfl
  | cons c piece ih =>
    rw [List.mem_cons, not_or] at h
    rw [List.cons_append, cutAt?, if_neg (Ne.symm h.1), ih h.2]
    rfl

theorem cutAt?_of_not_mem {separator : Char} {cs : List Char} (h : separator ∉ cs) :
    cutAt? separator cs = none := by
  induction cs with
  | nil => rfl
  | cons c cs ih =>
    rw [List.mem_cons, not_or] at h
    rw [cutAt?, if_neg (Ne.symm h.1), ih h.2]
    rfl

theorem splitAt_of_not_mem {separator : Char} {piece : List Char} (h : separator ∉ piece) :
    splitAt separator piece = [piece] := by
  induction piece with
  | nil => rfl
  | cons c piece ih =>
    rw [List.mem_cons, not_or] at h
    rw [splitAt, ih h.2]
    exact if_neg (Ne.symm h.1)

theorem splitAt_cons_self (separator : Char) (cs : List Char) :
    splitAt separator (separator :: cs) = [] :: splitAt separator cs :=
  splitAt_append_cons List.not_mem_nil cs

theorem splitAt_cons_of_ne {c separator : Char} (hc : c ≠ separator) (cs : List Char) :
    splitAt separator (c :: cs) = (splitAt separator cs).modifyHead (c :: ·) := by
  obtain ⟨first, others, hsplit⟩ := List.exists_cons_of_ne_nil (splitAt_ne_nil separator cs)
  rw [splitAt, hsplit]
  exact if_neg hc

/-- The last piece goes on with what is put behind it. -/
theorem splitAt_append_eq {separator : Char} {cs ds last first : List Char}
    {whole others : List (List Char)}
    (hcs : splitAt separator cs = whole ++ [last]) (hds : splitAt separator ds = first :: others) :
    splitAt separator (cs ++ ds) = whole ++ (last ++ first) :: others := by
  induction cs generalizing whole last with
  | nil =>
    obtain ⟨rfl, rfl⟩ : whole = [] ∧ last = [] := by
      cases whole with
      | nil => exact ⟨rfl, (List.cons.inj hcs).1.symm⟩
      | cons piece whole => simp [splitAt] at hcs
    exact hds
  | cons c cs ih =>
    obtain ⟨init, final, hsplit⟩ : ∃ init final, splitAt separator cs = init ++ [final] :=
      ⟨_, _, (List.dropLast_append_getLast (splitAt_ne_nil separator cs)).symm⟩
    have hrest := ih hsplit
    by_cases hc : c = separator
    · subst hc
      rw [splitAt_cons_self, hsplit, ← List.cons_append] at hcs
      obtain ⟨rfl, hlast⟩ := List.append_inj' hcs rfl
      rw [List.cons_append, splitAt_cons_self, hrest, (List.cons.inj hlast).1]
      rfl
    · rw [splitAt_cons_of_ne hc, hsplit] at hcs
      rw [List.cons_append, splitAt_cons_of_ne hc, hrest]
      cases init with
      | nil =>
        rw [List.nil_append, List.modifyHead_cons, ← List.nil_append [c :: final]] at hcs
        obtain ⟨rfl, hlast⟩ := List.append_inj' hcs rfl
        rw [← (List.cons.inj hlast).1]
        rfl
      | cons piece init =>
        rw [List.cons_append, List.modifyHead_cons, ← List.cons_append] at hcs
        obtain ⟨rfl, hlast⟩ := List.append_inj' hcs rfl
        rw [← (List.cons.inj hlast).1]
        rfl

/-- What holds no separator stays with the first piece behind it. -/
theorem splitAt_append {separator : Char} {cs first : List Char} {rest : List Char}
    {others : List (List Char)} (h : separator ∉ cs)
    (hrest : splitAt separator rest = first :: others) :
    splitAt separator (cs ++ rest) = (cs ++ first) :: others := by
  have hcs : splitAt separator cs = [] ++ [cs] := splitAt_of_not_mem h
  exact splitAt_append_eq hcs hrest

/-- What stands in several texts stands in one of them or between them. -/
theorem mem_toList_intercalate {a : String} {ls : List String} {c : Char}
    (h : c ∈ (a.intercalate ls).toList) :
    c ∈ a.toList ∨ ∃ s ∈ ls, c ∈ s.toList := by
  rw [String.toList_intercalate] at h
  induction ls with
  | nil => simp at h
  | cons s rest ih =>
    cases rest with
    | nil => exact .inr ⟨s, List.mem_singleton_self s, by simpa using h⟩
    | cons s' rest =>
      -- A separator stands between two texts only, hence the two cases above.
      simp only [List.map_cons, List.intercalate_cons_cons, List.mem_append] at h ih
      rcases h with (h | h) | h
      · exact .inr ⟨s, List.mem_cons_self, h⟩
      · exact .inl h
      · rcases ih h with h | ⟨t, ht, hc⟩
        · exact .inl h
        · exact .inr ⟨t, List.mem_cons_of_mem _ ht, hc⟩

section Lines

variable {ls : List String} (h : ∀ line ∈ ls, '\n' ∉ line.toList ∧ '\r' ∉ line.toList)

include h

/-- **Lines with their ends** are the lines of their text, before an empty
one. -/
theorem lines_join :
    lines (String.join (ls.map (· ++ "\n"))) = ls.map String.toList ++ [[]] := by
  have hreturn : '\r' ∉ (String.join (ls.map (· ++ "\n"))).toList := by
    simp only [String.toList_join, List.mem_flatMap, List.mem_map]
    rintro ⟨_, ⟨line, hline, rfl⟩, hmem⟩
    rw [String.toList_append, List.mem_append] at hmem
    rcases hmem with hmem | hmem
    · exact (h line hline).2 hmem
    · exact absurd hmem (by decide)
  rw [lines, unifyLineEnds_of_not_mem hreturn]
  clear hreturn
  induction ls with
  | nil => rfl
  | cons line ls ih =>
    have htext : (line ++ "\n" ++ String.join (ls.map (· ++ "\n"))).toList =
        line.toList ++ '\n' :: (String.join (ls.map (· ++ "\n"))).toList := by
      simp [String.toList_append]
    rw [List.map_cons, String.join_cons, htext, splitAt_append_cons (h line List.mem_cons_self).1,
      ih fun l hl => h l (List.mem_cons_of_mem _ hl)]
    rfl

/-- **Lines with line ends between them** are the lines of their text. -/
theorem lines_intercalate (hne : ls ≠ []) :
    lines ("\n".intercalate ls) = ls.map String.toList := by
  have hend : ("\n" : String).toList = ['\n'] := rfl
  have hreturn : '\r' ∉ ("\n".intercalate ls).toList := by
    intro hmem
    rcases mem_toList_intercalate hmem with hmem | ⟨line, hline, hmem⟩
    · exact absurd hmem (by decide)
    · exact (h line hline).2 hmem
  rw [lines, unifyLineEnds_of_not_mem hreturn, String.toList_intercalate, hend]
  clear hreturn
  induction ls with
  | nil => exact absurd rfl hne
  | cons line ls ih =>
    obtain ⟨hline, hls⟩ := List.forall_mem_cons.1 h
    cases ls with
    | nil => rw [List.map_singleton, List.intercalate_singleton, splitAt_of_not_mem hline.1]
    | cons next ls =>
      rw [List.map_cons, List.map_cons, List.intercalate_cons_cons, List.append_assoc,
        List.singleton_append, splitAt_append_cons hline.1]
      exact congrArg _ (ih hls (List.cons_ne_nil _ _))

end Lines

/-- What has no blanks at its ends stays as it is. -/
theorem trimBy_of_ends {p : Char → Bool} {c d : Char} (hc : p c = false) (hd : p d = false)
    (cs : List Char) : trimBy p (c :: (cs ++ [d])) = c :: (cs ++ [d]) := by
  rw [trimBy, List.dropWhile_cons_of_neg (by rw [hc]; exact Bool.false_ne_true), ← List.cons_append,
    List.reverse_append, List.reverse_singleton, List.singleton_append,
    List.dropWhile_cons_of_neg (by rw [hd]; exact Bool.false_ne_true), List.reverse_cons,
    List.reverse_reverse]

/-- Characters of the class at the front are dropped first. -/
theorem trimBy_append_of_forall {p : Char → Bool} {cs : List Char} (h : ∀ c ∈ cs, p c = true)
    (ds : List Char) : trimBy p (cs ++ ds) = trimBy p ds := by
  rw [trimBy, List.dropWhile_append_of_pos h, trimBy]

/-- What has no blanks at all stays as it is. -/
theorem trimBy_of_forall {p : Char → Bool} {cs : List Char} (h : ∀ c ∈ cs, p c = false) :
    trimBy p cs = cs := by
  have hdrop : ∀ {ds : List Char}, (∀ c ∈ ds, p c = false) → ds.dropWhile p = ds := by
    intro ds hds
    cases ds with
    | nil => rfl
    | cons c ds => exact List.dropWhile_cons_of_neg (by simp [hds c List.mem_cons_self])
  rw [trimBy, hdrop h, hdrop fun c hc => h c (List.mem_reverse.1 hc), List.reverse_reverse]

/-! ## Words -/

/-- What is no blank goes into the word under way. -/
theorem wordsFrom_append {word : List Char} (h : ∀ c ∈ word, isBlank c = false)
    (before rest : List Char) :
    wordsFrom before (word ++ rest) = wordsFrom (word.reverse ++ before) rest := by
  induction word generalizing before with
  | nil => rfl
  | cons c word ih =>
    have hc : isBlank c = false := h c List.mem_cons_self
    rw [List.cons_append, wordsFrom, if_neg (by simp [hc]),
      ih fun d hd => h d (List.mem_cons_of_mem _ hd)]
    simp

/-- A word by itself is its only word. -/
theorem words_of_forall {word : List Char} (hne : word ≠ []) (h : ∀ c ∈ word, isBlank c = false) :
    words word = [word] := by
  have hword := wordsFrom_append h [] []
  rw [List.append_nil, List.append_nil] at hword
  rw [words, hword, wordsFrom, if_neg (by simpa using hne), List.reverse_reverse]

/-- **A word ends at the first blank.** -/
theorem words_append_cons {blank : Char} (hblank : isBlank blank = true) {word : List Char}
    (hne : word ≠ []) (h : ∀ c ∈ word, isBlank c = false) (rest : List Char) :
    words (word ++ blank :: rest) = word :: words rest := by
  rw [words, wordsFrom_append h, List.append_nil, wordsFrom, if_pos hblank,
    if_neg (by simpa using hne), List.reverse_reverse, words]

/-- **Words are told apart at the blanks between them.** -/
theorem words_intercalate {blank : Char} (hblank : isBlank blank = true)
    {parts : List (List Char)} (h : ∀ part ∈ parts, part ≠ [] ∧ ∀ c ∈ part, isBlank c = false) :
    words ([blank].intercalate parts) = parts := by
  induction parts with
  | nil => rfl
  | cons part parts ih =>
    obtain ⟨hne, hpart⟩ := h part List.mem_cons_self
    have hrest := ih fun p hp => h p (List.mem_cons_of_mem _ hp)
    cases parts with
    | nil => rw [List.intercalate_singleton, words_of_forall hne hpart]
    | cons next parts =>
      rw [List.intercalate_cons_cons, List.append_assoc, List.singleton_append,
        words_append_cons hblank hne hpart, hrest]

end Text

theorem Workspace.decode_toUTF8 (s : String) : decode s.toUTF8 = .ok s := by
  have hvalid : String.fromUTF8? s.toUTF8 = some s := dif_pos s.isValidUTF8
  rw [decode, hvalid]

end PlotPipe
