import PlotPipe.Proofs.Script.Lines
/-!
# Scripts — reading quoted texts

A quoted text is read from its opening apostrophe up to the first one that
no other follows, where two apostrophes stand for one. Read in this way a
text that was quoted is the text again, with blanks for its line ends
(`readQuoted_quote`), whatever stands behind it, as long as that does not
start with an apostrophe. So what was quoted, and what stands behind it,
can be told from the script (`quote_append_inj`).
-/

namespace PlotPipe

namespace Script

/-- Read a quoted text behind its opening apostrophe: what it says, and
what stands behind it. -/
def readQuoted : List Char → Option (List Char × List Char)
  | [] => none
  | '\'' :: '\'' :: rest => (readQuoted rest).map fun read => ('\'' :: read.1, read.2)
  | '\'' :: rest => some ([], rest)
  | c :: rest => (readQuoted rest).map fun read => (c :: read.1, read.2)

/-- A text with a blank for each line end. -/
def flattened (s : String) : String := String.ofList (flatten s.toList)

variable {cs rest : List Char} {a b r r' : String}

/-- Something is left out of what is read: the apostrophe that ends it. -/
theorem length_lt_of_readQuoted {content : List Char}
    (h : readQuoted cs = some (content, rest)) : rest.length < cs.length := by
  induction cs using readQuoted.induct generalizing content with
  | case1 => cases h
  | case2 cs ih =>
    simp only [readQuoted, Option.map_eq_some_iff, Prod.exists] at h
    obtain ⟨content', rest', hread, hpair⟩ := h
    have hlt := ih (hread.trans (by rw [← (Prod.mk.inj hpair).2]))
    simp only [List.length_cons]
    omega
  | case3 cs hne =>
    rw [readQuoted] at h
    · cases h
      simp
    · exact hne
  | case4 c cs hc hc' ih =>
    rw [readQuoted] at h
    · simp only [Option.map_eq_some_iff, Prod.exists] at h
      obtain ⟨content', rest', hread, hpair⟩ := h
      have hlt := ih (hread.trans (by rw [← (Prod.mk.inj hpair).2]))
      simp only [List.length_cons]
      omega
    · exact hc
    · exact hc'

/-- **Doubled apostrophes are read back**, and the text ends where it
ended. -/
theorem readQuoted_doubleQuotes (cs : List Char) (h : rest.head? ≠ some '\'') :
    readQuoted (doubleQuotes cs ++ '\'' :: rest) = some (cs, rest) := by
  induction cs using doubleQuotes.induct with
  | case1 =>
    -- An apostrophe behind the closing one would be read as a doubled one.
    cases rest with
    | nil => rfl
    | cons c rest =>
      have hc : c ≠ '\'' := by simpa using h
      simp only [doubleQuotes, List.nil_append]
      rw [readQuoted]
      exact fun _ heq => hc (List.cons.inj heq).1
  | case2 cs ih => simp [doubleQuotes, readQuoted, ih]
  | case3 c cs hc ih =>
    rw [doubleQuotes]
    · rw [List.cons_append, readQuoted]
      · simp [ih]
      · exact fun _ heq => absurd heq hc
      · exact hc
    · exact hc

/-! ## What a quoted text is followed by -/

/-- A text that does not go on a quoted one: it does not start with an
apostrophe. -/
def Apart (s : String) : Prop := s.toList.head? ≠ some '\''

instance : DecidablePred Apart := fun s =>
  inferInstanceAs (Decidable (s.toList.head? ≠ some '\''))

theorem apart_of_not_mem (h : '\'' ∉ a.toList) : Apart a := fun hhead =>
  h (List.mem_of_head? hhead)

/-- A text that is there goes on as it starts. -/
theorem Apart.append (ha : Apart a) (hne : a ≠ "") : Apart (a ++ b) := by
  obtain ⟨c, cs, hcs⟩ : ∃ c cs, a.toList = c :: cs :=
    List.exists_cons_of_ne_nil fun h => hne (String.toList_eq_nil_iff.1 h)
  unfold Apart at ha ⊢
  rw [String.toList_append, hcs, List.cons_append, List.head?_cons]
  rwa [hcs, List.head?_cons] at ha

/-- The characters of a quoted text. -/
theorem toList_quote (s : String) :
    (quote s).toList = '\'' :: (doubleQuotes (flatten s.toList) ++ ['\'']) := by
  rw [quote, String.toList_ofList]

/-- **A quoted text is read back** up to its line ends. -/
theorem readQuoted_quote (s : String) (h : rest.head? ≠ some '\'') :
    (quote s).toList ++ rest = '\'' :: (doubleQuotes (flatten s.toList) ++ '\'' :: rest) ∧
      readQuoted (doubleQuotes (flatten s.toList) ++ '\'' :: rest) =
        some (flatten s.toList, rest) := by
  refine ⟨?_, readQuoted_doubleQuotes _ h⟩
  simp [toList_quote]

/-- **What was quoted can be told from a script**, and so can what stands
behind it. -/
theorem quote_append_inj (hr : Apart r) (hr' : Apart r') (h : quote a ++ r = quote b ++ r') :
    flattened a = flattened b ∧ r = r' := by
  obtain ⟨ha, hreada⟩ := readQuoted_quote a hr
  obtain ⟨hb, hreadb⟩ := readQuoted_quote b hr'
  have hlist := congrArg String.toList h
  rw [String.toList_append, String.toList_append, ha, hb, List.cons.injEq] at hlist
  rw [hlist.2, hreadb, Option.some.injEq, Prod.mk.injEq] at hreada
  exact ⟨congrArg String.ofList hreada.1.symm, String.toList_inj.1 hreada.2.symm⟩

theorem flattened_eq_of_quote_eq (h : quote a = quote b) : flattened a = flattened b := by
  have hnothing : quote a ++ "" = quote b ++ "" := by rw [h]
  exact (quote_append_inj (by decide) (by decide) hnothing).1

end Script

end PlotPipe
