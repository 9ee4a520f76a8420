import PlotPipe.Proofs.Script.Quoted
/-!
# Scripts — quoting is undone up to line ends

What is quoted of a text is the text after four replacements, each of
which goes over all of it: a blank for the line ends of two characters,
for line feeds and for carriage returns, and two apostrophes for one.
These come to one pass from left to right that takes the longest line end
it finds (`flatten_eq_replaceAll`, `doubleQuotes_eq_replaceAll`).

A scanner at an opening apostrophe reads the texts between apostrophes in
which every apostrophe is doubled, and no others
(`scanQuoted_eq_some_iff`). So it takes up all of a quoted text and
nothing behind it, and finds the text but for its line ends
(`scanQuoted_quote`).
-/

namespace PlotPipe

namespace Script

variable {pattern word cs content rest : List Char} {c x : Char} {s t r : String}

/-! ## Replacements -/

/-- Write `word` for each `pattern` in a text, from left to right. A
pattern has at least one character, and what was written is not searched
again. -/
def replaceAll (pattern word : List Char) : List Char → List Char
  | [] => []
  | c :: cs =>
    if pattern <+: c :: cs then word ++ replaceAll pattern word (cs.drop (pattern.length - 1))
    else c :: replaceAll pattern word cs
termination_by cs => cs.length

theorem replaceAll_nil : replaceAll pattern word [] = [] := by rw [replaceAll]

theorem replaceAll_cons_of_not (h : ¬ pattern <+: c :: cs) :
    replaceAll pattern word (c :: cs) = c :: replaceAll pattern word cs := by
  rw [replaceAll, if_neg h]

theorem replaceAll_append (x : Char) (pattern word rest : List Char) :
    replaceAll (x :: pattern) word (x :: pattern ++ rest) =
      word ++ replaceAll (x :: pattern) word rest := by
  have hprefix : x :: pattern <+: x :: (pattern ++ rest) := List.prefix_append (x :: pattern) rest
  rw [List.cons_append, replaceAll, if_pos hprefix, List.length_cons, Nat.add_sub_cancel,
    List.drop_left]

theorem replaceAll_singleton_self (x : Char) (word cs : List Char) :
    replaceAll [x] word (x :: cs) = word ++ replaceAll [x] word cs :=
  replaceAll_append x [] word cs

theorem replaceAll_singleton_of_ne (h : c ≠ x) :
    replaceAll [x] word (c :: cs) = c :: replaceAll [x] word cs :=
  replaceAll_cons_of_not fun hprefix => h (List.cons_prefix_cons.1 hprefix).1.symm

/-- A pattern is not found where its first character is not. -/
theorem replaceAll_of_not_mem (h : x ∉ cs) : replaceAll (x :: pattern) word cs = cs := by
  induction cs with
  | nil => exact replaceAll_nil
  | cons c cs ih =>
    rw [List.mem_cons, not_or] at h
    rw [replaceAll_cons_of_not fun hprefix => h.1 (List.cons_prefix_cons.1 hprefix).1, ih h.2]

/-- A character that was replaced is gone, unless it is written again. -/
theorem not_mem_replaceAll_singleton (h : x ∉ word) (cs : List Char) :
    x ∉ replaceAll [x] word cs := by
  induction cs with
  | nil => simp [replaceAll_nil]
  | cons c cs ih =>
    by_cases hc : c = x
    · subst hc
      simp [replaceAll_singleton_self, h, ih]
    · simp [replaceAll_singleton_of_ne hc, Ne.symm hc, ih]

/-- **Line ends are flattened in one pass.** A blank for each of them, the
longest being taken first, is what three replacements one after another
come to. -/
theorem flatten_eq_replaceAll (cs : List Char) :
    flatten cs =
      replaceAll ['\r'] [' '] (replaceAll ['\n'] [' '] (replaceAll ['\r', '\n'] [' '] cs)) := by
  induction cs using flatten.induct with
  | case1 => simp only [flatten, replaceAll_nil]
  | case2 rest ih =>
    have hpair : replaceAll ['\r', '\n'] [' '] ('\r' :: '\n' :: rest) =
        ' ' :: replaceAll ['\r', '\n'] [' '] rest := replaceAll_append '\r' ['\n'] [' '] rest
    rw [flatten, hpair, replaceAll_singleton_of_ne (by decide),
      replaceAll_singleton_of_ne (by decide), ih]
  | case3 rest ih =>
    rw [flatten, replaceAll_cons_of_not (by simp), replaceAll_singleton_self,
      List.singleton_append, replaceAll_singleton_of_ne (by decide), ih]
  | case4 rest hrest ih =>
    -- A carriage return by itself is passed over by the first two replacements.
    have hpair : ¬ ['\r', '\n'] <+: '\r' :: rest := by
      intro hprefix
      obtain ⟨tail, htail⟩ := (List.cons_prefix_cons.1 hprefix).2
      exact hrest tail htail.symm
    rw [flatten, replaceAll_cons_of_not hpair, replaceAll_singleton_of_ne (by decide),
      replaceAll_singleton_self, List.singleton_append, ih]
    exact hrest
  | case5 c rest _ hlf hcr ih =>
    have hpair : ¬ ['\r', '\n'] <+: c :: rest := fun hprefix =>
      hcr (List.cons_prefix_cons.1 hprefix).1.symm
    rw [flatten, replaceAll_cons_of_not hpair, replaceAll_singleton_of_ne hlf,
      replaceAll_singleton_of_ne hcr, ih]
    all_goals assumption

/-- Apostrophes are doubled by a replacement too. -/
theorem doubleQuotes_eq_replaceAll (cs : List Char) :
    doubleQuotes cs = replaceAll ['\''] ['\'', '\''] cs := by
  induction cs using doubleQuotes.induct with
  | case1 => rw [doubleQuotes, replaceAll_nil]
  | case2 rest ih =>
    rw [doubleQuotes, replaceAll_singleton_self, ih]
    rfl
  | case3 c rest hc ih =>
    rw [doubleQuotes, replaceAll_singleton_of_ne hc, ih]
    exact hc

/-- What a replacement leaves stood there before, or was written by it. -/
theorem mem_replaceAll (h : c ∈ replaceAll pattern word cs) : c ∈ cs ∨ c ∈ word := by
  induction cs using replaceAll.induct pattern with
  | case1 => simp [replaceAll_nil] at h
  | case2 d cs hprefix ih =>
    rw [replaceAll, if_pos hprefix, List.mem_append] at h
    rcases h with h | h
    · exact .inr h
    · exact (ih h).imp (fun hmem => List.mem_cons_of_mem _ (List.mem_of_mem_drop hmem)) id
  | case3 d cs hprefix ih =>
    rw [replaceAll_cons_of_not hprefix] at h
    rcases List.mem_cons.1 h with rfl | h
    · exact .inl List.mem_cons_self
    · exact (ih h).imp (List.mem_cons_of_mem _) id

/-- Carriage returns are the last to be replaced. -/
theorem carriageReturn_not_mem_quote (s : String) : '\r' ∉ (quote s).toList := by
  have hflat : '\r' ∉ flatten s.toList := by
    rw [flatten_eq_replaceAll]
    exact not_mem_replaceAll_singleton (by decide) _
  rw [toList_quote, doubleQuotes_eq_replaceAll]
  intro hmem
  rcases List.mem_cons.1 hmem with heq | hmem
  · exact absurd heq (by decide)
  rcases List.mem_append.1 hmem with hmem | hmem
  · rcases mem_replaceAll hmem with hmem | hmem
    · exact hflat hmem
    · exact absurd hmem (by decide)
  · exact absurd hmem (by decide)

/-- A text without apostrophes and line ends is quoted as it is. -/
theorem toList_quote_of_forall (h : ∀ c ∈ s.toList, c ≠ '\'' ∧ c ≠ '\r' ∧ c ≠ '\n') :
    (quote s).toList = '\'' :: (s.toList ++ ['\'']) := by
  have hnot : '\'' ∉ s.toList ∧ '\r' ∉ s.toList ∧ '\n' ∉ s.toList :=
    ⟨fun hmem => (h _ hmem).1 rfl, fun hmem => (h _ hmem).2.1 rfl, fun hmem => (h _ hmem).2.2 rfl⟩
  rw [toList_quote, doubleQuotes_eq_replaceAll, flatten_eq_replaceAll,
    replaceAll_of_not_mem hnot.2.1, replaceAll_of_not_mem hnot.2.2,
    replaceAll_of_not_mem hnot.2.1, replaceAll_of_not_mem hnot.1]

/-! ## The scanner -/

/-- Read a quoted text from its opening apostrophe on: what it says, and
what stands behind it. -/
def scanQuoted (s : String) : Option (String × String) :=
  match s.toList with
  | '\'' :: cs => (readQuoted cs).map fun read => (.ofList read.1, .ofList read.2)
  | _ => none

/-- A text in which each apostrophe is doubled, between apostrophes. -/
def between (content : String) : String :=
  .ofList ('\'' :: (doubleQuotes content.toList ++ ['\'']))

theorem quote_eq_between (s : String) : quote s = between (flattened s) := by
  rw [quote, between, flattened, String.toList_ofList]

/-- What is read stood there with its apostrophes doubled, and the
apostrophe that ends it is not followed by another. -/
theorem eq_of_readQuoted (h : readQuoted cs = some (content, rest)) :
    cs = doubleQuotes content ++ '\'' :: rest ∧ rest.head? ≠ some '\'' := by
  induction cs using readQuoted.induct generalizing content with
  | case1 => cases h
  | case2 cs ih =>
    rw [readQuoted, Option.map_eq_some_iff] at h
    obtain ⟨⟨content', rest'⟩, hread, hpair⟩ := h
    obtain ⟨rfl, rfl⟩ := Prod.mk.inj hpair
    obtain ⟨rfl, hrest⟩ := ih hread
    exact ⟨rfl, hrest⟩
  | case3 cs hne =>
    rw [readQuoted] at h
    · obtain ⟨rfl, rfl⟩ := Prod.mk.inj (Option.some.inj h)
      refine ⟨rfl, fun hhead => ?_⟩
      obtain ⟨tail, htail⟩ := List.head?_eq_some_iff.1 hhead
      exact hne tail htail
    · exact hne
  | case4 c cs hc hc' ih =>
    rw [readQuoted, Option.map_eq_some_iff] at h
    · obtain ⟨⟨content', rest'⟩, hread, hpair⟩ := h
      obtain ⟨rfl, rfl⟩ := Prod.mk.inj hpair
      obtain ⟨rfl, hrest⟩ := ih hread
      refine ⟨?_, hrest⟩
      rw [doubleQuotes]
      · rfl
      · exact hc'
    · exact hc
    · exact hc'

/-- **What the scanner reads** is a text whose apostrophes are doubled, up
to the first apostrophe that no other follows. -/
theorem scanQuoted_eq_some_iff : scanQuoted s = some (t, r) ↔ s = between t ++ r ∧ Apart r := by
  have hbetween : (between t ++ r).toList = '\'' :: (doubleQuotes t.toList ++ '\'' :: r.toList) := by
    simp [between]
  constructor
  · intro h
    unfold scanQuoted at h
    split at h
    · rename_i cs hs
      obtain ⟨⟨content, rest⟩, hread, hpair⟩ := Option.map_eq_some_iff.1 h
      obtain ⟨rfl, rfl⟩ := Prod.mk.inj hpair
      obtain ⟨hcs, hapart⟩ := eq_of_readQuoted hread
      rw [String.toList_ofList, String.toList_ofList] at hbetween
      refine ⟨String.toList_inj.1 ?_, ?_⟩
      · rw [hs, hcs, hbetween]
      · rwa [Apart, String.toList_ofList]
    · cases h
  · rintro ⟨rfl, hapart⟩
    rw [scanQuoted, hbetween]
    simp [readQuoted_doubleQuotes t.toList hapart]

/-- Texts are quoted alike when they differ in their line ends only. -/
theorem quote_eq_quote_iff : quote s = quote t ↔ flattened s = flattened t := by
  refine ⟨flattened_eq_of_quote_eq, fun h => ?_⟩
  rw [quote_eq_between, quote_eq_between, h]

/-- **Quoting is undone up to line ends.** Whatever follows a quoted text,
unless it starts with an apostrophe, the scanner takes up all of the
quoted text and nothing behind it, and finds the text with a blank for
each of its line ends. -/
theorem scanQuoted_quote (t : String) :
    (quote t).toList = '\'' :: (replaceAll ['\''] ['\'', '\''] (replaceAll ['\r'] [' ']
      (replaceAll ['\n'] [' '] (replaceAll ['\r', '\n'] [' '] t.toList))) ++ ['\'']) ∧
    (∀ r, Apart r → scanQuoted (quote t ++ r) = some (flattened t, r)) ∧
    '\r' ∉ (quote t).toList ∧ '\n' ∉ (quote t).toList ∧
    ∀ t', quote t = quote t' ↔ flattened t = flattened t' := by
  refine ⟨?_, fun r h => ?_, carriageReturn_not_mem_quote t, onOneLine_quote t,
    fun _ => quote_eq_quote_iff⟩
  · rw [toList_quote, doubleQuotes_eq_replaceAll, flatten_eq_replaceAll]
  · rw [scanQuoted_eq_some_iff, quote_eq_between]
    exact ⟨rfl, h⟩

/-- A text that starts and ends with apostrophes, with line ends of all
kinds between them, before another command. -/
theorem scanQuoted_quote_allLineEnds :
    Apart "; set grid" ∧
    scanQuoted (quote "''a\r\n\n\r'" ++ "; set grid") = some ("''a   '", "; set grid") :=
  ⟨by decide, (scanQuoted_quote "''a\r\n\n\r'").2.1 "; set grid" (by decide)⟩

end Script

end PlotPipe
