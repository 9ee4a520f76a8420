import Mathlib.Data.Bool.AllAny
import Mathlib.Data.List.TakeWhile
import PlotPipe.Proofs.Json.Reading
import PlotPipe.Proofs.Json.RoundTrip
import PlotPipe.Proofs.Json.Scalar
/-!
# JSON — brackets and quotation marks

How deep a text stands inside of brackets, and whether it stands inside
of quotation marks, can be told character by character (`Place.step`).
Whatever is read as a value is *closed*: it ends outside of everything
that it opens, and never leaves what was open before it
(`Reads.spans`).

So nothing can be cut off in front of a whole object in a way that the
object makes good. What was cut off stands either inside of more brackets
than the object closes, or inside of quotation marks, and then the marks
of the object only turn inside out what is in quotation marks and what is
not (`Opposite`), so that it ends in quotation marks again
(`readWithin_ne_object`).
-/

namespace PlotPipe

namespace Json

/-- Where a text stands: inside of so many brackets, and there outside of
quotation marks, inside of them, or behind a backslash; or at a character
that has no place there. -/
inductive Place where
  | outside (depth : Nat)
  | quoted (depth : Nat)
  | escaped (depth : Nat)
  | broken
  deriving DecidableEq

namespace Place

/-- One character on. -/
def step : Place → Char → Place
  | outside depth, c =>
    if c = '"' then quoted depth
    else if c = '[' ∨ c = '\x7b' then outside (depth + 1)
    else if c = ']' ∨ c = '\x7d' then
      match depth with
      | 0 => broken
      | depth + 1 => outside depth
    else if c = '\\' then broken
    else outside depth
  | quoted depth, c =>
    if c = '"' then outside depth else if c = '\\' then escaped depth else quoted depth
  | escaped depth, _ => quoted depth
  | broken, _ => broken

/-- Some characters on. -/
def after (p : Place) (cs : List Char) : Place := cs.foldl step p

/-- The same place inside of more brackets. -/
def raise (more : Nat) : Place → Place
  | outside depth => outside (depth + more)
  | quoted depth => quoted (depth + more)
  | escaped depth => escaped (depth + more)
  | broken => broken

variable {p q : Place} {c : Char} {cs ds : List Char} {depth more : Nat}

theorem after_cons (p : Place) (c : Char) (cs : List Char) :
    p.after (c :: cs) = (p.step c).after cs := rfl

theorem after_append (p : Place) (cs ds : List Char) :
    p.after (cs ++ ds) = (p.after cs).after ds := List.foldl_append

theorem after_broken (cs : List Char) : broken.after cs = broken := by
  induction cs with
  | nil => rfl
  | cons c cs ih => exact ih

/-- Brackets around a place change nothing there. -/
theorem step_raise (h : p.step c ≠ broken) : (p.raise more).step c = (p.step c).raise more := by
  cases p with
  | outside depth =>
    simp only [step, raise] at h ⊢
    split
    · rfl
    · rename_i hquote
      rw [if_neg hquote] at h
      split
      · exact congrArg outside (Nat.add_right_comm depth more 1)
      · rename_i hopen
        rw [if_neg hopen] at h
        split
        · rename_i hclose
          rw [if_pos hclose] at h
          cases depth with
          | zero => exact absurd rfl h
          | succ depth => rw [Nat.add_right_comm]
        · rename_i hclose
          rw [if_neg hclose] at h
          split
          · rfl
          · rfl
  | quoted depth =>
    simp only [step, raise]
    split
    · rfl
    · split <;> rfl
  | escaped depth => rfl
  | broken => rfl

theorem after_raise (h : p.after cs ≠ broken) :
    (p.raise more).after cs = (p.after cs).raise more := by
  induction cs generalizing p with
  | nil => rfl
  | cons c cs ih =>
    have hstep : p.step c ≠ broken := by
      intro hbroken
      rw [after_cons, hbroken, after_broken] at h
      exact h rfl
    rw [after_cons, after_cons, step_raise hstep, ih h]

end Place

/-- A text that ends where it begins: outside of quotation marks, with
every bracket closed that it opens, and no other. -/
def Closed (cs : List Char) : Prop := (Place.outside 0).after cs = .outside 0

/-- A text that stays inside of quotation marks. -/
def StaysQuoted (cs : List Char) : Prop := ∀ depth, (Place.quoted depth).after cs = .quoted depth

variable {cs ds rest rest' : List Char} {c : Char} {levels depth : Nat} {j : Json}
  {row : List (String × Json)}

theorem Closed.after_eq (h : Closed cs) (depth : Nat) :
    (Place.outside depth).after cs = .outside depth := by
  have hraise : ((Place.outside 0).raise depth).after cs = ((Place.outside 0).after cs).raise depth :=
    Place.after_raise (by rw [h]; nofun)
  rw [h] at hraise
  simpa only [Place.raise, Nat.zero_add] using hraise

theorem Closed.append (h : Closed cs) (h' : Closed ds) : Closed (cs ++ ds) := by
  rw [Closed, Place.after_append, h, h']

theorem StaysQuoted.cons (hquote : c ≠ '"') (hslash : c ≠ '\\') (h : StaysQuoted cs) :
    StaysQuoted (c :: cs) := by
  intro depth
  rw [Place.after_cons, Place.step, if_neg hquote, if_neg hslash, h]

theorem StaysQuoted.escape (c : Char) (h : StaysQuoted cs) : StaysQuoted ('\\' :: c :: cs) :=
  fun depth => h depth

/-- Other characters have their place outside of quotation marks. -/
theorem closed_of_forall (h : ∀ c ∈ cs, c ∉ ['"', '[', '\x7b', ']', '\x7d', '\\']) :
    Closed cs := by
  induction cs with
  | nil => rfl
  | cons c cs ih =>
    obtain ⟨hc, hcs⟩ := List.forall_mem_cons.1 h
    simp only [List.mem_cons, List.not_mem_nil, or_false, not_or] at hc
    obtain ⟨hquote, hopen, hopen', hclose, hclose', hslash⟩ := hc
    have hstep : (Place.outside 0).step c = .outside 0 := by
      simp [Place.step, hquote, hopen, hopen', hclose, hclose', hslash]
    rw [Closed, Place.after_cons, hstep, ih hcs]

/-- A closed text stands in front of a rest. -/
def Spans (cs rest : List Char) : Prop := ∃ text, cs = text ++ rest ∧ Closed text

theorem Spans.trans (h : Spans cs rest) (h' : Spans rest rest') : Spans cs rest' := by
  obtain ⟨text, rfl, htext⟩ := h
  obtain ⟨text', rfl, htext'⟩ := h'
  exact ⟨text ++ text', (List.append_assoc _ _ _).symm, htext.append htext'⟩

/-- What stands in brackets spans up to the closing one, and with the
brackets beyond it. -/
theorem Spans.list (h : Spans cs (']' :: rest)) : Spans ('[' :: cs) rest := by
  obtain ⟨text, rfl, htext⟩ := h
  refine ⟨'[' :: (text ++ [']']), by simp, ?_⟩
  have hopen : (Place.outside 0).step '[' = .outside 1 := rfl
  rw [Closed, Place.after_cons, hopen, Place.after_append, htext.after_eq]
  rfl

theorem Spans.object (h : Spans cs ('\x7d' :: rest)) : Spans ('\x7b' :: cs) rest := by
  obtain ⟨text, rfl, htext⟩ := h
  refine ⟨'\x7b' :: (text ++ ['\x7d']), by simp, ?_⟩
  have hopen : (Place.outside 0).step '\x7b' = .outside 1 := rfl
  rw [Closed, Place.after_cons, hopen, Place.after_append, htext.after_eq]
  rfl

theorem spans_colon (rest : List Char) : Spans (':' :: rest) rest := ⟨[':'], rfl, rfl⟩

theorem spans_comma (rest : List Char) : Spans (',' :: rest) rest := ⟨[','], rfl, rfl⟩

theorem Bare.spans (h : Bare cs rest) : Spans cs rest := by
  obtain ⟨word, rfl, hword⟩ := h
  refine ⟨word, rfl, closed_of_forall fun c hc hmem => ?_⟩
  have hnone : ∀ d ∈ ['"', '[', '\x7b', ']', '\x7d', '\\'], ¬ IsBare d :=
    List.all_iff_forall_prop.1 (by decide)
  exact hnone c hmem (hword c hc)

theorem spans_skipBlanks (cs : List Char) : Spans cs (skipBlanks cs) := by
  refine ⟨cs.takeWhile isBlank, List.takeWhile_append_dropWhile.symm,
    closed_of_forall fun c hc hmem => ?_⟩
  have hnone : ∀ d ∈ ['"', '[', '\x7b', ']', '\x7d', '\\'], isBlank d = false :=
    List.all_iff_forall_prop.1 (by decide)
  have hblank : isBlank c := List.all_eq_true.1 List.all_takeWhile c hc
  rw [hnone c hmem] at hblank
  cases hblank

/-- Behind blanks stands something. -/
theorem spans_of_skipBlanks (h : skipBlanks cs = rest) : Spans cs rest := h ▸ spans_skipBlanks cs

/-! ## What is read is closed -/

theorem ne_of_hexDigit? {n : Nat} (h : Text.hexDigit? c = some n) : c ≠ '"' ∧ c ≠ '\\' := by
  constructor <;> rintro rfl <;> cases h

/-- What is read behind a character is all that is read but the
character. -/
theorem exists_of_map_cons {n : Nat} {ns : List Nat} {found : Option (List Nat × List Char)}
    (h : (found.map fun (ns, after) => (n :: ns, after)) = some (ns, rest)) :
    ∃ ns', found = some (ns', rest) := by
  obtain ⟨⟨ns', rest'⟩, rfl, heq⟩ := Option.map_eq_some_iff.1 h
  cases heq
  exact ⟨ns', rfl⟩

/-- A text is read up to the quotation mark that closes it. -/
theorem exists_staysQuoted_of_units? {ns : List Nat} (h : units? cs = some (ns, rest)) :
    ∃ body, cs = body ++ '"' :: rest ∧ StaysQuoted body := by
  fun_induction units? cs generalizing ns with
  | case1 => cases h
  | case2 rest' =>
    cases h
    exact ⟨[], rfl, fun _ => rfl⟩
  | case3 a b c d cs n hunit ih =>
    obtain ⟨_, hread⟩ := exists_of_map_cons h
    obtain ⟨body, rfl, hbody⟩ := ih hread
    refine ⟨'\\' :: 'u' :: a :: b :: c :: d :: body, rfl, .escape 'u' ?_⟩
    unfold unit? at hunit
    split at hunit
    · rename_i ha hb hc hd
      exact .cons (ne_of_hexDigit? ha).1 (ne_of_hexDigit? ha).2 <|
        .cons (ne_of_hexDigit? hb).1 (ne_of_hexDigit? hb).2 <|
        .cons (ne_of_hexDigit? hc).1 (ne_of_hexDigit? hc).2 <|
        .cons (ne_of_hexDigit? hd).1 (ne_of_hexDigit? hd).2 hbody
    · cases hunit
  | case4 => cases h
  | case5 c cs _ n _ ih =>
    obtain ⟨_, hread⟩ := exists_of_map_cons h
    obtain ⟨body, rfl, hbody⟩ := ih hread
    exact ⟨'\\' :: c :: body, rfl, .escape c hbody⟩
  | case6 => cases h
  | case7 => cases h
  | case8 => cases h
  | case9 c cs hquote _ hescape _ _ ih =>
    obtain ⟨_, hread⟩ := exists_of_map_cons h
    obtain ⟨body, rfl, hbody⟩ := ih hread
    have hslash : c ≠ '\\' := by
      have hne : body ++ '"' :: rest ≠ [] := by simp
      obtain ⟨d, ds, hcons⟩ := List.exists_cons_of_ne_nil hne
      exact fun hc => hescape d ds hc hcons
    exact ⟨c :: body, rfl, .cons hquote hslash hbody⟩

/-- A text in quotation marks spans up to what follows it. -/
theorem spans_of_text? {s : String} (h : text? cs = some (s, rest)) : Spans ('"' :: cs) rest := by
  obtain ⟨⟨ns, after⟩, hread, heq⟩ := Option.map_eq_some_iff.1 h
  cases heq
  obtain ⟨body, rfl, hbody⟩ := exists_staysQuoted_of_units? hread
  refine ⟨'"' :: (body ++ ['"']), by simp, ?_⟩
  have hopen : (Place.outside 0).step '"' = .quoted 0 := rfl
  rw [Closed, Place.after_cons, hopen, Place.after_append, hbody]
  rfl

/-- How a phrase spans its text: items and members up to the bracket
behind them. A value that is an object has brackets of its own. -/
def Phrase.Spans : Phrase → List Char → List Char → Prop
  | value j, cs, rest => Json.Spans cs rest ∧
      ∀ row, j = .object row → ∃ inner, cs = '\x7b' :: inner ∧ Json.Spans inner ('\x7d' :: rest)
  | items _, cs, rest => Json.Spans cs (']' :: rest)
  | members _, cs, rest => Json.Spans cs ('\x7d' :: rest)

/-- **What is read is closed.** -/
theorem Reads.spans {phrase : Phrase} (h : Reads levels phrase cs rest) :
    phrase.Spans cs rest := by
  induction h with
  | text htext => exact ⟨spans_of_text? htext, nofun⟩
  | scalar hscalar =>
    obtain ⟨hbare, hj⟩ := of_scalar hscalar
    refine ⟨hbare.spans, ?_⟩
    rintro row rfl
    rcases hj with hj | ⟨_, hj⟩ | ⟨_, hj⟩ | ⟨_, _, hj⟩ <;> cases hj
  | noItems hclose => exact ⟨(spans_of_skipBlanks hclose).list, nofun⟩
  | list _ ih => exact ⟨((spans_skipBlanks _).trans ih).list, nofun⟩
  | noMembers hclose =>
    have hinner := spans_of_skipBlanks hclose
    exact ⟨hinner.object, fun _ _ => ⟨_, rfl, hinner⟩⟩
  | object _ ih =>
    have hinner := (spans_skipBlanks _).trans ih
    exact ⟨hinner.object, fun _ _ => ⟨_, rfl, hinner⟩⟩
  | lastItem _ hclose ih => exact ih.1.trans (spans_of_skipBlanks hclose)
  | item _ hcomma _ ih ihothers =>
    have hfirst := ih.1.trans ((spans_of_skipBlanks hcomma).trans (spans_comma _))
    exact hfirst.trans ((spans_skipBlanks _).trans ihothers)
  | lastMember hkey hcolon _ hclose ih =>
    have hname := (spans_of_text? hkey).trans ((spans_of_skipBlanks hcolon).trans (spans_colon _))
    exact (hname.trans ((spans_skipBlanks _).trans ih.1)).trans (spans_of_skipBlanks hclose)
  | member hkey hcolon _ hcomma _ ih ihothers =>
    have hname := (spans_of_text? hkey).trans ((spans_of_skipBlanks hcolon).trans (spans_colon _))
    have hfirst := (hname.trans ((spans_skipBlanks _).trans ih.1)).trans
      ((spans_of_skipBlanks hcomma).trans (spans_comma _))
    exact hfirst.trans ((spans_skipBlanks _).trans ihothers)

/-- What is written is closed, since it is read back. -/
theorem Storable.closed_write (h : Storable levels j) : Closed (write j).toList := by
  have hread := h.readsBack (2 * (write j).toList.length) [] nofun (Nat.le_refl _)
  rw [List.append_nil] at hread
  obtain ⟨⟨cs, hcs, hclosed⟩, -⟩ := (Reads.of_value hread).spans
  rwa [hcs, List.append_nil]

/-! ## What an object does not make good -/

/-- One place is inside of quotation marks where the other is outside of
them, as long as the other has its place at all. -/
inductive Opposite : Place → Place → Prop
  | quoted (depth depth' : Nat) : Opposite (.outside depth) (.quoted depth')
  | outside (depth depth' : Nat) : Opposite (.quoted depth) (.outside depth')
  | broken (p : Place) : Opposite p .broken

/-- Outside of quotation marks only a quotation mark leads into them. -/
theorem step_outside (hquote : c ≠ '"') (depth : Nat) :
    (∃ depth', c ≠ '\\' ∧ (Place.outside depth).step c = .outside depth') ∨
      (Place.outside depth).step c = .broken := by
  simp only [Place.step, if_neg hquote]
  split
  · rename_i hopen
    refine .inl ⟨_, ?_, rfl⟩
    rcases hopen with rfl | rfl <;> decide
  · split
    · rename_i hclose
      cases depth with
      | zero => exact .inr rfl
      | succ depth =>
        refine .inl ⟨depth, ?_, rfl⟩
        rcases hclose with rfl | rfl <;> decide
    · split
      · exact .inr rfl
      · rename_i hslash
        exact .inl ⟨depth, hslash, rfl⟩

theorem Opposite.step {p q : Place} (h : Opposite p q) (hp : p.step c ≠ .broken) :
    Opposite (p.step c) (q.step c) := by
  cases h with
  | quoted depth depth' =>
    by_cases hquote : c = '"'
    · subst hquote
      exact .outside depth depth'
    · rcases step_outside hquote depth with ⟨depth'', hslash, hstep⟩ | hstep
      · rw [hstep, Place.step, if_neg hquote, if_neg hslash]
        exact .quoted depth'' depth'
      · exact absurd hstep hp
  | outside depth depth' =>
    by_cases hquote : c = '"'
    · subst hquote
      exact .quoted depth depth'
    · rcases step_outside hquote depth' with ⟨depth'', hslash, hstep⟩ | hstep
      · rw [hstep, Place.step, if_neg hquote, if_neg hslash]
        exact .outside depth depth''
      · rw [hstep]
        exact .broken _
  | broken p => exact .broken _

theorem Opposite.after {p q : Place} (h : Opposite p q) (hp : p.after cs ≠ .broken) :
    Opposite (p.after cs) (q.after cs) := by
  induction cs generalizing p q with
  | nil => exact h
  | cons c cs ih =>
    rw [Place.after_cons] at hp ⊢
    refine ih (h.step fun hbroken => ?_) hp
    rw [hbroken, Place.after_broken] at hp
    exact hp rfl

/-- A closed text that begins inside of quotation marks ends there, or
has no place. -/
theorem Closed.after_quoted_ne (h : Closed cs) (depth depth' : Nat) :
    (Place.quoted depth).after cs ≠ .outside depth' := by
  have hopposite : Opposite ((Place.outside 0).after cs) ((Place.quoted depth).after cs) :=
    (Opposite.quoted 0 depth).after (by rw [h]; nofun)
  rw [h] at hopposite
  intro hend
  rw [hend] at hopposite
  cases hopposite

/-- Where a whole object ends when something was cut off in front of it: if
its inside led outside of everything, then with its own bracket counted
it does not end there. -/
theorem Closed.after_raise_ne {inner : List Char} (h : Closed ('\x7b' :: (inner ++ ['\x7d'])))
    {p : Place} (hp : p.after ('\x7b' :: inner) = .outside 0) :
    (p.raise 1).after ('\x7b' :: (inner ++ ['\x7d'])) ≠ .outside 0 := by
  intro hend
  cases p with
  | outside depth =>
    rw [Place.raise, h.after_eq] at hend
    cases hend
  | quoted depth => exact h.after_quoted_ne _ _ hend
  | escaped depth =>
    -- The backslash only covers the bracket that the object begins with.
    exact h.after_quoted_ne (depth + 1) 0 hend
  | broken =>
    rw [Place.after_broken] at hp
    cases hp

/-- Nothing but blanks is left behind the last bracket of a text, so
nothing is. -/
theorem eq_nil_of_append_eq {front body : List Char}
    (h : front ++ ['\x7d'] = body ++ '\x7d' :: rest) (hrest : skipBlanks rest = []) : rest = [] := by
  rcases List.eq_nil_or_concat' rest with rfl | ⟨init, d, rfl⟩
  · rfl
  · have hlast : ['\x7d'] = [d] := by
      rw [← List.cons_append, ← List.append_assoc] at h
      exact List.append_inj_right' h rfl
    have hblank : isBlank d := List.dropWhile_eq_nil_iff.1 hrest d (by simp)
    rw [← (List.cons.inj hlast).1] at hblank
    cases hblank

/-- **An object makes nothing good that was cut off in front of it**: with
something else than blanks before it, it is no object any more. -/
theorem readWithin_ne_object {inner front : List Char}
    (hclosed : Closed ('\x7b' :: (inner ++ ['\x7d']))) (hc : isBlank c = false) :
    readWithin levels (String.ofList (c :: front ++ '\x7b' :: (inner ++ ['\x7d'])))
      ≠ .ok (.object row) := by
  intro hread
  obtain ⟨rest, hreads, hrest⟩ := exists_reads_of_readWithin hread
  have hskip : skipBlanks (c :: front ++ '\x7b' :: (inner ++ ['\x7d']))
      = c :: front ++ '\x7b' :: (inner ++ ['\x7d']) := by
    rw [skipBlanks, List.cons_append, List.dropWhile_cons_of_neg (Bool.eq_false_iff.1 hc)]
  rw [String.toList_ofList, hskip] at hreads
  -- If it were one, it would begin and end with brackets of its own.
  obtain ⟨⟨text, htext, hwhole⟩, hobject⟩ := hreads.spans
  obtain ⟨tail, htail, body, hbody, hbodyclosed⟩ := hobject row rfl
  obtain ⟨rfl, rfl⟩ := List.cons.inj htail
  have hsplit : (front ++ '\x7b' :: inner) ++ ['\x7d'] = body ++ '\x7d' :: rest := by
    simpa using hbody
  obtain rfl : rest = [] := eq_nil_of_append_eq hsplit hrest
  have hfront : front ++ '\x7b' :: inner = body := List.append_inj_left' hsplit rfl
  rw [List.append_nil] at htext
  -- What was cut off stands between these brackets, in front of the object.
  have hplace : ((Place.outside 0).after front).after ('\x7b' :: inner) = .outside 0 := by
    rw [← Place.after_append, hfront, hbodyclosed]
  have hnot : (Place.outside 0).after front ≠ .broken := by
    intro hbroken
    rw [hbroken, Place.after_broken] at hplace
    cases hplace
  refine hclosed.after_raise_ne hplace ?_
  rw [← Place.after_raise hnot, ← Place.after_append]
  rw [← htext] at hwhole
  exact hwhole

end Json

end PlotPipe
