import PlotPipe.Json.Read
import PlotPipe.Proofs.Outcome
/-!
# JSON — what is read

How a text is read is told by a derivation (`Reads`), with one rule for
each way in which a value, the items of an array or the members of an
object go on. Whatever the reader returns has a derivation
(`Reads.of_value`), so what holds of all values that are read is shown by
induction on derivations.

How many levels a text may open decides only whether it is given up as
nested too deep: a reader of more levels reads the same otherwise
(`sameUnlessTooDeep_readWithin`).
-/

namespace PlotPipe

namespace Json

/-- What may be read at once: a value, or the rest of an array or of an
object up to its end. -/
inductive Phrase where
  | value (j : Json)
  | items (js : List Json)
  | members (row : List (String × Json))

/-- A phrase stands at the front of a text, opens at most so many levels
and leaves a rest. -/
inductive Reads : Nat → Phrase → List Char → List Char → Prop
  | text {levels : Nat} {s : String} {cs rest : List Char} :
      text? cs = some (s, rest) → Reads levels (.value (.text s)) ('"' :: cs) rest
  | scalar {levels : Nat} {j : Json} {cs rest : List Char} :
      scalar cs = .ok (j, rest) → Reads levels (.value j) cs rest
  | noItems {levels : Nat} {cs rest : List Char} :
      skipBlanks cs = ']' :: rest → Reads (levels + 1) (.value (.list [])) ('[' :: cs) rest
  | list {levels : Nat} {js : List Json} {cs rest : List Char} :
      Reads levels (.items js) (skipBlanks cs) rest →
      Reads (levels + 1) (.value (.list js)) ('[' :: cs) rest
  | noMembers {levels : Nat} {cs rest : List Char} :
      skipBlanks cs = '\x7d' :: rest →
      Reads (levels + 1) (.value (.object [])) ('\x7b' :: cs) rest
  | object {levels : Nat} {row : List (String × Json)} {cs rest : List Char} :
      Reads levels (.members row) (skipBlanks cs) rest →
      Reads (levels + 1) (.value (.object (lastWins row))) ('\x7b' :: cs) rest
  | lastItem {levels : Nat} {j : Json} {cs next rest : List Char} :
      Reads levels (.value j) cs next → skipBlanks next = ']' :: rest →
      Reads levels (.items [j]) cs rest
  | item {levels : Nat} {j : Json} {js : List Json} {cs next others rest : List Char} :
      Reads levels (.value j) cs next → skipBlanks next = ',' :: others →
      Reads levels (.items js) (skipBlanks others) rest → Reads levels (.items (j :: js)) cs rest
  | lastMember {levels : Nat} {key : String} {j : Json} {cs colon after next rest : List Char} :
      text? cs = some (key, colon) → skipBlanks colon = ':' :: after →
      Reads levels (.value j) (skipBlanks after) next → skipBlanks next = '\x7d' :: rest →
      Reads levels (.members [(key, j)]) ('"' :: cs) rest
  | member {levels : Nat} {key : String} {j : Json} {row : List (String × Json)}
      {cs colon after next others rest : List Char} :
      text? cs = some (key, colon) → skipBlanks colon = ':' :: after →
      Reads levels (.value j) (skipBlanks after) next → skipBlanks next = ',' :: others →
      Reads levels (.members row) (skipBlanks others) rest →
      Reads levels (.members ((key, j) :: row)) ('"' :: cs) rest

variable {fuel levels : Nat} {j : Json} {js : List Json} {row : List (String × Json)}
  {cs rest : List Char}

/-! ## Every reading has a derivation -/

/-- A value is read by one rule, whose parts are read with less fuel. -/
theorem reads_value_succ
    (hitems : ∀ {levels cs js rest}, items fuel levels cs = .ok (js, rest) →
      Reads levels (.items js) cs rest)
    (hmembers : ∀ {levels cs row rest}, members fuel levels cs = .ok (row, rest) →
      Reads levels (.members row) cs rest)
    (h : value (fuel + 1) levels cs = .ok (j, rest)) : Reads levels (.value j) cs rest := by
  rw [value.eq_def] at h
  dsimp only at h
  split at h
  · split at h
    · rename_i htext
      cases h
      exact .text htext
    · cases h
  · split at h
    · cases h
    · rename_i hlevels
      obtain ⟨levels, rfl⟩ := Nat.exists_eq_succ_of_ne_zero hlevels
      split at h
      · rename_i hclose
        cases h
        exact .noItems hclose
      · rw [map_eq_ok] at h
        obtain ⟨_, hread, heq⟩ := h
        cases heq
        exact .list (hitems hread)
  · split at h
    · cases h
    · rename_i hlevels
      obtain ⟨levels, rfl⟩ := Nat.exists_eq_succ_of_ne_zero hlevels
      split at h
      · rename_i hclose
        cases h
        exact .noMembers hclose
      · rw [map_eq_ok] at h
        obtain ⟨_, hread, heq⟩ := h
        cases heq
        exact .object (hmembers hread)
  · exact .scalar h

theorem reads_items_succ
    (hvalue : ∀ {levels cs j rest}, value fuel levels cs = .ok (j, rest) →
      Reads levels (.value j) cs rest)
    (hitems : ∀ {levels cs js rest}, items fuel levels cs = .ok (js, rest) →
      Reads levels (.items js) cs rest)
    (h : items (fuel + 1) levels cs = .ok (js, rest)) : Reads levels (.items js) cs rest := by
  rw [items] at h
  split at h
  · cases h
  · rename_i hread
    split at h
    · rename_i hclose
      cases h
      exact .lastItem (hvalue hread) hclose
    · rename_i hcomma
      rw [map_eq_ok] at h
      obtain ⟨_, hothers, heq⟩ := h
      cases heq
      exact .item (hvalue hread) hcomma (hitems hothers)
    · cases h

theorem reads_members_succ
    (hvalue : ∀ {levels cs j rest}, value fuel levels cs = .ok (j, rest) →
      Reads levels (.value j) cs rest)
    (hmembers : ∀ {levels cs row rest}, members fuel levels cs = .ok (row, rest) →
      Reads levels (.members row) cs rest)
    (h : members (fuel + 1) levels cs = .ok (row, rest)) : Reads levels (.members row) cs rest := by
  rw [members.eq_def] at h
  dsimp only at h
  split at h
  · split at h
    · cases h
    · rename_i hkey
      split at h
      · rename_i hcolon
        split at h
        · cases h
        · rename_i hread
          split at h
          · rename_i hclose
            cases h
            exact .lastMember hkey hcolon (hvalue hread) hclose
          · rename_i hcomma
            rw [map_eq_ok] at h
            obtain ⟨_, hothers, heq⟩ := h
            cases heq
            exact .member hkey hcolon (hvalue hread) hcomma (hmembers hothers)
          · cases h
      · cases h
  · cases h

/-- **What the reader returns has a derivation.** -/
theorem Reads.of_value (h : value fuel levels cs = .ok (j, rest)) :
    Reads levels (.value j) cs rest := by
  have hall : (∀ {levels cs j rest}, value fuel levels cs = .ok (j, rest) →
        Reads levels (.value j) cs rest) ∧
      (∀ {levels cs js rest}, items fuel levels cs = .ok (js, rest) →
        Reads levels (.items js) cs rest) ∧
      ∀ {levels cs row rest}, members fuel levels cs = .ok (row, rest) →
        Reads levels (.members row) cs rest := by
    clear h
    induction fuel with
    | zero => exact ⟨nofun, nofun, nofun⟩
    | succ fuel ih =>
      obtain ⟨hvalue, hitems, hmembers⟩ := ih
      exact ⟨reads_value_succ hitems hmembers, reads_items_succ hvalue hitems,
        reads_members_succ hvalue hmembers⟩
  exact hall.1 h

/-- A text that is one value, with blanks around it. -/
theorem exists_reads_of_readWithin {s : String} (h : readWithin levels s = .ok j) :
    ∃ rest, Reads levels (.value j) (skipBlanks s.toList) rest ∧ skipBlanks rest = [] := by
  rw [readWithin] at h
  split at h
  · cases h
  · rename_i hread
    split at h
    · rename_i hend
      cases h
      exact ⟨_, .of_value hread, List.isEmpty_iff.1 hend⟩
    · cases h

/-! ## More levels -/

/-- Two readings are the same, unless the first one gives up on too many
levels. -/
inductive SameUnlessTooDeep {α : Type} : Except Flaw α → Except Flaw α → Prop
  | same (x : Except Flaw α) : SameUnlessTooDeep x x
  | tooDeep (opener : String) (y : Except Flaw α) : SameUnlessTooDeep (.error (.tooDeep opener)) y

theorem SameUnlessTooDeep.map {α β : Type} {x y : Except Flaw α} (h : SameUnlessTooDeep x y)
    (f : α → β) : SameUnlessTooDeep (x.map f) (y.map f) := by
  cases h with
  | same => exact .same _
  | tooDeep opener => exact .tooDeep opener _

theorem sameUnlessTooDeep_value_succ
    (hitems : ∀ levels cs, SameUnlessTooDeep (items fuel levels cs) (items fuel (levels + 1) cs))
    (hmembers : ∀ levels cs,
      SameUnlessTooDeep (members fuel levels cs) (members fuel (levels + 1) cs))
    (levels : Nat) (cs : List Char) :
    SameUnlessTooDeep (value (fuel + 1) levels cs) (value (fuel + 1) (levels + 1) cs) := by
  rw [value.eq_def (fuel + 1) levels, value.eq_def (fuel + 1) (levels + 1)]
  dsimp only
  split
  · exact .same _
  · cases levels with
    | zero => exact .tooDeep _ _
    | succ levels =>
      rw [if_neg (Nat.succ_ne_zero _), if_neg (Nat.succ_ne_zero _)]
      split
      · exact .same _
      · exact (hitems levels _).map _
  · cases levels with
    | zero => exact .tooDeep _ _
    | succ levels =>
      rw [if_neg (Nat.succ_ne_zero _), if_neg (Nat.succ_ne_zero _)]
      split
      · exact .same _
      · exact (hmembers levels _).map _
  · exact .same _

theorem sameUnlessTooDeep_items_succ
    (hvalue : ∀ levels cs, SameUnlessTooDeep (value fuel levels cs) (value fuel (levels + 1) cs))
    (hitems : ∀ levels cs, SameUnlessTooDeep (items fuel levels cs) (items fuel (levels + 1) cs))
    (levels : Nat) (cs : List Char) :
    SameUnlessTooDeep (items (fuel + 1) levels cs) (items (fuel + 1) (levels + 1) cs) := by
  have hfirst := hvalue levels cs
  rw [items, items]
  revert hfirst
  generalize value fuel levels cs = x, value fuel (levels + 1) cs = y
  rintro (_ | ⟨opener⟩)
  · split
    · exact .same _
    · split
      · exact .same _
      · exact (hitems levels _).map _
      · exact .same _
  · exact .tooDeep opener _

theorem sameUnlessTooDeep_members_succ
    (hvalue : ∀ levels cs, SameUnlessTooDeep (value fuel levels cs) (value fuel (levels + 1) cs))
    (hmembers : ∀ levels cs,
      SameUnlessTooDeep (members fuel levels cs) (members fuel (levels + 1) cs))
    (levels : Nat) (cs : List Char) :
    SameUnlessTooDeep (members (fuel + 1) levels cs) (members (fuel + 1) (levels + 1) cs) := by
  rw [members.eq_def (fuel + 1) levels, members.eq_def (fuel + 1) (levels + 1)]
  dsimp only
  split
  · split
    · exact .same _
    · split
      · rename_i after _
        have hfirst := hvalue levels (skipBlanks after)
        revert hfirst
        generalize value fuel levels (skipBlanks after) = x,
          value fuel (levels + 1) (skipBlanks after) = y
        rintro (_ | ⟨opener⟩)
        · split
          · exact .same _
          · split
            · exact .same _
            · exact (hmembers levels _).map _
            · exact .same _
        · exact .tooDeep opener _
      · exact .same _
  · exact .same _

theorem sameUnlessTooDeep_value (fuel levels : Nat) (cs : List Char) :
    SameUnlessTooDeep (value fuel levels cs) (value fuel (levels + 1) cs) := by
  have hall : (∀ levels cs, SameUnlessTooDeep (value fuel levels cs) (value fuel (levels + 1) cs)) ∧
      (∀ levels cs, SameUnlessTooDeep (items fuel levels cs) (items fuel (levels + 1) cs)) ∧
      ∀ levels cs, SameUnlessTooDeep (members fuel levels cs) (members fuel (levels + 1) cs) := by
    induction fuel with
    | zero => exact ⟨fun _ _ => .same _, fun _ _ => .same _, fun _ _ => .same _⟩
    | succ fuel ih =>
      obtain ⟨hvalue, hitems, hmembers⟩ := ih
      exact ⟨sameUnlessTooDeep_value_succ hitems hmembers,
        sameUnlessTooDeep_items_succ hvalue hitems, sameUnlessTooDeep_members_succ hvalue hmembers⟩
  exact hall.1 levels cs

/-- **More levels change nothing**, unless the levels were too few. -/
theorem sameUnlessTooDeep_readWithin (levels : Nat) (s : String) :
    SameUnlessTooDeep (readWithin levels s) (readWithin (levels + 1) s) := by
  have hvalue := sameUnlessTooDeep_value (2 * (skipBlanks s.toList).length + 2) levels
    (skipBlanks s.toList)
  rw [readWithin, readWithin]
  revert hvalue
  generalize value _ levels _ = x, value _ (levels + 1) _ = y
  rintro (_ | ⟨opener⟩)
  · exact .same _
  · exact .tooDeep opener _

end Json

end PlotPipe
