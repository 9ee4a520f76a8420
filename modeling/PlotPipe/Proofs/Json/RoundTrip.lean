import PlotPipe.Proofs.Json.Number
import PlotPipe.Proofs.Json.Text
/-!
# JSON — values are read back

A value that is nested no deeper than the reader goes, whose integers are
not too long and whose keys stand in order is *storable*, and what is
written for it is read back as the value (`readWithin_write`): first in
front of anything that may follow a value (`Storable.readsBack`), by
induction on what makes it storable, then by itself. A storable value is
written on one line of printable ASCII (`Storable.isPlain`).
-/

namespace PlotPipe

namespace Json

/-- A value that is written so that a reader of so many levels reads it
back. -/
inductive Storable : Nat → Json → Prop
  | null {levels : Nat} : Storable levels .null
  | truth {levels : Nat} (b : Bool) : Storable levels (.truth b)
  | int {levels : Nat} {i : ℤ} : i.natAbs < Datum.unwritable → Storable levels (.int i)
  | real {levels : Nat} (x : Binary64) : Storable levels (.real x)
  | text {levels : Nat} (s : String) : Storable levels (.text s)
  | list {levels : Nat} {items : List Json} :
      (∀ j ∈ items, Storable levels j) → Storable (levels + 1) (.list items)
  /-- The keys of an object stand in order, each of them once. -/
  | object {levels : Nat} {entries : List (String × Json)} :
      (entries.map Prod.fst).Pairwise (· < ·) →
      (∀ entry ∈ entries, Storable levels entry.2) → Storable (levels + 1) (.object entries)

variable {rest : List Char} {levels levels' fuel : Nat} {j : Json}

/-- What a reader of some levels reads back, one of more levels does. -/
theorem Storable.mono (h : Storable levels j) (hle : levels ≤ levels') : Storable levels' j := by
  induction h generalizing levels' with
  | null => exact .null
  | truth b => exact .truth b
  | int hi => exact .int hi
  | real x => exact .real x
  | text s => exact .text s
  | list _ ih =>
    obtain ⟨levels', rfl⟩ : ∃ n, levels' = n + 1 := ⟨levels' - 1, by omega⟩
    exact .list fun j hj => ih j hj (by omega)
  | object hkeys _ ih =>
    obtain ⟨levels', rfl⟩ : ∃ n, levels' = n + 1 := ⟨levels' - 1, by omega⟩
    exact .object hkeys fun entry hentry => ih entry hentry (by omega)

/-! ## Entries in order -/

theorem sortKeys_of_pairwise {α : Type} {entries : List (String × α)}
    (h : (entries.map Prod.fst).Pairwise (· < ·)) : sortKeys entries = entries := by
  refine List.mergeSort_of_pairwise ((List.pairwise_map.1 h).imp fun hlt => ?_)
  exact decide_eq_true (Std.le_of_lt hlt)

theorem put_of_not_mem {α : Type} {key : String} {value : α} {entries : List (String × α)}
    (h : key ∉ entries.map Prod.fst) : put key value entries = entries ++ [(key, value)] := by
  induction entries with
  | nil => rfl
  | cons entry entries ih =>
    rw [List.map_cons, List.mem_cons, not_or] at h
    rw [put, if_neg (Ne.symm h.1), ih h.2, List.cons_append]

/-- Entries with one value for each key are what they are. -/
theorem lastWins_of_nodup {α : Type} {entries : List (String × α)}
    (h : (entries.map Prod.fst).Nodup) : lastWins entries = entries := by
  have hfold : ∀ seen : List (String × α), ((seen ++ entries).map Prod.fst).Nodup →
      entries.foldl (fun seen entry => put entry.1 entry.2 seen) seen = seen ++ entries := by
    clear h
    induction entries with
    | nil => exact fun seen _ => (List.append_nil seen).symm
    | cons entry entries ih =>
      intro seen hnodup
      have hnot : entry.1 ∉ seen.map Prod.fst := by
        rw [List.map_append, List.nodup_append] at hnodup
        intro hmem
        exact hnodup.2.2 _ hmem _ List.mem_cons_self rfl
      rw [List.foldl_cons, put_of_not_mem hnot, ih _ (by simpa using hnodup), List.append_assoc,
        List.singleton_append]
  exact hfold [] h

theorem nodup_of_pairwise_lt {keys : List String} (h : keys.Pairwise (· < ·)) : keys.Nodup := by
  refine h.imp ?_
  rintro a _ hlt rfl
  exact String.lt_irrefl a hlt

theorem map_fst_writeEntries (entries : List (String × Json)) :
    (writeEntries entries).map Prod.fst = entries.map Prod.fst := by
  induction entries with
  | nil => rfl
  | cons entry entries ih => rw [writeEntries, List.map_cons, List.map_cons, ih]

/-! ## What is written -/

/-- The items of a list, with commas between them. -/
def itemsText (items : List Json) : List Char := (",".intercalate (writeAll items)).toList

/-- The entries of an object, with commas between them. -/
def entriesText (entries : List (String × Json)) : List Char :=
  (",".intercalate ((writeEntries entries).map Prod.snd)).toList

theorem toList_write_list (items : List Json) :
    (write (.list items)).toList = '[' :: (itemsText items ++ [']']) := by
  rw [write, String.toList_append, String.toList_append]
  rfl

theorem toList_write_object {entries : List (String × Json)}
    (h : (entries.map Prod.fst).Pairwise (· < ·)) :
    (write (.object entries)).toList = '\x7b' :: (entriesText entries ++ ['\x7d']) := by
  rw [write, sortKeys_of_pairwise (by rwa [map_fst_writeEntries]), String.toList_append,
    String.toList_append]
  rfl

theorem itemsText_singleton (j : Json) : itemsText [j] = (write j).toList := by
  rw [itemsText, writeAll, writeAll, String.intercalate_singleton]

theorem itemsText_cons_cons (j j' : Json) (items : List Json) :
    itemsText (j :: j' :: items) = (write j).toList ++ ',' :: itemsText (j' :: items) := by
  rw [itemsText, writeAll, writeAll, String.intercalate_cons_cons, String.toList_append,
    String.toList_append, List.append_assoc]
  rfl

/-- An entry of an object. -/
def entryText (entry : String × Json) : List Char :=
  (writeText entry.1).toList ++ ':' :: (write entry.2).toList

theorem toList_entry (entry : String × Json) :
    (writeText entry.1 ++ ":" ++ write entry.2).toList = entryText entry := by
  rw [String.toList_append, String.toList_append, List.append_assoc]
  rfl

theorem entriesText_singleton (entry : String × Json) : entriesText [entry] = entryText entry := by
  rw [entriesText, writeEntries, writeEntries, List.map_cons, List.map_nil,
    String.intercalate_singleton, toList_entry]

theorem entriesText_cons_cons (entry entry' : String × Json) (entries : List (String × Json)) :
    entriesText (entry :: entry' :: entries)
      = entryText entry ++ ',' :: entriesText (entry' :: entries) := by
  rw [entriesText, writeEntries, writeEntries, List.map_cons, List.map_cons,
    String.intercalate_cons_cons, String.toList_append, String.toList_append, toList_entry,
    List.append_assoc]
  rfl

/-! ## How a value begins -/

/-- A character that a value may begin with. -/
def Begins (c : Char) : Prop := isBlank c = false ∧ c ≠ ']' ∧ c ≠ '\x7d'

/-- A character that a number or a word may begin with. -/
def BeginsScalar (c : Char) : Prop := c.isDigit ∨ c ∈ ['n', 't', 'f', 'N', 'I', '-']

instance : DecidablePred Begins := fun c =>
  inferInstanceAs (Decidable (isBlank c = false ∧ c ≠ ']' ∧ c ≠ '\x7d'))

instance : DecidablePred BeginsScalar := fun c =>
  inferInstanceAs (Decidable (c.isDigit ∨ c ∈ ['n', 't', 'f', 'N', 'I', '-']))

theorem BeginsScalar.ne {c d : Char} (h : BeginsScalar c) (hd : ¬ BeginsScalar d) : c ≠ d := by
  rintro rfl
  exact hd h

theorem BeginsScalar.begins {c : Char} (h : BeginsScalar c) : Begins c := by
  refine ⟨?_, h.ne (by decide), h.ne (by decide)⟩
  simp [isBlank, h.ne (d := ' ') (by decide), h.ne (d := '\t') (by decide),
    h.ne (d := '\n') (by decide), h.ne (d := '\r') (by decide)]

theorem exists_cons_toString (i : ℤ) :
    ∃ c cs, (toString i).toList = c :: cs ∧ BeginsScalar c := by
  have hnat : ∀ n : Nat, ∃ c cs, (toString n).toList = c :: cs ∧ BeginsScalar c := by
    intro n
    obtain ⟨c, cs, hcs⟩ := List.exists_cons_of_ne_nil (decimalDigits_ne_nil n)
    have hc : c ∈ decimalDigits n := hcs ▸ List.mem_cons_self
    exact ⟨c, cs, toList_toString n ▸ hcs, .inl (isDigit_of_mem_decimalDigits hc)⟩
  cases i with
  | ofNat n => exact hnat n
  | negSucc n =>
    refine ⟨'-', (toString (n + 1)).toList, ?_, by decide⟩
    change ("-" ++ toString (n + 1)).toList = _
    rw [String.toList_append]
    rfl

theorem exists_cons_text (x : Binary64) :
    ∃ c cs, (x.text .journal).toList = c :: cs ∧ BeginsScalar c := by
  cases x with
  | nan => exact ⟨'N', _, rfl, by decide⟩
  | signed negative m =>
    rw [Binary64.text, String.toList_append]
    cases negative with
    | true => exact ⟨'-', _, rfl, by decide⟩
    | false =>
      by_cases hfinite : m.isFinite
      · obtain ⟨n, htext, -⟩ := m.exists_numeral hfinite
        obtain ⟨c, cs, hcs⟩ := List.exists_cons_of_ne_nil n.whole_ne
        refine ⟨c, cs ++ Numeral.placesText n.places ++ Numeral.exponentText n.exponent, ?_,
          .inl (n.isDigit_of_mem_whole c (hcs ▸ List.mem_cons_self))⟩
        rw [if_pos hfinite, String.toList_ofList, ← htext, Numeral.text, hcs]
        rfl
      · rw [if_neg hfinite]
        exact ⟨'I', _, rfl, by decide⟩

theorem exists_cons_write (j : Json) : ∃ c cs, (write j).toList = c :: cs ∧ Begins c := by
  cases j with
  | null => exact ⟨'n', _, rfl, by decide⟩
  | truth b =>
    cases b with
    | true => exact ⟨'t', _, rfl, by decide⟩
    | false => exact ⟨'f', _, rfl, by decide⟩
  | int i =>
    obtain ⟨c, cs, hcs, hc⟩ := exists_cons_toString i
    exact ⟨c, cs, by rwa [write], hc.begins⟩
  | real x =>
    obtain ⟨c, cs, hcs, hc⟩ := exists_cons_text x
    exact ⟨c, cs, by rwa [write], hc.begins⟩
  | text s => exact ⟨'"', _, by rw [write]; exact toList_writeText s, by decide⟩
  | list items => exact ⟨'[', _, toList_write_list items, by decide⟩
  | object entries =>
    rw [write, String.toList_append, String.toList_append]
    exact ⟨'\x7b', _, rfl, by decide⟩

theorem skipBlanks_of_head {c : Char} {cs : List Char} (h : isBlank c = false) :
    skipBlanks (c :: cs) = c :: cs := by
  rw [skipBlanks, List.dropWhile_cons, h]
  rfl

theorem skipBlanks_write (j : Json) (rest : List Char) :
    skipBlanks ((write j).toList ++ rest) = (write j).toList ++ rest := by
  obtain ⟨c, cs, hcs, hc⟩ := exists_cons_write j
  rw [hcs, List.cons_append, skipBlanks_of_head hc.1]

/-! ## What is read -/

theorem value_of_beginsScalar {c : Char} {cs : List Char} (h : BeginsScalar c) :
    value (fuel + 1) levels (c :: cs) = scalar (c :: cs) := by
  rw [value]
  · rintro tail heq
    exact h.ne (d := '"') (by decide) (List.cons.inj heq).1
  · rintro tail heq
    exact h.ne (d := '[') (by decide) (List.cons.inj heq).1
  · rintro tail heq
    exact h.ne (d := '\x7b') (by decide) (List.cons.inj heq).1

theorem follows_cons {c : Char} (h : c = ',' ∨ c = ']' ∨ c = '\x7d') : Follows (c :: rest) := by
  rintro d hd
  cases hd
  exact h

/-- A value is read back in front of anything that may follow it, with
fuel for each of its characters. -/
def ReadsBack (levels : Nat) (j : Json) : Prop :=
  ∀ (fuel : Nat) (rest : List Char), Follows rest → 2 * (write j).toList.length ≤ fuel →
    value fuel levels ((write j).toList ++ rest) = .ok (j, rest)

/-- What begins as a number or a word and is read as a scalar. -/
theorem readsBack_of_scalar (hhead : ∃ c cs, (write j).toList = c :: cs ∧ BeginsScalar c)
    (hscalar : ∀ {rest : List Char}, Follows rest →
      scalar ((write j).toList ++ rest) = .ok (j, rest)) : ReadsBack levels j := by
  intro fuel rest hrest hfuel
  obtain ⟨c, cs, hcs, hc⟩ := hhead
  have hlen : 0 < (write j).toList.length := by rw [hcs]; exact Nat.succ_pos _
  obtain ⟨fuel, rfl⟩ : ∃ n, fuel = n + 1 := ⟨fuel - 1, by omega⟩
  have hread := hscalar hrest
  rw [hcs, List.cons_append] at hread ⊢
  rw [value_of_beginsScalar hc, hread]

/-- What begins the items of a list is no bracket that closes it. -/
theorem exists_cons_itemsText (j : Json) (items : List Json) :
    ∃ c cs, itemsText (j :: items) = c :: cs ∧ Begins c := by
  obtain ⟨c, cs, hcs, hc⟩ := exists_cons_write j
  cases items with
  | nil => exact ⟨c, cs, by rw [itemsText_singleton, hcs], hc⟩
  | cons j' items =>
    exact ⟨c, cs ++ ',' :: itemsText (j' :: items), by rw [itemsText_cons_cons, hcs]; rfl, hc⟩

/-- What begins the entries of an object is the quotation mark of a key. -/
theorem exists_cons_entriesText (entry : String × Json) (entries : List (String × Json)) :
    ∃ cs, entriesText (entry :: entries) = '"' :: cs := by
  obtain ⟨cs, hcs, -⟩ := text?_writeText entry.1 []
  cases entries with
  | nil => exact ⟨_, by rw [entriesText_singleton, entryText, hcs]; rfl⟩
  | cons entry' entries => exact ⟨_, by rw [entriesText_cons_cons, entryText, hcs]; rfl⟩

/-- The items of a list are read back up to its end. -/
theorem items_itemsText {items : List Json} (hne : items ≠ [])
    (h : ∀ j ∈ items, ReadsBack levels j) (hfuel : 2 * (itemsText items).length < fuel)
    (rest : List Char) :
    Json.items fuel levels (itemsText items ++ ']' :: rest) = .ok (items, rest) := by
  induction items generalizing fuel with
  | nil => exact absurd rfl hne
  | cons j items ih =>
    obtain ⟨fuel, rfl⟩ : ∃ n, fuel = n + 1 := ⟨fuel - 1, by omega⟩
    have hj := h j List.mem_cons_self
    cases items with
    | nil =>
      rw [itemsText_singleton] at hfuel ⊢
      rw [Json.items, hj _ _ (follows_cons (by decide)) (by omega)]
      dsimp only
      rw [skipBlanks_of_head (by decide)]
      rfl
    | cons j' items =>
      rw [itemsText_cons_cons, List.length_append, List.length_cons] at hfuel
      have hrest : Json.items fuel levels (itemsText (j' :: items) ++ ']' :: rest)
          = .ok (j' :: items, rest) :=
        ih (List.cons_ne_nil _ _) (fun k hk => h k (List.mem_cons_of_mem _ hk)) (by omega)
      have hskip : skipBlanks (itemsText (j' :: items) ++ ']' :: rest)
          = itemsText (j' :: items) ++ ']' :: rest := by
        obtain ⟨c, cs, hcs, hc⟩ := exists_cons_itemsText j' items
        rw [hcs]
        exact skipBlanks_of_head hc.1
      rw [itemsText_cons_cons, List.append_assoc, List.cons_append, Json.items,
        hj _ _ (follows_cons (by decide)) (by omega)]
      dsimp only
      rw [skipBlanks_of_head (by decide)]
      change (Json.items fuel levels (skipBlanks _)).map _ = _
      rw [hskip, hrest]
      rfl

/-- One entry of an object is read back, and what follows it decides
whether more of them are read. -/
theorem members_entryText {entry : String × Json} (h : ReadsBack levels entry.2)
    (hfuel : 2 * (entryText entry).length ≤ fuel) (rest : List Char) :
    members (fuel + 1) levels (entryText entry ++ '\x7d' :: rest) = .ok ([entry], rest) ∧
      members (fuel + 1) levels (entryText entry ++ ',' :: rest)
        = (members fuel levels (skipBlanks rest)).map fun tail => (entry :: tail.1, tail.2) := by
  obtain ⟨key, j⟩ := entry
  dsimp only [entryText] at h hfuel ⊢
  rw [List.length_append, List.length_cons] at hfuel
  have hcolon : isBlank ':' = false := by decide
  have hclose : isBlank '\x7d' = false := by decide
  have hcomma : isBlank ',' = false := by decide
  constructor
  · obtain ⟨cs, hcs, htext⟩ := text?_writeText key (':' :: ((write j).toList ++ '\x7d' :: rest))
    have hread := h fuel ('\x7d' :: rest) (follows_cons (by decide)) (by omega)
    rw [List.append_assoc, hcs, List.cons_append, List.cons_append, members, htext]
    simp only [skipBlanks_of_head hcolon, skipBlanks_of_head hclose, skipBlanks_write, hread]
  · obtain ⟨cs, hcs, htext⟩ := text?_writeText key (':' :: ((write j).toList ++ ',' :: rest))
    have hread := h fuel (',' :: rest) (follows_cons (by decide)) (by omega)
    rw [List.append_assoc, hcs, List.cons_append, List.cons_append, members, htext]
    simp only [skipBlanks_of_head hcolon, skipBlanks_of_head hcomma, skipBlanks_write, hread]

/-- The entries of an object are read back up to its end. -/
theorem members_entriesText {entries : List (String × Json)} (hne : entries ≠ [])
    (h : ∀ entry ∈ entries, ReadsBack levels entry.2)
    (hfuel : 2 * (entriesText entries).length < fuel) (rest : List Char) :
    members fuel levels (entriesText entries ++ '\x7d' :: rest) = .ok (entries, rest) := by
  induction entries generalizing fuel with
  | nil => exact absurd rfl hne
  | cons entry entries ih =>
    obtain ⟨fuel, rfl⟩ : ∃ n, fuel = n + 1 := ⟨fuel - 1, by omega⟩
    have hentry := h entry List.mem_cons_self
    cases entries with
    | nil =>
      rw [entriesText_singleton] at hfuel ⊢
      exact (members_entryText hentry (by omega) rest).1
    | cons entry' entries =>
      rw [entriesText_cons_cons, List.length_append, List.length_cons] at hfuel
      have hrest : members fuel levels (entriesText (entry' :: entries) ++ '\x7d' :: rest)
          = .ok (entry' :: entries, rest) :=
        ih (List.cons_ne_nil _ _) (fun e he => h e (List.mem_cons_of_mem _ he)) (by omega)
      have hskip : skipBlanks (entriesText (entry' :: entries) ++ '\x7d' :: rest)
          = entriesText (entry' :: entries) ++ '\x7d' :: rest := by
        obtain ⟨cs, hcs⟩ := exists_cons_entriesText entry' entries
        rw [hcs]
        exact skipBlanks_of_head (by decide)
      rw [entriesText_cons_cons, List.append_assoc, List.cons_append,
        (members_entryText hentry (by omega) _).2, hskip, hrest]
      rfl

theorem itemsText_nil : itemsText [] = [] := rfl

theorem entriesText_nil : entriesText [] = [] := rfl

theorem readsBack_text (s : String) : ReadsBack levels (.text s) := by
  intro fuel rest hrest hfuel
  obtain ⟨cs, hcs, htext⟩ := text?_writeText s rest
  rw [write, hcs] at hfuel ⊢
  obtain ⟨fuel, rfl⟩ : ∃ n, fuel = n + 1 := ⟨fuel - 1, by rw [List.length_cons] at hfuel; omega⟩
  rw [List.cons_append, value, htext]

/-- A list is read back when its items are. -/
theorem readsBack_list {items : List Json} (h : ∀ j ∈ items, ReadsBack levels j) :
    ReadsBack (levels + 1) (.list items) := by
  intro fuel rest hrest hfuel
  rw [toList_write_list] at hfuel ⊢
  rw [List.length_cons, List.length_append, List.length_singleton] at hfuel
  obtain ⟨fuel, rfl⟩ : ∃ n, fuel = n + 1 := ⟨fuel - 1, by omega⟩
  rw [List.cons_append, List.append_assoc, List.singleton_append, value,
    if_neg (Nat.succ_ne_zero _), Nat.succ_sub_one]
  cases items with
  | nil =>
    rw [itemsText_nil, List.nil_append, skipBlanks_of_head (by decide)]
    rfl
  | cons j items =>
    have hlen : 2 * (itemsText (j :: items)).length < fuel := by omega
    have hread := items_itemsText (List.cons_ne_nil j items) h hlen rest
    obtain ⟨c, cs, hcs, hc⟩ := exists_cons_itemsText j items
    rw [hcs, List.cons_append] at hread ⊢
    rw [skipBlanks_of_head hc.1]
    split
    · rename_i heq
      exact absurd (List.cons.inj heq).1 hc.2.1
    · rw [hread]
      rfl

/-- An object is read back when its values are and its keys stand in
order. -/
theorem readsBack_object {entries : List (String × Json)}
    (hkeys : (entries.map Prod.fst).Pairwise (· < ·))
    (h : ∀ entry ∈ entries, ReadsBack levels entry.2) :
    ReadsBack (levels + 1) (.object entries) := by
  intro fuel rest hrest hfuel
  rw [toList_write_object hkeys] at hfuel ⊢
  rw [List.length_cons, List.length_append, List.length_singleton] at hfuel
  obtain ⟨fuel, rfl⟩ : ∃ n, fuel = n + 1 := ⟨fuel - 1, by omega⟩
  rw [List.cons_append, List.append_assoc, List.singleton_append, value,
    if_neg (Nat.succ_ne_zero _), Nat.succ_sub_one]
  cases entries with
  | nil =>
    rw [entriesText_nil, List.nil_append, skipBlanks_of_head (by decide)]
    rfl
  | cons entry entries =>
    have hlen : 2 * (entriesText (entry :: entries)).length < fuel := by omega
    have hread := members_entriesText (List.cons_ne_nil entry entries) h hlen rest
    obtain ⟨cs, hcs⟩ := exists_cons_entriesText entry entries
    rw [hcs, List.cons_append] at hread ⊢
    rw [skipBlanks_of_head (by decide)]
    change (members fuel levels _).map _ = _
    rw [hread]
    change Except.ok (Json.object (lastWins _), rest) = _
    rw [lastWins_of_nodup (nodup_of_pairwise_lt hkeys)]

/-- **A storable value is read back** in front of anything that may
follow it. -/
theorem Storable.readsBack (h : Storable levels j) : ReadsBack levels j := by
  induction h with
  | null => exact readsBack_of_scalar ⟨'n', _, rfl, by decide⟩ fun _ => rfl
  | truth b =>
    cases b with
    | true => exact readsBack_of_scalar ⟨'t', _, rfl, by decide⟩ fun _ => rfl
    | false => exact readsBack_of_scalar ⟨'f', _, rfl, by decide⟩ fun _ => rfl
  | @int _ i hi =>
    refine readsBack_of_scalar ?_ fun hrest => ?_
    · rw [write]
      exact exists_cons_toString i
    · rw [write]
      exact scalar_int hrest hi
  | real x =>
    refine readsBack_of_scalar ?_ fun hrest => ?_
    · rw [write]
      exact exists_cons_text x
    · rw [write]
      exact scalar_real hrest x
  | text s => exact readsBack_text s
  | list _ ih => exact readsBack_list ih
  | object hkeys _ ih => exact readsBack_object hkeys ih

/-- **A storable value is read back from what is written for it.** -/
theorem readWithin_write (h : Storable levels j) : readWithin levels (write j) = .ok j := by
  have hskip := skipBlanks_write j []
  have hread := h.readsBack (2 * (write j).toList.length + 2) [] (by rintro c ⟨⟩) (by omega)
  rw [List.append_nil] at hskip hread
  rw [readWithin, hskip, hread]
  rfl

/-! ## One line of plain characters -/

theorem isPlain_of_isDigit {c : Char} (h : c.isDigit) : IsPlain c := by
  have hrange : 48 ≤ c.val ∧ c.val ≤ 57 := by simpa [Char.isDigit] using h
  have hlow : 48 ≤ c.toNat := UInt32.le_iff_toNat_le.1 hrange.1
  have hhigh : c.toNat ≤ 57 := UInt32.le_iff_toNat_le.1 hrange.2
  exact ⟨by omega, by omega⟩

theorem isPlain_of_mem_toString {i : ℤ} {c : Char} (h : c ∈ (toString i).toList) : IsPlain c := by
  have hnat : ∀ n : Nat, c ∈ (toString n).toList → IsPlain c := by
    intro n hc
    rw [toList_toString] at hc
    exact isPlain_of_isDigit (isDigit_of_mem_decimalDigits hc)
  cases i with
  | ofNat n => exact hnat n h
  | negSucc n =>
    change c ∈ ("-" ++ toString (n + 1)).toList at h
    rw [String.toList_append, List.mem_append] at h
    rcases h with h | h
    · exact isPlain_of_all (by decide) h
    · exact hnat (n + 1) h

theorem isPlain_of_mem_numeral {n : Numeral} {c : Char} (h : c ∈ n.text) : IsPlain c := by
  rw [Numeral.text, List.mem_append, List.mem_append] at h
  rcases h with (h | h) | h
  · exact isPlain_of_isDigit (n.isDigit_of_mem_whole c h)
  · unfold Numeral.placesText at h
    split at h
    · cases h
    · rcases List.mem_cons.1 h with rfl | h
      · decide
      · exact isPlain_of_isDigit (n.isDigit_of_mem_places c h)
  · cases he : n.exponent with
    | none =>
      rw [he] at h
      cases h
    | some e =>
      rw [he, Numeral.exponentText, List.mem_cons, List.mem_cons] at h
      rcases h with rfl | rfl | h
      · decide
      · split <;> decide
      · exact isPlain_of_isDigit (isDigit_of_mem_paddedDigits h)

theorem isPlain_of_mem_text {x : Binary64} {c : Char} (h : c ∈ (x.text .journal).toList) :
    IsPlain c := by
  cases x with
  | nan => exact isPlain_of_all (by decide) h
  | signed negative m =>
    rw [Binary64.text, String.toList_append, List.mem_append] at h
    rcases h with h | h
    · exact isPlain_of_all (by cases negative <;> decide) h
    · by_cases hfinite : m.isFinite
      · obtain ⟨n, htext, -⟩ := m.exists_numeral hfinite
        rw [if_pos hfinite, String.toList_ofList, ← htext] at h
        exact isPlain_of_mem_numeral h
      · rw [if_neg hfinite] at h
        exact isPlain_of_all (by decide) h

theorem isPlain_of_mem_itemsText {items : List Json}
    (h : ∀ j ∈ items, ∀ c ∈ (write j).toList, IsPlain c) : ∀ c ∈ itemsText items, IsPlain c := by
  induction items with
  | nil =>
    intro c hc
    cases hc
  | cons j items ih =>
    have hj := h j List.mem_cons_self
    cases items with
    | nil => rwa [itemsText_singleton]
    | cons j' items =>
      intro c hc
      rw [itemsText_cons_cons, List.mem_append, List.mem_cons] at hc
      rcases hc with hc | rfl | hc
      · exact hj c hc
      · decide
      · exact ih (fun k hk => h k (List.mem_cons_of_mem _ hk)) c hc

theorem isPlain_of_mem_entriesText {entries : List (String × Json)}
    (h : ∀ entry ∈ entries, ∀ c ∈ (write entry.2).toList, IsPlain c) :
    ∀ c ∈ entriesText entries, IsPlain c := by
  have hentry : ∀ entry ∈ entries, ∀ c ∈ entryText entry, IsPlain c := by
    intro entry hmem c hc
    rw [entryText, List.mem_append, List.mem_cons] at hc
    rcases hc with hc | rfl | hc
    · exact isPlain_of_mem_writeText hc
    · decide
    · exact h entry hmem c hc
  clear h
  induction entries with
  | nil =>
    intro c hc
    cases hc
  | cons entry entries ih =>
    have hfirst := hentry entry List.mem_cons_self
    cases entries with
    | nil => rwa [entriesText_singleton]
    | cons entry' entries =>
      intro c hc
      rw [entriesText_cons_cons, List.mem_append, List.mem_cons] at hc
      rcases hc with hc | rfl | hc
      · exact hfirst c hc
      · decide
      · exact ih (fun e he => hentry e (List.mem_cons_of_mem _ he)) c hc

/-- **A storable value is written in printable ASCII**, so on one line. -/
theorem Storable.isPlain (h : Storable levels j) : ∀ c ∈ (write j).toList, IsPlain c := by
  induction h with
  | null => exact fun _ => isPlain_of_all (by decide)
  | truth b => exact fun _ => isPlain_of_all (by cases b <;> decide)
  | int _ => exact fun c hc => isPlain_of_mem_toString (by rwa [write] at hc)
  | real x => exact fun c hc => isPlain_of_mem_text (by rwa [write] at hc)
  | text s => exact fun c hc => isPlain_of_mem_writeText (by rwa [write] at hc)
  | list _ ih =>
    intro c hc
    rw [toList_write_list, List.mem_cons, List.mem_append, List.mem_singleton] at hc
    rcases hc with rfl | hc | rfl
    · decide
    · exact isPlain_of_mem_itemsText ih c hc
    · decide
  | object hkeys _ ih =>
    intro c hc
    rw [toList_write_object hkeys, List.mem_cons, List.mem_append, List.mem_singleton] at hc
    rcases hc with rfl | hc | rfl
    · decide
    · exact isPlain_of_mem_entriesText ih c hc
    · decide

end Json

end PlotPipe
