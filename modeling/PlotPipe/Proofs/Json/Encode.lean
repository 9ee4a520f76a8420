import Mathlib.Data.List.Forall2
import PlotPipe.Proofs.Json.RoundTrip
import PlotPipe.Proofs.Outcome
/-!
# JSON — values of any kind as JSON

Which JSON value a value of any kind becomes is determined by what it
means (`Means`): scalars stand for themselves, lists and tuples are lists
of what their items mean, and a dictionary is an object with the same
keys and what is meant under each of them, in the order of the keys. A
value becomes JSON exactly when it means something storable
(`ofDatum_eq_ok_iff`).
-/

namespace PlotPipe

/-- A value whose dictionaries have each key once. -/
inductive Datum.Keyed : Datum → Prop
  | list {items : List Datum} : (∀ d ∈ items, d.Keyed) → Keyed (.list items)
  | tuple {items : List Datum} : (∀ d ∈ items, d.Keyed) → Keyed (.tuple items)
  | dict {entries : List (String × Datum)} : (entries.map Prod.fst).Nodup →
      (∀ entry ∈ entries, entry.2.Keyed) → Keyed (.dict entries)
  /-- Other values have no dictionaries that JSON looks at. -/
  | other {d : Datum} : (∀ items, d ≠ .list items) → (∀ items, d ≠ .tuple items) →
      (∀ entries, d ≠ .dict entries) → Keyed d

namespace Json

/-- A JSON value is what a value of any kind means. -/
inductive Means : Datum → Json → Prop
  | null : Means .null .null
  | truth (b : Bool) : Means (.truth b) (.truth b)
  | int (i : ℤ) : Means (.int i) (.int i)
  | real (x : Binary64) : Means (.real x) (.real x)
  | text (s : String) : Means (.text s) (.text s)
  | realCell (x : Binary64) : Means (.cell (.floating 64) (.real x)) (.real x)
  | textCell (s : String) : Means (.cell .text (.text s)) (.text s)
  | list {items : List Datum} {js : List Json} :
      List.Forall₂ Means items js → Means (.list items) (.list js)
  | tuple {items : List Datum} {js : List Json} :
      List.Forall₂ Means items js → Means (.tuple items) (.list js)
  /-- The order of the keys means nothing. -/
  | object {entries entries' : List (String × Datum)} {row : List (String × Json)} :
      entries'.Perm entries → row.map Prod.fst = entries'.map Prod.fst →
      List.Forall₂ Means (entries'.map Prod.snd) (row.map Prod.snd) →
      Means (.dict entries) (.object row)

variable {levels : Nat} {d : Datum} {j : Json} {entries entries' : List (String × Datum)}
  {row : List (String × Json)}

/-! ## Keys in order -/

theorem sortKeys_perm (entries : List (String × Datum)) : (sortKeys entries).Perm entries :=
  List.mergeSort_perm entries _

theorem pairwise_sortKeys (h : (entries.map Prod.fst).Nodup) :
    ((sortKeys entries).map Prod.fst).Pairwise (· < ·) := by
  have hle : (sortKeys entries).Pairwise fun a b => a.1 ≤ b.1 := by
    refine (List.pairwise_mergeSort ?_ ?_ entries).imp fun hab => of_decide_eq_true hab
    · intro a b c hab hbc
      exact decide_eq_true (String.le_trans (of_decide_eq_true hab) (of_decide_eq_true hbc))
    · intro a b
      rcases String.le_total a.1 b.1 with hab | hba
      · rw [decide_eq_true hab, Bool.true_or]
      · rw [decide_eq_true hba, Bool.or_true]
  have hne : ((sortKeys entries).map Prod.fst).Nodup :=
    ((sortKeys_perm entries).map Prod.fst).nodup_iff.2 h
  refine ((List.pairwise_map.2 hle).and hne).imp fun hab => ?_
  exact Std.lt_iff_le_and_ne.2 hab

/-- There is one order of keys that are told apart. -/
theorem sortKeys_eq_of_perm (hperm : entries'.Perm entries)
    (h : (entries'.map Prod.fst).Pairwise (· < ·)) : sortKeys entries = entries' := by
  have hnodup : (entries.map Prod.fst).Nodup :=
    (hperm.map Prod.fst).nodup_iff.1 (nodup_of_pairwise_lt h)
  have hsorted := List.pairwise_map.1 (pairwise_sortKeys hnodup)
  refine List.Perm.eq_of_pairwise ?_ hsorted (List.pairwise_map.1 h)
    ((sortKeys_perm entries).trans hperm.symm)
  intro a b _ _ hab hba
  exact absurd hba (String.lt_asymm hab)

/-- Entries correspond when their keys are the same and their values
correspond. -/
theorem forall₂_entries_iff {α β : Type} {R : α → β → Prop} {as : List (String × α)}
    {bs : List (String × β)} :
    List.Forall₂ (fun a b => b.1 = a.1 ∧ R a.2 b.2) as bs ↔
      bs.map Prod.fst = as.map Prod.fst ∧ List.Forall₂ R (as.map Prod.snd) (bs.map Prod.snd) := by
  induction as generalizing bs with
  | nil => cases bs <;> simp
  | cons a as ih =>
    cases bs with
    | nil => simp
    | cons b bs =>
      simp only [List.forall₂_cons, ih, List.map_cons, List.cons.injEq]
      tauto

/-! ## What becomes of lists and dictionaries -/

theorem forall₂_congr_of_mem {α β : Type} {R S : α → β → Prop} {as : List α} {bs : List β}
    (h : ∀ a ∈ as, ∀ b, R a b ↔ S a b) : List.Forall₂ R as bs ↔ List.Forall₂ S as bs := by
  induction as generalizing bs with
  | nil => rw [List.forall₂_nil_left_iff, List.forall₂_nil_left_iff]
  | cons a as ih =>
    rw [List.forall₂_cons_left_iff, List.forall₂_cons_left_iff]
    simp only [h a List.mem_cons_self, ih fun a' ha' => h a' (List.mem_cons_of_mem _ ha')]

theorem forall₂_and_right {α β : Type} {R : α → β → Prop} {p : β → Prop} {as : List α}
    {bs : List β} :
    List.Forall₂ (fun a b => R a b ∧ p b) as bs ↔ List.Forall₂ R as bs ∧ ∀ b ∈ bs, p b := by
  induction as generalizing bs with
  | nil => cases bs <;> simp
  | cons a as ih =>
    cases bs with
    | nil => simp
    | cons b bs =>
      simp only [List.forall₂_cons, ih, List.forall_mem_cons]
      tauto

theorem ofData_eq_ok_iff {items : List Datum} {js : List Json} : ofData levels items = .ok js ↔
    List.Forall₂ (fun d j => ofDatum levels d = .ok j) items js := by
  induction items generalizing js with
  | nil =>
    rw [List.forall₂_nil_left_iff, ofData]
    exact ⟨fun h => (Except.ok.inj h).symm, fun h => congrArg _ h.symm⟩
  | cons d items ih =>
    simp only [ofData, List.forall₂_cons_left_iff, bind_eq_ok, pure_eq_ok, ih]
    constructor
    · rintro ⟨j, hj, rest, hrest, rfl⟩
      exact ⟨j, rest, hj, hrest, rfl⟩
    · rintro ⟨j, rest, hj, hrest, rfl⟩
      exact ⟨j, hj, rest, hrest, rfl⟩

theorem ofEntries_eq_map (entries : List (String × Datum)) :
    ofEntries levels entries = entries.map fun entry => (entry.1, ofDatum levels entry.2) := by
  induction entries with
  | nil => rfl
  | cons entry entries ih => rw [ofEntries, List.map_cons, ih]

theorem settle_ofEntries (entries : List (String × Datum)) : settle (ofEntries levels entries)
    = (sortKeys entries).mapM fun entry => (ofDatum levels entry.2).map fun j => (entry.1, j) := by
  have hsort : sortKeys (ofEntries levels entries)
      = (sortKeys entries).map fun entry => (entry.1, ofDatum levels entry.2) := by
    rw [ofEntries_eq_map]
    exact (List.map_mergeSort (f := fun entry : String × Datum => (entry.1, ofDatum levels entry.2))
      fun _ _ _ _ => rfl).symm
  rw [settle, hsort, List.mapM_map]
  rfl

theorem settle_eq_ok_iff : settle (ofEntries levels entries) = .ok row ↔
    List.Forall₂ (fun entry entry' => entry'.1 = entry.1 ∧ ofDatum levels entry.2 = .ok entry'.2)
      (sortKeys entries) row := by
  rw [settle_ofEntries]
  induction sortKeys entries generalizing row with
  | nil =>
    rw [List.forall₂_nil_left_iff, List.mapM_nil, pure_eq_ok]
    exact ⟨Eq.symm, Eq.symm⟩
  | cons entry sorted ih =>
    simp only [List.mapM_cons, List.forall₂_cons_left_iff, bind_eq_ok, pure_eq_ok, map_eq_ok, ih]
    constructor
    · rintro ⟨_, ⟨j, hj, rfl⟩, rest, hrest, rfl⟩
      exact ⟨(entry.1, j), rest, ⟨rfl, hj⟩, hrest, rfl⟩
    · rintro ⟨⟨key, j⟩, rest, ⟨rfl, hj⟩, hrest, rfl⟩
      exact ⟨(entry.1, j), ⟨j, hj, rfl⟩, rest, hrest, rfl⟩

theorem ofDatum_list_eq_ok_iff {items : List Datum}
    (ih : ∀ d ∈ items, ∀ {levels j}, ofDatum levels d = .ok j ↔ Means d j ∧ Storable levels j) :
    ofDatum levels (.list items) = .ok j ↔
      ∃ js, j = .list js ∧ List.Forall₂ Means items js ∧ Storable levels (.list js) := by
  cases levels with
  | zero =>
    rw [ofDatum]
    constructor
    · nofun
    · rintro ⟨_, _, _, hstorable⟩
      cases hstorable
  | succ levels =>
    have hitems : ∀ js, ofData levels items = .ok js ↔
        List.Forall₂ Means items js ∧ ∀ j ∈ js, Storable levels j := by
      intro js
      rw [ofData_eq_ok_iff, forall₂_congr_of_mem fun d hd j => ih d hd, forall₂_and_right]
    rw [ofDatum]
    simp only [map_eq_ok, hitems]
    constructor
    · rintro ⟨js, ⟨hmeans, hstorable⟩, rfl⟩
      exact ⟨js, rfl, hmeans, .list hstorable⟩
    · rintro ⟨js, rfl, hmeans, hstorable⟩
      cases hstorable with
      | list hstorable => exact ⟨js, ⟨hmeans, hstorable⟩, rfl⟩

theorem ofDatum_dict_eq_ok_iff (hkeys : (entries.map Prod.fst).Nodup)
    (ih : ∀ entry ∈ entries, ∀ {levels j},
      ofDatum levels entry.2 = .ok j ↔ Means entry.2 j ∧ Storable levels j) :
    ofDatum levels (.dict entries) = .ok j ↔ Means (.dict entries) j ∧ Storable levels j := by
  cases levels with
  | zero =>
    rw [ofDatum]
    constructor
    · nofun
    · rintro ⟨hmeans, hstorable⟩
      cases hmeans with
      | object => cases hstorable
  | succ levels =>
    have hentries : ∀ row, settle (ofEntries levels entries) = .ok row ↔
        (row.map Prod.fst = (sortKeys entries).map Prod.fst ∧
          List.Forall₂ Means ((sortKeys entries).map Prod.snd) (row.map Prod.snd)) ∧
          ∀ entry ∈ row, Storable levels entry.2 := by
      intro row
      rw [settle_eq_ok_iff, ← forall₂_entries_iff, ← forall₂_and_right]
      refine forall₂_congr_of_mem fun entry hentry entry' => ?_
      rw [ih entry ((sortKeys_perm entries).mem_iff.1 hentry), and_assoc]
    rw [ofDatum]
    simp only [map_eq_ok, hentries]
    constructor
    · rintro ⟨row, ⟨⟨hfst, hmeans⟩, hstorable⟩, rfl⟩
      refine ⟨.object (sortKeys_perm entries) hfst hmeans, .object ?_ hstorable⟩
      rw [hfst]
      exact pairwise_sortKeys hkeys
    · rintro ⟨hmeans, hstorable⟩
      cases hmeans with
      | @object _ entries' row hperm hfst hmeans =>
        cases hstorable with
        | object hsorted hstorable =>
          rw [sortKeys_eq_of_perm hperm (hfst ▸ hsorted)]
          exact ⟨row, ⟨⟨hfst, hmeans⟩, hstorable⟩, rfl⟩

/-- What is no list and no dictionary becomes JSON by itself. -/
theorem ofDatum_other_eq_ok_iff (hlist : ∀ items, d ≠ .list items)
    (htuple : ∀ items, d ≠ .tuple items) (hdict : ∀ entries, d ≠ .dict entries) :
    ofDatum levels d = .ok j ↔ Means d j ∧ Storable levels j := by
  constructor
  · intro h
    rw [ofDatum.eq_def] at h
    split at h
    · cases h
      exact ⟨.null, .null⟩
    · cases h
      exact ⟨.truth _, .truth _⟩
    · split at h
      · cases h
      · rename_i hlong
        cases h
        exact ⟨.int _, .int (Nat.lt_of_not_le hlong)⟩
    · cases h
      exact ⟨.real _, .real _⟩
    · cases h
      exact ⟨.realCell _, .real _⟩
    · cases h
      exact ⟨.text _, .text _⟩
    · cases h
      exact ⟨.textCell _, .text _⟩
    · exact absurd rfl (hlist _)
    · exact absurd rfl (htuple _)
    · exact absurd rfl (hdict _)
    · cases h
  · rintro ⟨hmeans, hstorable⟩
    cases hmeans with
    | int i =>
      cases hstorable with
      | int hi => rw [ofDatum, if_neg (Nat.not_le_of_lt hi)]
    | list => exact absurd rfl (hlist _)
    | tuple => exact absurd rfl (htuple _)
    | object => exact absurd rfl (hdict _)
    | _ => rw [ofDatum]

/-- **A value becomes JSON exactly when it means something storable**,
and then it becomes what it means. -/
theorem ofDatum_eq_ok_iff (hd : d.Keyed) :
    ofDatum levels d = .ok j ↔ Means d j ∧ Storable levels j := by
  induction hd generalizing levels j with
  | list _ ih =>
    rw [ofDatum_list_eq_ok_iff ih]
    constructor
    · rintro ⟨js, rfl, hmeans, hstorable⟩
      exact ⟨.list hmeans, hstorable⟩
    · rintro ⟨hmeans, hstorable⟩
      cases hmeans with
      | list hmeans => exact ⟨_, rfl, hmeans, hstorable⟩
  | @tuple items _ ih =>
    have htuple : ofDatum levels (.tuple items) = ofDatum levels (.list items) := by
      cases levels <;> rfl
    rw [htuple, ofDatum_list_eq_ok_iff ih]
    constructor
    · rintro ⟨js, rfl, hmeans, hstorable⟩
      exact ⟨.tuple hmeans, hstorable⟩
    · rintro ⟨hmeans, hstorable⟩
      cases hmeans with
      | tuple hmeans => exact ⟨_, rfl, hmeans, hstorable⟩
  | dict hkeys _ ih => exact ofDatum_dict_eq_ok_iff hkeys ih
  | other hlist htuple hdict => exact ofDatum_other_eq_ok_iff hlist htuple hdict

/-! ## JSON values themselves -/

theorem toData_eq_map (items : List Json) : toData items = items.map toDatum := by
  induction items with
  | nil => rfl
  | cons j items ih => rw [toData, ih, List.map_cons]

theorem toEntries_eq_map (row : List (String × Json)) :
    toEntries row = row.map fun entry => (entry.1, toDatum entry.2) := by
  induction row with
  | nil => rfl
  | cons entry row ih => rw [toEntries, ih, List.map_cons]

theorem map_fst_toEntries (row : List (String × Json)) :
    (toEntries row).map Prod.fst = row.map Prod.fst := by
  rw [toEntries_eq_map, List.map_map]
  rfl

theorem exists_of_ofData_eq_error {items : List Datum} {failure : Failure}
    (h : ofData levels items = .error failure) : ∃ d ∈ items, ofDatum levels d = .error failure := by
  induction items with
  | nil =>
    rw [ofData] at h
    cases h
  | cons d items ih =>
    simp only [ofData, bind_eq_error] at h
    rcases h with h | ⟨j, -, h | ⟨js, -, h⟩⟩
    · exact ⟨d, List.mem_cons_self, h⟩
    · obtain ⟨d', hd', h⟩ := ih h
      exact ⟨d', List.mem_cons_of_mem _ hd', h⟩
    · cases h

theorem exists_of_settle_eq_error {failure : Failure}
    (h : settle (ofEntries levels entries) = .error failure) :
    ∃ entry ∈ entries, ofDatum levels entry.2 = .error failure := by
  have hsorted : ∃ entry ∈ sortKeys entries, ofDatum levels entry.2 = .error failure := by
    rw [settle_ofEntries] at h
    revert h
    induction sortKeys entries with
    | nil =>
      rw [List.mapM_nil]
      nofun
    | cons entry sorted ih =>
      intro h
      simp only [List.mapM_cons, bind_eq_error, map_eq_error] at h
      rcases h with h | ⟨j, -, h | ⟨js, -, h⟩⟩
      · exact ⟨entry, List.mem_cons_self, h⟩
      · obtain ⟨entry', hentry', h⟩ := ih h
        exact ⟨entry', List.mem_cons_of_mem _ hentry', h⟩
      · cases h
  obtain ⟨entry, hentry, h⟩ := hsorted
  exact ⟨entry, (sortKeys_perm entries).mem_iff.1 hentry, h⟩

end Json

end PlotPipe
