import PlotPipe.Proofs.Json.Encode
import PlotPipe.Proofs.Json.Reading
import PlotPipe.Proofs.Json.Scalar
/-!
# JSON — values that can be written again

A value *fits* a writer of so many levels when it is nested no deeper,
its integers are not too long and every object has each of its keys once
(`Fits`). What was read fits what it was read with (`Reads.fits`); its
keys may stand in any order, which is what tells it from a storable
value. A value that fits somewhere can be written exactly where it fits
(`Fits.ofDatum_cases`): nothing but its depth is in the way. A storable
value means itself and is written as it is
(`Storable.ofDatum_toDatum`).
-/

namespace PlotPipe

namespace Json

/-- A value that a writer of so many levels takes. -/
inductive Fits : Nat → Json → Prop
  | null {levels : Nat} : Fits levels .null
  | truth {levels : Nat} (b : Bool) : Fits levels (.truth b)
  | int {levels : Nat} {i : ℤ} : i.natAbs < Datum.unwritable → Fits levels (.int i)
  | real {levels : Nat} (x : Binary64) : Fits levels (.real x)
  | text {levels : Nat} (s : String) : Fits levels (.text s)
  | list {levels : Nat} {items : List Json} :
      (∀ j ∈ items, Fits levels j) → Fits (levels + 1) (.list items)
  | object {levels : Nat} {row : List (String × Json)} : (row.map Prod.fst).Nodup →
      (∀ entry ∈ row, Fits levels entry.2) → Fits (levels + 1) (.object row)

variable {levels levels' : Nat} {j j' : Json} {row : List (String × Json)} {cs rest : List Char}

/-! ## What was read fits -/

theorem map_fst_put {α : Type} (key : String) (value : α) (entries : List (String × α)) :
    (put key value entries).map Prod.fst
      = if key ∈ entries.map Prod.fst then entries.map Prod.fst
        else entries.map Prod.fst ++ [key] := by
  induction entries with
  | nil => rfl
  | cons entry entries ih =>
    rw [put]
    by_cases hentry : entry.1 = key
    · rw [if_pos hentry, List.map_cons, List.map_cons, if_pos (List.mem_cons.2 (.inl hentry.symm))]
    · have hmem : key ∈ (entry :: entries).map Prod.fst ↔ key ∈ entries.map Prod.fst := by
        simp [Ne.symm hentry]
      rw [if_neg hentry, List.map_cons, ih]
      simp only [hmem]
      split <;> rfl

theorem mem_of_mem_put {α : Type} {key : String} {value : α} {entries : List (String × α)}
    {entry : String × α} (h : entry ∈ put key value entries) :
    entry.2 = value ∨ entry ∈ entries := by
  induction entries with
  | nil => exact .inl (congrArg Prod.snd (List.mem_singleton.1 h))
  | cons first entries ih =>
    rw [put] at h
    split at h
    · rcases List.mem_cons.1 h with rfl | h
      · exact .inl rfl
      · exact .inr (List.mem_cons_of_mem _ h)
    · rcases List.mem_cons.1 h with rfl | h
      · exact .inr List.mem_cons_self
      · exact (ih h).imp_right (List.mem_cons_of_mem _)

/-- The last value of each key is among those that were given, and has
the key for itself. -/
theorem lastWins_spec {α : Type} {P : α → Prop} {entries : List (String × α)}
    (h : ∀ entry ∈ entries, P entry.2) :
    ((lastWins entries).map Prod.fst).Nodup ∧ ∀ entry ∈ lastWins entries, P entry.2 := by
  have hfold : ∀ seen : List (String × α), (seen.map Prod.fst).Nodup →
      (∀ entry ∈ seen, P entry.2) →
      ((entries.foldl (fun seen entry => put entry.1 entry.2 seen) seen).map Prod.fst).Nodup ∧
        ∀ entry ∈ entries.foldl (fun seen entry => put entry.1 entry.2 seen) seen, P entry.2 := by
    induction entries with
    | nil => exact fun seen hnodup hseen => ⟨hnodup, hseen⟩
    | cons first entries ih =>
      intro seen hnodup hseen
      obtain ⟨hfirst, hentries⟩ := List.forall_mem_cons.1 h
      refine ih hentries _ ?_ fun entry hentry => ?_
      · rw [map_fst_put]
        split
        · exact hnodup
        · rename_i hnew
          exact List.nodup_append.2 ⟨hnodup, List.nodup_singleton _, fun a ha b hb heq =>
            hnew (List.mem_singleton.1 hb ▸ heq ▸ ha)⟩
      · rcases mem_of_mem_put hentry with hvalue | hentry
        · exact hvalue ▸ hfirst
        · exact hseen entry hentry
  exact hfold [] List.nodup_nil nofun

/-- The values of a phrase fit. -/
def Phrase.Fits (levels : Nat) : Phrase → Prop
  | value j => Json.Fits levels j
  | items js => ∀ j ∈ js, Json.Fits levels j
  | members row => ∀ entry ∈ row, Json.Fits levels entry.2

/-- **What is read fits.** -/
theorem Reads.fits {phrase : Phrase} (h : Reads levels phrase cs rest) : phrase.Fits levels := by
  induction h with
  | text => exact .text _
  | scalar hscalar =>
    rcases (of_scalar hscalar).2 with rfl | ⟨b, rfl⟩ | ⟨x, rfl⟩ | ⟨i, hi, rfl⟩
    · exact .null
    · exact .truth b
    · exact .real x
    · exact .int hi
  | noItems => exact .list nofun
  | list _ ih => exact .list ih
  | noMembers => exact .object List.nodup_nil nofun
  | object _ ih =>
    obtain ⟨hkeys, hvalues⟩ := lastWins_spec ih
    exact .object hkeys hvalues
  | lastItem _ _ ih => exact List.forall_mem_singleton.2 ih
  | item _ _ _ ih ihothers => exact List.forall_mem_cons.2 ⟨ih, ihothers⟩
  | lastMember _ _ _ _ ih => exact List.forall_mem_singleton.2 ih
  | member _ _ _ _ _ ih ihothers => exact List.forall_mem_cons.2 ⟨ih, ihothers⟩

theorem fits_of_readWithin {s : String} (h : readWithin levels s = .ok j) : Fits levels j := by
  obtain ⟨rest, hreads, -⟩ := exists_reads_of_readWithin h
  exact hreads.fits

/-! ## What fits is written -/

theorem Fits.keyed (h : Fits levels j) : j.toDatum.Keyed := by
  induction h with
  | list _ ih =>
    rw [toDatum, toData_eq_map]
    refine .list fun d hd => ?_
    obtain ⟨j, hj, rfl⟩ := List.mem_map.1 hd
    exact ih j hj
  | object hkeys _ ih =>
    rw [toDatum]
    refine .dict (by rw [map_fst_toEntries]; exact hkeys) fun entry hentry => ?_
    rw [toEntries_eq_map] at hentry
    obtain ⟨entry', hmem, rfl⟩ := List.mem_map.1 hentry
    exact ih entry' hmem
  | _ => exact .other (by rw [toDatum]; nofun) (by rw [toDatum]; nofun) (by rw [toDatum]; nofun)

/-- A JSON value means itself. -/
theorem Fits.means (h : Fits levels j) : Means j.toDatum j := by
  induction h with
  | null => exact .null
  | truth b => exact .truth b
  | int _ => exact .int _
  | real x => exact .real x
  | text s => exact .text s
  | list _ ih =>
    rw [toDatum, toData_eq_map]
    exact .list (List.forall₂_map_left_iff.2 (List.forall₂_same.2 ih))
  | @object _ row _ _ ih =>
    rw [toDatum, toEntries_eq_map]
    have hentries : List.Forall₂ (fun entry entry' => entry'.1 = entry.1 ∧ Means entry.2 entry'.2)
        (row.map fun entry => (entry.1, toDatum entry.2)) row :=
      List.forall₂_map_left_iff.2 (List.forall₂_same.2 fun entry hentry => ⟨rfl, ih entry hentry⟩)
    rw [forall₂_entries_iff] at hentries
    exact .object (List.Perm.refl _) hentries.1 hentries.2

/-- Only its depth keeps a value that fits somewhere from being written. -/
theorem Fits.of_eq_error {failure : Failure} (h : Fits levels j)
    (hfailure : ofDatum levels' j.toDatum = .error failure) :
    failure = .writtenTooDeep ∧ ¬ Fits levels' j := by
  induction h generalizing levels' with
  | int hi =>
    rw [toDatum, ofDatum, if_neg (Nat.not_le_of_lt hi)] at hfailure
    cases hfailure
  | list _ ih =>
    rw [toDatum, toData_eq_map] at hfailure
    cases levels' with
    | zero =>
      rw [ofDatum] at hfailure
      exact ⟨(Except.error.inj hfailure).symm, by rintro ⟨⟩⟩
    | succ levels' =>
      rw [ofDatum, map_eq_error] at hfailure
      obtain ⟨d, hd, hfailure⟩ := exists_of_ofData_eq_error hfailure
      obtain ⟨j, hj, rfl⟩ := List.mem_map.1 hd
      obtain ⟨hdeep, hnot⟩ := ih j hj hfailure
      refine ⟨hdeep, fun hfits => ?_⟩
      cases hfits with
      | list hall => exact hnot (hall j hj)
  | object _ _ ih =>
    rw [toDatum, toEntries_eq_map] at hfailure
    cases levels' with
    | zero =>
      rw [ofDatum] at hfailure
      exact ⟨(Except.error.inj hfailure).symm, by rintro ⟨⟩⟩
    | succ levels' =>
      rw [ofDatum, map_eq_error] at hfailure
      obtain ⟨entry, hentry, hfailure⟩ := exists_of_settle_eq_error hfailure
      obtain ⟨entry', hmem, rfl⟩ := List.mem_map.1 hentry
      obtain ⟨hdeep, hnot⟩ := ih entry' hmem hfailure
      refine ⟨hdeep, fun hfits => ?_⟩
      cases hfits with
      | object _ hall => exact hnot (hall entry' hmem)
  | _ =>
    rw [toDatum, ofDatum] at hfailure
    cases hfailure

theorem exists_of_forall₂ {α β : Type} {R : α → β → Prop} {as : List α} {bs : List β} {a : α}
    (h : List.Forall₂ R as bs) (ha : a ∈ as) : ∃ b, R a b := by
  induction h with
  | nil => cases ha
  | cons hab _ ih =>
    rcases List.mem_cons.1 ha with rfl | ha
    · exact ⟨_, hab⟩
    · exact ih ha

/-- A value that is written fits. -/
theorem Fits.of_eq_ok (h : Fits levels j) (hj' : ofDatum levels' j.toDatum = .ok j') :
    Fits levels' j := by
  induction h generalizing levels' j' with
  | null => exact .null
  | truth b => exact .truth b
  | int hi => exact .int hi
  | real x => exact .real x
  | text s => exact .text s
  | list _ ih =>
    rw [toDatum, toData_eq_map] at hj'
    cases levels' with
    | zero =>
      rw [ofDatum] at hj'
      cases hj'
    | succ levels' =>
      rw [ofDatum, map_eq_ok] at hj'
      obtain ⟨js, hjs, -⟩ := hj'
      rw [ofData_eq_ok_iff, List.forall₂_map_left_iff] at hjs
      refine .list fun j hj => ?_
      obtain ⟨_, hwritten⟩ := exists_of_forall₂ hjs hj
      exact ih j hj hwritten
  | object hkeys _ ih =>
    rw [toDatum, toEntries_eq_map] at hj'
    cases levels' with
    | zero =>
      rw [ofDatum] at hj'
      cases hj'
    | succ levels' =>
      rw [ofDatum, map_eq_ok] at hj'
      obtain ⟨row', hrow', -⟩ := hj'
      rw [settle_eq_ok_iff] at hrow'
      refine .object hkeys fun entry hentry => ?_
      have hmem := (sortKeys_perm _).mem_iff.2 (List.mem_map_of_mem (f := fun entry : String × Json =>
        (entry.1, toDatum entry.2)) hentry)
      obtain ⟨_, -, hwritten⟩ := exists_of_forall₂ hrow' hmem
      exact ih entry hentry hwritten

/-- **A value that fits somewhere is written exactly where it fits**; if
not, that is because of its depth. -/
theorem Fits.ofDatum_cases (h : Fits levels j) (levels' : Nat) :
    Fits levels' j ∧ (∃ j', ofDatum levels' j.toDatum = .ok j') ∨
      ¬ Fits levels' j ∧ ofDatum levels' j.toDatum = .error .writtenTooDeep := by
  cases hresult : ofDatum levels' j.toDatum with
  | ok j' => exact .inl ⟨h.of_eq_ok hresult, j', rfl⟩
  | error failure =>
    obtain ⟨rfl, hnot⟩ := h.of_eq_error hresult
    exact .inr ⟨hnot, rfl⟩

/-! ## Storable values -/

theorem Storable.fits (h : Storable levels j) : Fits levels j := by
  induction h with
  | null => exact .null
  | truth b => exact .truth b
  | int hi => exact .int hi
  | real x => exact .real x
  | text s => exact .text s
  | list _ ih => exact .list ih
  | object hkeys _ ih => exact .object (nodup_of_pairwise_lt hkeys) ih

/-- **A JSON value stays as it is**, unless it is nested too deep for the
writer. -/
theorem Storable.ofDatum_toDatum (h : Storable levels j) (levels' : Nat) :
    Storable levels' j ∧ ofDatum levels' j.toDatum = .ok j ∨
      ¬ Storable levels' j ∧ ofDatum levels' j.toDatum = .error .writtenTooDeep := by
  by_cases hstorable : Storable levels' j
  · exact .inl ⟨hstorable, (ofDatum_eq_ok_iff h.fits.keyed).2 ⟨h.fits.means, hstorable⟩⟩
  · cases hresult : ofDatum levels' j.toDatum with
    | error failure => exact .inr ⟨hstorable, congrArg _ (h.fits.of_eq_error hresult).1⟩
    | ok j' =>
      -- With levels enough for both, the value would become the one and the other.
      obtain ⟨hmeans, hstorable'⟩ := (ofDatum_eq_ok_iff h.fits.keyed).1 hresult
      have hsame : ofDatum (max levels levels') j.toDatum = .ok j :=
        (ofDatum_eq_ok_iff h.fits.keyed).2 ⟨h.fits.means, h.mono (Nat.le_max_left _ _)⟩
      have hother : ofDatum (max levels levels') j.toDatum = .ok j' :=
        (ofDatum_eq_ok_iff h.fits.keyed).2 ⟨hmeans, hstorable'.mono (Nat.le_max_right _ _)⟩
      rw [hsame] at hother
      cases hother
      exact absurd hstorable' hstorable

end Json

end PlotPipe
