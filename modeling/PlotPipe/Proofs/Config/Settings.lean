import Mathlib.Data.List.Forall2
import PlotPipe.Config.Session
import PlotPipe.Proofs.Outcome
/-!
# Configuration — what a table says

A table says settings (`SessionConfig.IsSaid`) when it has no field but
the known ones and each of these says its part; then these settings are
read from it, and otherwise nothing is (`SessionConfig.ofTable_eq_ok_iff`).
A failure is always about the configuration. What a set of values keeps
follows (`SessionConfig.keeps_iff`): the values beside a session table
are the ones that are dropped.
-/

namespace PlotPipe

theorem Datum.lookup_eq_none_iff {α : Type} {key : String} {entries : List (String × α)} :
    Datum.lookup key entries = none ↔ key ∉ entries.map Prod.fst := by
  rw [lookup, Option.map_eq_none_iff, List.find?_eq_none, List.mem_map, not_exists]
  simp only [decide_eq_true_eq, not_and]

namespace SessionConfig

variable {α : Type} {field : String} {ds : List Datum} {s : Option String}
  {ss : List String} {b : Bool} {failure : Failure} {c : SessionConfig}
  {table values : List (String × Datum)}

/-! ## Fields -/

/-- A field that says a text, or nothing. -/
inductive SaysText : Option Datum → Option String → Prop
  | missing : SaysText none none
  | null : SaysText (some .null) none
  | text {d : Datum} {s : String} : d.text? = some s → SaysText (some d) (some s)

/-- A field that says texts; a missing one says that there are none. -/
inductive SaysTexts : Option Datum → List String → Prop
  | missing : SaysTexts none []
  | list {ds : List Datum} {ss : List String} :
      List.Forall₂ (fun d s => d.text? = some s) ds ss → SaysTexts (some (.list ds)) ss

/-- A field that says a truth value; a missing one says that it is
false. -/
inductive SaysTruth : Option Datum → Bool → Prop
  | missing : SaysTruth none false
  | truth (b : Bool) : SaysTruth (some (.truth b)) b

theorem optionalText_eq_ok_iff :
    optionalText field table = .ok s ↔ SaysText (Datum.lookup field table) s := by
  unfold optionalText
  generalize Datum.lookup field table = entry
  constructor
  · intro h
    split at h
    · cases h
      exact .missing
    · cases h
      exact .null
    · split at h
      · rename_i htext
        cases h
        exact .text htext
      · cases h
  · rintro (_ | _ | hs)
    · rfl
    · rfl
    · split
      · contradiction
      · rename_i hnull
        cases Option.some.inj hnull
        cases hs
      · rename_i d hd
        cases Option.some.inj hd
        rw [hs]

theorem texts_eq_ok_iff :
    texts field ds = .ok ss ↔ List.Forall₂ (fun d s => d.text? = some s) ds ss := by
  induction ds generalizing ss with
  | nil => cases ss <;> simp [texts]
  | cons d ds ih =>
    rw [texts]
    cases hd : d.text? with
    | none => simp [List.forall₂_cons_left_iff, hd]
    | some s =>
      simp only [map_eq_ok, ih, List.forall₂_cons_left_iff, hd, Option.some.injEq]
      constructor
      · rintro ⟨others, hothers, rfl⟩
        exact ⟨s, others, rfl, hothers, rfl⟩
      · rintro ⟨_, others, rfl, hothers, rfl⟩
        exact ⟨others, hothers, rfl⟩

theorem textList_eq_ok_iff :
    textList field table = .ok ss ↔ SaysTexts (Datum.lookup field table) ss := by
  unfold textList
  generalize Datum.lookup field table = entry
  constructor
  · intro h
    split at h
    · cases h
      exact .missing
    · exact .list (texts_eq_ok_iff.1 h)
    · cases h
  · rintro (_ | hs)
    · rfl
    · exact texts_eq_ok_iff.2 hs

theorem switch_eq_ok_iff : switch field table = .ok b ↔ SaysTruth (Datum.lookup field table) b := by
  unfold switch
  generalize Datum.lookup field table = entry
  constructor
  · intro h
    split at h
    · cases h
      exact .missing
    · cases h
      exact .truth _
    · cases h
  · rintro (_ | _) <;> rfl

/-! ## Tables -/

/-- All fields of a table are known. -/
def AllKnown (table : List (String × Datum)) : Prop := ∀ key ∈ table.map Prod.fst, key ∈ knownFields

/-- **A table says settings**: all of its fields are known, and each
setting is what its field says. -/
structure IsSaid (table : List (String × Datum)) (c : SessionConfig) : Prop where
  known : AllKnown table
  path : ∃ name, SaysText (Datum.lookup "path" table) name ∧ c.path = Launch.programOr name
  args : SaysTexts (Datum.lookup "args" table) c.args
  verbose : SaysTruth (Datum.lookup "verbose" table) c.verbose
  strict : SaysTruth (Datum.lookup "strict" table) c.strict
  journalPath : SaysText (Datum.lookup "transcript_path" table) c.journalPath

theorem isEmpty_unknownFields_iff : (unknownFields table).isEmpty = true ↔ AllKnown table := by
  rw [unknownFields, List.isEmpty_iff, ← List.length_eq_zero_iff, List.length_mergeSort,
    List.length_eq_zero_iff, List.filter_eq_nil_iff]
  simp [AllKnown]

theorem ofTable_eq_ok_iff : ofTable table = .ok c ↔ IsSaid table c := by
  unfold ofTable
  dsimp only
  constructor
  · intro h
    split at h
    · cases h
    rename_i hknown
    obtain ⟨name, hname, h⟩ := bind_eq_ok.1 h
    obtain ⟨args, hargs, h⟩ := bind_eq_ok.1 h
    obtain ⟨verbose, hverbose, h⟩ := bind_eq_ok.1 h
    obtain ⟨strict, hstrict, h⟩ := bind_eq_ok.1 h
    obtain ⟨journalPath, hjournal, h⟩ := bind_eq_ok.1 h
    obtain rfl := pure_eq_ok.1 h
    exact {
      known := isEmpty_unknownFields_iff.1 (by simpa using hknown)
      path := ⟨name, optionalText_eq_ok_iff.1 hname, rfl⟩
      args := textList_eq_ok_iff.1 hargs
      verbose := switch_eq_ok_iff.1 hverbose
      strict := switch_eq_ok_iff.1 hstrict
      journalPath := optionalText_eq_ok_iff.1 hjournal }
  · rintro ⟨hknown, ⟨name, hname, hpath⟩, hargs, hverbose, hstrict, hjournal⟩
    rw [isEmpty_unknownFields_iff.2 hknown, optionalText_eq_ok_iff.2 hname,
      textList_eq_ok_iff.2 hargs, switch_eq_ok_iff.2 hverbose, switch_eq_ok_iff.2 hstrict,
      optionalText_eq_ok_iff.2 hjournal]
    obtain ⟨path, args, verbose, strict, journalPath⟩ := c
    obtain rfl := hpath
    rfl

/-! ## Failures -/

/-- A failure is about something else than the configuration. -/
def IsForeign (failure : Failure) : Prop := ∀ fault, failure ≠ .config fault

theorem not_foreign_config (fault : ConfigFault) :
    ¬ FailsWith IsForeign (.error (.config fault) : Except Failure α) := by
  rw [failsWith_error]
  exact fun h => h fault rfl

theorem not_foreign_optionalText : ¬ FailsWith IsForeign (optionalText field table) := by
  unfold optionalText
  split
  · exact not_failsWith_ok _
  · exact not_failsWith_ok _
  · split
    · exact not_failsWith_ok _
    · exact not_foreign_config _

theorem not_foreign_texts (ds : List Datum) : ¬ FailsWith IsForeign (texts field ds) := by
  induction ds with
  | nil => exact not_failsWith_ok _
  | cons d rest ih =>
    rw [texts]
    split
    · rwa [failsWith_map]
    · exact not_foreign_config _

theorem not_foreign_textList : ¬ FailsWith IsForeign (textList field table) := by
  unfold textList
  split
  · exact not_failsWith_ok _
  · exact not_foreign_texts _
  · exact not_foreign_config _

theorem not_foreign_switch : ¬ FailsWith IsForeign (switch field table) := by
  unfold switch
  split
  · exact not_failsWith_ok _
  · exact not_failsWith_ok _
  · exact not_foreign_config _

theorem not_foreign_ofTable : ¬ FailsWith IsForeign (ofTable table) := by
  unfold ofTable
  dsimp only
  split
  · exact not_foreign_config _
  · simp [failsWith_bind, not_foreign_optionalText, not_foreign_textList, not_foreign_switch,
      not_failsWith_ok, pure, Except.pure]

/-- **A configuration that is not read is at fault itself.** -/
theorem exists_fault_of_parse_eq_error (h : parse values = .error failure) :
    ∃ fault, failure = .config fault := by
  by_contra hforeign
  refine absurd ⟨failure, h, not_exists.1 hforeign⟩ (?_ : ¬ FailsWith IsForeign (parse values))
  unfold parse
  split
  · exact not_foreign_ofTable
  · exact not_foreign_ofTable
  · exact not_foreign_config _

/-! ## Values that are kept -/

/-- **Every value has its part in the settings**: there is no session, and
all values are fields that are known, or the session is all there is, and
the fields of its table are known. -/
inductive AllTakePart (values : List (String × Datum)) : Prop
  | fields : "session" ∉ values.map Prod.fst → AllKnown values → AllTakePart values
  | session {table : List (String × Datum)} : Datum.lookup "session" values = some (.dict table) →
      (∀ key ∈ values.map Prod.fst, key = "session") → AllKnown table → AllTakePart values

/-- **Settings are not dropped**: values that are read all take part, and
others fail as values that are wrong. -/
structure Keeps (values : List (String × Datum)) : Prop where
  accepted : ∀ c, parse values = .ok c → AllTakePart values
  rejected : ¬ AllTakePart values → FailsWith (fun failure => failure.kind = .value) (parse values)

/-- Values are dropped beside a session whose table says settings. -/
structure Drops (values table : List (String × Datum)) : Prop where
  session : Datum.lookup "session" values = some (.dict table)
  said : ∃ c, IsSaid table c
  beside : ∃ key ∈ values.map Prod.fst, key ≠ "session"

/-- Of values with a session, nothing else is looked at. -/
theorem parse_of_session {d : Datum} (h : Datum.lookup "session" values = some d) :
    parse values = parse [("session", d)] := by
  have hsingle : Datum.lookup "session" [("session", d)] = some d := by simp [Datum.lookup]
  unfold parse
  rw [h, hsingle]
  split
  · contradiction
  · rfl
  · rfl

/-- What is read takes part, or values are dropped. -/
theorem allTakePart_or_drops (h : parse values = .ok c) :
    AllTakePart values ∨ ∃ table, Drops values table := by
  unfold parse at h
  split at h
  · rename_i hnone
    exact .inl (.fields (Datum.lookup_eq_none_iff.1 hnone) (ofTable_eq_ok_iff.1 h).known)
  · rename_i table htable
    have hsaid := ofTable_eq_ok_iff.1 h
    by_cases hall : ∀ key ∈ values.map Prod.fst, key = "session"
    · exact .inl (.session htable hall hsaid.known)
    · push Not at hall
      exact .inr ⟨table, htable, ⟨c, hsaid⟩, hall⟩
  · cases h

theorem Drops.exists_parse_eq_ok (h : Drops values table) : ∃ c, parse values = .ok c := by
  obtain ⟨hsession, ⟨c, hsaid⟩, -⟩ := h
  refine ⟨c, ?_⟩
  unfold parse
  rw [hsession]
  exact ofTable_eq_ok_iff.2 hsaid

theorem Drops.not_allTakePart (h : Drops values table) : ¬ AllTakePart values := by
  obtain ⟨hsession, -, key, hkey, hne⟩ := h
  rintro (⟨hnone, -⟩ | ⟨-, hall, -⟩)
  · cases hsession.symm.trans (Datum.lookup_eq_none_iff.2 hnone)
  · exact hne (hall key hkey)

/-- **When settings are kept.** Settings are dropped exactly where there
are values beside a session whose table says settings by itself; they
are the settings of the session alone, whatever the other values are. -/
theorem keeps_iff (values : List (String × Datum)) :
    (Keeps values ↔ ¬ ∃ table, Drops values table) ∧
    ∀ d, Datum.lookup "session" values = some d → parse values = parse [("session", d)] := by
  refine ⟨⟨?_, fun hkept => ⟨fun c hc => ?_, fun hpart => ?_⟩⟩, fun d => parse_of_session⟩
  · rintro ⟨haccepted, -⟩ ⟨table, hdrops⟩
    obtain ⟨c, hc⟩ := hdrops.exists_parse_eq_ok
    exact hdrops.not_allTakePart (haccepted c hc)
  · exact (allTakePart_or_drops hc).resolve_right hkept
  · cases hparse : parse values with
    | ok c => exact absurd (allTakePart_or_drops hparse) (not_or.2 ⟨hpart, hkept⟩)
    | error failure =>
      obtain ⟨fault, rfl⟩ := exists_fault_of_parse_eq_error hparse
      exact failsWith_error.2 rfl

/-- A switch beside an empty session table is dropped. -/
theorem not_keeps_switch : ¬ Keeps [("session", .dict []), ("strict", .truth true)] := by
  have hdrops : Drops [("session", .dict []), ("strict", .truth true)] [] := {
    session := rfl
    said := ⟨{}, {
      known := nofun
      path := ⟨none, .missing, rfl⟩
      args := .missing
      verbose := .missing
      strict := .missing
      journalPath := .missing }⟩
    beside := ⟨"strict", by simp, by decide⟩ }
  obtain ⟨c, hc⟩ := hdrops.exists_parse_eq_ok
  exact fun h => hdrops.not_allTakePart (h.accepted c hc)

end SessionConfig

end PlotPipe
