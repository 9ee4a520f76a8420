import PlotPipe.Proofs.Config.Settings
/-!
# Configuration — the tables that are read

A table is read when none of its fields is unknown and each holds a value
of its kind (`SessionConfig.IsWellFormed`), and what is read are the
values of its fields, with a value of their own for fields that are
missing and the default program for one without a name
(`SessionConfig.Carries`). A table may stand by itself or under the key of
the session, and settings that were read are read again from the table
they are written back to (`SessionConfig.ofTable_toTable_iff`).
-/

namespace PlotPipe

namespace SessionConfig

variable {entry : Option Datum} {program : String} {c : SessionConfig}
  {table : List (String × Datum)}

/-! ## Kinds of fields -/

/-- A field is missing, or it holds nothing or a text. -/
def HoldsText (entry : Option Datum) : Prop :=
  ∀ d ∈ entry, d = .null ∨ ∃ s, d.text? = some s

/-- A field is missing, or it holds a list of texts. -/
def HoldsTexts (entry : Option Datum) : Prop :=
  ∀ d ∈ entry, ∃ ds, d = .list ds ∧ ∀ item ∈ ds, ∃ s, item.text? = some s

/-- A field is missing, or it holds a truth value. -/
def HoldsTruth (entry : Option Datum) : Prop := ∀ d ∈ entry, ∃ b, d = .truth b

theorem exists_saysText_iff : (∃ s, SaysText entry s) ↔ HoldsText entry := by
  constructor
  · rintro ⟨_, _ | _ | hs⟩ d hd
    · cases hd
    · cases hd
      exact .inl rfl
    · cases hd
      exact .inr ⟨_, hs⟩
  · intro h
    rcases entry with _ | d
    · exact ⟨none, .missing⟩
    · rcases h d rfl with rfl | ⟨s, hs⟩
      · exact ⟨none, .null⟩
      · exact ⟨some s, .text hs⟩

theorem exists_saysTexts_iff : (∃ ss, SaysTexts entry ss) ↔ HoldsTexts entry := by
  constructor
  · rintro ⟨ss, _ | hss⟩ d hd
    · cases hd
    · cases hd
      exact ⟨_, rfl, exists_forall₂_iff.1 ⟨ss, hss⟩⟩
  · intro h
    rcases entry with _ | d
    · exact ⟨[], .missing⟩
    · obtain ⟨ds, rfl, hds⟩ := h d rfl
      obtain ⟨ss, hss⟩ := exists_forall₂_iff.2 hds
      exact ⟨ss, .list hss⟩

theorem exists_saysTruth_iff : (∃ b, SaysTruth entry b) ↔ HoldsTruth entry := by
  constructor
  · rintro ⟨b, _ | _⟩ d hd
    · cases hd
    · cases hd
      exact ⟨b, rfl⟩
  · intro h
    rcases entry with _ | d
    · exact ⟨false, .missing⟩
    · obtain ⟨b, rfl⟩ := h d rfl
      exact ⟨b, .truth b⟩

/-- A field that says a program: it is the default one where the field is
missing, holds nothing or is the empty text. -/
inductive SaysProgram : Option Datum → String → Prop
  | missing : SaysProgram none Launch.defaultProgram
  | null : SaysProgram (some .null) Launch.defaultProgram
  | empty {d : Datum} : d.text? = some "" → SaysProgram (some d) Launch.defaultProgram
  | named {d : Datum} {s : String} : d.text? = some s → s ≠ "" → SaysProgram (some d) s

theorem programOr_of_ne {s : String} (h : s ≠ "") : Launch.programOr (some s) = s := by
  rw [Launch.programOr]
  simp [h]

theorem saysProgram_iff :
    SaysProgram entry program ↔ ∃ name, SaysText entry name ∧ program = Launch.programOr name := by
  constructor
  · rintro (_ | _ | hd | ⟨hd, hne⟩)
    · exact ⟨none, .missing, rfl⟩
    · exact ⟨none, .null, rfl⟩
    · exact ⟨some "", .text hd, rfl⟩
    · exact ⟨_, .text hd, (programOr_of_ne hne).symm⟩
  · rintro ⟨_, _ | _ | hd, rfl⟩
    · exact .missing
    · exact .null
    · rename_i d s
      by_cases hs : s = ""
      · subst hs
        exact .empty hd
      · rw [programOr_of_ne hs]
        exact .named hd hs

/-- A field always says a program that has a name. -/
theorem SaysProgram.ne_empty (h : SaysProgram entry program) : program ≠ "" := by
  rcases h with _ | _ | _ | ⟨-, hne⟩
  · decide
  · decide
  · decide
  · exact hne

/-! ## Tables -/

/-- **A table is well formed**: all of its fields are known, and those of
them that are there hold values of their kinds. -/
structure IsWellFormed (table : List (String × Datum)) : Prop where
  known : AllKnown table
  path : HoldsText (Datum.lookup "path" table)
  args : HoldsTexts (Datum.lookup "args" table)
  verbose : HoldsTruth (Datum.lookup "verbose" table)
  strict : HoldsTruth (Datum.lookup "strict" table)
  journalPath : HoldsText (Datum.lookup "transcript_path" table)

/-- **Settings are the values of a table**, field by field. -/
structure Carries (table : List (String × Datum)) (c : SessionConfig) : Prop where
  path : SaysProgram (Datum.lookup "path" table) c.path
  args : SaysTexts (Datum.lookup "args" table) c.args
  verbose : SaysTruth (Datum.lookup "verbose" table) c.verbose
  strict : SaysTruth (Datum.lookup "strict" table) c.strict
  journalPath : SaysText (Datum.lookup "transcript_path" table) c.journalPath

theorem isSaid_iff : IsSaid table c ↔ AllKnown table ∧ Carries table c := by
  constructor
  · rintro ⟨hknown, hpath, hargs, hverbose, hstrict, hjournal⟩
    exact ⟨hknown, saysProgram_iff.2 hpath, hargs, hverbose, hstrict, hjournal⟩
  · rintro ⟨hknown, hpath, hargs, hverbose, hstrict, hjournal⟩
    exact ⟨hknown, saysProgram_iff.1 hpath, hargs, hverbose, hstrict, hjournal⟩

/-- **A table is read where it is well formed.** -/
theorem exists_ofTable_iff : (∃ c, ofTable table = .ok c) ↔ IsWellFormed table := by
  simp only [ofTable_eq_ok_iff]
  constructor
  · rintro ⟨c, hknown, ⟨name, hname, -⟩, hargs, hverbose, hstrict, hjournal⟩
    exact ⟨hknown, exists_saysText_iff.1 ⟨name, hname⟩, exists_saysTexts_iff.1 ⟨_, hargs⟩,
      exists_saysTruth_iff.1 ⟨_, hverbose⟩, exists_saysTruth_iff.1 ⟨_, hstrict⟩,
      exists_saysText_iff.1 ⟨_, hjournal⟩⟩
  · rintro ⟨hknown, hpath, hargs, hverbose, hstrict, hjournal⟩
    obtain ⟨name, hname⟩ := exists_saysText_iff.2 hpath
    obtain ⟨args, hargs⟩ := exists_saysTexts_iff.2 hargs
    obtain ⟨verbose, hverbose⟩ := exists_saysTruth_iff.2 hverbose
    obtain ⟨strict, hstrict⟩ := exists_saysTruth_iff.2 hstrict
    obtain ⟨journalPath, hjournal⟩ := exists_saysText_iff.2 hjournal
    exact ⟨⟨Launch.programOr name, args, verbose, strict, journalPath⟩, hknown, ⟨name, hname, rfl⟩,
      hargs, hverbose, hstrict, hjournal⟩

/-- What is read from a table are its values. -/
theorem ofTable_eq_ok_iff_carries :
    ofTable table = .ok c ↔ IsWellFormed table ∧ Carries table c := by
  constructor
  · intro h
    exact ⟨exists_ofTable_iff.1 ⟨c, h⟩, (isSaid_iff.1 (ofTable_eq_ok_iff.1 h)).2⟩
  · rintro ⟨hformed, hcarries⟩
    exact ofTable_eq_ok_iff.2 (isSaid_iff.2 ⟨hformed.known, hcarries⟩)

/-! ## Settings as a table -/

theorem known_toTable (c : SessionConfig) : AllKnown c.toTable := by
  intro key hkey
  have hkeys : c.toTable.map Prod.fst ⊆ knownFields := by
    rcases c with ⟨path, args, verbose, strict, _ | journalPath⟩ <;>
      simp [toTable, knownFields]
  exact hkeys hkey

/-- The table of settings that name a program carries them. -/
theorem carries_toTable (h : c.path ≠ "") : Carries c.toTable c := by
  have hpath : Datum.lookup "path" c.toTable = some (.text c.path) := rfl
  have hargs : Datum.lookup "args" c.toTable = some (.list (c.args.map .text)) := rfl
  have hverbose : Datum.lookup "verbose" c.toTable = some (.truth c.verbose) := rfl
  have hstrict : Datum.lookup "strict" c.toTable = some (.truth c.strict) := rfl
  constructor
  · rw [hpath]
    exact .named rfl h
  · rw [hargs]
    exact .list (List.forall₂_map_left_iff.2 (List.forall₂_same.2 fun _ _ => rfl))
  · rw [hverbose]
    exact .truth _
  · rw [hstrict]
    exact .truth _
  · rcases c with ⟨path, args, verbose, strict, _ | journalPath⟩
    · exact .missing
    · exact .text rfl

/-- **Settings are read from their own table**, unless they name no
program: an empty name is read as the default one. -/
theorem ofTable_toTable_iff (c : SessionConfig) : ofTable c.toTable = .ok c ↔ c.path ≠ "" := by
  rw [ofTable_eq_ok_iff, isSaid_iff]
  exact ⟨fun h => h.2.path.ne_empty, fun h => ⟨known_toTable c, carries_toTable h⟩⟩

/-- Outside a session table all values are fields. -/
theorem parse_of_not_mem (h : "session" ∉ table.map Prod.fst) : parse table = ofTable table := by
  rw [parse, Datum.lookup_eq_none_iff.2 h]

theorem parse_toTable (c : SessionConfig) : parse c.toTable = ofTable c.toTable :=
  parse_of_not_mem fun hmem => absurd (known_toTable c _ hmem) (by decide)

/-- **Which tables are read, and as what.** A table without a session is
read where it is well formed, as the settings that are its values; under
the key of the session it is read, or fails, in the same way; and the
settings are read again from the table they are written back to. -/
theorem parse_eq_ok_iff_carries (h : "session" ∉ table.map Prod.fst) :
    ((∃ c, parse table = .ok c) ↔ IsWellFormed table) ∧
    (∀ c, parse table = .ok c ↔ IsWellFormed table ∧ Carries table c) ∧
    parse [("session", .dict table)] = parse table ∧
    ∀ c, parse table = .ok c → parse c.toTable = .ok c := by
  rw [parse_of_not_mem h]
  refine ⟨exists_ofTable_iff, fun c => ofTable_eq_ok_iff_carries, rfl, fun c hc => ?_⟩
  rw [parse_toTable, ofTable_toTable_iff]
  exact (ofTable_eq_ok_iff_carries.1 hc).2.path.ne_empty

/-- A table with a program that has no name, one argument and a switch. -/
theorem parse_eq_ok_iff_carries_namelessProgram :
    let table : List (String × Datum) :=
      [("args", .list [.text "-persist"]), ("path", .text ""), ("strict", .truth true)]
    "session" ∉ table.map Prod.fst ∧ IsWellFormed table ∧
      ∃ c, parse [("session", .dict table)] = .ok c ∧ parse c.toTable = .ok c ∧
        c.path = Launch.defaultProgram := by
  intro table
  have hsession : "session" ∉ table.map Prod.fst := by decide
  have hcarries : Carries table { args := ["-persist"], strict := true } := {
    path := .empty rfl
    args := .list (.cons rfl .nil)
    verbose := .missing
    strict := .truth true
    journalPath := .missing }
  have hsaid : ofTable table = .ok { args := ["-persist"], strict := true } :=
    ofTable_eq_ok_iff.2 (isSaid_iff.2 ⟨by unfold AllKnown; decide, hcarries⟩)
  obtain ⟨-, hread, hsame, hagain⟩ := parse_eq_ok_iff_carries hsession
  have hparse := (parse_of_not_mem hsession).trans hsaid
  exact ⟨hsession, ((hread _).1 hparse).1, _, hsame.trans hparse, hagain _ hparse, rfl⟩

end SessionConfig

end PlotPipe
