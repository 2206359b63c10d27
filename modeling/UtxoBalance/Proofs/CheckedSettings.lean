import UtxoBalance.Proofs.Reduction
import UtxoBalance.Settings.Pipeline

/-!
# Settings that have been checked

Settings are only ever built by a check of what is given, so that what the check asks for
can be relied on: a keyspace is not empty, and rows are kept in a table that is named. A
check of several fields gives a value only if that of each field does, so this holds of the
settings of one reduction, and of those of every entry of a pipeline.

## Main definitions

- `Settings.Reduction.IsSound` — what is known of settings that have been checked

## Main statements

- `Settings.Checked.also_eq_ok_iff`, `Settings.required_eq_ok_iff`,
  `Settings.optional_eq_ok_iff` — the checks that give a value
- `Settings.Reduction.isSound_of_ofEntries` — checked settings of a reduction are sound
- `Settings.Pipeline.isSound_of_ofEntries` — so are those of each entry of a pipeline
-/

namespace UtxoBalance

/-! ## Entries behind fields -/

theorem Given.named?_ofFields (fields : Fields) (name : String) :
    Entries.named? (ofFields fields) name = (fields.lookup name).map ofDocument := by
  induction fields with
  | nil => rfl
  | cons field rest ih =>
    obtain ⟨other, value⟩ := field
    have hsame : (Atom.text (.whole name) == .text (.whole other)) = (name == other) := by
      rw [Bool.eq_iff_iff]
      simp
    rw [Entries.named?] at ih ⊢
    rw [ofFields, List.lookup_cons, List.lookup_cons, ih, hsame]
    cases name == other with
    | true => rfl
    | false => rfl

namespace Settings

/-! ## Checks that give a value -/

namespace Checked

theorem also_eq_ok_iff {α β : Type} {first : Checked α} {second : Checked β} {a : α} {b : β} :
    first.also second = .ok (a, b) ↔ first = .ok a ∧ second = .ok b := by
  cases first with
  | error issues => simp [also]
  | ok found =>
    cases second with
    | error issues => simp [also]
    | ok other => simp [also]

theorem inside_eq_ok_iff {α : Type} {step : Step} {check : Checked α} {a : α} :
    check.inside step = .ok a ↔ check = .ok a :=
  mapError_eq_ok_iff

/-- Each value of a checked list comes from the check of an item. -/
theorem exists_of_all_eq_ok {α : Type} {checks : List (Checked α)} {values : List α}
    (h : all checks = .ok values) : ∀ value ∈ values, ∃ check ∈ checks, check = .ok value := by
  induction checks generalizing values with
  | nil =>
    cases h
    simp
  | cons check rest ih =>
    obtain ⟨⟨first, others⟩, hboth, rfl⟩ := map_eq_ok_iff.1 h
    obtain ⟨hfirst, hothers⟩ := also_eq_ok_iff.1 hboth
    intro value hvalue
    rcases List.mem_cons.1 hvalue with rfl | hmem
    · exact ⟨check, List.mem_cons_self, hfirst⟩
    · obtain ⟨found, hfound, heq⟩ := ih hothers value hmem
      exact ⟨found, List.mem_cons_of_mem _ hfound, heq⟩

end Checked

theorem required_eq_ok_iff {α : Type} {check : Given → Checked α} {entries : Given.Entries}
    {name : String} {a : α} :
    required check entries name = .ok a ↔
      ∃ given, entries.named? name = some given ∧ check given = .ok a := by
  rw [required]
  cases entries.named? name with
  | none => simp [Checked.refuse, Checked.inside, Except.mapError]
  | some given => simp [Checked.inside_eq_ok_iff]

theorem optional_eq_ok_iff {α : Type} {fallback : α} {check : Given → Checked α}
    {entries : Given.Entries} {name : String} {a : α} :
    optional fallback check entries name = .ok a ↔
      entries.named? name = none ∧ a = fallback ∨
        ∃ given, entries.named? name = some given ∧ check given = .ok a := by
  rw [optional]
  cases entries.named? name with
  | none => simp [eq_comm]
  | some given => simp [Checked.inside_eq_ok_iff]

/-- A field that may be left out holds the value of its own, or one that has been checked. -/
theorem eq_or_exists_of_optional {α : Type} {fallback : α} {check : Given → Checked α}
    {entries : Given.Entries} {name : String} {a : α}
    (h : optional fallback check entries name = .ok a) :
    a = fallback ∨ ∃ given, check given = .ok a := by
  rcases optional_eq_ok_iff.1 h with ⟨-, hfallback⟩ | ⟨given, -, hgiven⟩
  · exact .inl hfallback
  · exact .inr ⟨given, hgiven⟩

theorem eq_ok_of_nullable {α : Type} {check : Given → Checked α} {given : Given} {a : α}
    (h : nullable check given = .ok (some a)) : check given = .ok a := by
  unfold nullable at h
  split at h
  · cases h
  · obtain ⟨found, hfound, heq⟩ := map_eq_ok_iff.1 h
    cases heq
    exact hfound

/-! ## Settings of a reduction -/

namespace Reduction

/-- What is known of settings that have been checked: a keyspace is not empty, and rows
    are kept in a table that is named. -/
structure IsSound (settings : Settings.Reduction) : Prop where
  /-- A keyspace is not empty. -/
  keyspace_ne : settings.keyspace ≠ some ""
  /-- Rows have a table. -/
  table_isSome : settings.resolvedBackend = .relational → settings.table.isSome

theorem ne_empty_of_checkKeyspace {given : Given} {keyspace : String}
    (h : checkKeyspace given = .ok keyspace) : keyspace ≠ "" := by
  obtain ⟨value, -, hvalue⟩ := bind_eq_ok_iff.1 h
  split at hvalue
  · cases hvalue
  · next hne =>
    cases hvalue
    rintro rfl
    exact hne rfl

theorem isName_of_checkTable {given : Given} {table : String} (h : checkTable given = .ok table) :
    Table.isName table = true := by
  obtain ⟨value, -, hvalue⟩ := bind_eq_ok_iff.1 h
  split at hvalue
  · next hname =>
    cases hvalue
    exact hname
  · cases hvalue

theorem checkBackend_eq_ok_iff {settings checked : Reduction} :
    checkBackend settings = .ok checked ↔
      settings = checked ∧ (checked.resolvedBackend = .relational → checked.table.isSome) := by
  rw [checkBackend]
  by_cases h : settings.resolvedBackend = .relational ∧ settings.table.isNone
  · rw [if_pos h]
    refine ⟨nofun, ?_⟩
    rintro ⟨rfl, hnamed⟩
    have htable := hnamed h.1
    rw [Option.isNone_iff_eq_none.1 h.2] at htable
    cases htable
  · rw [if_neg h]
    constructor
    · rintro ⟨⟩
      refine ⟨rfl, fun hrows => ?_⟩
      by_contra hnone
      exact h ⟨hrows, by simpa using hnone⟩
    · rintro ⟨rfl, -⟩
      rfl

/-- The checks behind settings: those of their texts, and of the store they ask for. -/
theorem checks_of_ofEntries {entries : Given.Entries} {settings : Reduction}
    (h : ofEntries entries = .ok settings) :
    optional none (nullable checkKeyspace) entries "prefix" = .ok settings.keyspace ∧
      optional none (nullable checkTable) entries "table" = .ok settings.table ∧
      (settings.resolvedBackend = .relational → settings.table.isSome) := by
  obtain ⟨⟨⟨mode, keyspace, table, backend, policy⟩, ⟨⟩⟩, hfields, hbackend⟩ :=
    bind_eq_ok_iff.1 h
  obtain ⟨hnamed, -⟩ := Checked.also_eq_ok_iff.1 hfields
  obtain ⟨-, hothers⟩ := Checked.also_eq_ok_iff.1 hnamed
  obtain ⟨hkeyspace, hrest⟩ := Checked.also_eq_ok_iff.1 hothers
  obtain ⟨htable, -⟩ := Checked.also_eq_ok_iff.1 hrest
  obtain ⟨rfl, hrows⟩ := checkBackend_eq_ok_iff.1 hbackend
  exact ⟨hkeyspace, htable, hrows⟩

theorem isSound_of_ofEntries {entries : Given.Entries} {settings : Reduction}
    (h : ofEntries entries = .ok settings) : settings.IsSound := by
  obtain ⟨hkeyspace, -, hrows⟩ := checks_of_ofEntries h
  refine ⟨fun hempty => ?_, hrows⟩
  rw [hempty] at hkeyspace
  rcases eq_or_exists_of_optional hkeyspace with hnone | ⟨given, hgiven⟩
  · cases hnone
  · exact ne_empty_of_checkKeyspace (eq_ok_of_nullable hgiven) rfl

theorem isName_of_ofEntries {entries : Given.Entries} {settings : Reduction}
    (h : ofEntries entries = .ok settings) :
    ∀ table ∈ settings.table, Table.isName table = true := by
  obtain ⟨-, htable, -⟩ := checks_of_ofEntries h
  intro table hmem
  rw [Option.mem_def.1 hmem] at htable
  rcases eq_or_exists_of_optional htable with hnone | ⟨given, hgiven⟩
  · cases hnone
  · exact isName_of_checkTable (eq_ok_of_nullable hgiven)

theorem isSound_of_check {given : Given} {settings : Reduction}
    (h : check given = .ok settings) : settings.IsSound := by
  obtain ⟨entries, -, hentries⟩ := bind_eq_ok_iff.1 h
  exact isSound_of_ofEntries hentries

theorem emitter_of_crdt {settings : Reduction} (h : settings.resolvedBackend = .crdt) :
    settings.emitter = .counters settings.keyspace := by
  rw [emitter, h]

theorem emitter_of_relational {settings : Reduction} (h : settings.resolvedBackend = .relational)
    {table : String} (htable : settings.table = some table) : settings.emitter = .rows table := by
  rw [emitter, h, htable]

theorem IsSound.exists_emitter_eq_rows {settings : Reduction} (hsound : settings.IsSound)
    (h : settings.resolvedBackend = .relational) : ∃ table, settings.emitter = .rows table := by
  obtain ⟨table, htable⟩ := Option.isSome_iff_exists.1 (hsound.table_isSome h)
  exact ⟨table, emitter_of_relational h htable⟩

end Reduction

/-! ## Settings of a pipeline -/

theorem Entry.isSound_of_check {given : Given} {entry : Entry} (h : check given = .ok entry) :
    entry.settings.IsSound := by
  obtain ⟨entries, -, hentries⟩ := bind_eq_ok_iff.1 h
  obtain ⟨⟨name, settings⟩, hfields, heq⟩ := bind_eq_ok_iff.1 hentries
  cases heq
  obtain ⟨-, hsettings⟩ := Checked.also_eq_ok_iff.1 hfields
  obtain ⟨given, -, hgiven⟩ := required_eq_ok_iff.1 hsettings
  exact Reduction.isSound_of_check hgiven

namespace Pipeline

theorem exists_of_mem_checksFrom {index : Nat} {items : List Given} {found : Checked Entry}
    (h : found ∈ checksFrom index items) :
    ∃ item step, found = (Entry.check item).inside step := by
  induction items generalizing index with
  | nil => cases h
  | cons item rest ih =>
    rcases List.mem_cons.1 h with rfl | hmem
    · exact ⟨item, _, rfl⟩
    · exact ih hmem

theorem isSound_of_checkEntries {given : Given} {entries : List Entry}
    (h : checkEntries given = .ok entries) : ∀ entry ∈ entries, entry.settings.IsSound := by
  obtain ⟨items, -, hall⟩ := bind_eq_ok_iff.1 h
  intro entry hentry
  obtain ⟨found, hfound, heq⟩ := Checked.exists_of_all_eq_ok hall entry hentry
  obtain ⟨item, step, rfl⟩ := exists_of_mem_checksFrom hfound
  exact Entry.isSound_of_check (Checked.inside_eq_ok_iff.1 heq)

theorem isSound_of_ofEntries {entries : Given.Entries} {settings : Pipeline}
    (h : ofEntries entries = .ok settings) :
    ∀ entry ∈ settings.entries, entry.settings.IsSound := by
  obtain ⟨⟨⟨reducers, logLevel, logFormat⟩, ⟨⟩⟩, hfields, heq⟩ := bind_eq_ok_iff.1 h
  cases heq
  obtain ⟨hnamed, -⟩ := Checked.also_eq_ok_iff.1 hfields
  obtain ⟨hreducers, -⟩ := Checked.also_eq_ok_iff.1 hnamed
  rcases eq_or_exists_of_optional hreducers with rfl | ⟨given, hgiven⟩
  · simp
  · exact isSound_of_checkEntries hgiven

end Pipeline

end Settings

end UtxoBalance
