import UtxoBalance.Proofs.CheckedSettings

/-!
# Compositions and the reducers on their own

A composition is made of entries, each of which is checked by itself and names its reducer.
Each of these reducers may as well be run on its own, under the settings in its entry. The
settings are then checked in another way, which comes to the same where the entry is good.
So a composition gives the commands of all its reducers, one after another, if every entry is
good and every reducer on its own gives commands. Otherwise it fails: on account of the first
entry that is not good, or, if there is none, as the first reducer does that fails on its own.

## Main definitions

- `Listing` — an entry as it may be listed
- `Listing.IsGood`, `Listing.IsRefused` — the entries that are taken, and what is wrong with
  others
- `Listing.alone` — the reduction of one entry on its own
- `Composition.reduceListed` — the reduction of a composition of entries

## Main statements

- `Listing.alone_of_toReducer` — the reducer of an entry does what the entry does on its own
- `Composition.reduceAll_outcome` — reducers give their commands one after another
- `Composition.reduceListed_eq_alone` — a composition comes to its entries on their own
-/

namespace UtxoBalance

namespace Settings

/-- Settings that are good inside an entry are good by themselves. -/
theorem Reduction.ofValue_of_check {d : Document} {settings : Reduction}
    (h : check (.ofDocument d) = .ok settings) : ofValue d = .ok settings := by
  obtain ⟨entries, hentries, hsettings⟩ := bind_eq_ok_iff.1 h
  cases d with
  | object fields =>
    cases hentries
    exact mapError_eq_ok_iff.2 hsettings
  | _ => cases hentries

theorem Entry.check_of_ofEntries {fields : Fields} {entry : Entry}
    (h : ofEntries (Given.ofFields fields) = .ok entry) :
    Reduction.check (.ofDocument (Document.field fields "config")) = .ok entry.settings := by
  obtain ⟨⟨name, settings⟩, hfields, heq⟩ := bind_eq_ok_iff.1 h
  cases heq
  obtain ⟨-, hsettings⟩ := Checked.also_eq_ok_iff.1 hfields
  obtain ⟨given, hgiven, hcheck⟩ := required_eq_ok_iff.1 hsettings
  rw [Given.named?_ofFields] at hgiven
  obtain ⟨d, hd, rfl⟩ := Option.map_eq_some_iff.1 hgiven
  rw [Document.field, hd]
  exact hcheck

/-- Whether an entry names one of the reducers that are registered. -/
def Entry.IsRegistered (registry : List String) (entry : Entry) : Prop :=
  ∃ name ∈ registry, entry.name = .whole name

theorem Entry.isRegistered_iff {registry : List String} {entry : Entry} :
    entry.IsRegistered registry ↔ entry.name.whole?.any registry.contains = true := by
  unfold IsRegistered
  cases entry.name with
  | whole name => simp [Text.Raw.whole?]
  | broken points => simp [Text.Raw.whole?]

theorem Entry.toReducer_eq_ok_iff {registry : List String} {entry : Entry} {reducer : Reducer} :
    entry.toReducer registry = .ok reducer ↔
      entry.IsRegistered registry ∧ reducer = ⟨entry.settings⟩ := by
  rw [toReducer, isRegistered_iff]
  by_cases h : entry.name.whole?.any registry.contains = true
  · rw [if_pos h]
    simp [h, eq_comm]
  · rw [if_neg h]
    simp [h]

theorem Entry.toReducer_eq_error_iff {registry : List String} {entry : Entry}
    {failure : Failure} :
    entry.toReducer registry = .error failure ↔
      ¬entry.IsRegistered registry ∧ failure = .unknownReducer entry.name
        (registry.eraseDups.mergeSort (fun a b => a ≤ b)) := by
  rw [toReducer, isRegistered_iff]
  by_cases h : entry.name.whole?.any registry.contains = true
  · rw [if_pos h]
    simp [h]
  · rw [if_neg h]
    simp [h, eq_comm]

end Settings

/-! ## Entries on their own -/

/-- An entry as it may be listed: one that has been checked, a name with settings, or an
    object. -/
inductive Listing
  | entry (given : Settings.Entry)
  | pair (name settings : Document)
  | object (fields : Fields)

namespace Listing

variable {registry : List String} {listing : Listing}

def toCandidate : Listing → Candidate
  | .entry given => .entry given
  | .pair name settings => .row [name, settings]
  | .object fields => .value (.object fields)

/-- The commands for a block under the settings of one entry, whatever reducer it names. -/
def alone (block : Block) (direction : Direction) : Listing → Logged (List Command)
  | .entry given => Reducer.reduce ⟨given.settings⟩ block direction
  | .pair _ settings => reduceBlock block settings direction
  | .object fields => reduceBlock block (Document.field fields "config") direction

/-- Whether an entry is valid and names a reducer that is registered. -/
def IsGood (registry : List String) (listing : Listing) : Prop :=
  ∃ entry, listing.toCandidate.toEntry = .ok entry ∧ entry.IsRegistered registry

/-- What an entry is refused for that is not good. -/
inductive IsRefused (registry : List String) (listing : Listing) : Failure → Prop
  | invalid {failure : Failure} : listing.toCandidate.toEntry = .error failure →
      IsRefused registry listing failure
  | unregistered {entry : Settings.Entry} : listing.toCandidate.toEntry = .ok entry →
      ¬entry.IsRegistered registry →
      IsRefused registry listing
        (.unknownReducer entry.name (registry.eraseDups.mergeSort (fun a b => a ≤ b)))

/-- The reducer of an entry. -/
def toReducer (registry : List String) (listing : Listing) : Except Failure Reducer := do
  (← listing.toCandidate.toEntry).toReducer registry

theorem isGood_iff : listing.IsGood registry ↔
    ∃ reducer, listing.toReducer registry = .ok reducer := by
  simp only [IsGood, toReducer, bind_eq_ok_iff, Settings.Entry.toReducer_eq_ok_iff]
  constructor
  · rintro ⟨entry, hentry, hregistered⟩
    exact ⟨⟨entry.settings⟩, entry, hentry, hregistered, rfl⟩
  · rintro ⟨reducer, entry, hentry, hregistered, -⟩
    exact ⟨entry, hentry, hregistered⟩

theorem isRefused_iff {failure : Failure} : listing.IsRefused registry failure ↔
    listing.toReducer registry = .error failure := by
  simp only [toReducer, bind_eq_error_iff, Settings.Entry.toReducer_eq_error_iff]
  constructor
  · intro h
    cases h with
    | invalid hentry => exact .inl hentry
    | unregistered hentry hunknown => exact .inr ⟨_, hentry, hunknown, rfl⟩
  · rintro (hentry | ⟨entry, hentry, hunknown, rfl⟩)
    · exact .invalid hentry
    · exact .unregistered hentry hunknown

theorem reduceBlock_of_check {d : Document} {settings : Settings.Reduction}
    (h : Settings.Reduction.check (.ofDocument d) = .ok settings) (block : Block)
    (direction : Direction) :
    reduceBlock block d direction = Reducer.reduce ⟨settings⟩ block direction := by
  rw [reduceBlock, Settings.Reduction.ofValue_of_check h]
  rfl

/-- The settings of a valid entry are good on their own, and the same. -/
theorem alone_of_toEntry {entry : Settings.Entry}
    (h : listing.toCandidate.toEntry = .ok entry) (block : Block) (direction : Direction) :
    listing.alone block direction = Reducer.reduce ⟨entry.settings⟩ block direction := by
  cases listing with
  | entry given =>
    cases h
    rfl
  | pair name settings =>
    have hentry : Settings.Entry.ofEntries
        (Given.ofFields [("name", name), ("config", settings)]) = .ok entry :=
      mapError_eq_ok_iff.1 h
    exact reduceBlock_of_check (Settings.Entry.check_of_ofEntries hentry) block direction
  | object fields =>
    have hentry : Settings.Entry.ofEntries (Given.ofFields fields) = .ok entry :=
      mapError_eq_ok_iff.1 h
    exact reduceBlock_of_check (Settings.Entry.check_of_ofEntries hentry) block direction

theorem alone_of_toReducer {reducer : Reducer} (h : listing.toReducer registry = .ok reducer)
    (block : Block) (direction : Direction) :
    listing.alone block direction = reducer.reduce block direction := by
  obtain ⟨entry, hentry, hreducer⟩ := bind_eq_ok_iff.1 h
  obtain ⟨-, rfl⟩ := Settings.Entry.toReducer_eq_ok_iff.1 hreducer
  exact alone_of_toEntry hentry block direction

end Listing

/-! ## Compositions of entries -/

namespace Composition

/-- The commands of a composition of entries for a block. -/
def reduceListed (registry : List String) (listings : List Listing) (block : Block)
    (direction : Direction) : Logged (List Command) := do
  let composition ← ofCandidates registry (listings.map Listing.toCandidate)
  composition.reduce block direction

/-- The commands of several reducers are those of each, one after another. -/
theorem reduceAll_outcome (block : Block) (direction : Direction) (reducers : List Reducer) :
    (reduceAll block direction reducers).outcome =
      List.flatten <$> reducers.mapM fun reducer => (reducer.reduce block direction).outcome := by
  induction reducers with
  | nil => rfl
  | cons reducer rest ih =>
    rw [reduceAll_outcome_cons, ih, List.mapM_cons]
    cases (reducer.reduce block direction).outcome with
    | error failure => rfl
    | ok first =>
      cases rest.mapM fun reducer => (reducer.reduce block direction).outcome with
      | error failure => rfl
      | ok more => rfl

theorem reduceListed_outcome (registry : List String) (listings : List Listing) (block : Block)
    (direction : Direction) :
    (reduceListed registry listings block direction).outcome = (do
      let reducers ← listings.mapM (Listing.toReducer registry)
      List.flatten <$> reducers.mapM fun reducer => (reducer.reduce block direction).outcome) := by
  rw [reduceListed, ofCandidates, List.mapM_map]
  simp only [Logged.outcome_bind, Logged.outcome_lift]
  change (listings.mapM (Listing.toReducer registry) >>= _) >>= _ = _
  cases listings.mapM (Listing.toReducer registry) with
  | error failure => rfl
  | ok reducers => exact reduceAll_outcome block direction reducers

theorem mapM_reduce_eq_mapM_alone {registry : List String} {listings : List Listing}
    {reducers : List Reducer} (h : listings.mapM (Listing.toReducer registry) = .ok reducers)
    (block : Block) (direction : Direction) :
    (reducers.mapM fun reducer => (reducer.reduce block direction).outcome) =
      listings.mapM fun listing => (listing.alone block direction).outcome := by
  rw [mapM_eq_ok_iff] at h
  induction h with
  | nil => rfl
  | cons hfirst _ ih =>
    rw [List.mapM_cons, List.mapM_cons, ih, Listing.alone_of_toReducer hfirst]

theorem mapM_toReducer_eq_error_iff {registry : List String} {listings : List Listing}
    {failure : Failure} :
    listings.mapM (Listing.toReducer registry) = .error failure ↔
      FirstIn (Listing.IsGood registry) (Listing.IsRefused registry · failure) listings := by
  rw [mapM_eq_error_iff]
  simp only [FirstIn, Listing.isGood_iff, Listing.isRefused_iff]

theorem exists_mapM_toReducer_iff {registry : List String} {listings : List Listing} :
    (∃ reducers, listings.mapM (Listing.toReducer registry) = .ok reducers) ↔
      ∀ listing ∈ listings, listing.IsGood registry := by
  simp only [exists_mapM_eq_ok_iff, Listing.isGood_iff]

/-- A composition of entries gives the commands that its entries give on their own, one after
    another, if all entries are good and all give commands. Else it fails, on account of the
    first entry that is not good, or if all are good as the first that fails on its own. -/
theorem reduceListed_eq_alone (registry : List String) (listings : List Listing) (block : Block)
    (direction : Direction) :
    (∀ given, (reduceListed registry listings block direction).outcome = .ok given ↔
      (∀ listing ∈ listings, listing.IsGood registry) ∧ ∃ parts,
        List.Forall₂ (fun listing part => (listing.alone block direction).outcome = .ok part)
          listings parts ∧
        given = parts.flatten) ∧
    ∀ failure, (reduceListed registry listings block direction).outcome = .error failure ↔
      FirstIn (Listing.IsGood registry) (Listing.IsRefused registry · failure) listings ∨
        (∀ listing ∈ listings, listing.IsGood registry) ∧
          FirstIn (fun listing => ∃ part, (listing.alone block direction).outcome = .ok part)
            (fun listing => (listing.alone block direction).outcome = .error failure)
            listings := by
  rw [reduceListed_outcome]
  constructor
  · intro given
    rw [bind_eq_ok_iff]
    constructor
    · rintro ⟨reducers, hreducers, hgiven⟩
      rw [mapM_reduce_eq_mapM_alone hreducers] at hgiven
      obtain ⟨parts, hparts, rfl⟩ := map_eq_ok_iff.1 hgiven
      exact ⟨exists_mapM_toReducer_iff.1 ⟨reducers, hreducers⟩, parts,
        mapM_eq_ok_iff.1 hparts, rfl⟩
    · rintro ⟨hgood, parts, hparts, rfl⟩
      obtain ⟨reducers, hreducers⟩ := exists_mapM_toReducer_iff.2 hgood
      refine ⟨reducers, hreducers, ?_⟩
      rw [mapM_reduce_eq_mapM_alone hreducers]
      exact map_eq_ok_iff.2 ⟨parts, mapM_eq_ok_iff.2 hparts, rfl⟩
  · intro failure
    rw [bind_eq_error_iff, mapM_toReducer_eq_error_iff]
    refine or_congr_right ?_
    constructor
    · rintro ⟨reducers, hreducers, hfailure⟩
      rw [mapM_reduce_eq_mapM_alone hreducers] at hfailure
      exact ⟨exists_mapM_toReducer_iff.1 ⟨reducers, hreducers⟩,
        mapM_eq_error_iff.1 (map_eq_error_iff.1 hfailure)⟩
    · rintro ⟨hgood, hfirst⟩
      obtain ⟨reducers, hreducers⟩ := exists_mapM_toReducer_iff.2 hgood
      refine ⟨reducers, hreducers, ?_⟩
      rw [mapM_reduce_eq_mapM_alone hreducers]
      exact map_eq_error_iff.2 (mapM_eq_error_iff.2 hfirst)

end Composition

end UtxoBalance
