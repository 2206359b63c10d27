import UtxoBalance.Proofs.CheckedSettings
import UtxoBalance.Proofs.StakeGrouping

/-!
# Counters of several reducers

A counter is named by the key of an address behind a keyspace and a point, or by the
key alone. A keyspace is any text that is not empty, and may hold points itself, so
that one keyspace can begin like another. But no key holds a point: a bech32 text does
not, since neither its human-readable part nor its symbols do, and a base58 text does
not either. So the last point of a name ends its keyspace, a name without a point has
none, and reducers under different keyspaces never write to one counter.

## Main definitions

- `Command.counterName?`, `Command.counterNames` — the counters that commands add to

## Main statements

- `Address.point_notMem_key` — no key holds a point
- `Emitter.counterKey_injective` — the name of a counter tells its keyspace and its key
- `Reducer.mem_counterNames` — the counters that a reducer writes to
- `Composition.counterNames_disjoint_and_nodup` — no counter is written to twice
-/

namespace UtxoBalance

/-! ## Keys hold no point -/

theorem Bech32.point_notMem_encode {readable : String} (h : '.' ∉ readable.toList)
    (bytes : Bytes) : '.' ∉ (encode readable bytes).toList := by
  rw [toList_encode]
  intro hmem
  rcases List.mem_append.1 hmem with hreadable | hrest
  · exact h hreadable
  · rcases List.mem_cons.1 hrest with hseparator | hsymbols
    · exact absurd hseparator (by decide)
    · obtain ⟨group, -, hgroup⟩ := List.mem_map.1 hsymbols
      have hsymbol := symbol_mem_alphabet group
      rw [hgroup] at hsymbol
      exact absurd hsymbol (by decide)

theorem Base58.point_notMem_encode (bytes : Bytes) : '.' ∉ (encode bytes).toList := by
  intro hmem
  exact absurd (mem_alphabet_of_mem_encode _ hmem) (by decide)

namespace Address

theorem point_notMem_addressPart (network : Int) : '.' ∉ (addressPart network).toList := by
  rw [addressPart]
  split
  · decide
  · decide

theorem point_notMem_stakePart (network : Int) : '.' ∉ (stakePart network).toList := by
  rw [stakePart]
  split
  · decide
  · decide

theorem point_notMem_text (raw : Bytes) (kind : Kind) : '.' ∉ (text raw kind).toList := by
  cases kind with
  | byron => exact Base58.point_notMem_encode raw
  | reward => exact Bech32.point_notMem_encode (point_notMem_stakePart _) raw
  | base | pointer | enterprise =>
    exact Bech32.point_notMem_encode (point_notMem_addressPart _) raw

theorem point_notMem_of_stakeText? {raw : Bytes} {kind : Kind} {found : String}
    (h : stakeText? raw kind = some found) : '.' ∉ found.toList := by
  cases kind with
  | byron | pointer | enterprise => cases h
  | reward =>
    cases h
    exact Bech32.point_notMem_encode (point_notMem_stakePart _) _
  | base =>
    cases h
    exact Bech32.point_notMem_encode (point_notMem_stakePart _) _

/-- A key in stake mode is the text of a staking credential. -/
theorem exists_stakeText?_of_key {raw : Bytes} {found : String}
    (h : key raw .stake = .ok (some found)) : ∃ kind, stakeText? raw kind = some found := by
  cases hlayout : classify raw with
  | error error =>
    rw [key, hlayout] at h
    cases h
  | ok kind =>
    cases hfits : checkLength raw kind with
    | ok fits =>
      rw [key_stake_of_hasKind ⟨hlayout, hfits⟩] at h
      exact ⟨kind, Except.ok.inj h⟩
    | error error =>
      -- only layouts without a staking credential are not asked for their length
      rw [key, hlayout] at h
      change stakeKey raw kind = _ at h
      cases kind with
      | byron | pointer | enterprise => cases h
      | base | reward =>
        rw [stakeKey, hfits] at h
        cases h

/-- No key holds a point. -/
theorem point_notMem_key {raw : Bytes} {mode : Mode} {found : String}
    (h : key raw mode = .ok (some found)) : '.' ∉ found.toList := by
  cases mode with
  | payment =>
    obtain ⟨kind, -, hfound⟩ := key_payment_eq_ok.1 h
    cases hfound
    exact point_notMem_text raw kind
  | stake =>
    obtain ⟨kind, hfound⟩ := exists_stakeText?_of_key h
    exact point_notMem_of_stakeText? hfound

end Address

theorem Block.point_notMem_of_mem_keys {block : Block} {mode : Address.Mode}
    {direction : Direction} {key : String} (h : key ∈ (block.deltas mode direction).keys) :
    '.' ∉ key.toList := by
  obtain ⟨raw, -, hkey⟩ := Block.mem_keys_deltas.1 h
  exact Address.point_notMem_key (Address.key?_eq_some.1 hkey)

/-! ## Names of counters -/

namespace Emitter

theorem toList_counterKey {name : String} (h : name ≠ "") (key : String) :
    (counterKey (some name) key).toList = name.toList ++ '.' :: key.toList := by
  have hname : name.isEmpty = false := by simpa [String.isEmpty_iff] using h
  simp [counterKey, hname]

/-- The name of a counter tells its keyspace and its key, where keyspaces are not empty
    and keys hold no point. -/
theorem counterKey_injective {keyspace other : Option String} (hkeyspace : keyspace ≠ some "")
    (hother : other ≠ some "") {key another : String} (hkey : '.' ∉ key.toList)
    (hanother : '.' ∉ another.toList) (h : counterKey keyspace key = counterKey other another) :
    keyspace = other ∧ key = another := by
  have hlist := congrArg String.toList h
  cases keyspace with
  | none =>
    cases other with
    | none => exact ⟨rfl, h⟩
    | some name =>
      rw [toList_counterKey (fun heq => hother (congrArg some heq))] at hlist
      change key.toList = _ at hlist
      rw [hlist] at hkey
      exact absurd (List.mem_append_right _ List.mem_cons_self) hkey
  | some name =>
    rw [toList_counterKey (fun heq => hkeyspace (congrArg some heq))] at hlist
    cases other with
    | none =>
      change _ = another.toList at hlist
      rw [← hlist] at hanother
      exact absurd (List.mem_append_right _ List.mem_cons_self) hanother
    | some named =>
      rw [toList_counterKey (fun heq => hother (congrArg some heq))] at hlist
      -- neither key holds a point, so that both points are the last of their names
      obtain ⟨hname, hrest⟩ := Bech32.append_mark_inj hkey hanother hlist
      exact ⟨congrArg some (String.toList_inj.1 hname), String.toList_inj.1 hrest⟩

end Emitter

/-- The counter that a command adds to, if it adds to one. -/
def Command.counterName? : Command → Option String
  | .counter name _ => some name
  | .statement _ _ => none

/-- The counters that commands add to, in order and as often as they do. -/
def Command.counterNames (commands : List Command) : List String :=
  commands.filterMap counterName?

open Command (counterNames)

theorem Emitter.counterNames_counters (keyspace : Option String) (entries : Deltas) :
    counterNames (commands (.counters keyspace) entries) =
      entries.keys.map (counterKey keyspace) := by
  rw [commands, counterNames, List.filterMap_map, Deltas.keys, List.map_map,
    ← List.filterMap_eq_map]
  rfl

theorem Emitter.counterNames_rows (table : String) (entries : Deltas) :
    counterNames (commands (.rows table) entries) = [] := by
  cases entries with
  | nil => rfl
  | cons entry rest => rfl

/-! ## Counters of one reducer -/

namespace Reducer

/-- A reducer that keeps counters writes to that of each key, once. -/
theorem counterNames_of_crdt {reducer : Reducer} (h : reducer.settings.resolvedBackend = .crdt)
    (block : Block) (direction : Direction) :
    counterNames (reducer.commands block direction) =
      (Deltas.keys (Deltas.sorted (block.deltas reducer.settings.mode direction))).map
        (Emitter.counterKey reducer.settings.keyspace) := by
  rw [commands, Settings.Reduction.emitter_of_crdt h, Emitter.counterNames_counters]

theorem counterNames_of_relational {reducer : Reducer} (hsound : reducer.settings.IsSound)
    (h : reducer.settings.resolvedBackend = .relational) (block : Block)
    (direction : Direction) : counterNames (reducer.commands block direction) = [] := by
  obtain ⟨table, htable⟩ := hsound.exists_emitter_eq_rows h
  rw [commands, htable, Emitter.counterNames_rows]

theorem point_notMem_of_mem_sorted {block : Block} {mode : Address.Mode} {direction : Direction}
    {key : String} (h : key ∈ Deltas.keys (Deltas.sorted (block.deltas mode direction))) :
    '.' ∉ key.toList :=
  Block.point_notMem_of_mem_keys (((Deltas.sorted_perm _).map Prod.fst).mem_iff.1 h)

/-- The counters that a reducer writes to are under its keyspace, which is that of a
    reducer of counters. -/
theorem mem_counterNames {reducer : Reducer} (hsound : reducer.settings.IsSound) {block : Block}
    {direction : Direction} {name : String}
    (h : name ∈ counterNames (reducer.commands block direction)) :
    reducer.settings.resolvedBackend = .crdt ∧
      ∃ key, '.' ∉ key.toList ∧ Emitter.counterKey reducer.settings.keyspace key = name := by
  cases hbackend : reducer.settings.resolvedBackend with
  | relational =>
    rw [counterNames_of_relational hsound hbackend] at h
    exact absurd h List.not_mem_nil
  | crdt =>
    rw [counterNames_of_crdt hbackend] at h
    obtain ⟨key, hkey, hname⟩ := List.mem_map.1 h
    exact ⟨rfl, key, point_notMem_of_mem_sorted hkey, hname⟩

theorem nodup_counterNames {reducer : Reducer} (hsound : reducer.settings.IsSound)
    (block : Block) (direction : Direction) :
    (counterNames (reducer.commands block direction)).Nodup := by
  cases hbackend : reducer.settings.resolvedBackend with
  | relational =>
    rw [counterNames_of_relational hsound hbackend]
    exact List.nodup_nil
  | crdt =>
    rw [counterNames_of_crdt hbackend]
    refine List.Nodup.map_on ?_ (Deltas.nodup_keys_sorted (block.nodup_keys_deltas _ _))
    intro key hkey another hanother heq
    exact (Emitter.counterKey_injective hsound.keyspace_ne hsound.keyspace_ne
      (point_notMem_of_mem_sorted hkey) (point_notMem_of_mem_sorted hanother) heq).2

/-- Reducers under different keyspaces write to no counter in common, whatever the
    blocks. -/
theorem disjoint_counterNames {first second : Reducer} (hfirst : first.settings.IsSound)
    (hsecond : second.settings.IsSound)
    (hdiffer : first.settings.resolvedBackend = .crdt →
      second.settings.resolvedBackend = .crdt →
        first.settings.keyspace ≠ second.settings.keyspace)
    (block other : Block) (direction opposite : Direction) :
    (counterNames (first.commands block direction)).Disjoint
      (counterNames (second.commands other opposite)) := by
  intro name hname hother
  obtain ⟨hcrdt, key, hkey, rfl⟩ := mem_counterNames hfirst hname
  obtain ⟨hcrdt', another, hanother, heq⟩ := mem_counterNames hsecond hother
  exact hdiffer hcrdt hcrdt' (Emitter.counterKey_injective hsecond.keyspace_ne
    hfirst.keyspace_ne hanother hkey heq).1.symm

end Reducer

/-! ## Counters of a composition -/

namespace Composition

/-- Two reducers of counters under different keyspaces never write to one counter,
    whatever blocks they reduce in whatever directions. So the commands of a composition
    whose reducers of counters have keyspaces that all differ write to each counter
    once. -/
theorem counterNames_disjoint_and_nodup :
    (∀ first second : Settings.Reduction, first.IsSound → second.IsSound →
      first.resolvedBackend = .crdt → second.resolvedBackend = .crdt →
      first.keyspace ≠ second.keyspace →
      ∀ (block other : Block) (direction opposite : Direction) (given more : List Command),
        (Reducer.reduce ⟨first⟩ block direction).outcome = .ok given →
        (Reducer.reduce ⟨second⟩ other opposite).outcome = .ok more →
        (counterNames given).Disjoint (counterNames more)) ∧
    ∀ composition : Composition,
      (∀ reducer ∈ composition.reducers, reducer.settings.IsSound) →
      (composition.reducers.filter fun reducer =>
          reducer.settings.resolvedBackend = .crdt).Pairwise
        (fun reducer other => reducer.settings.keyspace ≠ other.settings.keyspace) →
      ∀ (block : Block) (direction : Direction) (given : List Command),
        (composition.reduce block direction).outcome = .ok given →
        (counterNames given).Nodup := by
  constructor
  · intro first second hfirst hsecond _ _ hdiffer block other direction opposite given more
      hgiven hmore
    obtain ⟨-, -, rfl⟩ := Reducer.reduce_eq_ok_iff.1 hgiven
    obtain ⟨-, -, rfl⟩ := Reducer.reduce_eq_ok_iff.1 hmore
    exact @Reducer.disjoint_counterNames ⟨first⟩ ⟨second⟩ hfirst hsecond (fun _ _ => hdiffer)
      block other direction opposite
  · intro composition hsound hdiffer block direction given hgiven
    obtain ⟨-, rfl⟩ := reduceAll_eq_ok_iff.1 hgiven
    rw [counterNames, List.filterMap_flatMap, List.nodup_flatMap]
    refine ⟨fun reducer hreducer => Reducer.nodup_counterNames (hsound reducer hreducer) _ _, ?_⟩
    -- reducers of rows are left out by the assumption, and write to no counter
    refine (List.pairwise_filter.1 hdiffer).imp_of_mem ?_
    intro reducer other hreducer hother hne
    exact Reducer.disjoint_counterNames (hsound reducer hreducer) (hsound other hother)
      (fun hcrdt hcrdt' => hne (decide_eq_true hcrdt) (decide_eq_true hcrdt')) block block
      direction direction

/-- Counters under a keyspace, counters under one that begins like it, counters under
    none, and rows. -/
def nestedKeyspaces : Composition :=
  ⟨[⟨{ mode := .payment, keyspace := some "a" }⟩, ⟨{ mode := .payment, keyspace := some "a.b" }⟩,
    ⟨{ mode := .stake }⟩, ⟨{ mode := .payment, table := some "paid" }⟩]⟩

theorem nestedKeyspaces_reduce : ∀ reducer ∈ nestedKeyspaces.reducers,
    (reducer.reduce Walker.sharedStake .apply).outcome =
      .ok (reducer.commands Walker.sharedStake .apply) := by
  have hruns : ∀ reducer ∈ nestedKeyspaces.reducers,
      reducer.settings.walker.abort? Walker.sharedStake.items = none ∧
        reducer.settings.emitter.canWrite
          (Walker.sharedStake.deltas reducer.settings.mode .apply) = true := by
    decide +kernel
  intro reducer hreducer
  obtain ⟨hwalk, hwrite⟩ := hruns reducer hreducer
  exact Reducer.reduce_eq_ok_iff.2 ⟨hwalk, hwrite, rfl⟩

theorem counterNames_disjoint_and_nodup_nestedKeyspaces :
    (counterNames (Reducer.commands ⟨{ mode := .payment, keyspace := some "a" }⟩
        Walker.sharedStake .apply)).Disjoint
      (counterNames (Reducer.commands ⟨{ mode := .payment, keyspace := some "a.b" }⟩
        Walker.sharedStake .apply)) ∧
    ∃ given, (nestedKeyspaces.reduce Walker.sharedStake .apply).outcome = .ok given ∧
      (counterNames given).Nodup := by
  have hsound : ∀ reducer ∈ nestedKeyspaces.reducers, reducer.settings.IsSound := by
    have hchecks : ∀ reducer ∈ nestedKeyspaces.reducers,
        reducer.settings.keyspace ≠ some "" ∧ (reducer.settings.resolvedBackend = .relational →
          reducer.settings.table.isSome = true) := by
      decide
    exact fun reducer hreducer => ⟨(hchecks reducer hreducer).1, (hchecks reducer hreducer).2⟩
  have hall : (nestedKeyspaces.reduce Walker.sharedStake .apply).outcome =
      .ok (nestedKeyspaces.reducers.flatMap (Reducer.commands · Walker.sharedStake .apply)) :=
    reduceAll_eq_ok_iff.2
      ⟨fun reducer hreducer => ⟨_, nestedKeyspaces_reduce reducer hreducer⟩, rfl⟩
  refine ⟨?_, _, hall, ?_⟩
  · exact counterNames_disjoint_and_nodup.1 _ _ (hsound ⟨_⟩ (by decide)) (hsound ⟨_⟩ (by decide))
      rfl rfl (by decide) _ _ _ _ _ _ (nestedKeyspaces_reduce _ (by decide))
      (nestedKeyspaces_reduce _ (by decide))
  · exact counterNames_disjoint_and_nodup.2 _ hsound (by decide) _ _ _ hall

end Composition

end UtxoBalance
