import UtxoBalance.Proofs.Reversal
import UtxoBalance.Proofs.Store

/-!
# Stores along a chain

A composition keeps a store in step with a chain: for each block that is applied or
undone, its commands are run on the store. Whatever the steps, the store then holds
what it held before, plus the deltas of the applied blocks, less those of the undone
ones. That rows at zero are deleted on the way loses nothing, since a row that is
missing counts as zero; and that deltas keep keys which come to zero is what lets the
cleanup find all rows that have to go.

## Main definitions

- `Reducer.applyDeltas`, `Composition.change` — what applying a block adds
- `Composition.Step`, `Composition.follow` — steps along a chain, run on a store

## Main statements

- `Composition.executeAll_reduce` — what one step does to a store
- `Composition.follow_eq_shift` — what all steps together do
- `Composition.follow_settles` — balances, rows, order of steps, and undoing
-/

namespace UtxoBalance

namespace Reducer

/-- The deltas of applying a block; none where the walk fails. -/
def applyDeltas (reducer : Reducer) (block : Block) : Deltas :=
  match (reducer.settings.walker.walk block .apply).outcome with
  | .ok tally => tally.deltas
  | .error _ => []

theorem applyDeltas_eq {reducer : Reducer} {block : Block}
    (h : reducer.settings.walker.abort? block.items = none) :
    reducer.applyDeltas block = block.deltas reducer.settings.mode .apply := by
  rw [applyDeltas, Walker.walk_outcome, h]
  rfl

end Reducer

/-- A change as it is when a block is applied, or its opposite when it is undone. -/
def Direction.orient : Direction → Change → Change
  | .apply, change => change
  | .undo, change => -change

theorem Direction.orient_add (direction : Direction) (first second : Change) :
    direction.orient (first + second) = direction.orient first + direction.orient second := by
  cases direction with
  | apply => rfl
  | undo => exact neg_add first second

theorem Emitter.change_deltas (emitter : Emitter) (mode : Address.Mode) (direction : Direction)
    (block : Block) :
    emitter.change (block.deltas mode direction) =
      direction.orient (emitter.change (block.deltas mode .apply)) := by
  cases direction with
  | apply => rfl
  | undo => rw [Block.deltas_undo, change_negate, Direction.orient]

namespace Reducer

/-- The commands of a reducer do to a store what its deltas say. -/
theorem executeAll_reduce {reducer : Reducer} {block : Block} {direction : Direction}
    {commands : List Command} (h : (reducer.reduce block direction).outcome = .ok commands)
    {store : Store} (hstore : store.HasNoZeroRow) :
    store.executeAll commands = some (store.shift
      (direction.orient (reducer.settings.emitter.change (reducer.applyDeltas block)))) := by
  obtain ⟨habort, hwrite, rfl⟩ := reduce_eq_ok_iff.1 h
  have hperm := Deltas.sorted_perm (block.deltas reducer.settings.mode direction)
  rw [applyDeltas_eq habort, ← Emitter.change_deltas, ← Emitter.change_of_perm _ hperm]
  rw [← Emitter.canWrite_of_perm _ hperm] at hwrite
  exact Store.executeAll_commands hstore _
    (Deltas.nodup_keys_sorted (Deltas.nodup_keys_gather _)) hwrite

end Reducer

namespace Composition

/-- What applying a block adds: for each reducer its deltas, to the counters or the rows
    that it writes. -/
def change (composition : Composition) (block : Block) : Change :=
  (composition.reducers.map fun reducer =>
    reducer.settings.emitter.change (reducer.applyDeltas block)).sum

theorem change_cons (reducer : Reducer) (rest : List Reducer) (block : Block) :
    change ⟨reducer :: rest⟩ block =
      reducer.settings.emitter.change (reducer.applyDeltas block) + change ⟨rest⟩ block :=
  List.sum_cons

/-- A step along a chain. -/
structure Step where
  /-- Whether the block is applied or undone. -/
  direction : Direction
  /-- The block. -/
  block : Block

/-- The blocks of the steps in one direction. -/
def blocksOf (direction : Direction) (steps : List Step) : List Block :=
  (steps.filter fun step => step.direction = direction).map Step.block

/-- Runs the commands for each step on a store, as long as there are commands and the
    store understands them. -/
def follow (composition : Composition) (store : Store) (steps : List Step) : Option Store :=
  steps.foldlM (fun store step =>
    (composition.reduce step.block step.direction).outcome.toOption.bind store.executeAll) store

/-! ## One step -/

theorem executeAll_reduceAll {reducers : List Reducer} {block : Block} {direction : Direction}
    {commands : List Command} (h : (reduceAll block direction reducers).outcome = .ok commands)
    {store : Store} (hstore : store.HasNoZeroRow) :
    store.executeAll commands =
      some (store.shift (direction.orient (Composition.change ⟨reducers⟩ block))) := by
  induction reducers generalizing commands store with
  | nil =>
    have hnone : direction.orient (Composition.change ⟨[]⟩ block) = 0 := by
      cases direction with
      | apply => rfl
      | undo => exact neg_zero
    cases h
    rw [hnone, Store.shift_zero hstore]
    rfl
  | cons reducer rest ih =>
    rw [reduceAll_outcome_cons] at h
    cases hfirst : (reducer.reduce block direction).outcome with
    | error failure =>
      rw [hfirst] at h
      cases h
    | ok first =>
      cases hmore : (reduceAll block direction rest).outcome with
      | error failure =>
        rw [hfirst, hmore] at h
        cases h
      | ok more =>
        rw [hfirst, hmore] at h
        cases h
        -- the reducers after the first find the store that the first one leaves
        rw [Store.executeAll_append, Reducer.executeAll_reduce hfirst hstore, Option.bind_some,
          ih hmore (Store.hasNoZeroRow_shift store _), Store.shift_shift, change_cons,
          Direction.orient_add]

/-- One step changes a store by the deltas of its block. -/
theorem executeAll_reduce {composition : Composition} {block : Block} {direction : Direction}
    {commands : List Command} (h : (composition.reduce block direction).outcome = .ok commands)
    {store : Store} (hstore : store.HasNoZeroRow) :
    store.executeAll commands =
      some (store.shift (direction.orient (composition.change block))) :=
  executeAll_reduceAll h hstore

/-! ## All steps -/

/-- What steps change together. -/
def netChange (composition : Composition) (steps : List Step) : Change :=
  (steps.map fun step => step.direction.orient (composition.change step.block)).sum

theorem netChange_cons (composition : Composition) (step : Step) (rest : List Step) :
    composition.netChange (step :: rest) =
      step.direction.orient (composition.change step.block) + composition.netChange rest :=
  List.sum_cons

/-- All steps together change a store by what they change one by one. -/
theorem follow_eq_shift {composition : Composition} {store : Store}
    (hstore : store.HasNoZeroRow) {steps : List Step}
    (hsteps : ∀ step ∈ steps, ∃ commands,
      (composition.reduce step.block step.direction).outcome = .ok commands) :
    composition.follow store steps = some (store.shift (composition.netChange steps)) := by
  induction steps generalizing store with
  | nil =>
    have hnone : composition.netChange [] = 0 := rfl
    rw [hnone, Store.shift_zero hstore]
    rfl
  | cons step rest ih =>
    obtain ⟨commands, hcommands⟩ := hsteps step List.mem_cons_self
    have hrest : ∀ other ∈ rest, ∃ commands,
        (composition.reduce other.block other.direction).outcome = .ok commands :=
      fun other hother => hsteps other (List.mem_cons_of_mem _ hother)
    have hfollow : composition.follow store (step :: rest) =
        ((composition.reduce step.block step.direction).outcome.toOption.bind
          store.executeAll).bind (composition.follow · rest) := rfl
    -- no row stands at zero after a step either, which is what the next one asks for
    rw [hfollow, hcommands, Except.toOption, Option.bind_some, executeAll_reduce hcommands hstore,
      Option.bind_some, ih (Store.hasNoZeroRow_shift store _) hrest, Store.shift_shift,
      netChange_cons]

/-- The net change is that of the applied blocks less that of the undone ones. -/
theorem netChange_eq (composition : Composition) (steps : List Step) :
    composition.netChange steps =
      ((blocksOf .apply steps).map composition.change).sum -
        ((blocksOf .undo steps).map composition.change).sum := by
  induction steps with
  | nil => exact (sub_zero (0 : Change)).symm
  | cons step rest ih =>
    obtain ⟨direction, block⟩ := step
    rw [netChange_cons, ih]
    cases direction with
    | apply =>
      have happly : blocksOf .apply (⟨.apply, block⟩ :: rest) = block :: blocksOf .apply rest :=
        rfl
      have hundo : blocksOf .undo (⟨.apply, block⟩ :: rest) = blocksOf .undo rest := rfl
      rw [happly, hundo, List.map_cons, List.sum_cons, Direction.orient]
      abel
    | undo =>
      have happly : blocksOf .apply (⟨.undo, block⟩ :: rest) = blocksOf .apply rest := rfl
      have hundo : blocksOf .undo (⟨.undo, block⟩ :: rest) = block :: blocksOf .undo rest := rfl
      rw [happly, hundo, List.map_cons, List.sum_cons, Direction.orient]
      abel

theorem netChange_of_perm (composition : Composition) {first second : List Step}
    (h : first.Perm second) : composition.netChange first = composition.netChange second :=
  (h.map _).sum_eq

end Composition

theorem Change.counter_sum (changes : List Change) (name : String) :
    changes.sum.1 name = (changes.map fun change => change.1 name).sum := by
  induction changes with
  | nil => rfl
  | cons change rest ih => rw [List.sum_cons, List.map_cons, List.sum_cons, ← ih]; rfl

theorem Change.row_sum (changes : List Change) (table address : String) :
    changes.sum.2 table address = (changes.map fun change => change.2 table address).sum := by
  induction changes with
  | nil => rfl
  | cons change rest ih => rw [List.sum_cons, List.map_cons, List.sum_cons, ← ih]; rfl

namespace Composition

theorem netChange_counter (composition : Composition) (steps : List Step) (name : String) :
    (composition.netChange steps).1 name =
      ((blocksOf .apply steps).map fun block => (composition.change block).1 name).sum -
        ((blocksOf .undo steps).map fun block => (composition.change block).1 name).sum := by
  rw [netChange_eq, Prod.fst_sub, Pi.sub_apply, Change.counter_sum, Change.counter_sum,
    List.map_map, List.map_map]
  rfl

theorem netChange_row (composition : Composition) (steps : List Step) (table address : String) :
    (composition.netChange steps).2 table address =
      ((blocksOf .apply steps).map fun block => (composition.change block).2 table address).sum -
        ((blocksOf .undo steps).map fun block =>
          (composition.change block).2 table address).sum := by
  rw [netChange_eq, Prod.snd_sub, Pi.sub_apply, Pi.sub_apply, Change.row_sum, Change.row_sum,
    List.map_map, List.map_map]
  rfl

/-- A block that can be applied can be undone. -/
theorem exists_undo {composition : Composition} {block : Block} {commands : List Command}
    (h : (composition.reduce block .apply).outcome = .ok commands) :
    ∃ undone, (composition.reduce block .undo).outcome = .ok undone := by
  have hmirror := reduceAll_mirror block composition.reducers
  rw [reduce] at h ⊢
  rw [h] at hmirror
  generalize (reduceAll block .undo composition.reducers).outcome = undone at hmirror ⊢
  cases hmirror with
  | given _ => exact ⟨_, rfl⟩

/-- Applying a block and undoing it leaves a store as it is. -/
theorem follow_apply_undo {composition : Composition} {store : Store}
    (hstore : store.HasNoZeroRow) {block : Block} {commands : List Command}
    (h : (composition.reduce block .apply).outcome = .ok commands) :
    composition.follow store [⟨.apply, block⟩, ⟨.undo, block⟩] = some store := by
  have hsteps : ∀ step ∈ ([⟨.apply, block⟩, ⟨.undo, block⟩] : List Step), ∃ commands,
      (composition.reduce step.block step.direction).outcome = .ok commands := by
    intro step hstep
    rcases List.mem_cons.1 hstep with rfl | hstep
    · exact ⟨commands, h⟩
    · rw [List.mem_singleton.1 hstep]
      exact exists_undo h
  have hnet : composition.netChange [⟨.apply, block⟩, ⟨.undo, block⟩] = 0 := by
    rw [netChange_eq]
    exact sub_self _
  rw [follow_eq_shift hstore hsteps, hnet, Store.shift_zero hstore]

/-- From a store without rows at zero, all steps for which there are commands are run.
    Each counter then holds what it held before, plus what the applied blocks add, less
    what the undone ones add. Each table holds the addresses for which this comes to
    another balance than zero, with that balance. The order of the steps does not
    matter, and applying a block and undoing it leaves the store as it was. -/
theorem follow_settles (composition : Composition) {store : Store}
    (hstore : store.HasNoZeroRow) {steps : List Step}
    (hsteps : ∀ step ∈ steps, ∃ commands,
      (composition.reduce step.block step.direction).outcome = .ok commands) :
    ∃ final, composition.follow store steps = some final ∧
      (∀ name, final.counters name = store.counters name +
        ((blocksOf .apply steps).map fun block => (composition.change block).1 name).sum -
        ((blocksOf .undo steps).map fun block => (composition.change block).1 name).sum) ∧
      (∀ table address,
        let balance := (store.tables table).balance address +
          ((blocksOf .apply steps).map fun block =>
            (composition.change block).2 table address).sum -
          ((blocksOf .undo steps).map fun block =>
            (composition.change block).2 table address).sum
        final.tables table address = if balance = 0 then none else some balance) ∧
      (∀ others, others.Perm steps → composition.follow store others = some final) ∧
      ∀ block commands, (composition.reduce block .apply).outcome = .ok commands →
        composition.follow final [⟨.apply, block⟩, ⟨.undo, block⟩] = some final := by
  refine ⟨store.shift (composition.netChange steps), follow_eq_shift hstore hsteps, ?_, ?_, ?_, ?_⟩
  · intro name
    rw [Int.add_sub_assoc, ← netChange_counter]
    rfl
  · intro table address balance
    have hbalance : balance =
        (store.tables table).balance address + (composition.netChange steps).2 table address := by
      rw [netChange_row, ← Int.add_sub_assoc]
    rw [hbalance]
    rfl
  · intro others hothers
    rw [← netChange_of_perm composition hothers]
    exact follow_eq_shift hstore fun step hstep => hsteps step (hothers.mem_iff.1 hstep)
  · intro block commands hcommands
    exact follow_apply_undo (Store.hasNoZeroRow_shift _ _) hcommands

/-- Counters of payment balances and rows of staking balances. -/
def countersAndRows : Composition :=
  ⟨[⟨{ mode := .payment, keyspace := some "paid" }⟩, ⟨{ mode := .stake, table := some "staked" }⟩]⟩

/-- A block with one output, of five coins at a reward address. -/
def rewardOfFive : Block :=
  { transactions := [{ outputs := [⟨0xE1 :: List.replicate 28 7, 5⟩] }] }

theorem countersAndRows_reduce (direction : Direction) :
    ∃ commands, (countersAndRows.reduce rewardOfFive direction).outcome = .ok commands := by
  have hpaid : ∃ first, (Reducer.reduce ⟨{ mode := .payment, keyspace := some "paid" }⟩
      rewardOfFive direction).outcome = .ok first := by
    have hwrite : (Emitter.counters (some "paid")).canWrite
        (rewardOfFive.deltas .payment direction) = true := by
      cases direction <;> decide +kernel
    rw [Reducer.reduce_outcome]
    show ∃ first, Emitter.emit (.counters (some "paid")) _ = .ok first
    rw [Emitter.emit_eq, if_pos hwrite]
    exact ⟨_, rfl⟩
  have hstaked : ∃ more, (Reducer.reduce ⟨{ mode := .stake, table := some "staked" }⟩
      rewardOfFive direction).outcome = .ok more := by
    rw [Reducer.reduce_outcome]
    show ∃ more, Emitter.emit (.rows "staked") _ = .ok more
    rw [Emitter.emit_eq]
    exact ⟨_, if_pos rfl⟩
  obtain ⟨first, hfirst⟩ := hpaid
  obtain ⟨more, hmore⟩ := hstaked
  refine ⟨first ++ (more ++ []), ?_⟩
  rw [countersAndRows, reduce, reduceAll_outcome_cons, reduceAll_outcome_cons, hfirst, hmore]
  rfl

/-- Undone once and applied twice, the block leaves its five coins in both stores. -/
theorem follow_settles_rewardOfFive :
    Store.HasNoZeroRow ⟨fun _ => 0, fun _ _ => none⟩ ∧
      ∃ final, countersAndRows.follow ⟨fun _ => 0, fun _ _ => none⟩
          [⟨.undo, rewardOfFive⟩, ⟨.apply, rewardOfFive⟩, ⟨.apply, rewardOfFive⟩] = some final ∧
        final.counters "paid.stake1uyrswpc8qurswpc8qurswpc8qurswpc8qurswpc8qurswpc4vqlc2" = 5 ∧
        final.tables "staked" "stake1uyrswpc8qurswpc8qurswpc8qurswpc8qurswpc8qurswpc4vqlc2" =
          some 5 := by
  have hstore : Store.HasNoZeroRow ⟨fun _ => 0, fun _ _ => none⟩ := fun _ _ => nofun
  have hsteps : ∀ step ∈ [(⟨.undo, rewardOfFive⟩ : Step), ⟨.apply, rewardOfFive⟩,
      ⟨.apply, rewardOfFive⟩], ∃ commands,
        (countersAndRows.reduce step.block step.direction).outcome = .ok commands := by
    intro step hstep
    have hblock : step.block = rewardOfFive := by
      simp only [List.mem_cons, List.not_mem_nil, or_false] at hstep
      rcases hstep with rfl | rfl | rfl <;> rfl
    rw [hblock]
    exact countersAndRows_reduce step.direction
  obtain ⟨final, hfinal, hcounters, hrows, -⟩ := follow_settles countersAndRows hstore hsteps
  refine ⟨hstore, final, hfinal, ?_, ?_⟩
  · rw [hcounters]
    decide +kernel
  · rw [hrows]
    decide +kernel

end Composition

end UtxoBalance
