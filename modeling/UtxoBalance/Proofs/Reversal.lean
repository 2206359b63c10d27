import UtxoBalance.Proofs.Reduction

/-!
# Undoing a block

Undoing a block does what applying it does, with every amount negated. The two runs
see the same items in the same order, so they fail at the same place for the same
reason; where they succeed, they name the same keys in the same order and give each
amount with the other sign. An amount has as many digits as its negation, so that
counters can write both or neither.

## Main definitions

- `Command.Mirrors` — commands that take each other back

## Main statements

- `Block.deltas_undo` — the deltas of undoing are those of applying, negated
- `Emitter.commands_mirror` — the commands for negated deltas
- `Composition.undo_mirrors_apply` — undoing mirrors applying, failures included
-/

namespace UtxoBalance

/-- Commands that take each other back: one counter gets an amount and its negation,
    one table gets amounts and their negations for the same keys, and rows are cleaned
    up alike. -/
inductive Command.Mirrors : Command → Command → Prop
  | counter (key : String) (amount : Int) :
    Mirrors (.counter key (toString amount)) (.counter key (toString (-amount)))
  | upsert (table : String) (keys : List String) (amounts : List Int) :
    Mirrors
      (.statement (Table.upsert table) [.list (keys.map .text), .list (amounts.map .int)])
      (.statement (Table.upsert table)
        [.list (keys.map .text), .list (amounts.map fun amount => .int (-amount))])
  | cleanup (table : String) (keys : List String) :
    Mirrors (.statement (Table.cleanup table) [.list (keys.map .text)])
      (.statement (Table.cleanup table) [.list (keys.map .text)])

/-! ## Deltas -/

theorem Walk.Item.amount_undo (item : Walk.Item) : item.amount .undo = -item.amount .apply := by
  cases item with
  | created output => simp [amount, sign, Direction.outputSign]
  | spent output => simp [amount, sign, Direction.inputSign, Direction.outputSign]
  | unresolved => rfl

theorem Block.contributions_undo (mode : Address.Mode) (block : Block) :
    block.contributions mode .undo = (block.contributions mode .apply).negate := by
  rw [contributions, contributions, Deltas.negate, List.map_filterMap]
  congr 1
  funext item
  simp [Walk.Item.contribution, Walk.Item.amount_undo, Function.comp_def]

/-- The deltas of undoing a block are those of applying it, negated. -/
theorem Block.deltas_undo (mode : Address.Mode) (block : Block) :
    block.deltas mode .undo = (block.deltas mode .apply).negate := by
  rw [deltas, contributions_undo, Deltas.gather_negate]
  rfl

namespace Emitter

/-! ## Commands -/

theorem canWrite_negate (emitter : Emitter) (entries : Deltas) :
    emitter.canWrite entries.negate = emitter.canWrite entries := by
  cases emitter with
  | rows table => rfl
  | counters keyspace =>
    simp [canWrite, Deltas.negate, List.all_map, Function.comp_def, Int.natAbs_neg]

/-- The commands for negated entries take back those for the entries. -/
theorem commands_mirror (emitter : Emitter) (entries : Deltas) :
    List.Forall₂ Command.Mirrors (emitter.commands entries) (emitter.commands entries.negate) := by
  cases emitter with
  | counters keyspace =>
    simp only [commands, Deltas.negate, List.map_map, List.forall₂_map_left_iff,
      List.forall₂_map_right_iff, List.forall₂_same]
    intro entry _
    exact .counter _ entry.2
  | rows table =>
    cases entries with
    | nil => exact .nil
    | cons entry rest =>
      have hupsert := Command.Mirrors.upsert table ((entry :: rest).map Prod.fst)
        ((entry :: rest).map Prod.snd)
      have hcleanup := Command.Mirrors.cleanup table ((entry :: rest).map Prod.fst)
      simp only [List.map_map] at hupsert hcleanup
      simp only [commands, Deltas.negate, List.map_cons, keyParam, amountParam, List.map_map]
      exact .cons hupsert (.cons hcleanup .nil)

end Emitter

/-- Outcomes of two runs that take each other back: they fail alike, or give commands
    that do. -/
inductive Command.OutcomesMirror :
    Except Failure (List Command) → Except Failure (List Command) → Prop
  | failed (failure : Failure) : OutcomesMirror (.error failure) (.error failure)
  | given {applied undone : List Command} (h : List.Forall₂ Command.Mirrors applied undone) :
    OutcomesMirror (.ok applied) (.ok undone)

open Command (OutcomesMirror)

theorem Emitter.emit_mirror (emitter : Emitter) (deltas : Deltas) :
    OutcomesMirror (emitter.emit deltas) (emitter.emit deltas.negate) := by
  rw [emit_eq, emit_eq, canWrite_negate, Deltas.sorted_negate]
  split
  · exact .given (commands_mirror emitter _)
  · exact .failed _

theorem Reducer.reduce_mirror (reducer : Reducer) (block : Block) :
    OutcomesMirror (reducer.reduce block .apply).outcome (reducer.reduce block .undo).outcome := by
  rw [reduce_outcome, reduce_outcome, Block.deltas_undo]
  cases reducer.settings.walker.abort? block.items with
  | some error => exact .failed _
  | none => exact Emitter.emit_mirror _ _

namespace Composition

theorem reduceAll_mirror (block : Block) (reducers : List Reducer) :
    OutcomesMirror (reduceAll block .apply reducers).outcome
      (reduceAll block .undo reducers).outcome := by
  induction reducers with
  | nil => exact .given .nil
  | cons reducer rest ih =>
    rw [reduceAll_outcome_cons, reduceAll_outcome_cons]
    -- the four outcomes matter only as far as they mirror each other
    have hfirst := reducer.reduce_mirror block
    generalize (reducer.reduce block .apply).outcome = a at hfirst ⊢
    generalize (reducer.reduce block .undo).outcome = u at hfirst ⊢
    generalize (reduceAll block .apply rest).outcome = a' at ih ⊢
    generalize (reduceAll block .undo rest).outcome = u' at ih ⊢
    cases hfirst with
    | failed failure => exact .failed failure
    | given hfirst =>
      cases ih with
      | failed failure => exact .failed failure
      | given hrest => exact .given (List.rel_append hfirst hrest)

/-- Undoing a block mirrors applying it. The two runs of a composition fail for the
    same reason, or they give commands that take each other back place by place; and
    each reducer counts the same items in both. -/
theorem undo_mirrors_apply (composition : Composition) (block : Block) :
    ((∃ failure, (composition.reduce block .apply).outcome = .error failure ∧
        (composition.reduce block .undo).outcome = .error failure) ∨
      ∃ applied undone, (composition.reduce block .apply).outcome = .ok applied ∧
        (composition.reduce block .undo).outcome = .ok undone ∧
        List.Forall₂ Command.Mirrors applied undone) ∧
    (composition.reducers.map fun reducer =>
        (reducer.settings.walker.walk block .apply).outcome.map Walk.Tally.stats) =
      composition.reducers.map fun reducer =>
        (reducer.settings.walker.walk block .undo).outcome.map Walk.Tally.stats := by
  refine ⟨?_, List.map_congr_left fun reducer _ => ?_⟩
  · have h := reduceAll_mirror block composition.reducers
    simp only [reduce]
    generalize (reduceAll block .apply composition.reducers).outcome = a at h ⊢
    generalize (reduceAll block .undo composition.reducers).outcome = u at h ⊢
    cases h with
    | failed failure => exact .inl ⟨failure, rfl, rfl⟩
    | given h => exact .inr ⟨_, _, rfl, rfl, h⟩
  · rw [Walker.walk_outcome, Walker.walk_outcome]
    cases reducer.settings.walker.abort? block.items with
    | some error => rfl
    | none => rfl

end Composition

end UtxoBalance
