import UtxoBalance.Composition
import UtxoBalance.Proofs.Outcome
import UtxoBalance.Proofs.Walk

/-!
# What a reduction comes to

An emitter writes one command for each key, or one pair of statements for all keys
together. Only the counters can refuse, namely an amount with too many digits; then
there are no commands at all. With what a walk comes to, this gives the outcome of a
reducer from the settings and the items of the block, and that of a composition from
those of its reducers.

## Main definitions

- `Emitter.commands` — the commands for entries that are in order
- `Emitter.canWrite` — whether an emitter can write all amounts
- `Reducer.commands` — the commands that a reducer gives, where it gives any

## Main statements

- `Emitter.emit_eq` — what an emitter does with deltas
- `Reducer.reduce_outcome`, `Reducer.reduce_eq_ok_iff` — the outcome of a reducer
- `Composition.reduceAll_outcome_cons`, `Composition.reduceAll_eq_ok_iff` — the outcome of
  several reducers
-/

namespace UtxoBalance

namespace Emitter

/-- The counter command of one entry. -/
def counterCommand (keyspace : Option String) (entry : String × Int) : Command :=
  .counter (counterKey keyspace entry.1) (toString entry.2)

/-- The keys of entries, as a parameter of a statement. -/
def keyParam (entries : Deltas) : Document :=
  .list (entries.map fun entry => .text entry.1)

/-- The amounts of entries, as a parameter of a statement. -/
def amountParam (entries : Deltas) : Document :=
  .list (entries.map fun entry => .int entry.2)

/-- The commands for entries that are in order. -/
def commands : Emitter → Deltas → List Command
  | .counters keyspace, entries => entries.map (counterCommand keyspace)
  | .rows _, [] => []
  | .rows table, entries =>
    [.statement (Table.upsert table) [keyParam entries, amountParam entries],
      .statement (Table.cleanup table) [keyParam entries]]

/-- Whether an emitter can write all amounts. -/
def canWrite : Emitter → Deltas → Bool
  | .counters _, entries => entries.all fun entry => entry.2.natAbs < Numeral.bound
  | .rows _, _ => true

theorem canWrite_of_perm (emitter : Emitter) {first second : Deltas} (h : first.Perm second) :
    emitter.canWrite first = emitter.canWrite second := by
  cases emitter with
  | rows table => rfl
  | counters keyspace => exact h.all_eq

/-- Counter commands are written one by one, up to the first amount that is too long. -/
theorem mapM_emitCounter (keyspace : Option String) (entries : Deltas) :
    entries.mapM (emitCounter .ok keyspace) =
      if canWrite (.counters keyspace) entries then
        .ok (entries.map (counterCommand keyspace))
      else .error (.shape (.numeral .tooLarge)) := by
  refine mapM_eq_ite fun entry _ => ?_
  by_cases hentry : entry.2.natAbs < Numeral.bound
  · simp [emitCounter, Numeral.write, hentry, counterCommand, Except.mapError, bind,
      Except.bind, pure, Except.pure]
  · simp [emitCounter, Numeral.write, hentry, Except.mapError, bind, Except.bind]

/-- Statements are always written, unless there is nothing to say. -/
theorem emitSorted_rows (table : String) (entries : Deltas) :
    emitSorted .ok (.rows table) entries = .ok (commands (.rows table) entries) := by
  have hamounts : (entries.mapM fun entry => (.ok entry.2 : Except Failure Int)) =
      .ok (entries.map Prod.snd) := List.mapM_pure
  cases entries with
  | nil => rfl
  | cons entry rest =>
    simp only [emitSorted, hamounts]
    simp [bind, Except.bind, pure, Except.pure, commands, keyParam, amountParam]

/-- An emitter writes the commands for the sorted deltas, or none where it cannot write
    an amount. -/
theorem emit_eq (emitter : Emitter) (deltas : Deltas) :
    emitter.emit deltas =
      if emitter.canWrite deltas then .ok (emitter.commands (Deltas.sorted deltas))
      else .error (.shape (.numeral .tooLarge)) := by
  rw [← canWrite_of_perm emitter (Deltas.sorted_perm deltas), emit]
  cases emitter with
  | counters keyspace => exact mapM_emitCounter keyspace (Deltas.sorted deltas)
  | rows table => exact emitSorted_rows table (Deltas.sorted deltas)

end Emitter

namespace Reducer

/-- A reducer emits the deltas of the block, unless a failure ends its walk. -/
theorem reduce_outcome (reducer : Reducer) (block : Block) (direction : Direction) :
    (reducer.reduce block direction).outcome =
      match reducer.settings.walker.abort? block.items with
      | some error => .error (.address error)
      | none => reducer.settings.emitter.emit (block.deltas reducer.settings.mode direction) := by
  rw [reduce, Logged.outcome_bind, Walker.walk_outcome]
  cases reducer.settings.walker.abort? block.items with
  | some error => rfl
  | none =>
    show ((_ >>= _ : Logged _).outcome) = _
    rw [Logged.outcome_bind, Logged.outcome_lift]
    show (reducer.settings.emitter.emit (block.deltas reducer.settings.mode direction) >>= _) = _
    cases reducer.settings.emitter.emit (block.deltas reducer.settings.mode direction) with
    | error failure => rfl
    | ok commands => rfl

/-- The commands that a reducer gives for a block, where it gives any. -/
def commands (reducer : Reducer) (block : Block) (direction : Direction) : List Command :=
  reducer.settings.emitter.commands
    (Deltas.sorted (block.deltas reducer.settings.mode direction))

/-- A reducer gives its commands where its walk does not fail and all amounts can be
    written. -/
theorem reduce_eq_ok_iff {reducer : Reducer} {block : Block} {direction : Direction}
    {given : List Command} :
    (reducer.reduce block direction).outcome = .ok given ↔
      reducer.settings.walker.abort? block.items = none ∧
        reducer.settings.emitter.canWrite (block.deltas reducer.settings.mode direction) ∧
        given = reducer.commands block direction := by
  rw [reduce_outcome]
  cases reducer.settings.walker.abort? block.items with
  | some error => simp
  | none =>
    simp only [true_and, Emitter.emit_eq]
    by_cases hwrite : reducer.settings.emitter.canWrite (block.deltas reducer.settings.mode direction)
    · simp only [hwrite, if_true, true_and, Except.ok.injEq]
      exact eq_comm
    · simp [hwrite]

end Reducer

namespace Composition

theorem reduceAll_outcome_cons (block : Block) (direction : Direction) (reducer : Reducer)
    (rest : List Reducer) :
    (reduceAll block direction (reducer :: rest)).outcome = do
      let first ← (reducer.reduce block direction).outcome
      let more ← (reduceAll block direction rest).outcome
      return first ++ more := by
  simp only [reduceAll, Logged.outcome_bind, Logged.outcome_pure]
  rfl

/-- Reducers give their commands one after another, if all of them do. -/
theorem reduceAll_eq_ok_iff {block : Block} {direction : Direction} {reducers : List Reducer}
    {given : List Command} :
    (reduceAll block direction reducers).outcome = .ok given ↔
      (∀ reducer ∈ reducers, ∃ own, (reducer.reduce block direction).outcome = .ok own) ∧
        given = reducers.flatMap (Reducer.commands · block direction) := by
  induction reducers generalizing given with
  | nil =>
    have hnone : (reduceAll block direction []).outcome = .ok [] := rfl
    simp [hnone, eq_comm]
  | cons reducer rest ih =>
    rw [reduceAll_outcome_cons, List.forall_mem_cons, List.flatMap_cons]
    cases hfirst : (reducer.reduce block direction).outcome with
    | error failure => simp [bind, Except.bind]
    | ok first =>
      obtain ⟨-, -, rfl⟩ := Reducer.reduce_eq_ok_iff.1 hfirst
      cases hmore : (reduceAll block direction rest).outcome with
      | error failure =>
        -- without commands for the rest, some reducer of the rest gives none
        have hfails : ¬∀ other ∈ rest, ∃ own, (other.reduce block direction).outcome = .ok own := by
          intro hall
          have hsome := ih.2 ⟨hall, rfl⟩
          rw [hmore] at hsome
          cases hsome
        simp [bind, Except.bind, hfails]
      | ok more =>
        obtain ⟨hall, rfl⟩ := ih.1 hmore
        simp only [bind, Except.bind, pure, Except.pure, Except.ok.injEq, exists_eq', true_and]
        exact ⟨fun h => ⟨hall, h.symm⟩, fun h => h.2.symm⟩

end Composition

end UtxoBalance
