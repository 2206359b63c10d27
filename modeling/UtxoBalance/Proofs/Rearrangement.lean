import UtxoBalance.Proofs.Reduction

/-!
# Rearranged blocks

What a reduction gives depends on the outputs that a block creates and on the known
outputs that it spends, but not on their order, nor on the transactions they are in,
nor on anything else in the block. A walk visits the items of a rearranged block in
another order, fills its deltas in another order, and a strict one may stop at
another address; but it stops if the first one does, and sorted keys give the
commands one form.

## Main definitions

- `Block.outputs`, `Block.spends` — what a block creates and what it spends
- `Block.Rearranged` — blocks that agree in both up to order

## Main statements

- `Block.known_perm` — the items of a block, told by what it creates and spends
- `Walker.abort?_isSome_of_perm` — stopping does not depend on the order
- `Reducer.reduce_of_rearranged` — rearranged blocks are reduced alike
-/

namespace UtxoBalance

open Walk

/-- The outputs that a block creates. -/
def Block.outputs (block : Block) : List Output :=
  block.transactions.flatMap Transaction.outputs

/-- The known outputs that a block spends. -/
def Block.spends (block : Block) : List Output :=
  block.transactions.flatMap fun tx => tx.inputs.filterMap Input.spent

/-- Two blocks create the same outputs and spend the same known outputs, each as often
    as the other, in any order and in any transactions. -/
structure Block.Rearranged (first second : Block) : Prop where
  /-- The outputs created are the same. -/
  outputs : first.outputs.Perm second.outputs
  /-- The known outputs spent are the same. -/
  spends : first.spends.Perm second.spends

/-! ## Known items -/

/-- The items of a block whose outputs are known. -/
def Block.known (block : Block) : List Item :=
  block.items.filter fun item => !item.isUnresolved

theorem filter_known_inputs (inputs : List Input) :
    ((inputs.map Input.item).filter fun item => !item.isUnresolved) =
      (inputs.filterMap Input.spent).map .spent := by
  induction inputs with
  | nil => rfl
  | cons input rest ih =>
    rw [List.map_cons, List.filter_cons, ih, List.filterMap_cons]
    cases hspent : input.spent with
    | none => simp [Input.item, hspent, Item.isUnresolved]
    | some output => simp [Input.item, hspent, Item.isUnresolved]

theorem Transaction.known_items (tx : Transaction) :
    (tx.items.filter fun item => !item.isUnresolved) =
      tx.outputs.map .created ++ (tx.inputs.filterMap Input.spent).map .spent := by
  have houtputs : ((tx.outputs.map Item.created).filter fun item => !item.isUnresolved) =
      tx.outputs.map .created := by
    refine List.filter_eq_self.2 fun item hitem => ?_
    obtain ⟨output, -, rfl⟩ := List.mem_map.1 hitem
    rfl
  rw [items, List.filter_append, houtputs, filter_known_inputs]

/-- The known items of a block are the outputs that it creates and those that it
    spends, in some order. -/
theorem Block.known_perm (block : Block) :
    block.known.Perm (block.outputs.map .created ++ block.spends.map .spent) := by
  obtain ⟨transactions, slot, hash, height⟩ := block
  simp only [known, items, outputs, spends]
  induction transactions with
  | nil => exact .refl _
  | cons tx rest ih =>
    simp only [List.flatMap_cons, List.filter_append, List.map_append]
    rw [tx.known_items]
    -- what the first transaction spends has to pass what the others create
    refine (ih.append_left _).trans ?_
    rw [List.append_assoc, List.append_assoc]
    refine List.Perm.append_left _ ?_
    rw [← List.append_assoc, ← List.append_assoc]
    exact List.perm_append_comm.append_right _

theorem Block.Rearranged.known {first second : Block} (h : first.Rearranged second) :
    first.known.Perm second.known :=
  first.known_perm.trans
    (((h.outputs.map _).append (h.spends.map _)).trans second.known_perm.symm)

/-- What nothing is made of at an unknown output is made of the known items. -/
theorem Block.filterMap_items {α : Type} {f : Item → Option α} (h : f .unresolved = none)
    (block : Block) : block.items.filterMap f = block.known.filterMap f := by
  rw [known, List.filterMap_filter]
  refine List.filterMap_congr fun item _ => ?_
  cases item with
  | created output => rfl
  | spent output => rfl
  | unresolved => exact h

/-- What does not hold at an unknown output is counted among the known items. -/
theorem Block.countP_items {p : Item → Bool} (h : p .unresolved = false) (block : Block) :
    block.items.countP p = block.known.countP p := by
  rw [known, List.countP_filter]
  refine List.countP_congr fun item _ => ?_
  cases item with
  | created output => simp [Item.isUnresolved]
  | spent output => simp [Item.isUnresolved]
  | unresolved => simp [h]

namespace Block.Rearranged

variable {first second : Block}

theorem contributions (h : first.Rearranged second) (mode : Address.Mode)
    (direction : Direction) :
    (first.contributions mode direction).Perm (second.contributions mode direction) := by
  rw [Block.contributions, Block.contributions, filterMap_items rfl, filterMap_items rfl]
  exact h.known.filterMap _

theorem failures (h : first.Rearranged second) (mode : Address.Mode) :
    (first.failures mode).Perm (second.failures mode) := by
  rw [Block.failures, Block.failures, filterMap_items rfl, filterMap_items rfl]
  exact h.known.filterMap _

theorem excluded (h : first.Rearranged second) (mode : Address.Mode) :
    (first.stats mode).excluded = (second.stats mode).excluded := by
  simp only [stats]
  rw [countP_items rfl, countP_items rfl]
  exact h.known.countP_eq _

theorem decodeErrors (h : first.Rearranged second) (mode : Address.Mode) :
    (first.stats mode).decodeErrors = (second.stats mode).decodeErrors := by
  simp only [stats]
  rw [countP_items rfl, countP_items rfl]
  exact h.known.countP_eq _

end Block.Rearranged

/-! ## Reductions -/

/-- A walk ends early if a failure is there and the policy is strict. -/
theorem Walker.isSome_abort? (walker : Walker) (block : Block) :
    (walker.abort? block.items).isSome ↔
      walker.policy = .strict ∧ block.failures walker.mode ≠ [] := by
  obtain ⟨mode, policy⟩ := walker
  cases policy with
  | lenient => simp [abort?]
  | strict =>
    simp only [abort?, Block.failures, Option.isSome_iff_ne_none, ne_eq,
      List.findSome?_eq_none_iff, List.filterMap_eq_nil_iff, true_and]

theorem Emitter.emit_of_perm (emitter : Emitter) {first second : Deltas}
    (hkeys : first.keys.Nodup) (h : first.Perm second) :
    emitter.emit first = emitter.emit second := by
  rw [emit_eq, emit_eq, canWrite_of_perm emitter h, Deltas.sorted_eq_of_perm hkeys h]

namespace Reducer

/-- Blocks that create and spend the same are reduced alike, under all settings and in
    both directions: to the same commands, or both not, for an address under the strict
    policy or for an amount that cannot be written. A lenient walk counts as many
    addresses without a key, and as many that cannot be decoded. -/
theorem reduce_of_rearranged {first second : Block} (h : first.Rearranged second)
    (settings : Settings.Reduction) (direction : Direction) :
    ((∃ commands, (reduce ⟨settings⟩ first direction).outcome = .ok commands ∧
          (reduce ⟨settings⟩ second direction).outcome = .ok commands) ∨
        (settings.policy = .strict ∧
          ∃ error other, (reduce ⟨settings⟩ first direction).outcome = .error (.address error) ∧
            (reduce ⟨settings⟩ second direction).outcome = .error (.address other)) ∨
        ((reduce ⟨settings⟩ first direction).outcome = .error (.shape (.numeral .tooLarge)) ∧
          (reduce ⟨settings⟩ second direction).outcome =
            .error (.shape (.numeral .tooLarge)))) ∧
      (settings.policy = .lenient →
        ∃ tally other, (settings.walker.walk first direction).outcome = .ok tally ∧
          (settings.walker.walk second direction).outcome = .ok other ∧
          tally.stats.excluded = other.stats.excluded ∧
          tally.stats.decodeErrors = other.stats.decodeErrors) := by
  have habort : (settings.walker.abort? first.items).isSome ↔
      (settings.walker.abort? second.items).isSome := by
    rw [Walker.isSome_abort?, Walker.isSome_abort?, ← List.length_pos_iff_ne_nil,
      ← List.length_pos_iff_ne_nil, (h.failures _).length_eq]
  constructor
  · cases hfirst : settings.walker.abort? first.items with
    | some error =>
      have hsome : (settings.walker.abort? first.items).isSome := by rw [hfirst]; rfl
      obtain ⟨other, hsecond⟩ := Option.isSome_iff_exists.1 (habort.1 hsome)
      have hpolicy := ((settings.walker.isSome_abort? first).1 hsome).1
      refine .inr (.inl ⟨hpolicy, error, other, ?_, ?_⟩)
      · rw [reduce_outcome, hfirst]
      · rw [reduce_outcome, hsecond]
    | none =>
      -- the deltas hold the same entries in another order, which sorting undoes
      have hsecond : settings.walker.abort? second.items = none := by
        rw [← Option.not_isSome_iff_eq_none, ← habort, hfirst]
        exact Bool.false_ne_true
      have hemit : settings.emitter.emit (first.deltas settings.mode direction) =
          settings.emitter.emit (second.deltas settings.mode direction) :=
        Emitter.emit_of_perm _ (Deltas.nodup_keys_gather _)
          (Deltas.gather_perm (h.contributions _ _))
      rw [reduce_outcome, reduce_outcome, hfirst, hsecond, ← hemit, Emitter.emit_eq]
      by_cases hwrite : settings.emitter.canWrite (first.deltas settings.mode direction)
      · rw [if_pos hwrite]
        exact .inl ⟨_, rfl, rfl⟩
      · rw [if_neg hwrite]
        exact .inr (.inr ⟨rfl, rfl⟩)
  · intro hpolicy
    have hnone : ∀ items, settings.walker.abort? items = none := fun items => by
      simp [Walker.abort?, Settings.Reduction.walker, hpolicy]
    refine ⟨_, _, by rw [Walker.walk_outcome, hnone], by rw [Walker.walk_outcome, hnone], ?_, ?_⟩
    · exact h.excluded _
    · exact h.decodeErrors _

/-- One transaction, with an input that is not known. -/
def together : Block :=
  { transactions := [{
      outputs := [⟨0xE1 :: List.replicate 28 7, 3⟩, ⟨[0x82], 4⟩]
      inputs := [{ spent := some ⟨[0x82], 9⟩ }, {}] }] }

/-- The same outputs, in two transactions and in another order. -/
def apart : Block :=
  { transactions := [
      { outputs := [⟨[0x82], 4⟩] },
      { outputs := [⟨0xE1 :: List.replicate 28 7, 3⟩], inputs := [{ spent := some ⟨[0x82], 9⟩ }] }]
    slot := some 5 }

theorem reduce_of_rearranged_together :
    together.Rearranged apart ∧
      ∃ tally other, (Walker.walk ⟨.stake, .lenient⟩ together .undo).outcome = .ok tally ∧
        (Walker.walk ⟨.stake, .lenient⟩ apart .undo).outcome = .ok other ∧
        tally.stats.excluded = other.stats.excluded ∧
        tally.stats.decodeErrors = other.stats.decodeErrors := by
  have hrearranged : together.Rearranged apart := ⟨by decide, by decide⟩
  exact ⟨hrearranged, (reduce_of_rearranged hrearranged
    { mode := .stake, policy := .lenient } .undo).2 rfl⟩

end Reducer

end UtxoBalance
