import UtxoBalance.Proofs.AccumulatorUse
import UtxoBalance.Proofs.Leniency

/-!
# What a walk skips

A walk that comes to its end has visited everything that a block holds, and what it has not
merged it has counted: a spent output that is not known, an address without a key, an address
that cannot be decoded. Each output that is known has one of three fates, so that the merges
and two of the counts make up the outputs that were visited. The events tell of the addresses
that cannot be decoded one by one, in the order of the walk, and of the unknown outputs all
at once.

## Main definitions

- `Block.inputs`, `Block.visited` — the inputs of a block, and its addresses in the order of a
  walk
- `Address.failure?` — why an address cannot be decoded
- `Block.merges` — what a walk of a block merges
- `Walker.Accounts` — the counts and the events that account for a block

## Main statements

- `Walk.countP_known` — each known output has one of three fates
- `Walker.walk_events` — the events of a walk
- `Walker.walk_accounts` — a walk that comes to its end accounts for the block
-/

namespace UtxoBalance

open Walk

/-- The inputs of a block. -/
def Block.inputs (block : Block) : List Input :=
  block.transactions.flatMap Transaction.inputs

/-- The addresses of a transaction, as a walk comes to them: those of the outputs that it
    creates, and then those of the known outputs that it spends. -/
def Transaction.visited (tx : Transaction) : List Bytes :=
  tx.outputs.map Output.address ++ (tx.inputs.filterMap Input.spent).map Output.address

/-- The addresses of a block, as a walk comes to them. -/
def Block.visited (block : Block) : List Bytes :=
  block.transactions.flatMap Transaction.visited

/-- Why an address cannot be decoded, if so. -/
def Address.failure? (mode : Address.Mode) (raw : Bytes) : Option DecodeError :=
  match key raw mode with
  | .ok _ => none
  | .error error => some error

/-- What a walk of a block merges, in order. -/
def Block.merges (mode : Address.Mode) (direction : Direction) (block : Block) :
    List Accumulator.Use :=
  (block.contributions mode direction).map fun entry => .merge entry.1 entry.2

/-! ## Items by their addresses -/

theorem Transaction.filterMap_address? (tx : Transaction) :
    tx.items.filterMap Item.address? = tx.visited := by
  have hspent : ∀ inputs : List Input, (inputs.map Input.item).filterMap Item.address? =
      (inputs.filterMap Input.spent).map Output.address := by
    intro inputs
    rw [List.filterMap_map, List.map_filterMap]
    refine List.filterMap_congr fun input _ => ?_
    rw [Function.comp_apply, Input.item]
    cases input.spent with
    | none => rfl
    | some output => rfl
  have hcreated : (tx.outputs.map Item.created).filterMap Item.address? =
      tx.outputs.map Output.address := by
    rw [List.filterMap_map]
    exact congrFun (List.filterMap_eq_map (f := Output.address)) tx.outputs
  rw [items, visited, List.filterMap_append, hcreated, hspent]

theorem Block.filterMap_address? (block : Block) :
    block.items.filterMap Item.address? = block.visited := by
  rw [items, visited, List.filterMap_flatMap]
  exact List.flatMap_congr fun tx _ => tx.filterMap_address?

theorem Walk.Item.failure?_eq_bind (mode : Address.Mode) (item : Item) :
    item.failure? mode = item.address?.bind (Address.failure? mode) := by
  rw [failure?, reading, address?]
  cases item.output? with
  | none => rfl
  | some output =>
    simp only [Option.map_some, Option.bind_some, Address.failure?]
    cases Address.key output.address mode with
    | ok found => rfl
    | error error => rfl

/-- The failures among the items of a block are those of its addresses, in order. -/
theorem Block.failures_eq (mode : Address.Mode) (block : Block) :
    block.failures mode = block.visited.filterMap (Address.failure? mode) := by
  rw [failures, ← filterMap_address?, List.filterMap_filterMap]
  exact List.filterMap_congr fun item _ => item.failure?_eq_bind mode

theorem Address.raw_of_failure? {mode : Address.Mode} {raw : Bytes} {error : DecodeError}
    (h : failure? mode raw = some error) : error.raw = raw := by
  rw [failure?] at h
  split at h
  · cases h
  · next heq =>
    cases h
    exact raw_of_key_eq_error heq

theorem Walk.Item.isExcluded_iff {mode : Address.Mode} {item : Item} :
    item.isExcluded mode ↔ ∃ raw, item.address? = some raw ∧ Address.key raw mode = .ok none := by
  rw [isExcluded, reading, address?]
  cases item.output? with
  | none => simp
  | some output =>
    simp only [Option.map_some, Option.some.injEq, exists_eq_left']
    cases Address.key output.address mode with
    | error error => simp
    | ok found => cases found <;> simp

/-! ## Counts -/

/-- Each known output has a key, or no key, or an address that cannot be decoded. -/
theorem Walk.countP_known (mode : Address.Mode) (direction : Direction) (items : List Item) :
    items.countP Item.isCreated + items.countP Item.isSpent =
      (items.filterMap (Item.contribution mode direction)).length +
        items.countP (Item.isExcluded mode) +
        items.countP fun item => (item.failure? mode).isSome := by
  induction items with
  | nil => rfl
  | cons item rest ih =>
    have hfate : item.isCreated.toNat + item.isSpent.toNat =
        (item.contribution mode direction).isSome.toNat + (item.isExcluded mode).toNat +
          (item.failure? mode).isSome.toNat := by
      have hknown : item.isCreated.toNat + item.isSpent.toNat = item.output?.isSome.toNat := by
        cases item <;> rfl
      rw [hknown, Item.contribution, Option.isSome_map, Item.key?, Item.isExcluded, Item.failure?,
        Item.reading]
      cases item.output? with
      | none => rfl
      | some output =>
        rw [Option.map_some]
        cases Address.key output.address mode with
        | error error => rfl
        | ok found =>
          cases found with
          | none => rfl
          | some key => rfl
    rw [List.length_filterMap_eq_countP] at ih ⊢
    simp only [List.countP_cons, Bool.toNat, cond_eq_ite] at hfate ⊢
    omega

namespace Block

variable (block : Block)

/-- What is counted transaction by transaction. -/
theorem countP_items_eq_length {α : Type} {p : Item → Bool} {part : Transaction → List α}
    (h : ∀ tx : Transaction, tx.items.countP p = (part tx).length) :
    block.items.countP p = (block.transactions.flatMap part).length := by
  rw [items, List.countP_flatMap, List.length_flatMap]
  exact congrArg List.sum (List.map_congr_left fun tx _ => h tx)

theorem countP_isCreated_items : block.items.countP Item.isCreated = block.outputs.length := by
  refine block.countP_items_eq_length fun tx => ?_
  have hinputs : (tx.inputs.map Input.item).countP Item.isCreated = 0 := by
    refine List.countP_eq_zero.2 fun item hitem => ?_
    obtain ⟨input, -, rfl⟩ := List.mem_map.1 hitem
    rw [Input.item]
    cases input.spent <;> exact Bool.false_ne_true
  rw [Transaction.items, List.countP_append, hinputs, Nat.add_zero, List.countP_map]
  exact congrFun List.countP_true tx.outputs

theorem length_items : block.items.length = block.outputs.length + block.inputs.length := by
  rw [items, outputs, inputs, List.length_flatMap, List.length_flatMap, List.length_flatMap,
    ← List.sum_map_add]
  refine congrArg List.sum (List.map_congr_left fun tx _ => ?_)
  rw [Transaction.items, List.length_append, List.length_map, List.length_map]

theorem countP_isSpent_items : block.items.countP Item.isSpent = block.spends.length := by
  refine block.countP_items_eq_length fun tx => ?_
  have houtputs : (tx.outputs.map Item.created).countP Item.isSpent = 0 := by
    refine List.countP_eq_zero.2 fun item hitem => ?_
    obtain ⟨output, -, rfl⟩ := List.mem_map.1 hitem
    exact Bool.false_ne_true
  rw [Transaction.items, List.countP_append, houtputs, Nat.zero_add, List.countP_map,
    List.length_filterMap_eq_countP]
  refine List.countP_congr fun input _ => ?_
  rw [Function.comp_apply, Input.item]
  cases input.spent <;> simp [Item.isSpent]

/-- What is spent is known or not. -/
theorem countP_inputs :
    block.items.countP Item.isSpent + block.items.countP Item.isUnresolved =
      block.inputs.length := by
  have hitems := Walk.length_eq_countP block.items
  rw [block.length_items, block.countP_isCreated_items] at hitems
  omega

theorem countP_isExcluded_items (mode : Address.Mode) :
    block.items.countP (Item.isExcluded mode) =
      block.visited.countP fun raw => Address.key raw mode = .ok none := by
  rw [← filterMap_address?, List.countP_filterMap]
  refine List.countP_congr fun item _ => ?_
  rw [Item.isExcluded_iff]
  cases item.address? <;> simp

end Block

/-! ## Events -/

namespace Walker

/-- Where a walk is not ended by a failure, it tells of each. -/
theorem failureEvents_of_abort? {walker : Walker} {block : Block}
    (h : walker.abort? block.items = none) :
    walker.failureEvents block.items =
      (block.failures walker.mode).map (.addressFailed · walker.mode) := by
  obtain ⟨mode, policy⟩ := walker
  cases policy with
  | lenient => rfl
  | strict =>
    have hnone : block.failures mode = [] :=
      List.filterMap_eq_nil_iff.2 (List.findSome?_eq_none_iff.1 h)
    rw [hnone]
    rfl

/-- The events of a walk that comes to its end. -/
theorem walk_events {walker : Walker} {block : Block} (h : walker.abort? block.items = none)
    (direction : Direction) :
    (walker.walk block direction).events =
      (block.failures walker.mode).map (.addressFailed · walker.mode) ++
        if 0 < (block.stats walker.mode).unresolvedInputs then
          [.unresolvedSkipped (block.stats walker.mode).unresolvedInputs walker.mode direction
            block.point]
        else [] := by
  rw [walk, visitTransactions_block, h, failureEvents_of_abort? h]
  dsimp only
  rw [Logged.bind_ok]
  refine congrArg (_ ++ ·) ?_
  split
  · rfl
  · rfl

/-- The counts and the events of a walk account for all that is in a block. -/
structure Accounts (walker : Walker) (block : Block) (direction : Direction) (tally : Tally) :
    Prop where
  transactions : tally.stats.transactions = block.transactions.length
  outputs : tally.stats.outputs = block.outputs.length
  resolvedInputs : tally.stats.resolvedInputs = block.spends.length
  inputs : tally.stats.resolvedInputs + tally.stats.unresolvedInputs = block.inputs.length
  /-- The deltas are what an accumulator gives out after the merges. -/
  deltas : Accumulator.Use.finalize.answerAfter (block.merges walker.mode direction) =
    .finalized (.ok tally.deltas)
  merges : tally.stats.outputs + tally.stats.resolvedInputs =
    (block.merges walker.mode direction).length + tally.stats.excluded + tally.stats.decodeErrors
  excluded : tally.stats.excluded =
    block.visited.countP fun raw => Address.key raw walker.mode = .ok none
  decodeErrors : tally.stats.decodeErrors =
    (block.visited.filterMap (Address.failure? walker.mode)).length
  /-- Each failure is told, and after them the unknown outputs, if there are any. -/
  events : (walker.walk block direction).events =
    (block.visited.filterMap (Address.failure? walker.mode)).map
        (.addressFailed · walker.mode) ++
      if 0 < tally.stats.unresolvedInputs then
        [.unresolvedSkipped tally.stats.unresolvedInputs walker.mode direction block.point]
      else []
  /-- What is told of a failure is the address, in hexadecimal, and the reason. -/
  data : (walker.walk block direction).events.map (fun event => (event.name, event.data)) =
    (block.visited.filterMap fun raw => (Address.failure? walker.mode raw).map fun error =>
        ("address_decode_failed", [("address", .text (Hex.encode raw)),
          ("reason", .text error.reason.message), ("mode", .text walker.mode.name)])) ++
      if 0 < tally.stats.unresolvedInputs then
        [("unresolved_inputs_skipped", [("count", .int tally.stats.unresolvedInputs),
          ("mode", .text walker.mode.name), ("direction", .text direction.name),
          ("slot", block.slot.elim .null .int),
          ("hash", (block.hash.filter (!·.isEmpty)).elim .null fun octets =>
            .text (Hex.encode octets))])]
      else []

theorem merged_merges (mode : Address.Mode) (direction : Direction) (block : Block) :
    Accumulator.merged (block.merges mode direction) = block.contributions mode direction := by
  rw [Accumulator.merged, Block.merges, List.flatMap_map]
  exact List.flatMap_singleton' _

theorem finalize_notMem_merges (mode : Address.Mode) (direction : Direction) (block : Block) :
    .finalize ∉ block.merges mode direction := by
  intro hmem
  obtain ⟨entry, -, heq⟩ := List.mem_map.1 hmem
  cases heq

/-- A walk that comes to its end accounts for the block. -/
theorem walk_accounts {walker : Walker} {block : Block} {direction : Direction} {tally : Tally}
    (h : (walker.walk block direction).outcome = .ok tally) :
    walker.Accounts block direction tally := by
  obtain ⟨habort, rfl⟩ := walk_eq_ok_iff.1 h
  have hevents := walk_events habort direction
  rw [Block.failures_eq] at hevents
  constructor
  case transactions => rfl
  case outputs => exact block.countP_isCreated_items
  case resolvedInputs => exact block.countP_isSpent_items
  case inputs => exact block.countP_inputs
  case deltas =>
    rw [Accumulator.finalize_answerAfter (finalize_notMem_merges _ _ _), merged_merges]
    rfl
  case merges =>
    rw [Block.merges, List.length_map]
    exact Walk.countP_known walker.mode direction block.items
  case excluded => exact block.countP_isExcluded_items walker.mode
  case decodeErrors =>
    rw [← Block.failures_eq]
    exact (List.length_filterMap_eq_countP ..).symm
  case events => exact hevents
  case data =>
    rw [hevents, List.map_append, List.map_map, List.map_filterMap]
    refine congrArg₂ (· ++ ·) (List.filterMap_congr fun raw _ => ?_) ?_
    · -- the octets that are told are those of the address itself
      refine Option.map_congr fun error herror => ?_
      obtain rfl : error.raw = raw := Address.raw_of_failure? herror
      rfl
    · rw [apply_ite (List.map _)]
      refine if_congr Iff.rfl ?_ rfl
      rw [List.map_singleton, Event.name, Event.data, Point.fields, Block.point, Option.elim_map]
      rfl

/-- Two transactions with one item of each fate, two addresses that cannot be decoded, and two
    outputs that are not known. -/
def mixed : Block :=
  { transactions := [
      { outputs := [⟨0xE1 :: List.replicate 28 7, 3⟩, ⟨[0x90, 1], 8⟩]
        inputs := [{}, { spent := some ⟨[], 4⟩ }] },
      { outputs := [⟨0x61 :: List.replicate 28 1, 4⟩], inputs := [{}] }]
    hash := some [0xAB] }

/-- What a lenient walk counts, and what it tells. -/
theorem walk_accounts_mixed :
    ∃ tally, (walk ⟨.stake, .lenient⟩ mixed .undo).outcome = .ok tally ∧
      tally.stats = ⟨2, 3, 1, 2, 1, 2⟩ ∧
      (walk ⟨.stake, .lenient⟩ mixed .undo).events =
        [.addressFailed ⟨[0x90, 1], .unknownHeader 9⟩ .stake, .addressFailed ⟨[], .empty⟩ .stake,
          .unresolvedSkipped 2 .stake .undo ⟨none, some "ab"⟩] := by
  have hwalk : (walk ⟨.stake, .lenient⟩ mixed .undo).outcome =
      .ok ⟨mixed.deltas .stake .undo, mixed.stats .stake⟩ := by
    rw [walk_outcome]
    rfl
  have haccounts := walk_accounts hwalk
  have hstats : mixed.stats .stake = ⟨2, 3, 1, 2, 1, 2⟩ := by decide +kernel
  refine ⟨_, hwalk, hstats, haccounts.events.trans ?_⟩
  decide +kernel

end Walker

end UtxoBalance
