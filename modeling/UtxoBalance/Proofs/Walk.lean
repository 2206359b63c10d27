import UtxoBalance.Proofs.Deltas
import UtxoBalance.Walk

/-!
# What a walk comes to

Each item of a block has one of four fates: it contributes an amount under a key,
its address has no key, its address cannot be decoded, or its output is not known.
A walk does with an item what its fate asks for, so the result of a walk can be told
from the items alone: the contributions in order, the failures in order, and how
many items met which fate. Where a strict walk ends early, it ends at the first
failure.

## Main definitions

- `Walk.Item.contribution`, `Walk.Item.failure?`, `Walk.Item.isExcluded` — the fate of
  an item
- `Walk.Tally.record`, `Walk.Tally.recordTransaction` — a tally after one more item, and after
  one more transaction
- `Walk.Stats.recordAll` — the counts after some more items
- `Block.contributions`, `Block.failures`, `Block.deltas`, `Block.stats` — the same of
  a block
- `Walker.abort?` — the failure at which a walk ends

## Main statements

- `Walker.visit_eq` — what one step does
- `Walker.visitAll_eq`, `Walker.visitTransactions_eq` — what all steps together do
- `Walker.walk_outcome`, `Walker.walk_eq_ok_iff` — the outcome of a walk
-/

namespace UtxoBalance

namespace Walk

/-! ## The fate of an item -/

/-- The output that an item is about, where it is known. -/
def Item.output? : Item → Option Output
  | .created output | .spent output => some output
  | .unresolved => none

/-- The sign with which an item counts. -/
def Item.sign (direction : Direction) : Item → Int
  | .created _ => direction.outputSign
  | .spent _ | .unresolved => direction.inputSign

/-- The amount with which an item counts. -/
def Item.amount (direction : Direction) (item : Item) : Int :=
  item.sign direction * item.output?.elim 0 Output.coin

/-- What the address of an item comes to, where it has one. -/
def Item.reading (mode : Address.Mode) (item : Item) :
    Option (Except Address.DecodeError (Option String)) :=
  item.output?.map fun output => Address.key output.address mode

/-- The key of an item, where it has one. -/
def Item.key? (mode : Address.Mode) (item : Item) : Option String :=
  match item.reading mode with
  | some (.ok key) => key
  | _ => none

/-- Why the address of an item cannot be decoded, if so. -/
def Item.failure? (mode : Address.Mode) (item : Item) : Option Address.DecodeError :=
  match item.reading mode with
  | some (.error error) => some error
  | _ => none

/-- Whether the address of an item has no key. -/
def Item.isExcluded (mode : Address.Mode) (item : Item) : Bool :=
  match item.reading mode with
  | some (.ok none) => true
  | _ => false

/-- What an item adds under its key. -/
def Item.contribution (mode : Address.Mode) (direction : Direction) (item : Item) :
    Option (String × Int) :=
  (item.key? mode).map fun key => (key, item.amount direction)

/-- Whether an item is an output that is created. -/
def Item.isCreated : Item → Bool
  | .created _ => true
  | _ => false

/-- Whether an item is a known output that is spent. -/
def Item.isSpent : Item → Bool
  | .spent _ => true
  | _ => false

/-- Whether an item is an output that is not known. -/
def Item.isUnresolved : Item → Bool
  | .unresolved => true
  | _ => false

/-- The counts after one more item. -/
def Stats.record (mode : Address.Mode) (stats : Stats) (item : Item) : Stats where
  transactions := stats.transactions
  outputs := stats.outputs + item.isCreated.toNat
  resolvedInputs := stats.resolvedInputs + item.isSpent.toNat
  unresolvedInputs := stats.unresolvedInputs + item.isUnresolved.toNat
  excluded := stats.excluded + (item.isExcluded mode).toNat
  decodeErrors := stats.decodeErrors + (item.failure? mode).isSome.toNat

/-- The counts after some more items. -/
def Stats.recordAll (mode : Address.Mode) (stats : Stats) (items : List Item) : Stats where
  transactions := stats.transactions
  outputs := stats.outputs + items.countP Item.isCreated
  resolvedInputs := stats.resolvedInputs + items.countP Item.isSpent
  unresolvedInputs := stats.unresolvedInputs + items.countP Item.isUnresolved
  excluded := stats.excluded + items.countP (Item.isExcluded mode)
  decodeErrors := stats.decodeErrors + items.countP fun item => (item.failure? mode).isSome

theorem Stats.recordAll_append (mode : Address.Mode) (stats : Stats) (first second : List Item) :
    stats.recordAll mode (first ++ second) =
      (stats.recordAll mode first).recordAll mode second := by
  simp only [recordAll, List.countP_append, Nat.add_assoc]

/-- A tally after one more item. -/
def Tally.record (mode : Address.Mode) (direction : Direction) (tally : Tally) (item : Item) :
    Tally where
  deltas := (item.contribution mode direction).elim tally.deltas
    fun entry => tally.deltas.add entry.1 entry.2
  stats := tally.stats.record mode item

/-- A tally after one more transaction. -/
def Tally.recordTransaction (mode : Address.Mode) (direction : Direction) (tally : Tally)
    (tx : Transaction) : Tally :=
  tx.items.foldl (Tally.record mode direction)
    { tally with stats.transactions := tally.stats.transactions + 1 }

end Walk

open Walk

/-- What the items of a block add, in order. -/
def Block.contributions (mode : Address.Mode) (direction : Direction) (block : Block) : Deltas :=
  block.items.filterMap (Item.contribution mode direction)

/-- The failures among the items of a block, in order. -/
def Block.failures (mode : Address.Mode) (block : Block) : List Address.DecodeError :=
  block.items.filterMap (Item.failure? mode)

/-- What a block adds to each key. -/
def Block.deltas (mode : Address.Mode) (direction : Direction) (block : Block) : Deltas :=
  .gather (block.contributions mode direction)

/-- How many items of a block met which fate. -/
def Block.stats (mode : Address.Mode) (block : Block) : Stats where
  transactions := block.transactions.length
  outputs := block.items.countP Item.isCreated
  resolvedInputs := block.items.countP Item.isSpent
  unresolvedInputs := block.items.countP Item.isUnresolved
  excluded := block.items.countP (Item.isExcluded mode)
  decodeErrors := block.items.countP fun item => (item.failure? mode).isSome

namespace Walker

/-- The failure at which a walk over some items ends: under the strict policy the first
    that there is. -/
def abort? (walker : Walker) (items : List Item) : Option Address.DecodeError :=
  match walker.policy with
  | .strict => items.findSome? (Item.failure? walker.mode)
  | .lenient => none

/-- The events of a walk over some items: under the lenient policy one for each failure. -/
def failureEvents (walker : Walker) (items : List Item) : List Event :=
  match walker.policy with
  | .strict => []
  | .lenient => (items.filterMap (Item.failure? walker.mode)).map (.addressFailed · walker.mode)

/-! ## One step -/

theorem visit_of_output {item : Item} {output : Output} (h : item.output? = some output)
    (walker : Walker) (direction : Direction) (tally : Tally) :
    walker.visit direction tally item =
      walker.merge (item.sign direction) output
        { tally with
          stats.outputs := tally.stats.outputs + item.isCreated.toNat
          stats.resolvedInputs := tally.stats.resolvedInputs + item.isSpent.toNat } := by
  cases item with
  | unresolved => cases h
  | created other =>
    cases h
    rfl
  | spent other =>
    cases h
    rfl

/-- A step does with an item what its fate asks for. -/
theorem visit_eq (walker : Walker) (direction : Direction) (tally : Tally) (item : Item) :
    walker.visit direction tally item =
      match walker.abort? [item] with
      | some error => .fail (.address error)
      | none => ⟨walker.failureEvents [item], .ok (tally.record walker.mode direction item)⟩ := by
  obtain ⟨mode, policy⟩ := walker
  cases houtput : item.output? with
  | none =>
    cases item with
    | unresolved => cases policy <;> rfl
    | created output => cases houtput
    | spent output => cases houtput
  | some output =>
    have hknown : item.isUnresolved = false := by
      cases item with
      | unresolved => cases houtput
      | created output => rfl
      | spent output => rfl
    rw [visit_of_output houtput, merge]
    cases hkey : Address.key output.address mode with
    | error error =>
      have hfailure : item.failure? mode = some error := by
        simp [Item.failure?, Item.reading, houtput, hkey]
      have hcontribution : item.contribution mode direction = none := by
        simp [Item.contribution, Item.key?, Item.reading, houtput, hkey]
      have hexcluded : item.isExcluded mode = false := by
        simp [Item.isExcluded, Item.reading, houtput, hkey]
      cases policy with
      | strict => simp [abort?, hfailure]
      | lenient =>
        simp [abort?, failureEvents, hfailure, Tally.record, Stats.record, hcontribution,
          hexcluded, hknown]
        rfl
    | ok key =>
      have hfailure : item.failure? mode = none := by
        simp [Item.failure?, Item.reading, houtput, hkey]
      have hcontribution : item.contribution mode direction =
          key.map fun key => (key, item.sign direction * output.coin) := by
        simp [Item.contribution, Item.key?, Item.reading, Item.amount, houtput, hkey]
      have hexcluded : item.isExcluded mode = key.isNone := by
        cases key <;> simp [Item.isExcluded, Item.reading, houtput, hkey]
      have habort : abort? ⟨mode, policy⟩ [item] = none := by
        cases policy <;> simp [abort?, hfailure]
      have hevents : failureEvents ⟨mode, policy⟩ [item] = [] := by
        cases policy <;> simp [failureEvents, hfailure]
      simp only [habort, hevents, Tally.record, Stats.record, hcontribution, hexcluded, hfailure,
        hknown]
      cases key with
      | none => rfl
      | some key => rfl

/-! ## All steps -/

/-- All steps together record the items, unless one of them ends the walk. -/
theorem visitAll_eq (walker : Walker) (direction : Direction) (tally : Tally)
    (items : List Item) :
    walker.visitAll direction tally items =
      ⟨walker.failureEvents items,
        match walker.abort? items with
        | some error => .error (.address error)
        | none => .ok (items.foldl (Tally.record walker.mode direction) tally)⟩ := by
  -- the first failure that ends the walk hides the items behind it, for `abort?` as well
  induction items generalizing tally with
  | nil => cases h : walker.policy <;> simp [visitAll, failureEvents, abort?, h, pure, Logged.pure]
  | cons item rest ih =>
    rw [visitAll, visit_eq]
    obtain ⟨mode, policy⟩ := walker
    cases hfailure : item.failure? mode with
    | none =>
      cases policy with
      | strict =>
        simp only [abort?, failureEvents, List.findSome?_cons, hfailure, List.findSome?_nil]
        rw [Logged.bind_ok, ih]
        rfl
      | lenient =>
        simp only [abort?, failureEvents, List.filterMap_cons, hfailure, List.filterMap_nil]
        rw [Logged.bind_ok, ih]
        rfl
    | some error =>
      cases policy with
      | strict =>
        simp only [abort?, failureEvents, List.findSome?_cons, hfailure]
        rfl
      | lenient =>
        simp only [abort?, failureEvents, List.filterMap_cons, hfailure, List.filterMap_nil]
        rw [Logged.bind_ok, ih]
        rfl

theorem foldl_record_deltas (mode : Address.Mode) (direction : Direction) (tally : Tally)
    (items : List Item) :
    (items.foldl (Tally.record mode direction) tally).deltas =
      (items.filterMap (Item.contribution mode direction)).foldl
        (fun deltas entry => Deltas.add entry.1 entry.2 deltas) tally.deltas := by
  induction items generalizing tally with
  | nil => rfl
  | cons item rest ih =>
    rw [List.foldl_cons, ih]
    cases h : item.contribution mode direction with
    | none => simp [Tally.record, h]
    | some entry => simp [Tally.record, h]

/-- Recorded items are counted, each where its fate says. -/
theorem foldl_record_stats (mode : Address.Mode) (direction : Direction) (tally : Tally)
    (items : List Item) :
    (items.foldl (Tally.record mode direction) tally).stats =
      tally.stats.recordAll mode items := by
  induction items generalizing tally with
  | nil => rfl
  | cons item rest ih =>
    rw [List.foldl_cons, ih]
    simp only [Tally.record, Stats.record, Stats.recordAll, List.countP_cons, Bool.toNat,
      cond_eq_ite, Stats.mk.injEq, true_and]
    omega

/-! ## All transactions -/

theorem abort?_append (walker : Walker) (first second : List Item) :
    walker.abort? (first ++ second) = (walker.abort? first).or (walker.abort? second) := by
  rw [abort?, abort?, abort?]
  cases walker.policy with
  | strict => exact List.findSome?_append
  | lenient => rfl

theorem failureEvents_append (walker : Walker) (first second : List Item) :
    walker.failureEvents (first ++ second) =
      walker.failureEvents first ++ walker.failureEvents second := by
  rw [failureEvents, failureEvents, failureEvents]
  cases walker.policy with
  | strict => rfl
  | lenient => rw [List.filterMap_append, List.map_append]

/-- A walk that some failure can end tells of none. -/
theorem failureEvents_of_abort?_eq_some {walker : Walker} {first items : List Item}
    {error : Address.DecodeError} (h : walker.abort? first = some error) :
    walker.failureEvents items = [] := by
  rw [failureEvents]
  rw [abort?] at h
  cases hpolicy : walker.policy with
  | strict => rfl
  | lenient =>
    rw [hpolicy] at h
    cases h

/-- All transactions together record their items, unless one of these ends the walk. -/
theorem visitTransactions_eq (walker : Walker) (direction : Direction) (tally : Tally)
    (transactions : List Transaction) :
    walker.visitTransactions direction tally transactions =
      ⟨walker.failureEvents (transactions.flatMap Transaction.items),
        match walker.abort? (transactions.flatMap Transaction.items) with
        | some error => .error (.address error)
        | none => .ok (transactions.foldl (Tally.recordTransaction walker.mode direction) tally)⟩ := by
  induction transactions generalizing tally with
  | nil => exact visitAll_eq walker direction tally []
  | cons tx rest ih =>
    rw [visitTransactions, visitTransaction, visitAll_eq, List.flatMap_cons, abort?_append,
      failureEvents_append]
    cases habort : walker.abort? tx.items with
    | some error =>
      -- the transactions behind are not visited
      rw [failureEvents_of_abort?_eq_some habort, failureEvents_of_abort?_eq_some habort]
      exact Logged.bind_error ..
    | none =>
      dsimp only
      rw [Logged.bind_ok, ih]
      rfl

theorem foldl_recordTransaction_deltas (mode : Address.Mode) (direction : Direction)
    (tally : Tally) (transactions : List Transaction) :
    (transactions.foldl (Tally.recordTransaction mode direction) tally).deltas =
      ((transactions.flatMap Transaction.items).filterMap
          (Item.contribution mode direction)).foldl
        (fun deltas entry => Deltas.add entry.1 entry.2 deltas) tally.deltas := by
  induction transactions generalizing tally with
  | nil => rfl
  | cons tx rest ih =>
    rw [List.foldl_cons, ih, Tally.recordTransaction, foldl_record_deltas, List.flatMap_cons,
      List.filterMap_append, List.foldl_append]

/-- Each transaction is counted once, and its items where their fates say. -/
theorem foldl_recordTransaction_stats (mode : Address.Mode) (direction : Direction)
    (tally : Tally) (transactions : List Transaction) :
    (transactions.foldl (Tally.recordTransaction mode direction) tally).stats =
      Stats.recordAll mode
        { tally.stats with transactions := tally.stats.transactions + transactions.length }
        (transactions.flatMap Transaction.items) := by
  induction transactions generalizing tally with
  | nil => rfl
  | cons tx rest ih =>
    rw [List.foldl_cons, ih, Tally.recordTransaction, foldl_record_stats, List.flatMap_cons,
      Stats.recordAll_append]
    simp only [Stats.recordAll, List.length_cons, Nat.add_assoc, Nat.add_comm 1]

/-- The tally after all transactions of a block. -/
theorem foldl_recordTransaction (mode : Address.Mode) (direction : Direction) (block : Block) :
    block.transactions.foldl (Tally.recordTransaction mode direction) {} =
      ⟨block.deltas mode direction, block.stats mode⟩ := by
  have hdeltas := foldl_recordTransaction_deltas mode direction {} block.transactions
  have hstats := foldl_recordTransaction_stats mode direction {} block.transactions
  simp only [Stats.recordAll, Nat.zero_add] at hstats
  calc
    _ = Tally.mk _ _ := rfl
    _ = Tally.mk (block.deltas mode direction) (block.stats mode) := by
      rw [hdeltas, hstats]
      rfl

/-! ## The outcome of a walk -/

/-- The transactions of a block give its deltas and its counts, unless a failure ends the
    walk. -/
theorem visitTransactions_block (walker : Walker) (block : Block) (direction : Direction) :
    walker.visitTransactions direction {} block.transactions =
      ⟨walker.failureEvents block.items,
        match walker.abort? block.items with
        | some error => .error (.address error)
        | none => .ok ⟨block.deltas walker.mode direction, block.stats walker.mode⟩⟩ := by
  rw [visitTransactions_eq, foldl_recordTransaction]
  rfl

/-- A walk gives the deltas and the counts of the block, unless a failure ends it. -/
theorem walk_outcome (walker : Walker) (block : Block) (direction : Direction) :
    (walker.walk block direction).outcome =
      match walker.abort? block.items with
      | some error => .error (.address error)
      | none => .ok ⟨block.deltas walker.mode direction, block.stats walker.mode⟩ := by
  rw [walk, Logged.outcome_bind, visitTransactions_block]
  cases walker.abort? block.items with
  | some error => rfl
  | none =>
    -- unknown outputs give an event, and no other outcome
    show (Logged.outcome (if 0 < _ then _ else _)) = _
    split
    · rfl
    · rfl

theorem walk_eq_ok_iff {walker : Walker} {block : Block} {direction : Direction} {tally : Tally} :
    (walker.walk block direction).outcome = .ok tally ↔
      walker.abort? block.items = none ∧
        tally = ⟨block.deltas walker.mode direction, block.stats walker.mode⟩ := by
  rw [walk_outcome]
  cases walker.abort? block.items with
  | some error => simp
  | none => simp [eq_comm]

end Walker

end UtxoBalance
