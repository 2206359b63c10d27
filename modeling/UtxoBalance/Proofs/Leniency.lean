import UtxoBalance.Proofs.StakeGrouping

/-!
# Lenient walks

A lenient walk of a block is a strict walk of what can be decoded of it. The block is
cut down to the items whose addresses can be decoded, and unknown outputs stay. What is
left contributes as before, in the same order, and nothing in it can end a walk. A
strict walk of the block itself ends at the first item that was left out, if one was;
if none was, the two policies cannot be told apart.

## Main definitions

- `Block.restrict` — a block cut down to some of its items
- `Block.undecodable`, `Block.decodable` — the items whose addresses cannot be decoded,
  and the block without them

## Main statements

- `Block.items_restrict`, `Block.contributions_restrict`, `Walker.abort?_restrict` — what a
  walk finds in a block that was cut down
- `Address.raw_of_key_eq_error` — an address that cannot be decoded is in the error
- `Walker.walk_lenient_eq_walk_decodable` — the two policies compared
-/

namespace UtxoBalance

open Walk

/-! ## Parts of blocks -/

/-- A transaction cut down to some of its items. -/
def Transaction.restrict (chosen : Item → Bool) (tx : Transaction) : Transaction :=
  { tx with
    outputs := tx.outputs.filter fun output => chosen (.created output)
    inputs := tx.inputs.filter fun input => chosen input.item }

/-- A block cut down to some of its items. All transactions stay, and so does what is
    known of the block's place. -/
def Block.restrict (chosen : Item → Bool) (block : Block) : Block :=
  { block with transactions := block.transactions.map (Transaction.restrict chosen) }

theorem Transaction.items_restrict (chosen : Item → Bool) (tx : Transaction) :
    (tx.restrict chosen).items = tx.items.filter chosen := by
  rw [items, items, List.filter_append, List.filter_map, List.filter_map]
  rfl

theorem Block.items_restrict (chosen : Item → Bool) (block : Block) :
    (block.restrict chosen).items = block.items.filter chosen := by
  rw [items, items, restrict, List.flatMap_map, List.filter_flatMap]
  exact List.flatMap_congr fun tx _ => tx.items_restrict chosen

/-- A part contributes what the block does, if nothing is left out that contributes. -/
theorem Block.contributions_restrict {chosen : Item → Bool} {mode : Address.Mode}
    (h : ∀ item : Item, (item.key? mode).isSome → chosen item) (block : Block)
    (direction : Direction) :
    (block.restrict chosen).contributions mode direction = block.contributions mode direction := by
  rw [contributions, contributions, items_restrict, List.filterMap_filter]
  refine List.filterMap_congr fun item _ => ?_
  cases hkey : item.key? mode with
  | none => simp [Item.contribution, hkey]
  | some key => rw [if_pos (h item (by rw [hkey]; rfl))]

/-- No walk of a part ends early, if all addresses in it can be decoded. -/
theorem Walker.abort?_restrict {walker : Walker} {chosen : Item → Bool}
    (h : ∀ item, chosen item → item.failure? walker.mode = none) (block : Block) :
    walker.abort? (block.restrict chosen).items = none := by
  obtain ⟨mode, policy⟩ := walker
  cases policy with
  | lenient => rfl
  | strict =>
    rw [Block.items_restrict]
    refine List.findSome?_eq_none_iff.2 fun item hitem => ?_
    exact h item (List.mem_filter.1 hitem).2

/-! ## Addresses that cannot be decoded -/

theorem Address.raw_of_classify_eq_error {raw : Bytes} {error : DecodeError}
    (h : classify raw = .error error) : error.raw = raw := by
  cases raw with
  | nil =>
    cases h
    rfl
  | cons header rest =>
    rw [classify] at h
    split at h
    · cases h
    · cases h
      rfl

theorem Address.raw_of_checkLength_eq_error {raw : Bytes} {kind : Kind} {error : DecodeError}
    (h : checkLength raw kind = .error error) : error.raw = raw := by
  cases kind with
  | byron => cases h
  | base | reward | enterprise | pointer =>
    rw [checkLength] at h
    split at h
    · cases h
    · cases h
      rfl

theorem Address.raw_of_map_checkLength_eq_error {α : Type} {f : Unit → α} {raw : Bytes}
    {kind : Kind} {error : DecodeError} (h : (checkLength raw kind).map f = .error error) :
    error.raw = raw := by
  cases hfits : checkLength raw kind with
  | ok fits =>
    rw [hfits] at h
    cases h
  | error other =>
    rw [hfits] at h
    cases h
    exact raw_of_checkLength_eq_error hfits

/-- An address that cannot be decoded is in the error, with all its octets. -/
theorem Address.raw_of_key_eq_error {raw : Bytes} {mode : Mode} {error : DecodeError}
    (h : key raw mode = .error error) : error.raw = raw := by
  cases hlayout : classify raw with
  | error other =>
    rw [key, hlayout] at h
    cases h
    exact raw_of_classify_eq_error hlayout
  | ok kind =>
    -- past the header, only a length can be at fault
    rw [key, hlayout] at h
    cases mode with
    | payment =>
      change (paymentKey raw kind).map some = _ at h
      rw [paymentKey_eq] at h
      cases hfound : (checkLength raw kind).map fun _ => text raw kind with
      | ok found =>
        rw [hfound] at h
        cases h
      | error other =>
        rw [hfound] at h
        cases h
        exact raw_of_map_checkLength_eq_error hfound
    | stake =>
      change stakeKey raw kind = _ at h
      rw [stakeKey_eq] at h
      cases kind with
      | byron | pointer | enterprise => cases h
      | base | reward => exact raw_of_map_checkLength_eq_error h

/-- Whether the address of an item cannot be decoded. -/
def Walk.Item.isUndecodable (mode : Address.Mode) (item : Item) : Bool :=
  (item.failure? mode).isSome

/-- The items of a block whose addresses cannot be decoded, in order. -/
def Block.undecodable (mode : Address.Mode) (block : Block) : List Item :=
  block.items.filter (Item.isUndecodable mode)

/-- A block without the items whose addresses cannot be decoded. -/
def Block.decodable (mode : Address.Mode) (block : Block) : Block :=
  block.restrict fun item => !item.isUndecodable mode

theorem Walk.Item.failure?_eq_some {mode : Address.Mode} {item : Item}
    {error : Address.DecodeError} :
    item.failure? mode = some error ↔
      ∃ raw, item.address? = some raw ∧ Address.key raw mode = .error error := by
  rw [failure?, reading, address?]
  cases item.output? with
  | none => simp
  | some output =>
    simp only [Option.map_some, Option.some.injEq, exists_eq_left']
    cases Address.key output.address mode with
    | error other => simp
    | ok key => simp

/-- Each item that is left out is known. -/
theorem Walk.Item.not_unresolved_of_isUndecodable {mode : Address.Mode} {item : Item}
    (h : item.isUndecodable mode) : item.isUnresolved = false := by
  cases item with
  | created output => rfl
  | spent output => rfl
  | unresolved => cases h

/-- An item whose address cannot be decoded is not one without a key. -/
theorem Walk.Item.not_excluded_of_isUndecodable {mode : Address.Mode} {item : Item}
    (h : item.isUndecodable mode) : item.isExcluded mode = false := by
  rw [isUndecodable, failure?] at h
  rw [isExcluded]
  split at h
  · next error hreading => rw [hreading]
  · cases h

theorem Walk.Item.not_isUndecodable_of_key? {mode : Address.Mode} {item : Item}
    (h : (item.key? mode).isSome) : item.isUndecodable mode = false := by
  rw [key?] at h
  rw [isUndecodable, failure?]
  split at h
  · next key hreading => rw [hreading]; rfl
  · cases h

/-- An item is created, or spent and known, or not known. -/
theorem Walk.length_eq_countP (items : List Item) :
    items.length = items.countP Item.isCreated + items.countP Item.isSpent +
      items.countP Item.isUnresolved := by
  induction items with
  | nil => rfl
  | cons item rest ih =>
    rw [List.length_cons, ih, List.countP_cons, List.countP_cons, List.countP_cons]
    cases item with
    | created output | spent output | unresolved =>
      simp only [Item.isCreated, Item.isSpent, Item.isUnresolved, if_true, Bool.false_eq_true,
        if_false]
      omega

namespace Block

variable {mode : Address.Mode} {block : Block}

/-- What is counted among all items is counted among those that stay and those that are
    left out. -/
theorem countP_eq_add (mode : Address.Mode) (block : Block) (p : Item → Bool) :
    block.items.countP p =
      (block.decodable mode).items.countP p + (block.undecodable mode).countP p := by
  rw [decodable, items_restrict, undecodable, Nat.add_comm]
  exact List.countP_eq_countP_filter_add _ p _

theorem countP_undecodable_eq_zero {p : Item → Bool}
    (h : ∀ item, Item.isUndecodable mode item → p item = false) :
    (block.undecodable mode).countP p = 0 := by
  refine List.countP_eq_zero.2 fun item hitem => ?_
  rw [h item (List.mem_filter.1 hitem).2]
  exact Bool.false_ne_true

/-- What is left out is created or spent. -/
theorem length_undecodable (mode : Address.Mode) (block : Block) :
    (block.undecodable mode).length =
      (block.undecodable mode).countP Item.isCreated +
        (block.undecodable mode).countP Item.isSpent := by
  have hlength := Walk.length_eq_countP (block.undecodable mode)
  rwa [countP_undecodable_eq_zero fun _ => Item.not_unresolved_of_isUndecodable,
    Nat.add_zero] at hlength

theorem countP_isUnresolved_decodable (mode : Address.Mode) (block : Block) :
    block.items.countP Item.isUnresolved =
      (block.decodable mode).items.countP Item.isUnresolved := by
  rw [countP_eq_add mode, countP_undecodable_eq_zero fun _ => Item.not_unresolved_of_isUndecodable,
    Nat.add_zero]

theorem countP_isExcluded_decodable (mode : Address.Mode) (block : Block) :
    block.items.countP (Item.isExcluded mode) =
      (block.decodable mode).items.countP (Item.isExcluded mode) := by
  rw [countP_eq_add mode, countP_undecodable_eq_zero fun _ => Item.not_excluded_of_isUndecodable,
    Nat.add_zero]

theorem deltas_decodable (direction : Direction) :
    (block.decodable mode).deltas mode direction = block.deltas mode direction := by
  rw [deltas, deltas, decodable, contributions_restrict]
  intro item hkey
  rw [Item.not_isUndecodable_of_key? hkey]
  rfl

/-- The first failure is that of the first item that is left out. -/
theorem findSome?_failure? :
    block.items.findSome? (Item.failure? mode) =
      (block.undecodable mode).head?.bind (Item.failure? mode) := by
  rw [undecodable]
  -- both searches pass the items in front of the first one that is left out
  induction block.items with
  | nil => rfl
  | cons item rest ih =>
    rw [List.findSome?_cons, List.filter_cons]
    cases hfailure : item.failure? mode with
    | none => simpa [Item.isUndecodable, hfailure] using ih
    | some error => simp [Item.isUndecodable, hfailure]

end Block

namespace Walker

/-! ## Two policies -/

/-- Where nothing is left out, a strict walk and a lenient one are the same, events
    included. -/
theorem walk_strict_eq_lenient {mode : Address.Mode} {block : Block}
    (h : block.undecodable mode = []) (direction : Direction) :
    walk ⟨mode, .strict⟩ block direction = walk ⟨mode, .lenient⟩ block direction := by
  have hnone : ∀ item ∈ block.items, item.failure? mode = none := by
    intro item hitem
    exact Option.not_isSome_iff_eq_none.1 (List.filter_eq_nil_iff.1 h item hitem)
  have habort : abort? ⟨mode, .strict⟩ block.items = none := List.findSome?_eq_none_iff.2 hnone
  have hevents : failureEvents ⟨mode, .lenient⟩ block.items = [] := by
    rw [failureEvents, List.filterMap_eq_nil_iff.2 hnone]
    rfl
  rw [walk, walk, visitTransactions_block, visitTransactions_block, habort, hevents]
  rfl

/-- Where an item is left out, a strict walk ends at the first one, and the failure names
    all octets of its address. -/
theorem walk_strict_of_undecodable {mode : Address.Mode} {block : Block} {item : Item}
    {rest : List Item} (h : block.undecodable mode = item :: rest) (direction : Direction) :
    ∃ raw reason, item.address? = some raw ∧ Address.key raw mode = .error ⟨raw, reason⟩ ∧
      (walk ⟨mode, .strict⟩ block direction).outcome = .error (.address ⟨raw, reason⟩) ∧
      (Address.DecodeError.mk raw reason).message =
        "address '" ++ Hex.encode raw ++ "' could not be decoded: " ++ reason.message := by
  have hitem : item ∈ block.undecodable mode := by
    rw [h]
    exact List.mem_cons_self
  obtain ⟨⟨octets, reason⟩, hfailure⟩ :=
    Option.isSome_iff_exists.1 (List.mem_filter.1 hitem).2
  obtain ⟨raw, haddress, hkey⟩ := Item.failure?_eq_some.1 hfailure
  obtain rfl : octets = raw := Address.raw_of_key_eq_error hkey
  have habort : abort? ⟨mode, .strict⟩ block.items = some ⟨octets, reason⟩ := by
    rw [abort?, Block.findSome?_failure?, h]
    exact hfailure
  exact ⟨octets, reason, haddress, hkey, by rw [walk_outcome, habort], rfl⟩

/-- A lenient walk of a block is a strict walk of what can be decoded of it: both come to
    their end, with the same deltas. The counts are the same too, but for the items that
    are left out, which the lenient walk counts as outputs created or spent and once more
    as failures. A strict walk of the block itself fails if and only if something is left
    out. Then it fails at the first such item and names all octets of its address;
    otherwise it does what the lenient walk does. -/
theorem walk_lenient_eq_walk_decodable (mode : Address.Mode) (block : Block)
    (direction : Direction) :
    ∃ strict lenient,
      (walk ⟨mode, .strict⟩ (block.decodable mode) direction).outcome = .ok strict ∧
      (walk ⟨mode, .lenient⟩ block direction).outcome = .ok lenient ∧
      lenient.deltas = strict.deltas ∧
      lenient.stats.transactions = strict.stats.transactions ∧
      lenient.stats.unresolvedInputs = strict.stats.unresolvedInputs ∧
      lenient.stats.excluded = strict.stats.excluded ∧
      lenient.stats.decodeErrors = (block.undecodable mode).length ∧
      lenient.stats.outputs + lenient.stats.resolvedInputs =
        strict.stats.outputs + strict.stats.resolvedInputs + (block.undecodable mode).length ∧
      ((∃ error, (walk ⟨mode, .strict⟩ block direction).outcome = .error (.address error)) ↔
        block.undecodable mode ≠ []) ∧
      match block.undecodable mode with
      | [] => walk ⟨mode, .strict⟩ block direction = walk ⟨mode, .lenient⟩ block direction
      | item :: _ => ∃ raw reason, item.address? = some raw ∧
          Address.key raw mode = .error ⟨raw, reason⟩ ∧
          (walk ⟨mode, .strict⟩ block direction).outcome = .error (.address ⟨raw, reason⟩) ∧
          (Address.DecodeError.mk raw reason).message =
            "address '" ++ Hex.encode raw ++ "' could not be decoded: " ++ reason.message := by
  have hstrict : abort? ⟨mode, .strict⟩ (block.decodable mode).items = none :=
    abort?_restrict (fun item hchosen => by simpa [Item.isUndecodable] using hchosen) block
  refine ⟨⟨(block.decodable mode).deltas mode direction, (block.decodable mode).stats mode⟩,
    ⟨block.deltas mode direction, block.stats mode⟩, by rw [walk_outcome, hstrict],
    by rw [walk_outcome]; rfl, (Block.deltas_decodable direction).symm, ?_,
    block.countP_isUnresolved_decodable mode, block.countP_isExcluded_decodable mode,
    List.countP_eq_length_filter, ?_, ?_, ?_⟩
  · exact (List.length_map _).symm
  · have hcreated := block.countP_eq_add mode Item.isCreated
    have hspent := block.countP_eq_add mode Item.isSpent
    rw [Block.length_undecodable]
    simp only [Block.stats, hcreated, hspent]
    omega
  · cases hleft : block.undecodable mode with
    | nil =>
      have hends := congrArg Logged.outcome (walk_strict_eq_lenient hleft direction)
      rw [hends, walk_outcome]
      simp [abort?]
    | cons item rest =>
      obtain ⟨raw, reason, -, -, houtcome, -⟩ := walk_strict_of_undecodable hleft direction
      exact ⟨fun _ => List.cons_ne_nil _ _, fun _ => ⟨_, houtcome⟩⟩
  · split
    · next hleft => exact walk_strict_eq_lenient hleft direction
    · next hleft => exact walk_strict_of_undecodable hleft direction

end Walker

end UtxoBalance
