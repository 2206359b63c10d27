import UtxoBalance.Proofs.AddressKey
import UtxoBalance.Proofs.Rearrangement

/-!
# Balances of staking credentials

The balances by staking key are those by payment key, grouped. Where a strict walk by
payment key comes to its end, all addresses fit their layouts, and then a strict walk
by staking key comes to its end too. An item counts with the same amount in both. Since
the payment key of an address tells its staking key, the payment keys behind a staking
key are not those of any other address, and what is added up under them is what is
added up under the staking key: nothing is lost and nothing counts twice.

## Main definitions

- `Block.touched` — the addresses that a block touches
- `Block.paymentKeys` — the payment keys behind some staking keys

## Main statements

- `Block.mem_paymentKeys_iff` — whether a payment key is behind some staking keys
- `Block.totalOf_stake` — amounts by staking key, told by payment keys
- `Walker.walk_stake_of_walk_payment` — what a walk by staking key comes to
-/

namespace UtxoBalance

open Walk

/-- The addresses that a block touches: those of the outputs that it creates and of the
    known outputs that it spends. -/
def Block.touched (block : Block) : List Bytes :=
  (block.outputs ++ block.spends).map Output.address

/-- The key of an address, where it can be decoded and has one. -/
def Address.key? (mode : Address.Mode) (raw : Bytes) : Option String :=
  match key raw mode with
  | .ok found => found
  | .error _ => none

/-- The payment keys of the touched addresses whose staking key is chosen, each once. -/
def Block.paymentKeys (block : Block) (chosen : String → Bool) : List String :=
  ((block.touched.filter fun raw => (Address.key? .stake raw).any chosen).filterMap
    (Address.key? .payment)).dedup

/-! ## Items and addresses -/

/-- The address of an item, where its output is known. -/
def Walk.Item.address? (item : Walk.Item) : Option Bytes :=
  item.output?.map Output.address

theorem Walk.Item.key?_eq_bind (mode : Address.Mode) (item : Walk.Item) :
    item.key? mode = item.address?.bind (Address.key? mode) := by
  rw [key?, reading, address?]
  cases item.output? with
  | none => rfl
  | some output =>
    simp only [Option.map_some, Option.bind_some, Address.key?]
    cases Address.key output.address mode with
    | error error => rfl
    | ok found => rfl

theorem Block.mem_touched {block : Block} {raw : Bytes} :
    raw ∈ block.touched ↔ ∃ item ∈ block.items, item.address? = some raw := by
  have hperm := block.known_perm.filterMap Item.address?
  rw [← filterMap_items rfl, List.filterMap_append, List.filterMap_map,
    List.filterMap_map] at hperm
  rw [← List.mem_filterMap, hperm.mem_iff, touched, List.map_append]
  simp only [Function.comp_def, Item.address?, Item.output?, Option.map_some,
    List.filterMap_eq_map']

theorem Address.key?_eq_some {mode : Address.Mode} {raw : Bytes} {found : String} :
    key? mode raw = some found ↔ key raw mode = .ok (some found) := by
  rw [key?]
  cases key raw mode with
  | error error => simp
  | ok other => simp

/-- The keys of deltas are those of the touched addresses. -/
theorem Block.mem_keys_deltas {block : Block} {mode : Address.Mode} {direction : Direction}
    {found : String} :
    found ∈ (block.deltas mode direction).keys ↔
      ∃ raw ∈ block.touched, Address.key? mode raw = some found := by
  rw [deltas, Deltas.mem_keys_gather, contributions, Deltas.keys, List.mem_map]
  simp only [List.mem_filterMap, Item.contribution, Option.map_eq_some_iff, Item.key?_eq_bind,
    Option.bind_eq_some_iff]
  constructor
  · rintro ⟨entry, ⟨item, hitem, found, ⟨raw, haddress, hkey⟩, rfl⟩, rfl⟩
    exact ⟨raw, mem_touched.2 ⟨item, hitem, haddress⟩, hkey⟩
  · rintro ⟨raw, hraw, hkey⟩
    obtain ⟨item, hitem, haddress⟩ := mem_touched.1 hraw
    exact ⟨(found, item.amount direction),
      ⟨item, hitem, found, ⟨raw, haddress, hkey⟩, rfl⟩, rfl⟩

/-- All addresses that a block touches fit their layouts. -/
def Block.IsDecodable (block : Block) : Prop :=
  ∀ raw ∈ block.touched, ∃ kind, Address.HasKind raw kind

theorem Address.key?_payment {raw : Bytes} {kind : Kind} (h : HasKind raw kind) :
    key? .payment raw = some (text raw kind) := by
  rw [key?, key_payment_eq_ok.2 ⟨kind, h, rfl⟩]

theorem Address.key?_stake {raw : Bytes} {kind : Kind} (h : HasKind raw kind) :
    key? .stake raw = stakeText? raw kind := by
  rw [key?, key_stake_of_hasKind h]

/-- A strict walk by payment key ends only if all addresses fit their layouts. -/
theorem Block.isDecodable_of_walk {block : Block} {direction : Direction} {tally : Tally}
    (h : (Walker.walk ⟨.payment, .strict⟩ block direction).outcome = .ok tally) :
    block.IsDecodable := by
  intro raw hraw
  obtain ⟨item, hitem, haddress⟩ := mem_touched.1 hraw
  obtain ⟨habort, -⟩ := Walker.walk_eq_ok_iff.1 h
  have hfailure : item.failure? .payment = none := List.findSome?_eq_none_iff.1 habort item hitem
  cases hkey : Address.key raw .payment with
  | error error =>
    obtain ⟨output, houtput, rfl⟩ := Option.map_eq_some_iff.1 haddress
    rw [Item.failure?, Item.reading, houtput, Option.map_some, hkey] at hfailure
    cases hfailure
  | ok found =>
    obtain ⟨kind, hkind, -⟩ := Address.key_payment_eq_ok.1 hkey
    exact ⟨kind, hkind⟩

/-- Where all addresses fit their layouts, no walk fails. -/
theorem Block.IsDecodable.abort?_eq_none {block : Block} (h : block.IsDecodable)
    (walker : Walker) : walker.abort? block.items = none := by
  obtain ⟨mode, policy⟩ := walker
  cases policy with
  | lenient => rfl
  | strict =>
    refine List.findSome?_eq_none_iff.2 fun item hitem => ?_
    rw [Item.failure?, Item.reading]
    cases houtput : item.output? with
    | none => rfl
    | some output =>
      have hraw : output.address ∈ block.touched :=
        mem_touched.2 ⟨item, hitem, by rw [Item.address?, houtput]; rfl⟩
      obtain ⟨kind, hkind⟩ := h output.address hraw
      cases mode with
      | payment =>
        rw [Option.map_some, Address.key_payment_eq_ok.2 ⟨kind, hkind, rfl⟩]
      | stake =>
        rw [Option.map_some, Address.key_stake_of_hasKind hkind]

/-! ## Payment keys behind staking keys -/

theorem Block.nodup_paymentKeys (block : Block) (chosen : String → Bool) :
    (block.paymentKeys chosen).Nodup :=
  List.nodup_dedup _

theorem Block.paymentKeys_subset (block : Block) (chosen : String → Bool)
    (direction : Direction) :
    ∀ name ∈ block.paymentKeys chosen, name ∈ (block.deltas .payment direction).keys := by
  intro name hname
  obtain ⟨raw, hraw, hkey⟩ := List.mem_filterMap.1 (List.mem_dedup.1 hname)
  exact mem_keys_deltas.2 ⟨raw, (List.mem_filter.1 hraw).1, hkey⟩

/-- An address is among those whose staking key is chosen if its payment key is among
    theirs. -/
theorem Block.IsDecodable.mem_paymentKeys_iff {block : Block} (h : block.IsDecodable)
    {raw : Bytes} (hraw : raw ∈ block.touched) {name : String}
    (hname : Address.key? .payment raw = some name) (chosen : String → Bool) :
    name ∈ block.paymentKeys chosen ↔ (Address.key? .stake raw).any chosen := by
  simp only [paymentKeys, List.mem_dedup, List.mem_filterMap, List.mem_filter]
  constructor
  · -- the address that brought the key in may be another one with the same text
    rintro ⟨other, ⟨hother, hchosen⟩, hsame⟩
    obtain ⟨kind, hkind⟩ := h raw hraw
    obtain ⟨otherKind, hotherKind⟩ := h other hother
    rw [Address.key?_payment hkind] at hname
    rw [Address.key?_payment hotherKind, ← hname] at hsame
    rw [Address.key?_stake hotherKind,
      Address.stakeText?_eq_of_text_eq hotherKind hkind (Option.some.inj hsame)] at hchosen
    rwa [Address.key?_stake hkind]
  · exact fun hchosen => ⟨raw, ⟨hraw, hchosen⟩, hname⟩

/-! ## Amounts -/

theorem Walk.totalOf_contributions (mode : Address.Mode) (direction : Direction)
    (chosen : String → Bool) (items : List Item) :
    Deltas.totalOf chosen (items.filterMap (Item.contribution mode direction)) =
      (items.map fun item =>
        if (item.key? mode).any chosen then item.amount direction else 0).sum := by
  induction items with
  | nil => rfl
  | cons item rest ih =>
    rw [List.filterMap_cons, List.map_cons, List.sum_cons, ← ih]
    cases hkey : item.key? mode with
    | none => simp [Item.contribution, hkey]
    | some key => simp [Item.contribution, hkey, Deltas.totalOf_cons]

/-- What is added up under some staking keys is what is added up under the payment keys
    behind them. -/
theorem Block.IsDecodable.totalOf_stake {block : Block} (h : block.IsDecodable)
    (direction : Direction) (chosen : String → Bool) :
    (block.deltas .stake direction).totalOf chosen =
      (block.deltas .payment direction).totalOf (· ∈ block.paymentKeys chosen) := by
  rw [deltas, deltas, Deltas.totalOf_gather, Deltas.totalOf_gather, contributions, contributions,
    Walk.totalOf_contributions, Walk.totalOf_contributions]
  -- item by item: each counts on one side if and only if it counts on the other
  refine congrArg List.sum (List.map_congr_left fun item hitem => ?_)
  rw [Item.key?_eq_bind, Item.key?_eq_bind]
  cases haddress : item.address? with
  | none => rfl
  | some raw =>
    have hraw : raw ∈ block.touched := mem_touched.2 ⟨item, hitem, haddress⟩
    obtain ⟨kind, hkind⟩ := h raw hraw
    have hname := Address.key?_payment hkind
    have hiff := h.mem_paymentKeys_iff hraw hname chosen
    simp only [Option.bind_some, hname, Option.any_some, decide_eq_true_eq, hiff]

theorem Block.nodup_keys_deltas (block : Block) (mode : Address.Mode) (direction : Direction) :
    (block.deltas mode direction).keys.Nodup :=
  Deltas.nodup_keys_gather _

/-- A staking key has the sum of what the payment keys behind it have. -/
theorem Block.IsDecodable.get?_stake {block : Block} (h : block.IsDecodable)
    {direction : Direction} {key : String} (hkey : key ∈ (block.deltas .stake direction).keys) :
    ∃ amounts,
      (block.paymentKeys (· = key)).mapM (block.deltas .payment direction).get? = some amounts ∧
        (block.deltas .stake direction).get? key = some amounts.sum := by
  refine ⟨_, Deltas.mapM_get? (block.nodup_keys_deltas _ _)
    (block.paymentKeys_subset _ direction), ?_⟩
  rw [Deltas.get?_eq_amount (block.nodup_keys_deltas _ _), if_pos hkey,
    Deltas.sum_amount (block.nodup_paymentKeys _)]
  exact congrArg some (h.totalOf_stake direction _)

namespace Walker

/-- Where a strict walk by payment key comes to its end, so does one by staking key, and
    it gives the same balances grouped. A staking key is there if a touched address has
    it. Its amount is the sum of those of the distinct payment keys of the touched
    addresses that have it. All staking keys together have what the payment keys have
    whose addresses have a staking key. -/
theorem walk_stake_of_walk_payment {block : Block} {direction : Direction} {payment : Tally}
    (h : (walk ⟨.payment, .strict⟩ block direction).outcome = .ok payment) :
    ∃ stake, (walk ⟨.stake, .strict⟩ block direction).outcome = .ok stake ∧
      (∀ key, key ∈ stake.deltas.keys ↔
        ∃ raw ∈ block.touched, Address.key raw .stake = .ok (some key)) ∧
      (∀ key ∈ stake.deltas.keys,
        ∃ amounts, (block.paymentKeys (· = key)).mapM payment.deltas.get? = some amounts ∧
          stake.deltas.get? key = some amounts.sum) ∧
      stake.deltas.total =
        payment.deltas.totalOf (· ∈ block.paymentKeys fun _ => true) := by
  have hdecodable := Block.isDecodable_of_walk h
  rw [walk_outcome, hdecodable.abort?_eq_none] at h
  cases h
  refine ⟨⟨block.deltas .stake direction, block.stats .stake⟩, ?_, ?_, ?_, ?_⟩
  · rw [walk_outcome, hdecodable.abort?_eq_none]
  · intro key
    simp only [Block.mem_keys_deltas, Address.key?_eq_some]
  · exact fun key hkey => hdecodable.get?_stake hkey
  · rw [← Deltas.totalOf_true]
    exact hdecodable.totalOf_stake direction _

/-- Outputs at two base addresses with one staking credential, and at an enterprise
    address. -/
def sharedStake : Block :=
  { transactions := [{ outputs := [
      ⟨0x01 :: (List.replicate 28 1 ++ List.replicate 28 9), 1⟩,
      ⟨0x01 :: (List.replicate 28 2 ++ List.replicate 28 9), 2⟩,
      ⟨0x61 :: List.replicate 28 1, 4⟩] }] }

/-- Of seven coins three are at addresses with a staking credential. -/
theorem walk_stake_of_walk_payment_sharedStake :
    (walk ⟨.payment, .strict⟩ sharedStake .apply).outcome =
        .ok ⟨sharedStake.deltas .payment .apply, sharedStake.stats .payment⟩ ∧
      ∃ stake, (walk ⟨.stake, .strict⟩ sharedStake .apply).outcome = .ok stake ∧
        stake.deltas.total = 3 := by
  have hwalk : (walk ⟨.payment, .strict⟩ sharedStake .apply).outcome =
      .ok ⟨sharedStake.deltas .payment .apply, sharedStake.stats .payment⟩ := by
    rw [walk_outcome]
    rfl
  obtain ⟨stake, hstake, -, -, htotal⟩ := walk_stake_of_walk_payment hwalk
  refine ⟨hwalk, stake, hstake, htotal.trans ?_⟩
  decide +kernel

end Walker

end UtxoBalance
