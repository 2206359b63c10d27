import UtxoBalance.Proofs.Leniency

/-!
# The sums of a walk

What a walk gives for a key is declared by two sums over the block: the coins of the
outputs that it creates at addresses with this key, and those of the known outputs
that it spends there. Both stand for whole lists of outputs, however the walk comes by
them one by one. A key is there if one of these outputs has it, even where the sums
cancel. What has no key leaves no trace: the block without it has the same deltas.

## Main definitions

- `Output.HasKey` — outputs at addresses with a key
- `Output.coinUnder` — the coins of the outputs with a key
- `Block.keyed` — a block without what has no key

## Main statements

- `Walk.amount_contributions` — what outputs of one sign give to a key
- `Block.amount_contributions` — what a block gives to a key
- `Walker.walk_declared_sums` — what a walk comes to
-/

namespace UtxoBalance

open Walk

/-- The address of an output has this key. -/
def Output.HasKey (mode : Address.Mode) (key : String) (output : Output) : Prop :=
  Address.key output.address mode = .ok (some key)

instance (mode : Address.Mode) (key : String) (output : Output) :
    Decidable (output.HasKey mode key) :=
  inferInstanceAs (Decidable (Address.key output.address mode = .ok (some key)))

/-- The coins of those outputs that have a key. -/
def Output.coinUnder (mode : Address.Mode) (key : String) (outputs : List Output) : Int :=
  ((outputs.filter fun output => output.HasKey mode key).map Output.coin).sum

/-- A block without the items that have no key. -/
def Block.keyed (mode : Address.Mode) (block : Block) : Block :=
  block.restrict fun item => (item.key? mode).isSome

theorem Output.coinUnder_cons (mode : Address.Mode) (key : String) (output : Output)
    (rest : List Output) :
    coinUnder mode key (output :: rest) =
      (if output.HasKey mode key then output.coin else 0) + coinUnder mode key rest := by
  rw [coinUnder, List.filter_cons]
  by_cases h : output.HasKey mode key
  · rw [if_pos h, if_pos (decide_eq_true h), List.map_cons, List.sum_cons]
    rfl
  · rw [if_neg h, if_neg (by simpa using h), Int.zero_add]
    rfl

theorem Walk.Item.key?_of_output {mode : Address.Mode} {item : Item} {output : Output}
    (h : item.output? = some output) (key : String) :
    item.key? mode = some key ↔ output.HasKey mode key := by
  rw [key?_eq_bind, address?, h]
  exact Address.key?_eq_some

/-- Outputs that count with one sign give a key their coins, with that sign. -/
theorem Walk.amount_contributions (item : Output → Item) {direction : Direction} (sign : Int)
    (houtput : ∀ output, (item output).output? = some output)
    (hsign : ∀ output, (item output).sign direction = sign) (mode : Address.Mode) (key : String)
    (outputs : List Output) :
    Deltas.amount key ((outputs.map item).filterMap (Item.contribution mode direction)) =
      sign * Output.coinUnder mode key outputs := by
  rw [Deltas.amount, totalOf_contributions]
  induction outputs with
  | nil => exact (Int.mul_zero sign).symm
  | cons output rest ih =>
    have hcoin : (item output).amount direction = sign * output.coin := by
      rw [Item.amount, houtput, hsign]
      rfl
    have hkey : ((item output).key? mode).any (· = key) ↔ output.HasKey mode key := by
      rw [← Item.key?_of_output (houtput output) key]
      simp [Option.any_eq_true]
    rw [List.map_cons, List.map_cons, List.sum_cons, ih, hcoin, Output.coinUnder_cons, Int.mul_add]
    by_cases h : output.HasKey mode key
    · rw [if_pos (hkey.2 h), if_pos h]
    · rw [if_neg (mt hkey.1 h), if_neg h, Int.mul_zero]

namespace Block

/-- A block gives a key the coins that it creates there and those that it spends, each
    with their sign. -/
theorem amount_contributions (mode : Address.Mode) (direction : Direction) (key : String)
    (block : Block) :
    Deltas.amount key (block.contributions mode direction) =
      direction.outputSign * Output.coinUnder mode key block.outputs +
        direction.inputSign * Output.coinUnder mode key block.spends := by
  -- what is known is created or spent, in some order
  have hperm := block.known_perm.filterMap (Item.contribution mode direction)
  rw [← filterMap_items rfl, List.filterMap_append] at hperm
  have hcreated : Deltas.amount key
      ((block.outputs.map .created).filterMap (Item.contribution mode direction)) =
        direction.outputSign * Output.coinUnder mode key block.outputs :=
    Walk.amount_contributions .created _ (fun _ => rfl) (fun _ => rfl) mode key block.outputs
  have hspent : Deltas.amount key
      ((block.spends.map .spent).filterMap (Item.contribution mode direction)) =
        direction.inputSign * Output.coinUnder mode key block.spends :=
    Walk.amount_contributions .spent _ (fun _ => rfl) (fun _ => rfl) mode key block.spends
  rw [contributions, Deltas.amount_of_perm hperm, Deltas.amount_append, hcreated, hspent]

theorem mem_keys_deltas_iff_hasKey {mode : Address.Mode} {direction : Direction} {key : String}
    {block : Block} :
    key ∈ (block.deltas mode direction).keys ↔
      ∃ output ∈ block.outputs ++ block.spends, output.HasKey mode key := by
  rw [mem_keys_deltas, touched]
  simp only [List.mem_map, Address.key?_eq_some, Output.HasKey]
  constructor
  · rintro ⟨_, ⟨output, houtput, rfl⟩, hkey⟩
    exact ⟨output, houtput, hkey⟩
  · rintro ⟨output, houtput, hkey⟩
    exact ⟨output.address, ⟨output, houtput, rfl⟩, hkey⟩

theorem deltas_keyed (mode : Address.Mode) (direction : Direction) (block : Block) :
    (block.keyed mode).deltas mode direction = block.deltas mode direction := by
  rw [deltas, deltas, keyed, contributions_restrict fun _ hkey => hkey]

end Block

namespace Walker

theorem abort?_keyed (walker : Walker) (block : Block) :
    walker.abort? (block.keyed walker.mode).items = none := by
  refine abort?_restrict (fun item hkey => ?_) block
  have hdecodable := Item.not_isUndecodable_of_key? hkey
  simpa [Item.isUndecodable] using hdecodable

/-- Where a walk comes to its end, its deltas hold each key once. A key is there if an
    output that is created, or a known one that is spent, has it. Then its amount is the
    coins of all such outputs that are created and those of all that are spent, each with
    their sign. What has no key adds nothing: the block without it gives the same
    deltas. -/
theorem walk_declared_sums {walker : Walker} {block : Block} {direction : Direction}
    {tally : Tally} (h : (walker.walk block direction).outcome = .ok tally) :
    tally.deltas.keys.Nodup ∧
      (∀ key, key ∈ tally.deltas.keys ↔
        ∃ output ∈ block.outputs ++ block.spends, output.HasKey walker.mode key) ∧
      (∀ key ∈ tally.deltas.keys,
        tally.deltas.get? key = some
          (direction.outputSign * Output.coinUnder walker.mode key block.outputs +
            direction.inputSign * Output.coinUnder walker.mode key block.spends)) ∧
      ∃ keyed, (walker.walk (block.keyed walker.mode) direction).outcome = .ok keyed ∧
        keyed.deltas = tally.deltas := by
  rw [walk_outcome] at h
  cases habort : walker.abort? block.items with
  | some error =>
    rw [habort] at h
    cases h
  | none =>
    rw [habort] at h
    cases h
    refine ⟨block.nodup_keys_deltas _ _, fun key => Block.mem_keys_deltas_iff_hasKey, ?_,
      ⟨(block.keyed walker.mode).deltas walker.mode direction,
        (block.keyed walker.mode).stats walker.mode⟩, ?_, Block.deltas_keyed _ _ _⟩
    · intro key hkey
      rw [Deltas.get?_eq_amount (block.nodup_keys_deltas _ _), if_pos hkey, Block.deltas,
        Deltas.amount_gather, Block.amount_contributions]
    · rw [walk_outcome, abort?_keyed]

/-- A reward address that is paid and spent from, an address that cannot be decoded, one
    without a staking key, and an output that is not known. -/
def cancelled : Block :=
  { transactions := [{
      outputs := [⟨0xE1 :: List.replicate 28 7, 3⟩, ⟨[0x90], 8⟩, ⟨0x61 :: List.replicate 28 1, 4⟩,
        ⟨0xE1 :: List.replicate 28 7, 2⟩]
      inputs := [{}, { spent := some ⟨0xE1 :: List.replicate 28 7, 5⟩ }] }] }

/-- The one key of this block is there with zero. -/
theorem walk_declared_sums_cancelled :
    (walk ⟨.stake, .lenient⟩ cancelled .undo).outcome =
        .ok ⟨cancelled.deltas .stake .undo, cancelled.stats .stake⟩ ∧
      Address.rewardText (0xE1 :: List.replicate 28 7) ∈ (cancelled.deltas .stake .undo).keys ∧
      (cancelled.deltas .stake .undo).get? (Address.rewardText (0xE1 :: List.replicate 28 7)) =
        some 0 := by
  have hwalk : (walk ⟨.stake, .lenient⟩ cancelled .undo).outcome =
      .ok ⟨cancelled.deltas .stake .undo, cancelled.stats .stake⟩ := by
    rw [walk_outcome]
    rfl
  obtain ⟨-, hkeys, hsums, -⟩ := walk_declared_sums hwalk
  dsimp only at hkeys hsums
  have hkey : Address.key (0xE1 :: List.replicate 28 7) .stake =
      .ok (some (Address.rewardText (0xE1 :: List.replicate 28 7))) :=
    @Address.key_stake_of_hasKind _ .reward ⟨rfl, rfl⟩
  have hmem := (hkeys _).2 ⟨⟨0xE1 :: List.replicate 28 7, 3⟩, by decide +kernel, hkey⟩
  refine ⟨hwalk, hmem, (hsums _ hmem).trans ?_⟩
  decide +kernel

end Walker

end UtxoBalance
