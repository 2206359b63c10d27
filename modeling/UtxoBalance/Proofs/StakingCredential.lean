import UtxoBalance.Proofs.AddressKey

/-!
# Staking credentials

A base address and a reward address refer to a staking credential: 28 octets, the hash of
a key or of a script, on one of sixteen networks. A base address says in bit 1 of its
layout that the hash is that of a script, a reward address in bit 0. Bit 0 of a base
address is about its payment credential, which leaves no trace in stake mode.

The key in stake mode is the text of the reward address of the credential, whatever the
address that refers to it, and the text tells network, script and hash. So two addresses
share a key if they refer to one credential, and only then.

## Main definitions

- `Address.Staking` — a staking credential
- `Address.RefersTo` — the addresses that refer to it

## Main statements

- `Address.exists_refersTo_iff` — which addresses refer to a credential
- `Address.RefersTo.key_stake` — the key in stake mode
- `Address.Staking.text_injective` — the text of a credential tells the credential
- `Address.stake_key_eq_iff` — one key, one credential, that of its reward address as well
-/

namespace UtxoBalance.Address

/-- A staking credential. -/
structure Staking where
  /-- The number of the network. -/
  network : Nat
  /-- Whether the hash is that of a script. -/
  script : Bool
  /-- The hash. -/
  hash : Bytes
  deriving DecidableEq, Repr

/-- Whether an address is a base address or a reward address, and refers to this staking
    credential. -/
inductive RefersTo : Bytes → Staking → Prop
  /-- A base address: a payment credential and a staking credential behind the header. -/
  | base {header : UInt8} {payment hash : Bytes} :
      layoutBits header < 4 → payment.length = 28 → hash.length = 28 →
      RefersTo (header :: (payment ++ hash))
        ⟨networkBits header, (layoutBits header).testBit 1, hash⟩
  /-- A reward address: the credential alone. -/
  | reward {header : UInt8} {hash : Bytes} :
      layoutBits header = 14 ∨ layoutBits header = 15 → hash.length = 28 →
      RefersTo (header :: hash) ⟨networkBits header, layoutBits header = 15, hash⟩

/-! ## Which addresses refer to a credential -/

theorem kindOf?_eq_base {nibble : Nat} : kindOf? nibble = some .base ↔ nibble < 4 := by
  grind [kindOf?]

theorem kindOf?_eq_reward {nibble : Nat} :
    kindOf? nibble = some .reward ↔ nibble = 14 ∨ nibble = 15 := by
  grind [kindOf?]

theorem classify_cons_eq_ok {header : UInt8} {rest : Bytes} {kind : Kind} :
    classify (header :: rest) = .ok kind ↔ kindOf? (layoutBits header) = some kind := by
  rw [classify]
  cases kindOf? (layoutBits header) with
  | none => simp
  | some other => simp

theorem hasKind_base {header : UInt8} {payment hash : Bytes} (hbits : layoutBits header < 4)
    (hpayment : payment.length = 28) (hhash : hash.length = 28) :
    HasKind (header :: (payment ++ hash)) .base :=
  ⟨classify_cons_eq_ok.2 (kindOf?_eq_base.2 hbits),
    if_pos (by simp [hpayment, hhash, baseLength, credentialLength])⟩

theorem hasKind_reward {header : UInt8} {hash : Bytes}
    (hbits : layoutBits header = 14 ∨ layoutBits header = 15) (hhash : hash.length = 28) :
    HasKind (header :: hash) .reward :=
  ⟨classify_cons_eq_ok.2 (kindOf?_eq_reward.2 hbits),
    if_pos (by simp [hhash, rewardLength, credentialLength])⟩

/-- The layout and the length decide whether an address refers to a credential. -/
theorem exists_refersTo_iff {raw : Bytes} :
    (∃ own, RefersTo raw own) ↔
      (classify raw = .ok .base ∧ raw.length = 57) ∨
        (classify raw = .ok .reward ∧ raw.length = 29) := by
  constructor
  · rintro ⟨own, h⟩
    cases h with
    | base hbits hpayment hhash =>
      have hkind := hasKind_base hbits hpayment hhash
      exact .inl ⟨hkind.layout, hkind.length_fits⟩
    | reward hbits hhash =>
      have hkind := hasKind_reward hbits hhash
      exact .inr ⟨hkind.layout, hkind.length_fits⟩
  · cases raw with
    | nil => rintro (⟨hlayout, -⟩ | ⟨hlayout, -⟩) <;> cases hlayout
    | cons header rest =>
      rw [classify_cons_eq_ok, classify_cons_eq_ok, kindOf?_eq_base, kindOf?_eq_reward,
        List.length_cons]
      rintro (⟨hbits, hlength⟩ | ⟨hbits, hlength⟩)
      · rw [← List.take_append_drop 28 rest]
        exact ⟨_, .base hbits (by rw [List.length_take]; omega)
          (by rw [List.length_drop]; omega)⟩
      · exact ⟨_, .reward hbits (by omega)⟩

theorem RefersTo.network_lt {raw : Bytes} {own : Staking} (h : RefersTo raw own) :
    own.network < 16 := by
  cases h with
  | base => exact Nat.mod_lt _ (by decide)
  | reward => exact Nat.mod_lt _ (by decide)

/-! ## Headers of reward addresses -/

theorem toNat_rewardHeader (network : Int) (script : Bool) :
    (rewardHeader network script).toNat =
      (if script then 240 else 224) + (network % 16).toNat := by
  rw [rewardHeader, UInt8.toNat_ofNat']
  cases script with
  | false =>
    simp only [Bool.false_eq_true, if_false]
    omega
  | true =>
    simp only [if_true]
    omega

theorem networkBits_rewardHeader (network : Int) (script : Bool) :
    networkBits (rewardHeader network script) = (network % 16).toNat := by
  rw [networkBits, toNat_rewardHeader]
  split
  · omega
  · omega

theorem layoutBits_rewardHeader (network : Int) (script : Bool) :
    layoutBits (rewardHeader network script) = if script then 15 else 14 := by
  rw [layoutBits, toNat_rewardHeader]
  split
  · omega
  · omega

theorem layoutBits_rewardHeader_or (network : Int) (script : Bool) :
    layoutBits (rewardHeader network script) = 14 ∨
      layoutBits (rewardHeader network script) = 15 := by
  rw [layoutBits_rewardHeader]
  cases script with
  | false => exact .inl rfl
  | true => exact .inr rfl

theorem script_rewardHeader (network : Int) (script : Bool) :
    decide (layoutBits (rewardHeader network script) = 15) = script := by
  rw [layoutBits_rewardHeader]
  cases script with
  | false => rfl
  | true => rfl

theorem rewardHeader_eq {header : UInt8} (h : layoutBits header = 14 ∨ layoutBits header = 15) :
    rewardHeader (networkBits header) (layoutBits header = 15) = header := by
  rw [← UInt8.toNat_inj, toNat_rewardHeader]
  simp only [layoutBits, networkBits] at h ⊢
  rcases h with h | h
  · simp only [h, Nat.reduceEqDiff, decide_false, Bool.false_eq_true, if_false]
    omega
  · simp only [h, decide_true, if_true]
    omega

/-! ## Keys -/

/-- The text of a staking credential: that of its reward address. -/
def Staking.text (own : Staking) : String :=
  rewardText (rewardHeader own.network own.script :: own.hash)

/-- Network, kind and hash can be read off the reward address, and the address off its
    text. -/
theorem Staking.text_injective {own another : Staking} (hown : own.network < 16)
    (hanother : another.network < 16) (h : own.text = another.text) : own = another := by
  obtain ⟨hheader, hhash⟩ := List.cons.inj (Bech32.encode_injective h).2
  have hnetwork := congrArg networkBits hheader
  rw [networkBits_rewardHeader, networkBits_rewardHeader] at hnetwork
  have hscript := congrArg (fun header => decide (layoutBits header = 15)) hheader
  simp only [script_rewardHeader] at hscript
  obtain ⟨network, script, hash⟩ := own
  obtain ⟨network', script', hash'⟩ := another
  simp only [Staking.mk.injEq] at hown hanother hnetwork hscript hhash ⊢
  exact ⟨by omega, hscript, hhash⟩

theorem RefersTo.key_stake {raw : Bytes} {own : Staking} (h : RefersTo raw own) :
    key raw .stake = .ok (some own.text) := by
  cases h with
  | @base header payment hash hbits hpayment hhash =>
    -- the hash is all that is left behind the payment credential
    have hdrop : (header :: (payment ++ hash)).drop (1 + credentialLength) = hash := by
      rw [credentialLength, ← hpayment, Nat.add_comm, List.drop_succ_cons, List.drop_left]
    have htake : hash.take credentialLength = hash := by
      rw [credentialLength, ← hhash, List.take_length]
    rw [key_stake_of_hasKind (hasKind_base hbits hpayment hhash), stakeText?, rewardOfBase,
      hdrop, htake]
    rfl
  | reward hbits hhash =>
    rw [key_stake_of_hasKind (hasKind_reward hbits hhash), stakeText?, Staking.text,
      rewardHeader_eq hbits]

theorem key_payment_of_reward {header : UInt8} {hash : Bytes}
    (hbits : layoutBits header = 14 ∨ layoutBits header = 15) (hhash : hash.length = 28) :
    key (header :: hash) .payment = key (header :: hash) .stake := by
  have hkind := hasKind_reward hbits hhash
  rw [key_payment_eq_ok.2 ⟨.reward, hkind, rfl⟩, key_stake_of_hasKind hkind]
  rfl

theorem refersTo_reward (network : Int) (script : Bool) {hash : Bytes} (h : hash.length = 28) :
    RefersTo (rewardHeader network script :: hash) ⟨(network % 16).toNat, script, hash⟩ := by
  have hrefers := RefersTo.reward (layoutBits_rewardHeader_or network script) h
  rwa [networkBits_rewardHeader, script_rewardHeader] at hrefers

/-- The addresses that refer to a staking credential are the base addresses and the reward
    addresses of their fixed lengths, and in stake mode two of them share a key if they
    refer to one credential, and only then. Whatever integer is taken for the network, a
    reward address is built for every hash of 28 octets; its network is the integer modulo
    sixteen, and it has one key in both modes, the key of every base address that refers
    to its credential. -/
theorem stake_key_eq_iff :
    (∀ raw, (∃ own, RefersTo raw own) ↔
      (classify raw = .ok .base ∧ raw.length = 57) ∨
        (classify raw = .ok .reward ∧ raw.length = 29)) ∧
    (∀ {first second : Bytes} {own another : Staking},
      RefersTo first own → RefersTo second another →
      ∃ found other, key first .stake = .ok (some found) ∧ key second .stake = .ok (some other) ∧
        (found = other ↔ own = another)) ∧
    ∀ (network : Int) (hash : Bytes) (script : Bool), hash.length = 28 →
      ∃ raw found, reward network hash script = .ok raw ∧ raw.length = 29 ∧
        classify raw = .ok .reward ∧ (Address.network raw : Int) = network % 16 ∧
        key raw .stake = .ok (some found) ∧ key raw .payment = .ok (some found) ∧
        ∀ base, classify base = .ok .base → RefersTo base ⟨(network % 16).toNat, script, hash⟩ →
          key base .stake = .ok (some found) := by
  refine ⟨fun _ => exists_refersTo_iff, ?_, ?_⟩
  · intro first second own another hfirst hsecond
    refine ⟨_, _, hfirst.key_stake, hsecond.key_stake, ?_, congrArg Staking.text⟩
    exact Staking.text_injective hfirst.network_lt hsecond.network_lt
  · intro network hash script hhash
    have hbits := layoutBits_rewardHeader_or network script
    have hkind := hasKind_reward hbits hhash
    have hkey := (refersTo_reward network script hhash).key_stake
    have hnetwork : (networkBits (rewardHeader network script) : Int) = network % 16 := by
      rw [networkBits_rewardHeader]
      omega
    exact ⟨_, _, if_pos hhash, hkind.length_fits, hkind.layout, hnetwork, hkey,
      (key_payment_of_reward hbits hhash).trans hkey, fun base _ hbase => hbase.key_stake⟩

/-- A base address of network 15, with a hash of ones for the payment and one of sevens for
    the stake, either of which may be that of a script. -/
def sevens (header : UInt8) : Bytes :=
  header :: (List.replicate 28 1 ++ List.replicate 28 7)

/-- A script for the stake changes the key, one for the payment does not, and network -1 is
    network 15. -/
theorem stake_key_eq_iff_sevens :
    ∃ raw found other, reward (-1) (List.replicate 28 7) true = .ok raw ∧
      key raw .payment = .ok (some found) ∧ key (sevens 0x2F) .stake = .ok (some found) ∧
      key (sevens 0x3F) .stake = .ok (some found) ∧ key (sevens 0x1F) .stake = .ok (some other) ∧
      found ≠ other := by
  have hlength : (List.replicate 28 (7 : UInt8)).length = 28 := rfl
  have hscript : RefersTo (sevens 0x2F) ⟨15, true, List.replicate 28 7⟩ :=
    .base (by decide) rfl rfl
  have hboth : RefersTo (sevens 0x3F) ⟨15, true, List.replicate 28 7⟩ :=
    .base (by decide) rfl rfl
  have hpayment : RefersTo (sevens 0x1F) ⟨15, false, List.replicate 28 7⟩ :=
    .base (by decide) rfl rfl
  obtain ⟨raw, found, hraw, -, -, -, -, hkey, hbase⟩ :=
    stake_key_eq_iff.2.2 (-1) (List.replicate 28 7) true hlength
  obtain ⟨own, other, hown, hother, hiff⟩ := stake_key_eq_iff.2.1 hscript hpayment
  have hfound := hbase _ rfl hscript
  have hsame : own = found := Option.some.inj (Except.ok.inj (hown.symm.trans hfound))
  rw [hsame] at hiff
  exact ⟨raw, found, other, hraw, hkey, hfound, hbase _ rfl hboth, hother,
    mt hiff.1 (by decide)⟩

end UtxoBalance.Address
