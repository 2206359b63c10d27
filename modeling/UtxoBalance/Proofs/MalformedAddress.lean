import UtxoBalance.Proofs.Leniency
import UtxoBalance.Proofs.Reduction

/-!
# Malformed addresses

Octets are no address if there are none, if no layout has their header, or if their number
does not fit the layout. In payment mode all of these are errors. In stake mode an address of
a layout without a staking credential is passed over before its length is looked at, so that
an enterprise address of a wrong length and a pointer address without its chain pointer are no
errors there. Otherwise the two modes agree, on the error as well.

A strict reducer that keeps balances of staking credentials thus fails on fewer blocks than one
that keeps those of addresses.

## Main definitions

- `Address.Malformed` — octets that are no address, with the reason
- `Address.Reason.isOfStake` — the reasons that count in stake mode

## Main statements

- `Address.key_eq_error_iff` — the errors of a mode
- `Address.malformed_by_mode` — the errors of both modes, and the blocks on which strict
  reducers fail
-/

namespace UtxoBalance

namespace Address

/-- Octets that are no address. The layouts are told apart by the header: base addresses begin
    below 64, pointer addresses below 96, enterprise addresses below 128 and reward addresses
    from 224 on. Octets that begin from 128 to 143 are Byron addresses and never malformed. -/
inductive Malformed : Bytes → Reason → Prop
  | empty : Malformed [] .empty
  | unknownHeader {header : UInt8} {rest : Bytes} : 144 ≤ header.toNat → header.toNat < 224 →
      Malformed (header :: rest) (.unknownHeader (header.toNat / 16))
  | base {header : UInt8} {rest : Bytes} : header.toNat < 64 → rest.length ≠ 56 →
      Malformed (header :: rest) (.baseLength (rest.length + 1))
  | pointer {header : UInt8} {rest : Bytes} : 64 ≤ header.toNat → header.toNat < 96 →
      rest.length ≤ 28 → Malformed (header :: rest) .missingPointer
  | enterprise {header : UInt8} {rest : Bytes} : 96 ≤ header.toNat → header.toNat < 128 →
      rest.length ≠ 28 → Malformed (header :: rest) (.enterpriseLength (rest.length + 1))
  | reward {header : UInt8} {rest : Bytes} : 224 ≤ header.toNat → rest.length ≠ 28 →
      Malformed (header :: rest) (.rewardLength (rest.length + 1))

/-- A number of octets behind the header that does not fit the layout, with the reason. -/
inductive Misfit : Kind → Nat → Reason → Prop
  | base {length : Nat} : length ≠ 56 → Misfit .base length (.baseLength (length + 1))
  | pointer {length : Nat} : length ≤ 28 → Misfit .pointer length .missingPointer
  | enterprise {length : Nat} : length ≠ 28 →
      Misfit .enterprise length (.enterpriseLength (length + 1))
  | reward {length : Nat} : length ≠ 28 → Misfit .reward length (.rewardLength (length + 1))

/-- Whether a layout has a staking credential in the address. -/
def Kind.isOfStake : Kind → Bool
  | .base | .reward => true
  | .pointer | .enterprise | .byron => false

/-- Whether a reason counts in stake mode: it is not the length of an address without a staking
    credential. -/
def Reason.isOfStake : Reason → Bool
  | .enterpriseLength _ | .missingPointer => false
  | _ => true

/-- The least first octet of a layout, and the least one past it. -/
def Kind.firstOctets : Kind → Nat × Nat
  | .base => (0, 64)
  | .pointer => (64, 96)
  | .enterprise => (96, 128)
  | .byron => (128, 144)
  | .reward => (224, 256)

/-! ## Octets -/

theorem kindOf?_layoutBits_eq_some_iff {header : UInt8} {kind : Kind} :
    kindOf? (layoutBits header) = some kind ↔
      kind.firstOctets.1 ≤ header.toNat ∧ header.toNat < kind.firstOctets.2 := by
  have hoctet := header.toNat_lt
  rw [layoutBits]
  cases kind with
  | base | pointer | enterprise | byron | reward => grind [kindOf?, Kind.firstOctets]

theorem kindOf?_layoutBits_eq_none_iff {header : UInt8} :
    kindOf? (layoutBits header) = none ↔ 144 ≤ header.toNat ∧ header.toNat < 224 := by
  have hoctet := header.toNat_lt
  rw [layoutBits]
  grind [kindOf?]

theorem classify_cons_eq_ok_iff {header : UInt8} {rest : Bytes} {kind : Kind} :
    classify (header :: rest) = .ok kind ↔
      kind.firstOctets.1 ≤ header.toNat ∧ header.toNat < kind.firstOctets.2 := by
  rw [← kindOf?_layoutBits_eq_some_iff, classify]
  cases kindOf? (layoutBits header) with
  | none => simp
  | some other => simp

theorem classify_cons_eq_error_iff {header : UInt8} {rest : Bytes} {error : DecodeError} :
    classify (header :: rest) = .error error ↔ kindOf? (layoutBits header) = none ∧
      error = ⟨header :: rest, .unknownHeader (header.toNat / 16)⟩ := by
  rw [classify]
  cases kindOf? (layoutBits header) with
  | some kind => simp
  | none => simp [layoutBits, eq_comm]

theorem checkLength_cons_eq_error_iff {header : UInt8} {rest : Bytes} {kind : Kind}
    {error : DecodeError} :
    checkLength (header :: rest) kind = .error error ↔
      error.raw = header :: rest ∧ Misfit kind rest.length error.reason := by
  have hbase : baseLength = 57 := rfl
  have hreward : rewardLength = 29 := rfl
  obtain ⟨raw, reason⟩ := error
  cases kind with
  | byron => exact ⟨nofun, fun h => nomatch h.2⟩
  | base | reward | enterprise | pointer =>
    rw [checkLength, List.length_cons]
    constructor
    · intro h
      split at h
      · cases h
      · cases h
        refine ⟨rfl, ?_⟩
        constructor
        omega
    · rintro ⟨rfl, hmisfit⟩
      cases hmisfit
      exact if_neg (by omega)

/-- A length that does not fit the layout counts in stake mode if the layout does. -/
theorem Misfit.isOfStake_eq {kind : Kind} {length : Nat} {reason : Reason}
    (h : Misfit kind length reason) : reason.isOfStake = kind.isOfStake := by
  cases h with
  | base | pointer | enterprise | reward => rfl

theorem malformed_cons_iff {header : UInt8} {rest : Bytes} {reason : Reason} :
    Malformed (header :: rest) reason ↔
      (kindOf? (layoutBits header) = none ∧ reason = .unknownHeader (header.toNat / 16)) ∨
        ∃ kind, classify (header :: rest) = .ok kind ∧ Misfit kind rest.length reason := by
  simp only [classify_cons_eq_ok_iff, kindOf?_layoutBits_eq_none_iff]
  constructor
  · intro h
    cases h with
    | unknownHeader hlow hhigh => exact .inl ⟨⟨hlow, hhigh⟩, rfl⟩
    | base hhigh hlength => exact .inr ⟨.base, ⟨Nat.zero_le _, hhigh⟩, .base hlength⟩
    | pointer hlow hhigh hlength => exact .inr ⟨.pointer, ⟨hlow, hhigh⟩, .pointer hlength⟩
    | enterprise hlow hhigh hlength => exact .inr ⟨.enterprise, ⟨hlow, hhigh⟩, .enterprise hlength⟩
    | reward hlow hlength => exact .inr ⟨.reward, ⟨hlow, UInt8.toNat_lt _⟩, .reward hlength⟩
  · rintro (⟨⟨hlow, hhigh⟩, rfl⟩ | ⟨kind, ⟨hlow, hhigh⟩, hmisfit⟩)
    · exact .unknownHeader hlow hhigh
    · cases hmisfit with
      | base hlength => exact .base hhigh hlength
      | pointer hlength => exact .pointer hlow hhigh hlength
      | enterprise hlength => exact .enterprise hlow hhigh hlength
      | reward hlength => exact .reward hlow hlength

/-! ## The errors of a mode -/

theorem key_eq_error_iff_kind {raw : Bytes} {mode : Mode} {error : DecodeError} :
    key raw mode = .error error ↔ classify raw = .error error ∨
      ∃ kind, classify raw = .ok kind ∧ checkLength raw kind = .error error ∧
        (mode = .stake → kind.isOfStake = true) := by
  rw [key, bind_eq_error_iff]
  refine or_congr_right (exists_congr fun kind => and_congr_right fun _ => ?_)
  cases mode with
  | payment =>
    show (paymentKey raw kind).map some = _ ↔ _
    rw [paymentKey_eq]
    cases checkLength raw kind with
    | ok fits => simp [Except.map]
    | error other => simp [Except.map]
  | stake =>
    show stakeKey raw kind = _ ↔ _
    rw [stakeKey_eq]
    cases kind with
    | byron | pointer | enterprise => simp [Kind.isOfStake]
    | base | reward =>
      cases checkLength raw _ with
      | ok fits => simp [Except.map]
      | error other => simp [Except.map, Kind.isOfStake]

/-- The errors of a mode are those of malformed octets, as far as their reason counts in it. -/
theorem key_eq_error_iff {raw : Bytes} {mode : Mode} {error : DecodeError} :
    key raw mode = .error error ↔ error.raw = raw ∧ Malformed raw error.reason ∧
      (mode = .stake → error.reason.isOfStake = true) := by
  rw [key_eq_error_iff_kind]
  obtain ⟨shown, reason⟩ := error
  cases raw with
  | nil =>
    constructor
    · rintro (⟨⟨⟩⟩ | ⟨kind, ⟨⟩, -⟩)
      exact ⟨rfl, .empty, fun _ => rfl⟩
    · rintro ⟨rfl, ⟨⟩, -⟩
      exact .inl rfl
  | cons header rest =>
    rw [malformed_cons_iff]
    constructor
    · rintro (hlayout | ⟨kind, hlayout, hlength, hmode⟩)
      · obtain ⟨hunknown, ⟨⟩⟩ := classify_cons_eq_error_iff.1 hlayout
        exact ⟨rfl, .inl ⟨hunknown, rfl⟩, fun _ => rfl⟩
      · obtain ⟨rfl, hmisfit⟩ := checkLength_cons_eq_error_iff.1 hlength
        exact ⟨rfl, .inr ⟨kind, hlayout, hmisfit⟩,
          fun hstake => hmisfit.isOfStake_eq.trans (hmode hstake)⟩
    · rintro ⟨rfl, ⟨hunknown, rfl⟩ | ⟨kind, hlayout, hmisfit⟩, hmode⟩
      · exact .inl (classify_cons_eq_error_iff.2 ⟨hunknown, rfl⟩)
      · exact .inr ⟨kind, hlayout, checkLength_cons_eq_error_iff.2 ⟨rfl, hmisfit⟩,
          fun hstake => hmisfit.isOfStake_eq.symm.trans (hmode hstake)⟩

theorem Malformed.key_eq_error {raw : Bytes} {reason : Reason} {mode : Mode}
    (h : Malformed raw reason) (hmode : mode = .stake → reason.isOfStake = true) :
    key raw mode = .error ⟨raw, reason⟩ :=
  key_eq_error_iff.2 ⟨rfl, h, hmode⟩

theorem key_stake_eq_none {raw : Bytes} {kind : Kind} (hlayout : classify raw = .ok kind)
    (hkind : kind.isOfStake = false) : key raw .stake = .ok none := by
  rw [key, hlayout]
  cases kind with
  | base | reward => cases hkind
  | pointer | enterprise | byron => rfl

/-- An address of a wrong length whose layout has no staking credential is passed over in stake
    mode. -/
theorem Malformed.key_stake_eq_none {raw : Bytes} {reason : Reason} (h : Malformed raw reason)
    (hstake : reason.isOfStake = false) : key raw .stake = .ok none := by
  cases raw with
  | nil =>
    cases h
    cases hstake
  | cons header rest =>
    rcases malformed_cons_iff.1 h with ⟨-, rfl⟩ | ⟨kind, hlayout, hmisfit⟩
    · cases hstake
    · exact Address.key_stake_eq_none hlayout (hmisfit.isOfStake_eq.symm.trans hstake)

end Address

/-! ## Blocks -/

open Walk

theorem Walker.abort?_strict_isSome_iff {mode : Address.Mode} {block : Block} :
    (abort? ⟨mode, .strict⟩ block.items).isSome = true ↔
      ∃ raw ∈ block.touched, ∃ error, Address.key raw mode = .error error := by
  rw [abort?, List.findSome?_isSome_iff]
  simp only [Option.isSome_iff_exists, Item.failure?_eq_some, Block.mem_touched]
  constructor
  · rintro ⟨item, hitem, error, raw, haddress, hkey⟩
    exact ⟨raw, ⟨item, hitem, haddress⟩, error, hkey⟩
  · rintro ⟨raw, ⟨item, hitem, haddress⟩, error, hkey⟩
    exact ⟨item, hitem, error, raw, haddress, hkey⟩

theorem Emitter.emit_ne_address {emitter : Emitter} {deltas : Deltas}
    {error : Address.DecodeError} : emitter.emit deltas ≠ .error (.address error) := by
  rw [emit_eq]
  split
  · nofun
  · nofun

/-- A strict reducer fails on an address if the block touches one that counts as malformed in
    its mode. -/
theorem Reducer.fails_on_address_iff {reducer : Reducer}
    (hstrict : reducer.settings.policy = .strict) {block : Block} {direction : Direction} :
    (∃ error, (reducer.reduce block direction).outcome = .error (.address error)) ↔
      ∃ raw ∈ block.touched, ∃ reason, Address.Malformed raw reason ∧
        (reducer.settings.mode = .stake → reason.isOfStake = true) := by
  have hwalker : reducer.settings.walker = ⟨reducer.settings.mode, .strict⟩ := by
    rw [Settings.Reduction.walker, hstrict]
  have habort : (∃ error, (reducer.reduce block direction).outcome = .error (.address error)) ↔
      (reducer.settings.walker.abort? block.items).isSome = true := by
    rw [reduce_outcome]
    cases reducer.settings.walker.abort? block.items with
    | none => simp [Emitter.emit_ne_address]
    | some error => simp
  rw [habort, hwalker, Walker.abort?_strict_isSome_iff]
  refine exists_congr fun raw => and_congr_right fun _ => ?_
  constructor
  · rintro ⟨error, hkey⟩
    exact ⟨error.reason, (Address.key_eq_error_iff.1 hkey).2⟩
  · rintro ⟨reason, hmalformed, hmode⟩
    exact ⟨⟨raw, reason⟩, hmalformed.key_eq_error hmode⟩

namespace Address

/-- In payment mode the errors are those of malformed octets. In stake mode they are the same
    errors, but for addresses without a staking credential that are too long or too short: these
    are passed over. An error carries all octets, and its wording shows them. Of strict reducers,
    one that keeps balances of addresses fails where a block touches malformed octets, and one
    that keeps those of staking credentials only where their reason counts in stake mode. -/
theorem malformed_by_mode (raw : Bytes) (error : DecodeError) :
    (key raw .payment = .error error ↔ error.raw = raw ∧ Malformed raw error.reason) ∧
    (key raw .stake = .error error ↔
      key raw .payment = .error error ∧ error.reason.isOfStake = true) ∧
    (key raw .payment = .error error → error.reason.isOfStake = false →
      key raw .stake = .ok none) ∧
    (∀ mode, key raw mode = .error error → error.message =
      "address '" ++ Hex.encode raw ++ "' could not be decoded: " ++ error.reason.message) ∧
    ∀ (reducer : Reducer) (block : Block) (direction : Direction),
      reducer.settings.policy = .strict →
      ((∃ failed, (reducer.reduce block direction).outcome = .error (.address failed)) ↔
        ∃ octets ∈ block.touched, ∃ reason, Malformed octets reason ∧
          (reducer.settings.mode = .stake → reason.isOfStake = true)) := by
  have hpayment : key raw .payment = .error error ↔
      error.raw = raw ∧ Malformed raw error.reason := by
    simp [key_eq_error_iff]
  have hstake : key raw .stake = .error error ↔
      key raw .payment = .error error ∧ error.reason.isOfStake = true := by
    rw [hpayment, key_eq_error_iff, and_assoc]
    simp
  refine ⟨hpayment, hstake, ?_, ?_, fun _ _ _ hstrict => Reducer.fails_on_address_iff hstrict⟩
  · exact fun h hreason => (hpayment.1 h).2.key_stake_eq_none hreason
  · intro mode h
    rw [DecodeError.message, raw_of_key_eq_error h]

/-- The header of an enterprise address, with 27 octets behind it where there should be 28. -/
def shortEnterprise : Bytes := 0x61 :: List.replicate 27 7

/-- A block with one output at these octets. -/
def shortOutput : Block := { transactions := [{ outputs := [⟨shortEnterprise, 5⟩] }] }

theorem malformed_shortEnterprise : Malformed shortEnterprise (.enterpriseLength 28) :=
  .enterprise (by decide) (by decide) (by decide)

/-- The octets are an error in payment mode and passed over in stake mode, and only a reducer
    of the first mode fails on the block. -/
theorem malformed_by_mode_shortEnterprise :
    key shortEnterprise .payment = .error ⟨shortEnterprise, .enterpriseLength 28⟩ ∧
    key shortEnterprise .stake = .ok none ∧
    (∃ failed, (Reducer.reduce ⟨{ mode := .payment }⟩ shortOutput .apply).outcome =
      .error (.address failed)) ∧
    ¬∃ failed, (Reducer.reduce ⟨{ mode := .stake }⟩ shortOutput .apply).outcome =
      .error (.address failed) := by
  obtain ⟨hpayment, -, hnone, -, hblocks⟩ :=
    malformed_by_mode shortEnterprise ⟨shortEnterprise, .enterpriseLength 28⟩
  have hkey := hpayment.2 ⟨rfl, malformed_shortEnterprise⟩
  have htouched : shortOutput.touched = [shortEnterprise] := rfl
  refine ⟨hkey, hnone hkey rfl, ?_, ?_⟩
  · rw [hblocks _ _ _ rfl, htouched]
    exact ⟨_, List.mem_singleton_self _, _, malformed_shortEnterprise, nofun⟩
  · rw [hblocks _ _ _ rfl, htouched]
    rintro ⟨octets, hoctets, reason, hmalformed, hmode⟩
    obtain rfl := List.mem_singleton.1 hoctets
    have herror : key shortEnterprise .stake = .error ⟨shortEnterprise, reason⟩ :=
      hmalformed.key_eq_error fun _ => hmode rfl
    rw [hnone hkey rfl] at herror
    cases herror

/-- What is malformed does not always count in both modes. -/
theorem not_malformed_alike : ¬∀ raw : Bytes,
    (∃ error, key raw .stake = .error error) ↔ ∃ error, key raw .payment = .error error := by
  intro h
  have hpayment : key shortEnterprise .payment =
      .error ⟨shortEnterprise, .enterpriseLength 28⟩ :=
    malformed_shortEnterprise.key_eq_error nofun
  obtain ⟨error, herror⟩ := (h shortEnterprise).2 ⟨_, hpayment⟩
  rw [malformed_shortEnterprise.key_stake_eq_none rfl] at herror
  cases herror

end Address

end UtxoBalance
