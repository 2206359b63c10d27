import UtxoBalance.Address.Key
import UtxoBalance.Proofs.Base58
import UtxoBalance.Proofs.Bech32

/-!
# Keys of addresses

The text of an address is its key in payment mode, and it tells the key in stake mode.
For a bech32 text that is so because it tells the octets. A Byron address has no
staking credential, so that all that is needed of its base58 text is that no address
that has one shares it. An underscore keeps the texts of test networks apart from it.
On the main network the human-readable part of a text and the number of octets tell
roughly for which number the text stands in base 58, and for most lengths that is no
number that begins with the header of a Byron address.

## Main definitions

- `Address.HasKind` — addresses that the layout of their header fits
- `Address.text`, `Address.stakeText?` — their keys in the two modes

## Main statements

- `Address.key_payment_eq_ok`, `Address.key_stake_of_hasKind` — what keys are
- `Address.exists_byron_iff` — the texts of Byron addresses
- `Address.byron_text_ne_base`, `Address.byron_text_ne_reward` — texts that differ
- `Address.stakeText?_eq_of_text_eq` — the payment key tells the staking key
-/

namespace UtxoBalance.Address

/-! ## Addresses and their keys -/

/-- The header of an address names this layout, and the length fits it. -/
structure HasKind (raw : Bytes) (kind : Kind) : Prop where
  /-- The header names the layout. -/
  layout : classify raw = .ok kind
  /-- The length fits. -/
  fits : checkLength raw kind = .ok ()

/-- The human-readable part of the text of an address that is not a Byron address. -/
def readable (raw : Bytes) : Kind → String
  | .reward => stakePart (network raw)
  | _ => addressPart (network raw)

/-- The text form of an address. -/
def text (raw : Bytes) : Kind → String
  | .byron => Base58.encode raw
  | kind => Bech32.encode (readable raw kind) raw

/-- The text form of the staking credential, where there is one. -/
def stakeText? (raw : Bytes) : Kind → Option String
  | .byron | .pointer | .enterprise => none
  | .reward => some (rewardText raw)
  | .base => some (rewardText (rewardOfBase raw))

theorem HasKind.unique {raw : Bytes} {kind other : Kind} (h : HasKind raw kind)
    (hother : HasKind raw other) : kind = other :=
  Except.ok.inj (h.layout.symm.trans hother.layout)

/-- In payment mode the key of an address is its text, if its length fits. -/
theorem paymentKey_eq (raw : Bytes) (kind : Kind) :
    paymentKey raw kind = (checkLength raw kind).map fun _ => text raw kind := by
  have hcheck : ∀ (check : Except DecodeError Unit) (key : String),
      (do check; return key) = check.map fun _ => key := by
    intro check key
    cases check with
    | error error => rfl
    | ok fits => rfl
  cases kind with
  | byron => rfl
  | reward => exact hcheck _ _
  | base => exact hcheck _ _
  | pointer => exact hcheck _ _
  | enterprise => exact hcheck _ _

/-- In stake mode the key of an address is the text of its staking credential, if it has
    one and its length fits. -/
theorem stakeKey_eq (raw : Bytes) (kind : Kind) :
    stakeKey raw kind = match kind with
      | .byron | .pointer | .enterprise => .ok none
      | .base | .reward => (checkLength raw kind).map fun _ => stakeText? raw kind := by
  cases kind with
  | byron | pointer | enterprise => rfl
  | base | reward =>
    rw [stakeKey]
    cases checkLength raw _ with
    | error error => rfl
    | ok fits => rfl

/-- The addresses with a key in payment mode are those that their layout fits. -/
theorem key_payment_eq_ok {raw : Bytes} {found : Option String} :
    key raw .payment = .ok found ↔ ∃ kind, HasKind raw kind ∧ found = some (text raw kind) := by
  constructor
  · intro h
    cases hlayout : classify raw with
    | error error =>
      rw [key, hlayout] at h
      cases h
    | ok kind =>
      rw [key, hlayout] at h
      change (paymentKey raw kind >>= fun key => pure (some key)) = _ at h
      rw [paymentKey_eq] at h
      cases hfits : checkLength raw kind with
      | error error =>
        rw [hfits] at h
        cases h
      | ok fits =>
        rw [hfits] at h
        exact ⟨kind, ⟨hlayout, hfits⟩, (Except.ok.inj h).symm⟩
  · rintro ⟨kind, h, rfl⟩
    rw [key, h.layout]
    show (paymentKey raw kind >>= fun key => pure (some key)) = _
    rw [paymentKey_eq, h.fits]
    rfl

/-- In stake mode the key of such an address is the text of its staking credential. -/
theorem key_stake_of_hasKind {raw : Bytes} {kind : Kind} (h : HasKind raw kind) :
    key raw .stake = .ok (stakeText? raw kind) := by
  rw [key, h.layout]
  show stakeKey raw kind = _
  rw [stakeKey_eq]
  cases kind with
  | byron | pointer | enterprise => rfl
  | base | reward =>
    rw [h.fits]
    rfl

/-- How many octets an address has, as far as its layout tells. -/
theorem HasKind.length_fits {raw : Bytes} {kind : Kind} (h : HasKind raw kind) :
    match kind with
    | .base => raw.length = 57
    | .reward | .enterprise => raw.length = 29
    | .pointer => 29 < raw.length
    | .byron => True := by
  have hfits := h.fits
  cases kind with
  | byron => trivial
  | base | reward | enterprise | pointer =>
    rw [checkLength] at hfits
    split at hfits
    · assumption
    · cases hfits

/-! ## Byron addresses -/

theorem kindOf?_eq_byron {nibble : Nat} : kindOf? nibble = some .byron ↔ nibble = 8 := by
  grind [kindOf?]

/-- A Byron address starts with an octet from 128 to 143, and may go on in any way. -/
theorem hasKind_byron {header : UInt8} {rest : Bytes} :
    HasKind (header :: rest) .byron ↔ 128 ≤ header.toNat ∧ header.toNat < 144 := by
  have hlayout : classify (header :: rest) = .ok .byron ↔ kindOf? (layoutBits header) =
      some .byron := by
    rw [classify]
    cases kindOf? (layoutBits header) with
    | none => simp
    | some kind => simp
  have hbits : layoutBits header = 8 ↔ 128 ≤ header.toNat ∧ header.toNat < 144 := by
    rw [layoutBits]
    omega
  rw [← hbits, ← kindOf?_eq_byron, ← hlayout]
  exact ⟨HasKind.layout, fun h => ⟨h, rfl⟩⟩

theorem ne_zero_of_byron {header : UInt8} (h : 128 ≤ header.toNat) : header ≠ 0 := by
  rintro rfl
  exact absurd h (by decide)

/-- The texts of Byron addresses are the base58 texts of the numbers that begin with such
    an octet. -/
theorem exists_byron_iff {text : String} :
    (∃ byron, HasKind byron .byron ∧ Base58.encode byron = text) ↔
      (∀ c ∈ text.toList, c ∈ Base58.alphabet) ∧ text.toList.head? ≠ some '1' ∧
        Base58.LeadsWithin 128 144 (Base58.textNumber text) := by
  constructor
  · rintro ⟨byron, hbyron, htext⟩
    cases byron with
    | nil => cases hbyron.layout
    | cons header rest =>
      have hbounds := hasKind_byron.1 hbyron
      have hheader := ne_zero_of_byron hbounds.1
      obtain ⟨hall, hone, hnumber⟩ := (Base58.encode_eq_iff (by simpa using hheader)).1 htext
      refine ⟨hall, hone, ?_⟩
      rw [← hnumber, Base58.leadsWithin_number hheader (by decide) (by decide)]
      exact hbounds
  · rintro ⟨hall, hone, hleads⟩
    have hhead := Base58.head?_octets (Base58.textNumber text)
    have hnumber := Base58.number_octets (Base58.textNumber text)
    refine ⟨Base58.octets (Base58.textNumber text), ?_,
      (Base58.encode_eq_iff hhead).2 ⟨hall, hone, hnumber⟩⟩
    cases hoctets : Base58.octets (Base58.textNumber text) with
    | nil =>
      -- no octets stand for zero, which is below all numbers with a first octet
      obtain ⟨follow, hlower, -⟩ := hleads
      have hpos : 0 < 128 * 256 ^ follow := by positivity
      rw [hoctets] at hnumber
      have hzero : Base58.textNumber text = 0 := hnumber.symm
      omega
    | cons header rest =>
      rw [hoctets] at hhead hnumber
      have hheader : header ≠ 0 := by simpa using hhead
      rw [← hnumber, Base58.leadsWithin_number hheader (by decide) (by decide)] at hleads
      exact hasKind_byron.2 hleads

/-- No underscore is in a base58 text. -/
theorem base58_ne_of_underscore {byron raw : Bytes} {part : String} (h : '_' ∈ part.toList) :
    Base58.encode byron ≠ Bech32.encode part raw := by
  intro heq
  have hmem : '_' ∈ (Bech32.encode part raw).toList := by
    rw [Bech32.toList_encode]
    exact List.mem_append_left _ h
  rw [← heq] at hmem
  exact absurd (Base58.mem_alphabet_of_mem_encode _ hmem) (by decide)

/-- A bech32 text, where it is a base58 text too, stands for a number that its
    human-readable part and the number of octets tell roughly. -/
theorem textNumber_bounds {part : String} {raw : Bytes} {lead follow : Nat}
    (hlead : Base58.textNumber (part ++ "1") = lead)
    (hfollow : (8 * raw.length + 4) / 5 + 6 = follow)
    (hall : ∀ c ∈ (Bech32.encode part raw).toList, c ∈ Base58.alphabet) :
    lead * 58 ^ follow ≤ Base58.textNumber (Bech32.encode part raw) ∧
      Base58.textNumber (Bech32.encode part raw) < (lead + 1) * 58 ^ follow := by
  have htext : (Bech32.encode part raw).toList =
      (part ++ "1").toList ++ (Bech32.payload part raw).map Bech32.symbol := by
    rw [Bech32.toList_encode, String.toList_append, List.append_assoc]
    rfl
  have hcount : ((Bech32.payload part raw).map Bech32.symbol).length = follow := by
    rw [List.length_map, Bech32.length_payload, hfollow]
  have hge := Base58.le_textNumber htext
  have hlt := Base58.textNumber_lt htext hall
  rw [hcount] at hge hlt
  exact ⟨hlead ▸ hge, hlead ▸ hlt⟩

/-- A Byron address does not have the bech32 text of octets whose number in base 58 would
    have to begin with another octet. -/
theorem base58_ne_of_gap {byron raw : Bytes} (hbyron : HasKind byron .byron) {part : String}
    {lead follow : Nat} (few : Nat) (hlead : Base58.textNumber (part ++ "1") = lead)
    (hfollow : (8 * raw.length + 4) / 5 + 6 = follow) (hfew : 144 * 256 ^ few ≤ lead * 58 ^ follow)
    (hmany : (lead + 1) * 58 ^ follow ≤ 128 * 256 ^ (few + 1)) :
    Base58.encode byron ≠ Bech32.encode part raw := by
  intro heq
  obtain ⟨hall, -, hleads⟩ := exists_byron_iff.1 ⟨byron, hbyron, heq⟩
  obtain ⟨hge, hlt⟩ := textNumber_bounds hlead hfollow hall
  exact Base58.not_leadsWithin hge hlt hfew hmany hleads

theorem textNumber_addr : Base58.textNumber ("addr" ++ "1") = 380592346 := by
  decide +kernel

theorem textNumber_stake : Base58.textNumber ("stake" ++ "1") = 33401565190 := by
  decide +kernel

/-- On the main network, 37 is the first length of an address that leaves room for the
    number of a Byron address, and 161 the second. -/
theorem gap_of_length : ∀ count < 161, 29 ≤ count → count ≠ 37 →
    ∃ few, 144 * 256 ^ few ≤ 380592346 * 58 ^ ((8 * count + 4) / 5 + 6) ∧
      (380592346 + 1) * 58 ^ ((8 * count + 4) / 5 + 6) ≤ 128 * 256 ^ (few + 1) := by
  -- one octet more for each eight bits of what is left of the least number
  have hgap : ∀ count < 161, 29 ≤ count → count ≠ 37 →
      144 * 256 ^ (Nat.log2 (380592346 * 58 ^ ((8 * count + 4) / 5 + 6) / 144) / 8) ≤
          380592346 * 58 ^ ((8 * count + 4) / 5 + 6) ∧
        (380592346 + 1) * 58 ^ ((8 * count + 4) / 5 + 6) ≤
          128 * 256 ^ (Nat.log2 (380592346 * 58 ^ ((8 * count + 4) / 5 + 6) / 144) / 8 + 1) := by
    decide +kernel
  exact fun count hless hleast hne => ⟨_, hgap count hless hleast hne⟩

/-- The text of a Byron address is not that of another address of most lengths. -/
theorem base58_ne_of_length {byron raw : Bytes} (hbyron : HasKind byron .byron)
    (hleast : 29 ≤ raw.length) (hmost : raw.length ≤ 160) (hne : raw.length ≠ 37) :
    Base58.encode byron ≠ Bech32.encode (addressPart (network raw)) raw := by
  by_cases hmain : (network raw : Int) = mainnet
  · rw [addressPart, if_pos hmain]
    obtain ⟨few, hfew, hmany⟩ := gap_of_length raw.length (by omega) hleast hne
    exact base58_ne_of_gap hbyron few textNumber_addr rfl hfew hmany
  · rw [addressPart, if_neg hmain]
    exact base58_ne_of_underscore (by decide)

theorem byron_text_ne_base {byron raw : Bytes} (hbyron : HasKind byron .byron)
    (hraw : HasKind raw .base) : text byron .byron ≠ text raw .base := by
  have hlength : raw.length = 57 := hraw.length_fits
  exact base58_ne_of_length hbyron (by omega) (by omega) (by omega)

theorem byron_text_ne_enterprise {byron raw : Bytes} (hbyron : HasKind byron .byron)
    (hraw : HasKind raw .enterprise) : text byron .byron ≠ text raw .enterprise := by
  have hlength : raw.length = 29 := hraw.length_fits
  exact base58_ne_of_length hbyron (by omega) (by omega) (by omega)

theorem byron_text_ne_reward {byron raw : Bytes} (hbyron : HasKind byron .byron)
    (hraw : HasKind raw .reward) : text byron .byron ≠ text raw .reward := by
  show Base58.encode byron ≠ Bech32.encode (stakePart (network raw)) raw
  by_cases hmain : (network raw : Int) = mainnet
  · rw [stakePart, if_pos hmain]
    have hlength : raw.length = 29 := hraw.length_fits
    have hfollow : (8 * raw.length + 4) / 5 + 6 = 53 := by omega
    exact base58_ne_of_gap hbyron 42 textNumber_stake hfollow (by decide) (by decide)
  · rw [stakePart, if_neg hmain]
    exact base58_ne_of_underscore (by decide)

/-! ## What a text tells -/

/-- The text of an address that is not a Byron address tells the address. -/
theorem eq_of_text_eq {first second : Bytes} {kind other : Kind} (hkind : kind ≠ .byron)
    (hother : other ≠ .byron) (h : text first kind = text second other) : first = second := by
  have htext : ∀ raw kind, kind ≠ .byron → text raw kind = Bech32.encode (readable raw kind) raw := by
    intro raw kind hne
    cases kind with
    | byron => exact absurd rfl hne
    | base | pointer | enterprise | reward => rfl
  rw [htext first kind hkind, htext second other hother] at h
  exact (Bech32.encode_injective h).2

/-- An address with the text of a Byron address has no staking credential. -/
theorem stakeText?_eq_none_of_byron {byron raw : Bytes} {kind : Kind}
    (hbyron : HasKind byron .byron) (hraw : HasKind raw kind)
    (h : text byron .byron = text raw kind) : stakeText? raw kind = none := by
  cases kind with
  | byron => rfl
  | pointer => rfl
  | enterprise => rfl
  | base => exact absurd h (byron_text_ne_base hbyron hraw)
  | reward => exact absurd h (byron_text_ne_reward hbyron hraw)

/-- The key in payment mode tells the key in stake mode. -/
theorem stakeText?_eq_of_text_eq {first second : Bytes} {kind other : Kind}
    (hfirst : HasKind first kind) (hsecond : HasKind second other)
    (h : text first kind = text second other) :
    stakeText? first kind = stakeText? second other := by
  -- only a Byron address can have the text of an address that it is not
  by_cases hkind : kind = .byron
  · subst hkind
    rw [stakeText?_eq_none_of_byron hfirst hsecond h]
    rfl
  · by_cases hother : other = .byron
    · subst hother
      rw [stakeText?_eq_none_of_byron hsecond hfirst h.symm]
      rfl
    · have heq := eq_of_text_eq hkind hother h
      subst heq
      rw [hfirst.unique hsecond]

end UtxoBalance.Address
