import UtxoBalance.Proofs.AddressKey

/-!
# Addresses behind one key

In payment mode a key is the text of an address: base58 for a Byron address, bech32
for any other. Each of the two writings tells the octets, so among Byron addresses,
and among the others, no two share a key. Across the two it can happen. The contents of
a Byron address are not looked at behind the header, so that any text of base58
digits is the key of one, if its number begins with such a header. The text of a
pointer address on the main network is of that kind if it holds neither `0` nor `l`
and has the right length, and 37 octets is the least.

## Main statements

- `Address.payment_key_eq_iff` — one key, one address, on either side
- `Address.exists_byron_key_iff` — which keys are also those of Byron addresses
-/

namespace UtxoBalance.Address

/-! ## One writing -/

/-- Where both addresses are Byron addresses, or neither is, they share a key only if
    they are the same. -/
theorem payment_key_eq_iff {first second : Bytes} {found other : String}
    (hfirst : key first .payment = .ok (some found))
    (hsecond : key second .payment = .ok (some other))
    (hfamily : classify first = .ok .byron ↔ classify second = .ok .byron) :
    found = other ↔ first = second := by
  constructor
  · rintro rfl
    obtain ⟨kind, hkind, hfound⟩ := key_payment_eq_ok.1 hfirst
    obtain ⟨another, hanother, hother⟩ := key_payment_eq_ok.1 hsecond
    have htext : text first kind = text second another :=
      Option.some.inj (hfound.symm.trans hother)
    -- one writing for both keys: the first address decides which
    by_cases hbyron : kind = .byron
    · have hsame : another = .byron :=
        Except.ok.inj (hanother.layout.symm.trans (hfamily.1 (hbyron ▸ hkind.layout)))
      rw [hbyron, hsame] at htext
      exact Base58.encode_injective htext
    · have hdiffer : another ≠ .byron := fun hsame =>
        hbyron (Except.ok.inj (hkind.layout.symm.trans (hfamily.2 (hsame ▸ hanother.layout))))
      exact eq_of_text_eq hbyron hdiffer htext
  · rintro rfl
    exact Option.some.inj (Except.ok.inj (hfirst.symm.trans hsecond))

theorem key_payment_of_hasKind {raw : Bytes} {kind : Kind} (h : HasKind raw kind) :
    key raw .payment = .ok (some (text raw kind)) :=
  key_payment_eq_ok.2 ⟨kind, h, rfl⟩

/-- A zero octet more at the end gives another key, of a pointer address as of a Byron
    address. -/
theorem payment_key_eq_iff_zeroAtEnd :
    (∃ found other, key (0x41 :: List.replicate 29 0) .payment = .ok (some found) ∧
      key (0x41 :: List.replicate 30 0) .payment = .ok (some other) ∧ found ≠ other) ∧
    ∃ found other, key [0x82] .payment = .ok (some found) ∧
      key [0x82, 0] .payment = .ok (some other) ∧ found ≠ other := by
  constructor
  · have hfirst := key_payment_of_hasKind
      (show HasKind (0x41 :: List.replicate 29 0) .pointer from ⟨rfl, rfl⟩)
    have hsecond := key_payment_of_hasKind
      (show HasKind (0x41 :: List.replicate 30 0) .pointer from ⟨rfl, rfl⟩)
    refine ⟨_, _, hfirst, hsecond, mt (payment_key_eq_iff hfirst hsecond ?_).1 (by decide)⟩
    decide
  · have hfirst := key_payment_of_hasKind (show HasKind [0x82] .byron from ⟨rfl, rfl⟩)
    have hsecond := key_payment_of_hasKind (show HasKind [0x82, 0] .byron from ⟨rfl, rfl⟩)
    refine ⟨_, _, hfirst, hsecond, mt (payment_key_eq_iff hfirst hsecond ?_).1 (by decide)⟩
    decide

/-! ## Two writings -/

theorem exists_byron_key {found : String} :
    (∃ byron, classify byron = .ok .byron ∧ key byron .payment = .ok (some found)) ↔
      ∃ byron, HasKind byron .byron ∧ Base58.encode byron = found := by
  constructor
  · rintro ⟨byron, hlayout, hkey⟩
    have hkind : HasKind byron .byron := ⟨hlayout, rfl⟩
    rw [key_payment_of_hasKind hkind] at hkey
    exact ⟨byron, hkind, Option.some.inj (Except.ok.inj hkey)⟩
  · rintro ⟨byron, hkind, rfl⟩
    exact ⟨byron, hkind.layout, key_payment_of_hasKind hkind⟩

/-- Of the symbols of a bech32 text, `0` and `l` alone are no base58 digits. -/
theorem symbol_mem_base58 : ∀ group < 32, Bech32.symbol group ≠ '0' → Bech32.symbol group ≠ 'l' →
    Bech32.symbol group ∈ Base58.alphabet := by
  decide +kernel

theorem part_mem_base58 {c : Char} (h : c ∈ "addr".toList) : c ∈ Base58.alphabet := by
  have hletter : c = 'a' ∨ c = 'd' ∨ c = 'r' := by simpa using h
  rcases hletter with rfl | rfl | rfl
  · decide
  · decide
  · decide

theorem base58_digits_iff (raw : Bytes) :
    (∀ c ∈ (Bech32.encode "addr" raw).toList, c ∈ Base58.alphabet) ↔
      '0' ∉ (Bech32.encode "addr" raw).toList ∧ 'l' ∉ (Bech32.encode "addr" raw).toList := by
  constructor
  · intro hall
    exact ⟨fun hzero => absurd (hall _ hzero) (by decide), fun hl => absurd (hall _ hl) (by decide)⟩
  · rintro ⟨hzero, hl⟩ c hc
    have hne : c ≠ '0' := ne_of_mem_of_not_mem hc hzero
    have hne' : c ≠ 'l' := ne_of_mem_of_not_mem hc hl
    rw [Bech32.toList_encode] at hc
    rcases List.mem_append.1 hc with hpart | hrest
    · exact part_mem_base58 hpart
    · rcases List.mem_cons.1 hrest with rfl | hsymbol
      · decide
      · obtain ⟨group, hgroup, rfl⟩ := List.mem_map.1 hsymbol
        exact symbol_mem_base58 group (Bech32.lt_of_mem_payload group hgroup) hne hne'

theorem text_pointer {raw : Bytes} (h : (network raw : Int) = mainnet) :
    text raw .pointer = Bech32.encode "addr" raw := by
  show Bech32.encode (addressPart (network raw)) raw = _
  rw [addressPart, if_pos h]

/-- A key is shared with a Byron address only by a pointer address on the main network,
    and what its text is like decides whether it is. -/
theorem exists_byron_iff_of_hasKind {raw : Bytes} {kind : Kind} (h : HasKind raw kind)
    (hkind : kind ≠ .byron) :
    (∃ byron, HasKind byron .byron ∧ Base58.encode byron = text raw kind) ↔
      kind = .pointer ∧ (network raw : Int) = mainnet ∧ '0' ∉ (text raw kind).toList ∧
        'l' ∉ (text raw kind).toList ∧
        Base58.LeadsWithin 128 144 (Base58.textNumber (text raw kind)) := by
  constructor
  · -- the other layouts fix the length, and so the size of the number
    rintro ⟨byron, hbyron, htext⟩
    cases kind with
    | byron => exact absurd rfl hkind
    | base => exact absurd htext (byron_text_ne_base hbyron h)
    | enterprise => exact absurd htext (byron_text_ne_enterprise hbyron h)
    | reward => exact absurd htext (byron_text_ne_reward hbyron h)
    | pointer =>
      have hmain : (network raw : Int) = mainnet := by
        by_contra hother
        change _ = Bech32.encode (addressPart (network raw)) raw at htext
        rw [addressPart, if_neg hother] at htext
        exact base58_ne_of_underscore (by decide) htext
      obtain ⟨hall, -, hleads⟩ := exists_byron_iff.1 ⟨byron, hbyron, htext⟩
      rw [text_pointer hmain] at hall hleads ⊢
      obtain ⟨hzero, hl⟩ := (base58_digits_iff raw).1 hall
      exact ⟨rfl, hmain, hzero, hl, hleads⟩
  · rintro ⟨rfl, hmain, hzero, hl, hleads⟩
    rw [text_pointer hmain] at hzero hl hleads ⊢
    refine exists_byron_iff.2 ⟨(base58_digits_iff raw).2 ⟨hzero, hl⟩, ?_, hleads⟩
    rw [Bech32.toList_encode]
    change some 'a' ≠ some '1'
    decide

/-- The number of a text of 37 octets begins like a Byron address, whatever the octets. -/
theorem leadsWithin_of_length {raw : Bytes} (h : raw.length = 37)
    (hall : ∀ c ∈ (Bech32.encode "addr" raw).toList, c ∈ Base58.alphabet) :
    Base58.LeadsWithin 128 144 (Base58.textNumber (Bech32.encode "addr" raw)) := by
  have hfollow : (8 * raw.length + 4) / 5 + 6 = 66 := by rw [h]
  obtain ⟨hge, hlt⟩ := textNumber_bounds textNumber_addr hfollow hall
  have hlower : 128 * 256 ^ 51 ≤ 380592346 * 58 ^ 66 := by decide
  have hupper : (380592346 + 1) * 58 ^ 66 ≤ 144 * 256 ^ 51 := by decide
  exact ⟨51, hlower.trans hge, hlt.trans_le hupper⟩

theorem exists_byron_iff_of_short {raw : Bytes} {kind : Kind} (h : HasKind raw kind)
    (hkind : kind ≠ .byron) (hmost : raw.length ≤ 160) :
    (∃ byron, HasKind byron .byron ∧ Base58.encode byron = text raw kind) ↔
      kind = .pointer ∧ (network raw : Int) = mainnet ∧ raw.length = 37 ∧
        '0' ∉ (text raw kind).toList ∧ 'l' ∉ (text raw kind).toList := by
  constructor
  · intro hshared
    obtain ⟨rfl, hmain, hzero, hl, -⟩ := (exists_byron_iff_of_hasKind h hkind).1 hshared
    obtain ⟨byron, hbyron, htext⟩ := hshared
    have hleast : 29 < raw.length := h.length_fits
    have hlength : raw.length = 37 := by
      by_contra hne
      exact base58_ne_of_length hbyron hleast.le hmost hne htext
    exact ⟨rfl, hmain, hlength, hzero, hl⟩
  · rintro ⟨rfl, hmain, hlength, hzero, hl⟩
    refine (exists_byron_iff_of_hasKind h hkind).2 ⟨rfl, hmain, hzero, hl, ?_⟩
    rw [text_pointer hmain] at hzero hl ⊢
    exact leadsWithin_of_length hlength ((base58_digits_iff raw).2 ⟨hzero, hl⟩)

/-- The key of an address that is no Byron address is also that of a Byron address under
    these conditions and no others: the address is a pointer address on the main
    network, its text holds neither `0` nor `l`, and the number behind the text in base
    58 begins with an octet from 128 to 143. Among addresses of up to 160 octets the last
    condition asks for 37 octets. -/
theorem exists_byron_key_iff {raw : Bytes} {found : String} (hraw : classify raw ≠ .ok .byron)
    (hkey : key raw .payment = .ok (some found)) :
    ((∃ byron, classify byron = .ok .byron ∧ key byron .payment = .ok (some found)) ↔
      classify raw = .ok .pointer ∧ (network raw : Int) = mainnet ∧ '0' ∉ found.toList ∧
        'l' ∉ found.toList ∧ Base58.LeadsWithin 128 144 (Base58.textNumber found)) ∧
    (raw.length ≤ 160 →
      ((∃ byron, classify byron = .ok .byron ∧ key byron .payment = .ok (some found)) ↔
        classify raw = .ok .pointer ∧ (network raw : Int) = mainnet ∧ raw.length = 37 ∧
          '0' ∉ found.toList ∧ 'l' ∉ found.toList)) := by
  obtain ⟨kind, hkind, hfound⟩ := key_payment_eq_ok.1 hkey
  cases hfound
  have hne : kind ≠ .byron := by
    rintro rfl
    exact hraw hkind.layout
  rw [exists_byron_key, hkind.layout, Except.ok.injEq]
  exact ⟨exists_byron_iff_of_hasKind hkind hne, exists_byron_iff_of_short hkind hne⟩

/-- A pointer address on the main network, with three numbers for its chain pointer. -/
def chainPointer : Bytes :=
  0x51 :: (List.replicate 28 0 ++ [0x81, 0x81, 0x81, 0x01, 0x81, 0x01, 0x81, 0x01])

theorem hasKind_chainPointer : HasKind chainPointer .pointer := ⟨rfl, rfl⟩

theorem exists_byron_key_iff_chainPointer :
    classify chainPointer ≠ .ok .byron ∧
      key chainPointer .payment = .ok (some
        "addr12yqqqqqqqqqqqqqqqqqqqqqqqqqqqqqqqqqqqqqqqqqqqqypsxqsrqgpsyqsp3js3k") ∧
      ∃ byron, classify byron = .ok .byron ∧
        key byron .payment = .ok (some
          "addr12yqqqqqqqqqqqqqqqqqqqqqqqqqqqqqqqqqqqqqqqqqqqqypsxqsrqgpsyqsp3js3k") := by
  have htext : text chainPointer .pointer =
      "addr12yqqqqqqqqqqqqqqqqqqqqqqqqqqqqqqqqqqqqqqqqqqqqypsxqsrqgpsyqsp3js3k" := by
    decide +kernel
  have hlayout : classify chainPointer ≠ .ok .byron := by decide
  have hkey := key_payment_of_hasKind hasKind_chainPointer
  rw [htext] at hkey
  refine ⟨hlayout, hkey, ((exists_byron_key_iff hlayout hkey).2 (by decide)).2 ?_⟩
  exact ⟨hasKind_chainPointer.layout, rfl, rfl, by decide, by decide⟩

/-- Octets with a Byron header, whose base58 text is the text of that pointer address. -/
def misread : Bytes :=
  [0x8c, 0x1c, 0x2e, 0x7b, 0xe0, 0xf0, 0x60, 0xd1, 0xad, 0x96, 0x01, 0xea, 0x35,
    0x90, 0x2d, 0xc8, 0xb3, 0x66, 0xa8, 0x9d, 0xb0, 0x65, 0xd5, 0xeb, 0xd5, 0x96,
    0x73, 0xe9, 0x22, 0x8e, 0x46, 0x4b, 0x57, 0x68, 0xae, 0xcc, 0x34, 0xdd, 0xda,
    0x0a, 0xca, 0x12, 0xbb, 0x0f, 0x0f, 0x6d, 0x1d, 0xdc, 0xf5, 0x5a, 0x9f, 0x37]

/-- Not all addresses of other layouts have other keys than Byron addresses. -/
theorem not_byron_keys_apart :
    ¬∀ (byron raw : Bytes) (found other : String), classify byron = .ok .byron →
      classify raw ≠ .ok .byron → key byron .payment = .ok (some found) →
      key raw .payment = .ok (some other) → found ≠ other := by
  intro happart
  have hbyron : HasKind misread .byron := ⟨rfl, rfl⟩
  have htext : text misread .byron = text chainPointer .pointer := by
    refine (Base58.encode_eq_iff (by decide)).2 ⟨?_, by decide +kernel, by decide +kernel⟩
    exact (base58_digits_iff chainPointer).2 ⟨by decide +kernel, by decide +kernel⟩
  exact happart _ _ _ _ hbyron.layout (by decide) (key_payment_of_hasKind hbyron)
    (key_payment_of_hasKind hasKind_chainPointer) htext

end UtxoBalance.Address
