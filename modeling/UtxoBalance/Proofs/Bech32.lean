import Mathlib
import UtxoBalance.Bytes.Bech32

/-!
# Reading bech32 text back

A bech32 text tells its human-readable part and its octets. The separator is no symbol
of the payload, so its last place in a text is where the payload starts. The checksum
is the last six symbols, and the symbols before it are the groups of five bits. The
number of groups tells the number of octets, and groups and octets hold the same bits.

## Main statements

- `Bech32.flatMap_bits_regroup` — groups of five bits hold the bits that they were made of
- `Bech32.fives_injective` — the groups tell the octets
- `Bech32.length_payload` — how many symbols follow the separator
- `Bech32.encode_injective` — a text tells its human-readable part and its octets
-/

namespace UtxoBalance.Bech32

/-! ## Bits of numbers -/

@[simp] theorem length_bits (width n : Nat) : (bits width n).length = width := by
  induction width with
  | zero => rfl
  | succ width ih => rw [bits, List.length_cons, ih]

theorem testBit_eq_of_bits {width m n : Nat} (h : bits width m = bits width n) :
    ∀ i < width, m.testBit i = n.testBit i := by
  induction width with
  | zero => exact fun i hi => absurd hi (Nat.not_lt_zero i)
  | succ width ih =>
    obtain ⟨hhigh, hlow⟩ := List.cons.inj h
    intro i hi
    rcases Nat.lt_succ_iff_lt_or_eq.1 hi with hi | rfl
    · exact ih hlow i hi
    · exact hhigh

theorem bits_injective {width m n : Nat} (hm : m < 2 ^ width) (hn : n < 2 ^ width)
    (h : bits width m = bits width n) : m = n := by
  refine Nat.eq_of_testBit_eq fun i => ?_
  by_cases hi : i < width
  · exact testBit_eq_of_bits h i hi
  · have hpow : 2 ^ width ≤ 2 ^ i := Nat.pow_le_pow_right (by decide) (Nat.le_of_not_lt hi)
    rw [Nat.testBit_lt_two_pow (Nat.lt_of_lt_of_le hm hpow),
      Nat.testBit_lt_two_pow (Nat.lt_of_lt_of_le hn hpow)]

theorem bits_value : ∀ a b c d e : Bool, bits 5 (value [a, b, c, d, e]) = [a, b, c, d, e] := by
  decide

theorem value_lt : ∀ a b c d e : Bool, value [a, b, c, d, e] < 32 := by
  decide

/-! ## Groups of five bits -/

/-- A short last group is filled up to five bits. -/
theorem exists_filled {short : List Bool} (hnil : short ≠ [])
    (hlong : ∀ a b c d e rest, short ≠ a :: b :: c :: d :: e :: rest) :
    ∃ a b c d e, short ++ List.replicate (5 - short.length) false = [a, b, c, d, e] :=
  match short with
  | [] => absurd rfl hnil
  | [a] => ⟨a, false, false, false, false, rfl⟩
  | [a, b] => ⟨a, b, false, false, false, rfl⟩
  | [a, b, c] => ⟨a, b, c, false, false, rfl⟩
  | [a, b, c, d] => ⟨a, b, c, d, false, rfl⟩
  | a :: b :: c :: d :: e :: rest => absurd rfl (hlong a b c d e rest)

/-- Groups of five bits hold the bits that they were made of, and zeros to fill up the
    last group. -/
theorem flatMap_bits_regroup (given : List Bool) :
    ∃ filling, (regroup given).flatMap (bits 5) = given ++ filling := by
  fun_induction regroup given with
  | case1 => exact ⟨[], rfl⟩
  | case2 a b c d e rest ih =>
    obtain ⟨filling, hrest⟩ := ih
    refine ⟨filling, ?_⟩
    rw [List.flatMap_cons, bits_value, hrest]
    rfl
  | case3 short hnil hlong =>
    obtain ⟨a, b, c, d, e, hfilled⟩ := exists_filled hnil hlong
    refine ⟨List.replicate (5 - short.length) false, ?_⟩
    rw [List.flatMap_singleton, hfilled, bits_value]

theorem lt_of_mem_regroup {given : List Bool} : ∀ group ∈ regroup given, group < 32 := by
  fun_induction regroup given with
  | case1 => exact fun group hgroup => absurd hgroup List.not_mem_nil
  | case2 a b c d e rest ih =>
    intro group hgroup
    rcases List.mem_cons.1 hgroup with rfl | hrest
    · exact value_lt a b c d e
    · exact ih group hrest
  | case3 short hnil hlong =>
    intro group hgroup
    obtain ⟨a, b, c, d, e, hfilled⟩ := exists_filled hnil hlong
    rw [List.mem_singleton.1 hgroup, hfilled]
    exact value_lt a b c d e

theorem length_regroup (given : List Bool) :
    (regroup given).length = (given.length + 4) / 5 := by
  fun_induction regroup given with
  | case1 => rfl
  | case2 a b c d e rest ih =>
    simp only [List.length_cons, ih]
    omega
  | case3 short hnil hlong =>
    obtain ⟨a, b, c, d, e, hfilled⟩ := exists_filled hnil hlong
    have hlength := congrArg List.length hfilled
    have hpos := List.length_pos_iff_ne_nil.2 hnil
    simp only [List.length_append, List.length_replicate, List.length_cons,
      List.length_nil] at hlength ⊢
    omega

/-! ## Octets -/

theorem length_octetBits (bytes : Bytes) :
    (bytes.flatMap fun b => bits 8 b.toNat).length = 8 * bytes.length := by
  induction bytes with
  | nil => rfl
  | cons b rest ih =>
    rw [List.flatMap_cons, List.length_append, ih, length_bits, List.length_cons]
    omega

theorem length_fives (bytes : Bytes) : (fives bytes).length = (8 * bytes.length + 4) / 5 := by
  rw [fives, length_regroup, length_octetBits]

/-- As many octets with the same bits in front are the same octets. -/
theorem octets_eq_of_bits {first second : Bytes} {filling others : List Bool}
    (hlength : first.length = second.length)
    (h : (first.flatMap fun b => bits 8 b.toNat) ++ filling =
      (second.flatMap fun b => bits 8 b.toNat) ++ others) : first = second := by
  induction first generalizing second with
  | nil => exact (List.length_eq_zero_iff.1 hlength.symm).symm
  | cons b rest ih =>
    cases second with
    | nil => cases hlength
    | cons c more =>
      rw [List.flatMap_cons, List.flatMap_cons, List.append_assoc, List.append_assoc] at h
      obtain ⟨hoctet, hrest⟩ := List.append_inj h (by rw [length_bits, length_bits])
      have hb : b = c := UInt8.toNat_inj.1 (bits_injective b.toNat_lt c.toNat_lt hoctet)
      rw [hb, ih (Nat.succ.inj hlength) hrest]

/-- The groups of five bits tell the octets. -/
theorem fives_injective {first second : Bytes} (h : fives first = fives second) :
    first = second := by
  -- eight bits an octet, so that one octet more is at least one group more
  have hlength : first.length = second.length := by
    have hgroups := congrArg List.length h
    rw [length_fives, length_fives] at hgroups
    omega
  obtain ⟨filling, hfirst⟩ := flatMap_bits_regroup (first.flatMap fun b => bits 8 b.toNat)
  obtain ⟨others, hsecond⟩ := flatMap_bits_regroup (second.flatMap fun b => bits 8 b.toNat)
  have hbits : (first.flatMap fun b => bits 8 b.toNat) ++ filling =
      (second.flatMap fun b => bits 8 b.toNat) ++ others := by
    rw [← hfirst, ← hsecond]
    exact congrArg (List.flatMap (bits 5)) h
  exact octets_eq_of_bits hlength hbits

/-! ## Symbols -/

theorem symbol_mem_alphabet (group : Nat) : symbol group ∈ alphabet := by
  rw [symbol, List.getD_eq_getElem?_getD]
  cases hsymbol : alphabet[group]? with
  | none => decide
  | some c => exact List.mem_of_getElem? hsymbol

theorem symbol_injective : ∀ m < 32, ∀ n < 32, symbol m = symbol n → m = n := by
  decide +kernel

theorem separator_notMem_symbols (groups : List Nat) : '1' ∉ groups.map symbol := by
  intro h
  obtain ⟨group, -, hgroup⟩ := List.mem_map.1 h
  have hmem := symbol_mem_alphabet group
  rw [hgroup] at hmem
  exact absurd hmem (by decide)

theorem map_symbol_injective {first second : List Nat} (hfirst : ∀ m ∈ first, m < 32)
    (hsecond : ∀ n ∈ second, n < 32) (h : first.map symbol = second.map symbol) :
    first = second := by
  induction first generalizing second with
  | nil => exact (List.map_eq_nil_iff.1 h.symm).symm
  | cons m rest ih =>
    cases second with
    | nil => cases h
    | cons n more =>
      obtain ⟨hhead, hrest⟩ := List.cons.inj h
      rw [symbol_injective m (hfirst m List.mem_cons_self) n (hsecond n List.mem_cons_self) hhead,
        ih (fun k hk => hfirst k (List.mem_cons_of_mem m hk))
          (fun k hk => hsecond k (List.mem_cons_of_mem n hk)) hrest]

/-! ## Texts -/

theorem length_checksum (readable : String) (groups : List Nat) :
    (checksum readable groups).length = 6 := rfl

theorem lt_of_mem_checksum {readable : String} {groups : List Nat} :
    ∀ group ∈ checksum readable groups, group < 32 := by
  intro group hgroup
  obtain ⟨i, -, rfl⟩ := List.mem_map.1 hgroup
  exact Nat.lt_succ_of_le Nat.and_le_right

/-- The groups of a text, checksum included. -/
def payload (readable : String) (bytes : Bytes) : List Nat :=
  fives bytes ++ checksum readable (fives bytes)

/-- Groups of five bits for the octets, and six more for the checksum. -/
theorem length_payload (readable : String) (bytes : Bytes) :
    (payload readable bytes).length = (8 * bytes.length + 4) / 5 + 6 := by
  rw [payload, List.length_append, length_fives, length_checksum]

theorem lt_of_mem_payload {readable : String} {bytes : Bytes} :
    ∀ group ∈ payload readable bytes, group < 32 := by
  intro group hgroup
  rcases List.mem_append.1 hgroup with hfive | hcheck
  · exact lt_of_mem_regroup group hfive
  · exact lt_of_mem_checksum group hcheck

theorem toList_encode (readable : String) (bytes : Bytes) :
    (encode readable bytes).toList =
      readable.toList ++ '1' :: (payload readable bytes).map symbol := by
  simp only [encode, String.toList_append, String.toList_ofList, List.append_assoc]
  rfl

/-- What follows the last of some marks is told by the whole. -/
theorem append_mark_inj {α : Type} {mark : α} {before other rest more : List α}
    (hrest : mark ∉ rest) (hmore : mark ∉ more)
    (h : before ++ mark :: rest = other ++ mark :: more) : before = other ∧ rest = more := by
  -- a gap between the two marks would put one of them into `rest` or into `more`
  rcases List.append_eq_append_iff.1 h with ⟨gap, hother, hgap⟩ | ⟨gap, hbefore, hgap⟩
  · cases gap with
    | nil => exact ⟨by simpa using hother.symm, (List.cons.inj hgap).2⟩
    | cons c gap =>
      rw [(List.cons.inj hgap).2] at hrest
      exact absurd (List.mem_append_right gap List.mem_cons_self) hrest
  · cases gap with
    | nil => exact ⟨by simpa using hbefore, (List.cons.inj hgap).2.symm⟩
    | cons c gap =>
      rw [(List.cons.inj hgap).2] at hmore
      exact absurd (List.mem_append_right gap List.mem_cons_self) hmore

/-- A text tells its human-readable part and its octets. -/
theorem encode_injective {readable other : String} {bytes more : Bytes}
    (h : encode readable bytes = encode other more) : readable = other ∧ bytes = more := by
  have hlist := congrArg String.toList h
  rw [toList_encode, toList_encode] at hlist
  obtain ⟨hreadable, hsymbols⟩ := append_mark_inj (separator_notMem_symbols _)
    (separator_notMem_symbols _) hlist
  have hpayload := map_symbol_injective lt_of_mem_payload lt_of_mem_payload hsymbols
  have hfives : fives bytes = fives more := (List.append_inj' hpayload rfl).1
  exact ⟨String.toList_inj.1 hreadable, fives_injective hfives⟩

end UtxoBalance.Bech32
