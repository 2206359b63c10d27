import Mathlib
import UtxoBalance.Bytes.Base58

/-!
# Reading base58 text back

The octets of a byte string and the digits of its text stand for one number. Digits
without a zero in front are told by their number, for base 256 as for base 58, so a
text tells its octets, zero octets in front included. Which octets a text stands for
can be asked of any text whose characters are digits. How large its number is decides
with which octet they begin, and that is often told by the first digits of the text
and by how many follow.

## Main definitions

- `Base58.positional` — the number behind digits of any base
- `Base58.valueOf`, `Base58.textNumber` — the number behind a text
- `Base58.octets` — the octets of a number
- `Base58.LeadsWithin` — numbers whose first octet is in a range

## Main statements

- `Base58.positional_injective` — a number tells its digits
- `Base58.encode_eq_iff` — of which octets a text is the text
- `Base58.encode_injective` — a text tells its octets
- `Base58.leadsWithin_number` — the first octet and how large the number is
- `Base58.le_textNumber`, `Base58.textNumber_lt` — bounds from the first digits of a text
-/

namespace UtxoBalance.Base58

/-! ## Digits of any base -/

/-- The number behind digits of a base, most significant first, after a number that
    stands in front of them. -/
def positional (base lead : Nat) (rest : List Nat) : Nat :=
  rest.foldl (fun acc digit => acc * base + digit) lead

theorem positional_append (base lead : Nat) (first second : List Nat) :
    positional base lead (first ++ second) = positional base (positional base lead first) second :=
  List.foldl_append

theorem le_positional (base lead : Nat) (rest : List Nat) :
    lead * base ^ rest.length ≤ positional base lead rest := by
  induction rest generalizing lead with
  | nil => exact Nat.le_of_eq (Nat.mul_one lead)
  | cons digit rest ih =>
    calc
      lead * base ^ (rest.length + 1) = lead * base * base ^ rest.length := by
        rw [Nat.pow_succ', Nat.mul_assoc]
      _ ≤ (lead * base + digit) * base ^ rest.length :=
        Nat.mul_le_mul_right _ (Nat.le_add_right _ _)
      _ ≤ positional base lead (digit :: rest) := ih _

theorem positional_lt {base : Nat} {rest : List Nat} (h : ∀ digit ∈ rest, digit < base)
    (lead : Nat) : positional base lead rest < (lead + 1) * base ^ rest.length := by
  induction rest generalizing lead with
  | nil => exact Nat.lt_of_lt_of_eq (Nat.lt_succ_self lead) (Nat.mul_one _).symm
  | cons digit rest ih =>
    have hdigit : digit + 1 ≤ base := h digit List.mem_cons_self
    calc
      positional base lead (digit :: rest)
        < (lead * base + digit + 1) * base ^ rest.length :=
        ih (fun other hother => h other (List.mem_cons_of_mem _ hother)) _
      _ ≤ (lead * base + base) * base ^ rest.length :=
        Nat.mul_le_mul_right _ (by omega)
      _ = (lead + 1) * base ^ (rest.length + 1) := by
        rw [Nat.pow_succ', ← Nat.mul_assoc, Nat.succ_mul]

theorem positional_eq_ofDigits (base : Nat) (given : List Nat) :
    positional base 0 given = Nat.ofDigits base given.reverse := by
  rw [Nat.ofDigits_eq_foldr, List.foldr_reverse, positional]
  refine congrArg (fun step => List.foldl step 0 given) ?_
  funext acc digit
  rw [Nat.mul_comm, Nat.add_comm]
  rfl

/-- Digits without a zero in front are those of their number. -/
theorem reverse_digits_positional {base : Nat} (hbase : 1 < base) {given : List Nat}
    (hlt : ∀ digit ∈ given, digit < base) (hlead : given.head? ≠ some 0) :
    (Nat.digits base (positional base 0 given)).reverse = given := by
  rw [positional_eq_ofDigits, Nat.digits_ofDigits base hbase, List.reverse_reverse]
  · exact fun digit hdigit => hlt digit (List.mem_reverse.1 hdigit)
  · intro hne hzero
    rw [List.getLast_reverse] at hzero
    have hgiven : given ≠ [] := fun hnil => hne (List.reverse_eq_nil_iff.2 hnil)
    exact hlead (by rw [List.head?_eq_some_head hgiven, hzero])

theorem positional_injective {base : Nat} (hbase : 1 < base) {first second : List Nat}
    (hfirst : ∀ digit ∈ first, digit < base) (hsecond : ∀ digit ∈ second, digit < base)
    (hlead : first.head? ≠ some 0) (hother : second.head? ≠ some 0)
    (h : positional base 0 first = positional base 0 second) : first = second := by
  rw [← reverse_digits_positional hbase hfirst hlead, h,
    reverse_digits_positional hbase hsecond hother]

/-! ## Octets -/

theorem number_eq (bytes : Bytes) : number bytes = positional 256 0 (bytes.map UInt8.toNat) := by
  rw [number, positional, List.foldl_map]

theorem lt_of_mem_octets (rest : Bytes) : ∀ digit ∈ rest.map UInt8.toNat, digit < 256 := by
  intro digit hdigit
  obtain ⟨b, -, rfl⟩ := List.mem_map.1 hdigit
  exact b.toNat_lt

theorem head?_toNat {bytes : Bytes} (h : bytes.head? ≠ some 0) :
    (bytes.map UInt8.toNat).head? ≠ some 0 := by
  cases bytes with
  | nil =>
    intro hzero
    cases hzero
  | cons b rest =>
    intro hzero
    have hb : b.toNat = (0 : UInt8).toNat := Option.some.inj hzero
    exact h (congrArg some (UInt8.toNat_inj.1 hb))

theorem number_injective {first second : Bytes} (hfirst : first.head? ≠ some 0)
    (hsecond : second.head? ≠ some 0) (h : number first = number second) : first = second := by
  rw [number_eq, number_eq] at h
  have hoctets := positional_injective (by decide) (lt_of_mem_octets first)
    (lt_of_mem_octets second) (head?_toNat hfirst) (head?_toNat hsecond) h
  exact (List.map_inj_right fun _ _ => UInt8.toNat_inj.1).1 hoctets

theorem number_cons (header : UInt8) (rest : Bytes) :
    number (header :: rest) = positional 256 header.toNat (rest.map UInt8.toNat) := by
  rw [number, positional, List.foldl_cons, List.foldl_map, Nat.zero_mul, Nat.zero_add]

theorem le_number (header : UInt8) (rest : Bytes) :
    header.toNat * 256 ^ rest.length ≤ number (header :: rest) := by
  have hle := le_positional 256 header.toNat (rest.map UInt8.toNat)
  rwa [List.length_map, ← number_cons] at hle

theorem number_lt (header : UInt8) (rest : Bytes) :
    number (header :: rest) < (header.toNat + 1) * 256 ^ rest.length := by
  have hlt := positional_lt (lt_of_mem_octets rest) header.toNat
  rwa [List.length_map, ← number_cons] at hlt

/-- The octets of a number, most significant first; zero has none. -/
def octets (n : Nat) : Bytes :=
  (Nat.digits 256 n).reverse.map UInt8.ofNat

theorem toNat_octets (n : Nat) : (octets n).map UInt8.toNat = (Nat.digits 256 n).reverse := by
  rw [octets, List.map_map]
  refine (List.map_congr_left fun digit hdigit => ?_).trans (List.map_id _)
  have hlt : digit < 256 := Nat.digits_lt_base (by decide) (List.mem_reverse.1 hdigit)
  exact UInt8.toNat_ofNat_of_lt hlt

theorem number_octets (n : Nat) : number (octets n) = n := by
  rw [number_eq, toNat_octets, positional_eq_ofDigits, List.reverse_reverse, Nat.ofDigits_digits]

theorem head?_octets (n : Nat) : (octets n).head? ≠ some 0 := by
  intro hzero
  have hhead : (Nat.digits 256 n).reverse.head? = some 0 := by
    rw [← toNat_octets, List.head?_map, hzero]
    rfl
  rw [List.head?_reverse] at hhead
  have hne : Nat.digits 256 n ≠ [] := by
    intro hnil
    rw [hnil] at hhead
    cases hhead
  have hn : n ≠ 0 := Nat.digits_ne_nil_iff_ne_zero.1 hne
  rw [List.getLast?_eq_some_getLast hne] at hhead
  exact Nat.getLast_digit_ne_zero 256 hn (Option.some.inj hhead)

/-! ## First octets -/

/-- The first octet of a number is from one bound up to another. -/
def LeadsWithin (lower upper n : Nat) : Prop :=
  ∃ follow, lower * 256 ^ follow ≤ n ∧ n < upper * 256 ^ follow

/-- A first octet that is not zero is between the bounds between which the number is. -/
theorem leadsWithin_number {header : UInt8} (hheader : header ≠ 0) {lower upper : Nat}
    (hpos : 0 < lower) (hupper : upper ≤ 256) (rest : Bytes) :
    LeadsWithin lower upper (number (header :: rest)) ↔
      lower ≤ header.toNat ∧ header.toNat < upper := by
  have hle := le_number header rest
  have hlt := number_lt header rest
  constructor
  · -- fewer octets behind the first make the number too small, more make it too large
    rintro ⟨follow, hge, hless⟩
    have hlength : rest.length = follow := by
      rcases Nat.lt_trichotomy rest.length follow with hshort | heq | hlong
      · have hnumber : number (header :: rest) < lower * 256 ^ follow :=
          calc
            number (header :: rest) < (header.toNat + 1) * 256 ^ rest.length := hlt
            _ ≤ 256 * 256 ^ rest.length := Nat.mul_le_mul_right _ header.toNat_lt
            _ = 256 ^ (rest.length + 1) := (Nat.pow_succ').symm
            _ ≤ 256 ^ follow := Nat.pow_le_pow_right (by decide) hshort
            _ ≤ lower * 256 ^ follow := Nat.le_mul_of_pos_left _ hpos
        omega
      · exact heq
      · have hheader' : 0 < header.toNat :=
          Nat.pos_of_ne_zero fun hzero => hheader (UInt8.toNat_inj.1 hzero)
        have hnumber : upper * 256 ^ follow ≤ number (header :: rest) :=
          calc
            upper * 256 ^ follow ≤ 256 * 256 ^ follow := Nat.mul_le_mul_right _ hupper
            _ = 256 ^ (follow + 1) := (Nat.pow_succ').symm
            _ ≤ 256 ^ rest.length := Nat.pow_le_pow_right (by decide) hlong
            _ ≤ header.toNat * 256 ^ rest.length := Nat.le_mul_of_pos_left _ hheader'
            _ ≤ number (header :: rest) := hle
        omega
    subst hlength
    have hfirst : lower < header.toNat + 1 := Nat.lt_of_mul_lt_mul_right (hge.trans_lt hlt)
    exact ⟨Nat.le_of_lt_succ hfirst, Nat.lt_of_mul_lt_mul_right (hle.trans_lt hless)⟩
  · rintro ⟨hlower, hless⟩
    exact ⟨rest.length, (Nat.mul_le_mul_right _ hlower).trans hle,
      hlt.trans_le (Nat.mul_le_mul_right _ hless)⟩

/-- No first octet is in a range, if for a number in these bounds too few octets are too
    small and one more is too large. -/
theorem not_leadsWithin {lower upper least bound few n : Nat} (hge : least ≤ n) (hlt : n < bound)
    (hfew : upper * 256 ^ few ≤ least) (hmany : bound ≤ lower * 256 ^ (few + 1)) :
    ¬LeadsWithin lower upper n := by
  rintro ⟨follow, hlower, hupper⟩
  rcases Nat.lt_or_ge few follow with hlong | hshort
  · have hnumber : lower * 256 ^ (few + 1) ≤ lower * 256 ^ follow :=
      Nat.mul_le_mul_left _ (Nat.pow_le_pow_right (by decide) hlong)
    omega
  · have hnumber : upper * 256 ^ follow ≤ upper * 256 ^ few :=
      Nat.mul_le_mul_left _ (Nat.pow_le_pow_right (by decide) hshort)
    omega

/-! ## Texts -/

theorem symbol_mem_alphabet (digit : Nat) : symbol digit ∈ alphabet := by
  rw [symbol, List.getD_eq_getElem?_getD]
  cases hsymbol : alphabet[digit]? with
  | none => decide
  | some c => exact List.mem_of_getElem? hsymbol

/-- The value of a digit. -/
def valueOf (c : Char) : Nat :=
  alphabet.idxOf c

theorem valueOf_symbol {digit : Nat} (h : digit < 58) : valueOf (symbol digit) = digit := by
  have hnodup : alphabet.Nodup := by decide +kernel
  have hlength : digit < alphabet.length := h
  rw [symbol, List.getD_eq_getElem _ _ hlength, valueOf, hnodup.idxOf_getElem]

theorem valueOf_lt {c : Char} (h : c ∈ alphabet) : valueOf c < 58 :=
  List.idxOf_lt_length_iff.2 h

theorem symbol_valueOf {c : Char} (h : c ∈ alphabet) : symbol (valueOf c) = c := by
  rw [symbol, List.getD_eq_getElem?_getD, valueOf, List.getElem?_idxOf h]
  rfl

/-- The number whose digits are the characters of a text. -/
def textNumber (text : String) : Nat :=
  positional 58 0 (text.toList.map valueOf)

theorem digits_eq (n : Nat) : digits n = (Nat.digits 58 n).reverse := by
  fun_induction digits n with
  | case1 => rfl
  | case2 n hpos ih => rw [Nat.digits_eq_cons_digits_div (by decide) hpos, List.reverse_cons, ih]

theorem lt_of_mem_digits (n : Nat) : ∀ digit ∈ digits n, digit < 58 := by
  intro digit hdigit
  rw [digits_eq, List.mem_reverse] at hdigit
  exact Nat.digits_lt_base (by decide) hdigit

theorem positional_digits (n : Nat) : positional 58 0 (digits n) = n := by
  rw [digits_eq, positional_eq_ofDigits, List.reverse_reverse, Nat.ofDigits_digits]

/-- The digits of a number have no zero in front. -/
theorem head?_digits (n : Nat) : (digits n).head? ≠ some 0 := by
  fun_induction digits n with
  | case1 =>
    intro hzero
    cases hzero
  | case2 n hpos ih =>
    cases hfront : digits (n / 58) with
    | nil =>
      have hdiv : n / 58 = 0 := by
        rw [← positional_digits (n / 58), hfront]
        rfl
      intro hzero
      have hmod : n % 58 = 0 := Option.some.inj hzero
      omega
    | cons digit rest =>
      rw [hfront] at ih
      exact ih

theorem takeWhile_zero {bytes : Bytes} (h : bytes.head? ≠ some 0) :
    bytes.takeWhile (· == 0) = [] := by
  cases bytes with
  | nil => rfl
  | cons b rest => exact List.takeWhile_cons_of_neg fun hb => h (congrArg some (eq_of_beq hb))

/-- Where no zero octet stands in front, a text is the digits of the number. -/
theorem toList_encode {bytes : Bytes} (h : bytes.head? ≠ some 0) :
    (encode bytes).toList = (digits (number bytes)).map symbol := by
  rw [encode, takeWhile_zero h, String.toList_ofList]
  rfl

theorem map_valueOf_symbol {given : List Nat} (h : ∀ digit ∈ given, digit < 58) :
    (given.map symbol).map valueOf = given := by
  rw [List.map_map]
  exact (List.map_congr_left fun digit hdigit => valueOf_symbol (h digit hdigit)).trans
    (List.map_id _)

theorem map_symbol_valueOf {text : List Char} (h : ∀ c ∈ text, c ∈ alphabet) :
    (text.map valueOf).map symbol = text := by
  rw [List.map_map]
  exact (List.map_congr_left fun c hc => symbol_valueOf (h c hc)).trans (List.map_id _)

theorem lt_of_mem_values {text : List Char} (h : ∀ c ∈ text, c ∈ alphabet) :
    ∀ digit ∈ text.map valueOf, digit < 58 := by
  intro digit hdigit
  obtain ⟨c, hc, rfl⟩ := List.mem_map.1 hdigit
  exact valueOf_lt (h c hc)

/-- The zero digit is the character `1`. -/
theorem head?_symbol {given : List Nat} (hlt : ∀ digit ∈ given, digit < 58) :
    (given.map symbol).head? = some '1' ↔ given.head? = some 0 := by
  cases given with
  | nil => simp
  | cons digit rest =>
    have hdigit : digit < 58 := hlt digit List.mem_cons_self
    simp only [List.map_cons, List.head?_cons, Option.some.injEq]
    constructor
    · intro hsymbol
      rw [← valueOf_symbol hdigit, hsymbol]
      decide
    · rintro rfl
      rfl

/-- Octets without a zero in front have as their text the digits of their number, without
    a zero in front. -/
theorem encode_eq_iff {bytes : Bytes} (hbytes : bytes.head? ≠ some 0) {text : String} :
    encode bytes = text ↔ (∀ c ∈ text.toList, c ∈ alphabet) ∧ text.toList.head? ≠ some '1' ∧
      number bytes = textNumber text := by
  have hlt := lt_of_mem_digits (number bytes)
  constructor
  · rintro rfl
    rw [textNumber, toList_encode hbytes, map_valueOf_symbol hlt, positional_digits]
    refine ⟨fun c hc => ?_, fun hone => ?_, rfl⟩
    · obtain ⟨digit, -, rfl⟩ := List.mem_map.1 hc
      exact symbol_mem_alphabet digit
    · exact head?_digits _ ((head?_symbol hlt).1 hone)
  · rintro ⟨hall, hone, hnumber⟩
    have hlead : (text.toList.map valueOf).head? ≠ some 0 := by
      intro hzero
      rw [← head?_symbol (lt_of_mem_values hall), map_symbol_valueOf hall] at hzero
      exact hone hzero
    have hdigits : digits (number bytes) = text.toList.map valueOf := by
      rw [hnumber, digits_eq, textNumber]
      exact reverse_digits_positional (by decide) (lt_of_mem_values hall) hlead
    rw [← String.toList_inj, toList_encode hbytes, hdigits, map_symbol_valueOf hall]

/-! ## Zero octets in front -/

theorem exists_zeros (bytes : Bytes) :
    ∃ count rest, rest.head? ≠ some 0 ∧ bytes = List.replicate count 0 ++ rest := by
  induction bytes with
  | nil => exact ⟨0, [], by simp, rfl⟩
  | cons b rest ih =>
    by_cases hb : b = 0
    · obtain ⟨count, more, hmore, rfl⟩ := ih
      exact ⟨count + 1, more, hmore, by rw [hb]; rfl⟩
    · exact ⟨0, b :: rest, by simpa using hb, rfl⟩

theorem number_zeros (count : Nat) (rest : Bytes) :
    number (List.replicate count 0 ++ rest) = number rest := by
  induction count with
  | zero => rfl
  | succ count ih =>
    rw [List.replicate_succ, List.cons_append, ← ih]
    rfl

/-- Each zero octet in front is a zero digit in front. -/
theorem toList_encode_zeros (count : Nat) {rest : Bytes} (h : rest.head? ≠ some 0) :
    (encode (List.replicate count 0 ++ rest)).toList =
      List.replicate count '1' ++ (encode rest).toList := by
  have hfront : (List.replicate count 0 ++ rest).takeWhile (· == 0) =
      List.replicate count (0 : UInt8) := by
    rw [List.takeWhile_append_of_pos, takeWhile_zero h, List.append_nil]
    intro b hb
    rw [List.eq_of_mem_replicate hb]
    rfl
  rw [toList_encode h, encode, hfront, String.toList_ofList, number_zeros, List.map_replicate]

theorem mem_alphabet_of_mem_encode {bytes : Bytes} :
    ∀ c ∈ (encode bytes).toList, c ∈ alphabet := by
  intro c hc
  obtain ⟨count, rest, hrest, rfl⟩ := exists_zeros bytes
  rw [toList_encode_zeros count hrest] at hc
  rcases List.mem_append.1 hc with hzero | hdigit
  · rw [List.eq_of_mem_replicate hzero]
    decide
  · exact ((encode_eq_iff hrest).1 rfl).1 c hdigit

theorem replicate_append_inj {α : Type} {mark : α} {rest more : List α}
    (hrest : rest.head? ≠ some mark) (hmore : more.head? ≠ some mark) {count other : Nat}
    (h : List.replicate count mark ++ rest = List.replicate other mark ++ more) :
    count = other ∧ rest = more := by
  induction count generalizing other with
  | zero =>
    cases other with
    | zero => exact ⟨rfl, h⟩
    | succ other =>
      rw [List.replicate_zero, List.nil_append] at h
      exact absurd (congrArg List.head? h) hrest
  | succ count ih =>
    cases other with
    | zero =>
      rw [List.replicate_zero, List.nil_append] at h
      exact absurd (congrArg List.head? h.symm) hmore
    | succ other =>
      obtain ⟨hcount, heq⟩ := ih (List.cons.inj h).2
      exact ⟨congrArg Nat.succ hcount, heq⟩

theorem encode_injective {first second : Bytes} (h : encode first = encode second) :
    first = second := by
  obtain ⟨count, rest, hrest, rfl⟩ := exists_zeros first
  obtain ⟨other, more, hmore, rfl⟩ := exists_zeros second
  -- zeros in front are told by the ones in front, the octets behind them by their number
  have hlist := congrArg String.toList h
  rw [toList_encode_zeros count hrest, toList_encode_zeros other hmore] at hlist
  obtain ⟨-, hone, -⟩ := (encode_eq_iff hrest).1 rfl
  obtain ⟨-, hother, hnumber⟩ := (encode_eq_iff hmore).1 rfl
  obtain ⟨rfl, htext⟩ := replicate_append_inj hone hother hlist
  have hsame : encode rest = encode more := String.toList_inj.1 htext
  rw [← hsame, ← ((encode_eq_iff hrest).1 rfl).2.2] at hnumber
  rw [number_injective hrest hmore hnumber.symm]

/-! ## Bounds from the first digits -/

section Bounds

variable {front rest : List Char} {text : String}

theorem textNumber_append (h : text.toList = front ++ rest) :
    textNumber text =
      positional 58 (positional 58 0 (front.map valueOf)) (rest.map valueOf) := by
  rw [textNumber, h, List.map_append, positional_append]

/-- A number is at least what the first digits of its text stand for there. -/
theorem le_textNumber (h : text.toList = front ++ rest) :
    positional 58 0 (front.map valueOf) * 58 ^ rest.length ≤ textNumber text := by
  rw [textNumber_append h, ← List.length_map (f := valueOf)]
  exact le_positional 58 _ _

/-- A number is less than what the first digits of its text, and one more, stand for
    there. -/
theorem textNumber_lt (h : text.toList = front ++ rest) (hall : ∀ c ∈ text.toList, c ∈ alphabet) :
    textNumber text < (positional 58 0 (front.map valueOf) + 1) * 58 ^ rest.length := by
  rw [textNumber_append h, ← List.length_map (f := valueOf)]
  refine positional_lt (lt_of_mem_values fun c hc => hall c ?_) _
  rw [h]
  exact List.mem_append_right front hc

end Bounds

end UtxoBalance.Base58
