import Mathlib
import UtxoBalance.Bytes.Hex

/-!
# Hexadecimal texts

A byte string has several hexadecimal texts behind the mark `0x`, which differ in the case
of their letters. Each of them is read back as the byte string.

## Main definitions

- `Hex.IsTextOf` — the hexadecimal texts of a byte string
- `Hex.markedText` — the one without capital letters

## Main statements

- `Hex.IsTextOf.exists_digits` — what stands behind the mark is read back
- `Hex.isTextOf_markedText` — writing gives one of the texts
- `Hex.length_of_decode` — no text has more octets than pairs of characters
-/

namespace UtxoBalance.Hex

/-! ## Digits -/

theorem eq_or_eq_toUpper_of_toLower {c d : Char} (h : c.toLower = d) : c = d ∨ c = d.toUpper := by
  by_cases hupper : c.isUpper
  · right
    have hlower : ¬ c.isLower := Char.not_isLower_of_isUpper hupper
    rw [← h, Char.toUpper_toLower_eq_toUpper, Char.toUpper_eq_of_not_isLower hlower]
  · left
    rw [← h, Char.toLower_eq_of_not_isUpper hupper]

theorem toLower_digit {n : Nat} (h : n < 16) : (digit n).toLower = digit n := by
  have hall : ∀ n < 16, (digit n).toLower = digit n := by decide
  exact hall n h

theorem value?_digit {n : Nat} (h : n < 16) : value? (digit n) = some n := by
  have hall : ∀ n < 16, value? (digit n) = some n := by decide
  exact hall n h

/-- What the reader has to know of a digit, in either case. -/
theorem digit_spec {c : Char} {n : Nat} (hn : n < 16) (h : c.toLower = digit n) :
    value? c = some n ∧ Text.isAsciiBlank c = false ∧ c.toNat < 0x80 := by
  have hlower : ∀ n < 16, Text.isAsciiBlank (digit n) = false ∧ (digit n).toNat < 0x80 := by
    decide
  have hupper : ∀ n < 16, value? (digit n).toUpper = some n ∧
      Text.isAsciiBlank (digit n).toUpper = false ∧ (digit n).toUpper.toNat < 0x80 := by decide
  rcases eq_or_eq_toUpper_of_toLower h with rfl | rfl
  · exact ⟨value?_digit hn, hlower n hn⟩
  · exact hupper n hn

/-! ## Texts -/

/-- Whether a text writes a byte string in hexadecimal: the mark, then two digits for each
    octet, with every letter in either case. -/
def IsTextOf (text : String) (bytes : Bytes) : Prop :=
  text.toList.map Char.toLower = '0' :: 'x' :: bytes.flatMap byteDigits

/-- The hexadecimal text of a byte string behind the mark. -/
def markedText (bytes : Bytes) : String := "0x" ++ encode bytes

/-- Digits are read in pairs, and each pair gives the octet it was written for. -/
theorem pairs_of_map_toLower (bytes : Bytes) :
    ∀ {chars : List Char}, chars.map Char.toLower = bytes.flatMap byteDigits →
      pairs chars = .ok bytes ∧ ∀ c ∈ chars, c.toNat < 0x80 := by
  induction bytes with
  | nil =>
    intro chars h
    cases List.map_eq_nil_iff.1 h
    exact ⟨rfl, by simp⟩
  | cons b rest ih =>
    intro chars h
    have hb : b.toNat < 256 := b.toNat_lt
    obtain ⟨high, tail, rfl, hhigh, htail⟩ := List.map_eq_cons_iff.1 h
    obtain ⟨low, tail, rfl, hlow, htail⟩ := List.map_eq_cons_iff.1 htail
    obtain ⟨hhighValue, hhighBlank, hhighAscii⟩ := digit_spec (by omega) hhigh
    obtain ⟨hlowValue, -, hlowAscii⟩ := digit_spec (by omega) hlow
    obtain ⟨hrest, hascii⟩ := ih htail
    have hoctet : UInt8.ofNat (16 * (b.toNat / 16) + b.toNat % 16) = b := by
      rw [Nat.div_add_mod, UInt8.ofNat_toNat]
    constructor
    · simp [pairs, hhighBlank, hhighValue, hlowValue, hrest, hoctet, Except.map]
    · simp only [List.mem_cons]
      rintro c (rfl | rfl | hc)
      · exact hhighAscii
      · exact hlowAscii
      · exact hascii c hc

theorem decode_of_map_toLower {digits : List Char} {bytes : Bytes}
    (h : digits.map Char.toLower = bytes.flatMap byteDigits) :
    decode (String.ofList digits) = .ok bytes := by
  obtain ⟨hpairs, hascii⟩ := pairs_of_map_toLower bytes h
  have hnone : digits.findIdx? (fun c => decide (0x80 ≤ c.toNat)) = none := by
    refine List.findIdx?_eq_none_iff.2 fun c hc => ?_
    simpa using hascii c hc
  rw [decode, String.toList_ofList, hnone, hpairs]
  rfl

/-- A hexadecimal text is the mark, in either case, and digits that are read back. -/
theorem IsTextOf.exists_digits {text : String} {bytes : Bytes} (h : IsTextOf text bytes) :
    ∃ mark digits, text.toList = '0' :: mark :: digits ∧ (mark = 'x' ∨ mark = 'X') ∧
      decode (String.ofList digits) = .ok bytes := by
  obtain ⟨zero, tail, htext, hzero, htail⟩ := List.map_eq_cons_iff.1 h
  obtain ⟨mark, digits, rfl, hmark, hdigits⟩ := List.map_eq_cons_iff.1 htail
  -- a zero has no other case
  have hzero : zero = '0' := by
    rcases eq_or_eq_toUpper_of_toLower hzero with rfl | rfl
    · rfl
    · decide
  refine ⟨mark, digits, by rw [htext, hzero], ?_, decode_of_map_toLower hdigits⟩
  exact eq_or_eq_toUpper_of_toLower hmark

/-- Each octet takes two digits. -/
theorem length_of_pairs {chars : List Char} {bytes : Bytes} (h : pairs chars = .ok bytes) :
    2 * bytes.length ≤ chars.length := by
  fun_induction pairs chars generalizing bytes with
  | case1 =>
    cases h
    simp
  | case2 c rest hblank ih =>
    have hrest := ih h
    rw [List.length_cons]
    omega
  | case3 | case4 | case5 => cases h
  | case6 c hblank high d tail hhigh low hlow ih =>
    cases htail : pairs tail with
    | error left =>
      rw [htail] at h
      cases h
    | ok more =>
      rw [htail] at h
      cases h
      have hmore := ih htail
      simp only [List.length_cons]
      omega

theorem length_of_decode {text : String} {bytes : Bytes} (h : decode text = .ok bytes) :
    2 * bytes.length ≤ text.length := by
  rw [decode] at h
  split at h
  · cases h
  · cases hpairs : pairs text.toList with
    | error left =>
      rw [hpairs] at h
      cases h
    | ok other =>
      rw [hpairs] at h
      cases h
      rw [← String.length_toList]
      exact length_of_pairs hpairs

theorem isTextOf_markedText (bytes : Bytes) : IsTextOf (markedText bytes) bytes := by
  have hdigits : (bytes.flatMap byteDigits).map Char.toLower = bytes.flatMap byteDigits := by
    induction bytes with
    | nil => rfl
    | cons b rest ih =>
      have hb : b.toNat < 256 := b.toNat_lt
      have hhigh := toLower_digit (by omega : b.toNat / 16 < 16)
      have hlow := toLower_digit (by omega : b.toNat % 16 < 16)
      rw [List.flatMap_cons, List.map_append, ih]
      simp [byteDigits, hhigh, hlow]
  have hchars : (markedText bytes).toList = '0' :: 'x' :: bytes.flatMap byteDigits := by
    simp [markedText, encode]
  rw [IsTextOf, hchars, List.map_cons, List.map_cons, hdigits]
  rfl

end UtxoBalance.Hex
