import Mathlib
import UtxoBalance.Number.Numeral

/-!
# Numerals that are written

What is written of an integer is its sign, if it is negative, and its decimal digits.
Nothing else stands there: no blank, no mark between digits, no digit of another
script. So what is written is read back as the same integer.

## Main statements

- `Numeral.read_digits` — a run of ASCII digits is read as the number it stands for
- `Numeral.read_toString` — an integer that can be written is read back
-/

namespace UtxoBalance.Numeral

/-! ## Digits -/

theorem toNat_of_isDigit {c : Char} (h : c.isDigit) : 48 ≤ c.toNat ∧ c.toNat ≤ 57 := by
  have h' := h
  simp only [Char.isDigit, Bool.and_eq_true, decide_eq_true_eq] at h'
  exact ⟨UInt32.le_iff_toNat_le.1 h'.1, UInt32.le_iff_toNat_le.1 h'.2⟩

theorem toAscii_of_lt {c : Char} (h : c.toNat < 0x7F) : toAscii c = c := by
  rw [toAscii, if_pos h]

theorem not_blank_of_isDigit {c : Char} (h : c.isDigit) : Text.isAsciiBlank c = false := by
  obtain ⟨hlow, hhigh⟩ := toNat_of_isDigit h
  have hspace : c ≠ ' ' := by
    rintro rfl
    simp at hlow
  simp [Text.isAsciiBlank, hspace]
  omega

theorem ne_underscore_of_isDigit {c : Char} (h : c.isDigit) : c ≠ '_' := by
  rintro rfl
  exact absurd h (by decide)

theorem marksSeparate_digits {digits : List Char} (h : ∀ c ∈ digits, c.isDigit)
    (afterDigit : Bool) : marksSeparate afterDigit digits = (afterDigit || !digits.isEmpty) := by
  induction digits generalizing afterDigit with
  | nil => simp [marksSeparate]
  | cons c rest ih =>
    have hc : c ≠ '_' := ne_underscore_of_isDigit (h c List.mem_cons_self)
    rw [marksSeparate, ih fun d hd => h d (List.mem_cons_of_mem c hd)]
    · simp
    · exact hc

/-! ## Reading back -/

theorem map_toAscii_digits {digits : List Char} (h : ∀ c ∈ digits, c.isDigit) :
    digits.map toAscii = digits := by
  have hid : digits.map toAscii = digits.map id := by
    refine List.map_congr_left fun c hc => toAscii_of_lt ?_
    have := (toNat_of_isDigit (h c hc)).2
    omega
  rw [hid, List.map_id]

/-- Digits are all that is left behind the sign, and the sign is taken off. -/
theorem takeSign_digits {digits : List Char} (h : ∀ c ∈ digits, c.isDigit) (hne : digits ≠ [])
    (negative : Bool) :
    takeSign (((if negative then '-' :: digits else digits).map toAscii).dropWhile
      Text.isAsciiBlank) = (negative, digits) := by
  cases digits with
  | nil => exact absurd rfl hne
  | cons c rest =>
    have hc : c.isDigit := h c List.mem_cons_self
    cases negative with
    | true =>
      have hsign : toAscii '-' = '-' := by decide
      have hblank : Text.isAsciiBlank '-' = false := by decide
      rw [if_pos rfl, List.map_cons, map_toAscii_digits h, hsign, List.dropWhile_cons, hblank]
      rfl
    | false =>
      have hminus : c ≠ '-' := by
        rintro rfl
        exact absurd hc (by decide)
      have hplus : c ≠ '+' := by
        rintro rfl
        exact absurd hc (by decide)
      rw [if_neg Bool.false_ne_true, map_toAscii_digits h, List.dropWhile_cons,
        not_blank_of_isDigit hc, if_neg Bool.false_ne_true]
      unfold takeSign
      split
      · next heq => exact absurd (List.cons.inj heq).1 hminus
      · next heq => exact absurd (List.cons.inj heq).1 hplus
      · rfl

/-- A run of digits behind an optional minus sign is read as the number it stands
    for. -/
theorem read_digits {digits : List Char} (h : ∀ c ∈ digits, c.isDigit) (hne : digits ≠ [])
    (hlength : digits.length ≤ maxDigits) (negative : Bool) :
    read (String.ofList (if negative then '-' :: digits else digits)) =
      .ok (if negative then -(Nat.ofDigitChars 10 digits 0 : Int)
        else Nat.ofDigitChars 10 digits 0) := by
  have hpart : ∀ c ∈ digits, isDigitOrMark c = true := by
    intro c hc
    simp [isDigitOrMark, h c hc]
  have hrun : digits.takeWhile isDigitOrMark = digits := List.takeWhile_eq_self_iff.2 hpart
  have hrest : digits.dropWhile isDigitOrMark = [] := List.dropWhile_eq_nil_iff.2 hpart
  have hmarks : digits.filter (· != '_') = digits := by
    refine List.filter_eq_self.2 fun c hc => ?_
    simpa using ne_underscore_of_isDigit (h c hc)
  have hseparate : marksSeparate false digits = true := by
    rw [marksSeparate_digits h]
    simpa using hne
  simp only [read, String.toList_ofList, takeSign_digits h hne, hrun, hrest, hmarks, hseparate,
    List.dropWhile_nil, List.isEmpty_nil, Bool.not_true, Bool.false_eq_true, if_false,
    if_neg (Nat.not_lt.2 hlength)]

theorem length_toDigits_le {n : Nat} (h : n < bound) : (Nat.toDigits 10 n).length ≤ maxDigits := by
  have hpos : 0 < maxDigits := by decide
  unfold bound at h
  -- the power is never to be computed
  generalize maxDigits = digits at h hpos ⊢
  exact (Nat.length_toDigits_le_iff (by decide) hpos).2 h

theorem bound_le_iff {n : Nat} : bound ≤ n ↔ maxDigits < (Nat.digits 10 n).length := by
  unfold bound
  -- the power is never to be computed
  generalize maxDigits = digits
  exact (Nat.lt_digits_length_iff (by decide) n).symm

theorem write_eq_ok_iff {n : Int} {text : String} :
    write n = .ok text ↔ n.natAbs < bound ∧ text = toString n := by
  rw [write]
  by_cases h : n.natAbs < bound
  · simp [h, eq_comm]
  · simp [h]

theorem write_eq_error_iff {n : Int} {fault : Fault} :
    write n = .error fault ↔ fault = .tooLarge ∧ bound ≤ n.natAbs := by
  rw [write, ← Nat.not_lt]
  by_cases h : n.natAbs < bound
  · simp [h]
  · simp [h, eq_comm]

/-- An integer that can be written is read back from what is written. -/
theorem read_toString {n : Int} (h : n.natAbs < bound) : read (toString n) = .ok n := by
  have hdigits : ∀ k : Nat, ∀ c ∈ Nat.toDigits 10 k, c.isDigit := fun k c hc =>
    Nat.isDigit_of_mem_toDigits (by decide) (by decide) hc
  rw [Int.toString_eq_repr, Int.repr_eq_if]
  by_cases hn : 0 ≤ n
  · have hread := read_digits (hdigits n.toNat) Nat.toDigits_ne_nil
      (length_toDigits_le (by omega)) false
    simp only [Bool.false_eq_true, if_false, Nat.ofDigitChars_ten_toDigits] at hread
    rw [if_pos hn, Nat.repr_eq_ofList_toDigits, hread, Int.toNat_of_nonneg hn]
  · have hread := read_digits (hdigits (-n).toNat) Nat.toDigits_ne_nil
      (length_toDigits_le (by omega)) true
    simp only [if_true, Nat.ofDigitChars_ten_toDigits] at hread
    have htext : "-" ++ (-n).toNat.repr = String.ofList ('-' :: Nat.toDigits 10 (-n).toNat) := by
      rw [← String.toList_inj]
      simp
    rw [if_neg hn, htext, hread]
    congr 1
    omega

end UtxoBalance.Numeral
