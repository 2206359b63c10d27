import Mathlib
import UtxoBalance.Document.Fault

/-!
# Exact values of numbers

A number in a document is an integer or a floating-point number, and each of the latter stands
for a rational, unless it is an infinity or no number at all. Where a document is read as an
amount, a number gives its integer part: the fraction is dropped, whatever the sign.

## Main definitions

- `Document.number?` — the rational that a number stands for
- `towardsZero` — the integer part of a rational

## Main statements

- `towardsZero_eq_iff` — which rationals are their integer part
- `Binary64.truncate_eq` — the integer part of a floating-point number
- `Document.toAmount_of_number?` — a number as an amount
-/

namespace UtxoBalance

/-- The integer part of a rational: the nearest integer on the side of zero. -/
def towardsZero (q : ℚ) : ℤ := if 0 ≤ q then ⌊q⌋ else ⌈q⌉

/-- The rational that a floating-point number stands for. -/
def Binary64.value? : Binary64 → Option ℚ
  | .finite negative significand exponent =>
    some ((if negative then -1 else 1) * (significand * 2 ^ exponent))
  | .infinite _ | .nan => none

/-- The rational that a number stands for. -/
def Document.number? : Document → Option ℚ
  | .int n => some n
  | .float value => value.value?
  | _ => none

/-! ## Integer parts -/

theorem towardsZero_intCast (n : ℤ) : towardsZero n = n := by
  rw [towardsZero, Int.floor_intCast, Int.ceil_intCast, ite_self]

/-- Only integers are their integer part. -/
theorem towardsZero_eq_iff {q : ℚ} : (towardsZero q : ℚ) = q ↔ ∃ n : ℤ, (n : ℚ) = q := by
  constructor
  · exact fun h => ⟨towardsZero q, h⟩
  · rintro ⟨n, rfl⟩
    rw [towardsZero_intCast]

theorem towardsZero_of_nonneg {q : ℚ} (h : 0 ≤ q) : towardsZero q = ⌊q⌋ := if_pos h

theorem towardsZero_neg_of_nonneg {q : ℚ} (h : 0 ≤ q) : towardsZero (-q) = -⌊q⌋ := by
  rw [towardsZero, Int.ceil_neg]
  split
  · next hneg =>
    have hzero : q = 0 := le_antisymm (neg_nonneg.1 hneg) h
    rw [hzero, neg_zero, Int.floor_zero, neg_zero]
  · rfl

/-! ## Floating-point numbers -/

namespace Binary64

/-- The size of a floating-point number without its fraction. -/
theorem floor_significand_mul (significand : ℕ) (exponent : ℤ) :
    ⌊(significand : ℚ) * 2 ^ exponent⌋ =
      ((if 0 ≤ exponent then significand * Nat.pow 2 exponent.toNat
        else significand / Nat.pow 2 (-exponent).toNat : ℕ) : ℤ) := by
  by_cases h : 0 ≤ exponent
  · obtain ⟨e, rfl⟩ := Int.eq_ofNat_of_zero_le h
    have hcast : (significand : ℚ) * 2 ^ (e : ℤ) = ((significand * 2 ^ e : ℕ) : ℤ) := by
      push_cast
      rw [zpow_natCast]
    rw [if_pos h, hcast, Int.floor_intCast]
    rfl
  · obtain ⟨e, he⟩ := Int.eq_ofNat_of_zero_le (Int.le_of_lt (Int.neg_pos.2 (Int.not_le.1 h)))
    obtain rfl : exponent = -(e : ℤ) := by omega
    have hquotient : (significand : ℚ) * 2 ^ (-(e : ℤ)) = (significand : ℤ) / (2 ^ e : ℕ) := by
      rw [zpow_neg, zpow_natCast, div_eq_mul_inv]
      push_cast
      rfl
    rw [if_neg h, hquotient, Rat.floor_intCast_div_natCast, neg_neg]
    rfl

/-- What is left of a floating-point number is the integer part of the rational it stands
    for. -/
theorem truncate_eq (negative : Bool) (significand : ℕ) (exponent : ℤ) :
    truncate negative significand exponent =
      towardsZero ((if negative then -1 else 1) * (significand * 2 ^ exponent)) := by
  have hsize : (0 : ℚ) ≤ significand * 2 ^ exponent := by positivity
  cases negative with
  | false =>
    rw [if_neg Bool.false_ne_true, one_mul, towardsZero_of_nonneg hsize, floor_significand_mul]
    rfl
  | true =>
    rw [if_pos rfl, neg_one_mul, towardsZero_neg_of_nonneg hsize, floor_significand_mul]
    rfl

end Binary64

/-- A number is taken as an amount without its fraction. -/
theorem Document.toAmount_of_number? {d : Document} {q : ℚ} (h : d.number? = some q) :
    d.toAmount = .ok (towardsZero q) := by
  cases d with
  | int n =>
    cases h
    rw [toAmount, towardsZero_intCast]
  | float value =>
    cases value with
    | finite negative significand exponent =>
      cases h
      rw [toAmount, Binary64.truncate_eq]
    | infinite negative => cases h
    | nan => cases h
  | _ => cases h

end UtxoBalance
