import Sygma.Library.Exec
import Mathlib.Tactic.Ring

/-!
# Unsigned fixed-point numbers

`FixedPoint w f` is a number of `w` bits of which `f` stand after the binary point. The operations
are those of a machine library: conversion from an integer wraps, or panics when overflow checks
are compiled in, division reports a failure, multiplication is held at the greatest number, and
conversion to an integer drops the fraction. The two lemmas `toNum_checkedDiv` and
`toNum_saturatingMul` say what a client sees who starts from integers and returns to them: integer
division, and a product held at the greatest integer.
-/

open Exec (Panic)

/-- An unsigned fixed-point number of `w` bits with `f` fractional bits. -/
structure FixedPoint (w f : Nat) where
  bits : BitVec w

namespace FixedPoint

variable {w f : Nat}

/-- The greatest number. -/
def max : FixedPoint w f := ⟨BitVec.allOnes w⟩

/-- An integer as a fixed-point number, wrapped into its range. -/
def wrappingFromNum (number : Nat) : FixedPoint w f :=
  ⟨BitVec.ofNat w (number * 2 ^ f)⟩

/-- An integer as a fixed-point number. One that does not fit panics if overflow checks are on and
is wrapped if they are off. -/
def fromNum (overflowChecks : Bool) (number : Nat) : Except Panic (FixedPoint w f) :=
  if number * 2 ^ f < 2 ^ w ∨ overflowChecks = false then .ok (wrappingFromNum number)
  else .error .arithmetic

/-- Division, unless the divisor is zero or the quotient does not fit. -/
def checkedDiv (dividend divisor : FixedPoint w f) : Option (FixedPoint w f) :=
  let quotient := dividend.bits.toNat * 2 ^ f / divisor.bits.toNat
  if divisor.bits.toNat = 0 then none
  else if quotient < 2 ^ w then some ⟨BitVec.ofNat w quotient⟩
  else none

/-- Multiplication, held at the greatest number. -/
def saturatingMul (first second : FixedPoint w f) : FixedPoint w f :=
  let product := first.bits.toNat * second.bits.toNat / 2 ^ f
  if product < 2 ^ w then ⟨BitVec.ofNat w product⟩ else max

/-- The integer part. -/
def toNum (number : FixedPoint w f) : Nat :=
  number.bits.toNat / 2 ^ f

/-- Whether an integer exceeds the greatest number. -/
def exceedsMax (w f number : Nat) : Bool :=
  decide ((max : FixedPoint w f).bits.toNat < number * 2 ^ f)

/-- The range of the bits is the range of the integer part times that of the fraction. -/
theorem two_pow_split (h : f ≤ w) : 2 ^ w = 2 ^ (w - f) * 2 ^ f := by
  rw [← Nat.pow_add, Nat.sub_add_cancel h]

/-- Only an integer that does not exceed the range is below the greatest number. -/
theorem exceeds_max_eq_false (h : f ≤ w) {number : Nat} :
    exceedsMax w f number = false ↔ number < 2 ^ (w - f) := by
  have hpos : 0 < 2 ^ f := Nat.two_pow_pos f
  have hbits : (max : FixedPoint w f).bits.toNat = 2 ^ w - 1 := BitVec.toNat_allOnes
  rw [exceedsMax, decide_eq_false_iff_not, hbits, two_pow_split h]
  have hle : ¬ 2 ^ (w - f) * 2 ^ f - 1 < number * 2 ^ f ↔ number * 2 ^ f < 2 ^ (w - f) * 2 ^ f := by
    have : 0 < 2 ^ (w - f) * 2 ^ f := Nat.mul_pos (Nat.two_pow_pos _) hpos
    omega
  rw [hle]
  exact Nat.mul_lt_mul_right hpos

/-- A wrapped integer is the fixed-point number of its remainder. -/
theorem toNat_wrapping_from_num (h : f ≤ w) (number : Nat) :
    (wrappingFromNum number : FixedPoint w f).bits.toNat = number % 2 ^ (w - f) * 2 ^ f := by
  rw [wrappingFromNum, BitVec.toNat_ofNat, two_pow_split h, Nat.mul_mod_mul_right]

/-- The integer part of a quotient of integers is the quotient of their remainders. A division by
zero counts as zero on both sides. -/
theorem toNum_checkedDiv (h : f ≤ w) (dividend divisor : Nat) :
    (((wrappingFromNum dividend : FixedPoint w f).checkedDiv (wrappingFromNum divisor)).getD
        (wrappingFromNum 0)).toNum =
      dividend % 2 ^ (w - f) / (divisor % 2 ^ (w - f)) := by
  have hpos : 0 < 2 ^ f := Nat.two_pow_pos f
  set x := dividend % 2 ^ (w - f) with hx
  set a := divisor % 2 ^ (w - f) with ha
  have hzero : (wrappingFromNum 0 : FixedPoint w f).toNum = 0 := by
    simp [toNum, wrappingFromNum]
  unfold checkedDiv
  rw [toNat_wrapping_from_num h, toNat_wrapping_from_num h, ← hx, ← ha]
  by_cases hdivisor : a * 2 ^ f = 0
  · have : a = 0 := (Nat.mul_eq_zero.mp hdivisor).resolve_right hpos.ne'
    simp [hzero, this]
  · -- the quotient is at most the dividend, which fits
    have hquotient : x * 2 ^ f * 2 ^ f / (a * 2 ^ f) = x * 2 ^ f / a :=
      Nat.mul_div_mul_right _ _ hpos
    have hlt : x * 2 ^ f / a < 2 ^ w := by
      have hx : x < 2 ^ (w - f) := Nat.mod_lt _ (Nat.two_pow_pos _)
      rw [two_pow_split h]
      exact Nat.lt_of_le_of_lt (Nat.div_le_self _ _) (Nat.mul_lt_mul_of_pos_right hx hpos)
    simp only [hdivisor, if_false, hquotient, hlt, if_true, Option.getD_some]
    rw [toNum, BitVec.toNat_ofNat, Nat.mod_eq_of_lt hlt, Nat.div_div_eq_div_mul,
      Nat.mul_div_mul_right _ _ hpos]

/-- The integer part of a product of integers is the product of their remainders, held at the
greatest integer. -/
theorem toNum_saturatingMul (h : f ≤ w) (first second : Nat) :
    ((wrappingFromNum first : FixedPoint w f).saturatingMul (wrappingFromNum second)).toNum =
      min (first % 2 ^ (w - f) * (second % 2 ^ (w - f))) (2 ^ (w - f) - 1) := by
  have hpos : 0 < 2 ^ f := Nat.two_pow_pos f
  set x := first % 2 ^ (w - f)
  set a := second % 2 ^ (w - f)
  have hproduct : x * 2 ^ f * (a * 2 ^ f) / 2 ^ f = x * a * 2 ^ f := by
    rw [← Nat.mul_assoc, Nat.mul_div_cancel _ hpos]
    ring
  unfold saturatingMul
  rw [toNat_wrapping_from_num h, toNat_wrapping_from_num h, hproduct]
  by_cases hfits : x * a < 2 ^ (w - f)
  · have hlt : x * a * 2 ^ f < 2 ^ w := by
      rw [two_pow_split h]
      exact Nat.mul_lt_mul_of_pos_right hfits hpos
    rw [if_pos hlt, toNum, BitVec.toNat_ofNat, Nat.mod_eq_of_lt hlt, Nat.mul_div_cancel _ hpos]
    omega
  · have hle : ¬ x * a * 2 ^ f < 2 ^ w := by
      rw [two_pow_split h, Nat.mul_lt_mul_right hpos]
      exact hfits
    rw [if_neg hle, toNum, max, BitVec.toNat_allOnes]
    have hmax : (2 ^ w - 1) / 2 ^ f = 2 ^ (w - f) - 1 := by
      obtain ⟨k, hk⟩ := Nat.exists_eq_add_of_lt (Nat.two_pow_pos (w - f))
      rw [two_pow_split h, hk]
      apply Nat.div_eq_of_lt_le
      · have hexpand : (0 + k + 1) * 2 ^ f = k * 2 ^ f + 2 ^ f := by ring
        rw [hexpand, Nat.zero_add, Nat.add_sub_cancel]
        omega
      · have hexpand : (0 + k + 1 - 1 + 1) * 2 ^ f = (0 + k + 1) * 2 ^ f := by
          rw [Nat.add_sub_cancel]
        have hprod : 0 < (0 + k + 1) * 2 ^ f := Nat.mul_pos (Nat.succ_pos _) hpos
        omega
    omega

end FixedPoint
