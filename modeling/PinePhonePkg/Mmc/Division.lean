/-
This file proves that the division of a 64 bit number by one of 32 bits is exact.
A first quotient is taken out of the upper half; then the divisor is doubled until
it has the sign bit or reaches the remainder, and halved again with subtractions.
-/

import PinePhonePkg.Library.LongDivision
import PinePhonePkg.Mmc.Types

namespace PinePhonePkg

open Library

/-! ### The loops -/

/-- A positive signed number is below the sign bit. -/
theorem slt_zero_iff (b : Ulong) : (0 : Ulong).slt b ↔ 0 < b.toNat ∧ b.toNat < 2 ^ 63 := by
  rw [BitVec.slt_iff_toInt_lt, BitVec.toInt_eq_toNat_cond b]
  have inside := b.isLt
  have none : (0 : Ulong).toInt = 0 := rfl
  rw [none]
  split <;> omega

theorem toNat_double {b : Ulong} (small : b.toNat < 2 ^ 63) : (b + b).toNat = 2 * b.toNat := by
  rw [BitVec.toNat_add_of_lt (by omega), Nat.two_mul]

theorem toNat_half (d : Ulong) : (d >>> 1).toNat = d.toNat / 2 := by
  rw [BitVec.toNat_ushiftRight, Nat.shiftRight_one]

/-- `while ((int64_t)b > 0 && b < rem)`: the divisor grows, so the loop ends. -/
def scaleUp (rem b d : Ulong) : Ulong × Ulong :=
  if (0 : Ulong).slt b ∧ b < rem then scaleUp rem (b + b) (d + d) else (b, d)
termination_by 2 ^ 64 - b.toNat
decreasing_by
  next goes =>
    obtain ⟨positive, small⟩ := (slt_zero_iff b).mp goes.1
    rw [toNat_double small]
    omega

/-- `do { } while (d)`: the power shrinks, so the loop ends. -/
def scaleDown (rem res b d : Ulong) : Ulong × Ulong :=
  let state := if rem ≥ b then (rem - b, res + d) else (rem, res)
  if d >>> 1 ≠ 0 then scaleDown state.1 state.2 (b >>> 1) (d >>> 1) else state
termination_by d.toNat
decreasing_by
  next goes =>
    have some : (d >>> 1).toNat ≠ 0 := fun isZero => goes (BitVec.eq_of_toNat_eq isZero)
    rw [toNat_half] at some ⊢
    omega

/-- `Reduce the thing a bit first`: the quotient so far, and what remains -/
def reduceFirst (n : Ulong) (base : U32) : Ulong × Ulong :=
  let high : U32 := (n >>> 32).setWidth 32
  if high ≥ base then
    ((high / base).setWidth 64 <<< 32, n - (high / base * base).setWidth 64 <<< 32)
  else (0, n)

/-- `div64_32`: the quotient that is stored, and the remainder -/
def div6432 (n : Ulong) (base : U32) : Ulong × U32 :=
  let (res, rem) := reduceFirst n base
  let (b, d) := scaleUp rem (base.setWidth 64) 1
  let (rem, res) := scaleDown rem res b d
  (res, rem.setWidth 32)

/-- `do_div` -/
def doDiv (n : Ulong) (base : U32) : Ulong × U32 :=
  if n >>> 32 = 0 then
    ((n.setWidth 32 / base).setWidth 64, n.setWidth 32 % base)
  else div6432 n base

/-- The quotient of a 64-bit division -/
def lldiv (dividend : Ulong) (divisor : U32) : Ulong := (doDiv dividend divisor).1

/-! ### What the loops do -/

/-- The divisor and the power are scaled until the remainder is less than twice the divisor. -/
theorem scaleUp_spec {base : Nat} (positive : 0 < base) (rem : Ulong) {b d : Ulong} {count : Nat}
    (isB : b.toNat = base * 2 ^ count) (isD : d.toNat = 2 ^ count) :
    ∃ reached, (scaleUp rem b d).1.toNat = base * 2 ^ reached ∧
      (scaleUp rem b d).2.toNat = 2 ^ reached ∧ rem.toNat < 2 * (base * 2 ^ reached) := by
  fun_induction scaleUp rem b d generalizing count with
  | case1 b d goes inductionHypothesis =>
    obtain ⟨-, small⟩ := (slt_zero_iff b).mp goes.1
    have smallD : d.toNat < 2 ^ 63 := by
      have atMost : 2 ^ count ≤ base * 2 ^ count := Nat.le_mul_of_pos_left _ positive
      omega
    have doubledB : (b + b).toNat = base * 2 ^ (count + 1) := by
      rw [toNat_double small, isB]
      ring
    have doubledD : (d + d).toNat = 2 ^ (count + 1) := by
      rw [toNat_double smallD, isD]
      ring
    exact inductionHypothesis doubledB doubledD
  | case2 b d stops =>
    refine ⟨count, isB, isD, ?_⟩
    rw [slt_zero_iff] at stops
    have some : 0 < b.toNat := isB ▸ Nat.mul_pos positive (Nat.two_pow_pos count)
    have inside := rem.isLt
    have reached : 2 ^ 63 ≤ b.toNat ∨ rem.toNat ≤ b.toNat := by
      by_contra neither
      obtain ⟨small, below⟩ := not_or.mp neither
      exact stops ⟨⟨some, Nat.not_le.mp small⟩, Nat.not_le.mp below⟩
    omega

/-- The body of the second loop is a step of the division. -/
theorem subtract_spec {base power : Nat} (positive : 0 < base) {rem res b d : Ulong}
    (isB : b.toNat = base * power) (isD : d.toNat = power)
    (fits : res.toNat + rem.toNat / base < 2 ^ 64) :
    let state := if rem ≥ b then (rem - b, res + d) else (rem, res)
    (state.1.toNat, state.2.toNat) = LongDivision.step base power (rem.toNat, res.toNat) := by
  unfold LongDivision.step
  dsimp only
  rw [← isB]
  by_cases reaches : b ≤ rem
  · have reachesNat : b.toNat ≤ rem.toNat := reaches
    have share : power ≤ rem.toNat / base := by
      rw [Nat.le_div_iff_mul_le positive, Nat.mul_comm, ← isB]
      exact reachesNat
    rw [if_pos reaches, if_pos reachesNat, BitVec.toNat_sub_of_le reaches,
      BitVec.toNat_add_of_lt (by omega), isD]
  · have shortNat : ¬b.toNat ≤ rem.toNat := reaches
    rw [if_neg reaches, if_neg shortNat]

theorem scaleDown_spec {base : Nat} (positive : 0 < base) (count : Nat) {rem res b d : Ulong}
    (isB : b.toNat = base * 2 ^ count) (isD : d.toNat = 2 ^ count)
    (fits : res.toNat + rem.toNat / base < 2 ^ 64) :
    ((scaleDown rem res b d).1.toNat, (scaleDown rem res b d).2.toNat) =
      LongDivision.steps base count (rem.toNat, res.toNat) := by
  induction count generalizing rem res b d with
  | zero =>
    have last : d >>> 1 = 0 := by
      refine BitVec.eq_of_toNat_eq ?_
      rw [toNat_half, isD]
      rfl
    have stepped := subtract_spec positive isB isD fits
    unfold scaleDown
    rw [if_neg (not_not.mpr last)]
    exact stepped
  | succ count inductionHypothesis =>
    have halvedD : (d >>> 1).toNat = 2 ^ count := by
      rw [toNat_half, isD, pow_succ, Nat.mul_div_cancel _ Nat.two_pos]
    have halvedB : (b >>> 1).toNat = base * 2 ^ count := by
      rw [toNat_half, isB, pow_succ, ← Nat.mul_assoc, Nat.mul_div_cancel _ Nat.two_pos]
    have more : d >>> 1 ≠ 0 := by
      intro isZero
      rw [isZero] at halvedD
      exact (Nat.two_pow_pos count).ne halvedD
    have stepped := subtract_spec positive isB isD fits
    have kept := (LongDivision.step_spec (rem.toNat, res.toNat) (2 ^ (count + 1)) positive).2
    rw [← stepped] at kept
    unfold scaleDown
    rw [if_pos more, inductionHypothesis halvedB halvedD (kept.trans_lt fits)]
    exact congrArg (LongDivision.steps base count) stepped

/-! ### The division -/

/-- A number of 32 bits as the upper half of one of 64 -/
theorem toNat_upper (half : U32) : ((half.setWidth 64 : Ulong) <<< 32).toNat = half.toNat * 2 ^ 32 := by
  have inside := half.isLt
  rw [BitVec.toNat_shiftLeft, BitVec.toNat_setWidth_of_le (by decide), Nat.shiftLeft_eq]
  exact Nat.mod_eq_of_lt (by omega)

/-- The upper half -/
theorem toNat_high (n : Ulong) : ((n >>> 32).setWidth 32 : U32).toNat = n.toNat / 2 ^ 32 := by
  have inside := n.isLt
  rw [BitVec.toNat_setWidth, BitVec.toNat_ushiftRight, Nat.shiftRight_eq_div_pow]
  exact Nat.mod_eq_of_lt (by omega)

theorem toNat_div_mul (high base : U32) :
    (high / base * base).toNat = high.toNat / base.toNat * base.toNat := by
  have atMost := Nat.div_mul_le_self high.toNat base.toNat
  have inside := high.isLt
  rw [BitVec.toNat_mul_of_lt, BitVec.toNat_udiv]
  rw [BitVec.toNat_udiv]
  omega

/-- What is taken out of the upper half first -/
theorem reduceFirst_spec (n : Ulong) {base : U32} (positive : 0 < base.toNat) :
    (reduceFirst n base).1.toNat + (reduceFirst n base).2.toNat / base.toNat =
        n.toNat / base.toNat ∧
      (reduceFirst n base).2.toNat % base.toNat = n.toNat % base.toNat := by
  unfold reduceFirst
  extract_lets high
  have isHigh : high.toNat = n.toNat / 2 ^ 32 := toNat_high n
  have product := toNat_div_mul high base
  by_cases reaches : high ≥ base
  · have taken : high.toNat / base.toNat * base.toNat * 2 ^ 32 ≤ n.toNat := by
      calc high.toNat / base.toNat * base.toNat * 2 ^ 32 ≤ high.toNat * 2 ^ 32 :=
            Nat.mul_le_mul_right _ (Nat.div_mul_le_self _ _)
        _ ≤ n.toNat := by
          rw [isHigh]
          exact Nat.div_mul_le_self _ _
    rw [if_pos reaches]
    dsimp only
    have isTaken : ((high / base * base).setWidth 64 <<< 32 : Ulong).toNat =
        base.toNat * (high.toNat / base.toNat * 2 ^ 32) := by
      rw [toNat_upper, product]
      ring
    have small : (high / base * base).setWidth 64 <<< 32 ≤ n := by
      show ((high / base * base).setWidth 64 <<< 32 : Ulong).toNat ≤ n.toNat
      rw [toNat_upper, product]
      exact taken
    obtain ⟨rest, isRest⟩ := Nat.exists_eq_add_of_le small
    rw [BitVec.toNat_sub_of_le small, isRest, Nat.add_sub_cancel_left, isTaken, toNat_upper,
      BitVec.toNat_udiv, Nat.mul_add_mod, Nat.mul_add_div positive]
    exact ⟨rfl, rfl⟩
  · rw [if_neg reaches]
    exact ⟨Nat.zero_add _, rfl⟩

/-- However far the divisor was scaled up, scaling it down gives the quotient and the remainder. -/
theorem scaleDown_eq (n : Ulong) {base : U32} (positive : 0 < base.toNat)
    {scaled : Ulong × Ulong}
    (scales : ∃ count, scaled.1.toNat = base.toNat * 2 ^ count ∧ scaled.2.toNat = 2 ^ count ∧
      (reduceFirst n base).2.toNat < 2 * (base.toNat * 2 ^ count)) :
    let ends := scaleDown (reduceFirst n base).2 (reduceFirst n base).1 scaled.1 scaled.2
    ends.2.toNat = n.toNat / base.toNat ∧
      (ends.1.setWidth 32 : U32).toNat = n.toNat % base.toNat := by
  obtain ⟨quotient, remainder⟩ := reduceFirst_spec n positive
  obtain ⟨count, scaledB, scaledD, small⟩ := scales
  have fits : (reduceFirst n base).1.toNat + (reduceFirst n base).2.toNat / base.toNat < 2 ^ 64 := by
    rw [quotient]
    exact (Nat.div_le_self _ _).trans_lt n.isLt
  have ends := scaleDown_spec positive count scaledB scaledD fits
  rw [LongDivision.steps_eq _ positive count small] at ends
  obtain ⟨isRem, isRes⟩ := Prod.mk.inj ends
  dsimp only at isRem isRes ⊢
  refine ⟨isRes.trans quotient, ?_⟩
  rw [BitVec.toNat_setWidth, isRem, remainder]
  exact Nat.mod_eq_of_lt ((Nat.mod_lt _ positive).trans base.isLt)

/-- The divisor before it is scaled -/
theorem toNat_unscaled (base : U32) :
    (base.setWidth 64 : Ulong).toNat = base.toNat * 2 ^ 0 ∧ (1 : Ulong).toNat = 2 ^ 0 :=
  ⟨(BitVec.toNat_setWidth_of_le (by decide)).trans (Nat.mul_one _).symm, rfl⟩

/-- The quotient that is stored and the remainder that is returned are exact. -/
theorem div6432_eq (n : Ulong) {base : U32} (positive : 0 < base.toNat) :
    (div6432 n base).1.toNat = n.toNat / base.toNat ∧
      (div6432 n base).2.toNat = n.toNat % base.toNat :=
  scaleDown_eq n positive
    (scaleUp_spec positive _ (toNat_unscaled base).1 (toNat_unscaled base).2)

theorem doDiv_eq (n : Ulong) {base : U32} (positive : 0 < base.toNat) :
    (doDiv n base).1.toNat = n.toNat / base.toNat ∧
      (doDiv n base).2.toNat = n.toNat % base.toNat := by
  unfold doDiv
  by_cases low : n >>> 32 = 0
  · have small : n.toNat < 2 ^ 32 := by
      have high := toNat_high n
      rw [low] at high
      have none : ((0 : Ulong).setWidth 32 : U32).toNat = 0 := rfl
      omega
    have isLow : (n.setWidth 32 : U32).toNat = n.toNat := by
      rw [BitVec.toNat_setWidth, Nat.mod_eq_of_lt small]
    rw [if_pos low]
    dsimp only
    rw [BitVec.toNat_setWidth_of_le (by decide), BitVec.toNat_udiv, BitVec.toNat_umod, isLow]
    exact ⟨rfl, rfl⟩
  · rw [if_neg low]
    exact div6432_eq n positive

/-- Both loops end, and the division is exact. -/
theorem div6432_exact (n : Ulong) (base : U32) (positive : 1 ≤ base.toNat) :
    n.toNat = (div6432 n base).1.toNat * base.toNat + (div6432 n base).2.toNat ∧
      (div6432 n base).2.toNat < base.toNat ∧
      (div6432 n base).1.toNat = n.toNat / base.toNat ∧
      (div6432 n base).2.toNat = n.toNat % base.toNat ∧
      (lldiv n base).toNat = n.toNat / base.toNat := by
  obtain ⟨quotient, remainder⟩ := div6432_eq n positive
  refine ⟨?_, ?_, quotient, remainder, (doDiv_eq n positive).1⟩
  · rw [quotient, remainder, Nat.mul_comm]
    exact (Nat.div_add_mod _ _).symm
  · rw [remainder]
    exact Nat.mod_lt _ positive

/-- A dividend and a divisor with their top bits set -/
theorem div6432_exact_top :
    (0xffffffffffffffff : Ulong).toNat =
        (div6432 0xffffffffffffffff 0x80000001).1.toNat * (0x80000001 : U32).toNat +
          (div6432 0xffffffffffffffff 0x80000001).2.toNat ∧
      (div6432 0xffffffffffffffff 0x80000001).2.toNat < (0x80000001 : U32).toNat ∧
      (div6432 0xffffffffffffffff 0x80000001).1.toNat = 8589934588 ∧
      (div6432 0xffffffffffffffff 0x80000001).2.toNat = 3 ∧
      (lldiv 0xffffffffffffffff 0x80000001).toNat = 8589934588 :=
  div6432_exact 0xffffffffffffffff 0x80000001 (by decide)

end PinePhonePkg
