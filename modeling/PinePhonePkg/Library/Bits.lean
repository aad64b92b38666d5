/-
This file gives the words as sets of bits: what a test of some bits says, and
which bits are there after some are set or cleared.
-/

import Mathlib.Algebra.Ring.Nat
import Mathlib.Tactic.Common

namespace Library

variable {width : Nat} (word : BitVec width)

/-- A word has none of the bits of a mask exactly if each bit of the mask is missing. -/
theorem and_eq_zero_iff (mask : BitVec width) :
    word &&& mask = 0 ↔ ∀ place, mask.getLsbD place = true → word.getLsbD place = false := by
  constructor
  · intro none place inMask
    have bit := congrArg (fun bits => BitVec.getLsbD bits place) none
    simpa [BitVec.getLsbD_and, inMask] using bit
  · intro missing
    refine BitVec.eq_of_getLsbD_eq fun place inside => ?_
    rw [BitVec.getLsbD_and]
    cases inMask : mask.getLsbD place with
    | false => simp
    | true => simp [missing place inMask]

section OneBit

variable {place : Nat} (inside : place < width)
include inside

/-- The test of one bit. -/
theorem and_twoPow_ne_zero_iff :
    word &&& BitVec.twoPow width place ≠ 0 ↔ word.getLsbD place = true := by
  rw [Ne, and_eq_zero_iff]
  constructor
  · intro some
    by_contra missing
    refine some fun other inMask => ?_
    obtain rfl : place = other := by
      rw [BitVec.getLsbD_twoPow] at inMask
      simpa [inside] using inMask
    simpa using missing
  · intro has none
    have clear := none place (by rw [BitVec.getLsbD_twoPow]; simp [inside])
    rw [has] at clear
    exact absurd clear (by decide)

theorem getLsbD_or_twoPow (other : Nat) :
    (word ||| BitVec.twoPow width place).getLsbD other =
      (word.getLsbD other || decide (other = place)) := by
  rw [BitVec.getLsbD_or, BitVec.getLsbD_twoPow]
  by_cases same : other = place
  · simp [same, inside]
  · simp [same, Ne.symm same]

theorem getLsbD_and_not_twoPow (other : Nat) :
    (word &&& ~~~BitVec.twoPow width place).getLsbD other =
      (word.getLsbD other && !decide (other = place)) := by
  rw [BitVec.getLsbD_and, BitVec.getLsbD_not, BitVec.getLsbD_twoPow]
  by_cases behind : other < width
  · by_cases same : other = place
    · simp [same, inside]
    · simp [same, Ne.symm same, behind]
  · rw [BitVec.getLsbD_of_ge word other (by omega)]
    simp

end OneBit

/-! ### Fields as numbers -/

section Numbers

variable {place count : Nat}

/-- A mask of the lowest bits -/
theorem toNat_and_low {mask : BitVec width} (field : mask.toNat = 2 ^ count - 1) :
    (word &&& mask).toNat = word.toNat % 2 ^ count := by
  rw [BitVec.toNat_and, field, Nat.and_two_pow_sub_one_eq_mod]

/-- The lowest octet, with the others masked out before -/
theorem low_octet (word : BitVec 32) : (word &&& 0xff).setWidth 8 = word.setWidth 8 := by
  refine BitVec.eq_of_toNat_eq ?_
  have byte : (0xff : BitVec 32).toNat = 2 ^ 8 - 1 := rfl
  rw [BitVec.toNat_setWidth, BitVec.toNat_setWidth, toNat_and_low _ byte]
  exact Nat.mod_mod _ _

theorem toNat_and_le {mask : BitVec width} : (word &&& mask).toNat ≤ mask.toNat := by
  rw [BitVec.toNat_and]
  exact Nat.and_le_right

/-- A field is at most its mask, at the lowest place. -/
theorem toNat_and_shiftRight_le {mask : BitVec width} :
    ((word &&& mask) >>> place).toNat ≤ mask.toNat / 2 ^ place := by
  rw [BitVec.toNat_ushiftRight, Nat.shiftRight_eq_div_pow]
  exact Nat.div_le_div_right (toNat_and_le word)

/-- A mask of adjacent bits, then the shift to the right -/
theorem toNat_and_shiftRight {mask : BitVec width} (field : mask.toNat >>> place = 2 ^ count - 1) :
    ((word &&& mask) >>> place).toNat = word.toNat / 2 ^ place % 2 ^ count := by
  rw [BitVec.toNat_ushiftRight, BitVec.toNat_and, Nat.shiftRight_and_distrib, field,
    Nat.and_two_pow_sub_one_eq_mod, Nat.shiftRight_eq_div_pow]

/-- The shift to the right, then a mask of the lowest bits -/
theorem toNat_shiftRight_and {mask : BitVec width} (field : mask.toNat = 2 ^ count - 1) :
    (word >>> place &&& mask).toNat = word.toNat / 2 ^ place % 2 ^ count := by
  rw [BitVec.toNat_and, BitVec.toNat_ushiftRight, field, Nat.and_two_pow_sub_one_eq_mod,
    Nat.shiftRight_eq_div_pow]

/-- All but the lowest bits -/
theorem toNat_and_not_low {mask : BitVec width} (field : mask.toNat = 2 ^ count - 1) :
    (word &&& ~~~mask).toNat = word.toNat / 2 ^ count * 2 ^ count := by
  have cut : word &&& ~~~mask = word >>> count <<< count := by
    refine BitVec.eq_of_getLsbD_eq fun place inside => ?_
    have inMask : mask.getLsbD place = decide (place < count) := by
      rw [BitVec.getLsbD, field, Nat.testBit_two_pow_sub_one]
    rw [BitVec.getLsbD_and, BitVec.getLsbD_not, BitVec.getLsbD_shiftLeft,
      BitVec.getLsbD_ushiftRight, inMask]
    by_cases low : place < count
    · simp [low]
    · simp [low, inside, Nat.add_sub_cancel' (Nat.le_of_not_lt low)]
  rw [cut, BitVec.toNat_shiftLeft, BitVec.toNat_ushiftRight, Nat.shiftRight_eq_div_pow,
    Nat.shiftLeft_eq, Nat.mod_eq_of_lt]
  exact Nat.lt_of_le_of_lt (Nat.div_mul_le_self _ _) word.isLt

/-- Two parts that are put together -/
theorem toNat_shiftLeft_or {high low : BitVec width} (small : low.toNat < 2 ^ place)
    (fits : high.toNat * 2 ^ place < 2 ^ width) :
    (high <<< place ||| low).toNat = high.toNat * 2 ^ place + low.toNat := by
  rw [BitVec.toNat_or, BitVec.toNat_shiftLeft, Nat.shiftLeft_eq, Nat.mod_eq_of_lt fits,
    ← Nat.shiftLeft_eq, ← Nat.shiftLeft_add_eq_or_of_lt small]

end Numbers

/-! ### Fields that are replaced -/

section Replaced

variable {mask low set other : BitVec width} {place : Nat}

/-- A field of a mask that is replaced is read back from what it was replaced by, also when bits
beside it are set. -/
theorem shiftRight_and_replaced (inMask : low <<< place &&& ~~~mask = 0)
    (beside : low <<< place &&& other = 0) :
    (other ||| (word &&& ~~~mask ||| set)) >>> place &&& low = set >>> place &&& low := by
  refine BitVec.eq_of_getLsbD_eq fun bit inside => ?_
  have masked := (and_eq_zero_iff _ _).mp ((BitVec.and_comm _ _).trans inMask)
  have clear := (and_eq_zero_iff _ _).mp ((BitVec.and_comm _ _).trans beside)
  simp only [BitVec.getLsbD_and, BitVec.getLsbD_ushiftRight, BitVec.getLsbD_or]
  cases isLow : low.getLsbD bit with
  | false => rw [Bool.and_false, Bool.and_false]
  | true =>
    by_cases behind : place + bit < width
    · have shifted : (low <<< place).getLsbD (place + bit) = true := by
        rw [BitVec.getLsbD_shiftLeft, Nat.add_sub_cancel_left, isLow]
        simp [behind]
      rw [masked _ shifted, clear _ shifted]
      simp
    · simp [BitVec.getLsbD_of_ge _ _ (Nat.le_of_not_lt behind)]

/-- The bits beside a mask that is replaced stay. -/
theorem and_not_replaced (setInMask : set &&& ~~~mask = 0) (otherInMask : other &&& ~~~mask = 0) :
    (other ||| (word &&& ~~~mask ||| set)) &&& ~~~mask = word &&& ~~~mask := by
  rw [BitVec.and_or_distrib_right, BitVec.and_or_distrib_right, setInMask, otherInMask,
    BitVec.and_assoc, BitVec.and_self]
  simp

end Replaced

end Library
