/-
This file is about numbers of a few digits with some zeros behind them, such as the
dividers that two fields of a register can make. The greatest of them below a number
is found by halving it until the digits are enough.
-/

import Mathlib.Order.Bounds.Defs
import Mathlib.Tactic.Ring

namespace Library

/-- A number up to the limit, doubled fewer than `rounds` times -/
def Scaled (limit rounds value : Nat) : Prop :=
  ∃ mantissa exponent, 0 < mantissa ∧ mantissa ≤ limit ∧ exponent < rounds ∧
    value = mantissa * 2 ^ exponent

variable {limit rounds : Nat}

theorem Scaled.le {value : Nat} (scaled : Scaled limit rounds value) :
    value ≤ limit * 2 ^ (rounds - 1) := by
  obtain ⟨mantissa, exponent, -, small, inside, rfl⟩ := scaled
  exact Nat.mul_le_mul small (Nat.pow_le_pow_right Nat.two_pos (Nat.le_sub_one_of_lt inside))

theorem Scaled.pos {value : Nat} (scaled : Scaled limit rounds value) : 0 < value := by
  obtain ⟨mantissa, exponent, positive, -, -, rfl⟩ := scaled
  exact Nat.mul_pos positive (Nat.two_pow_pos exponent)

/-- Halving a number until it is within the limit gives the greatest scaled number below it. -/
theorem isGreatest_halved {value exponent : Nat} (some : 0 < value / 2 ^ exponent)
    (small : value / 2 ^ exponent ≤ limit) (inside : exponent < rounds)
    (first : ∀ fewer < exponent, limit < value / 2 ^ fewer) :
    IsGreatest {scaled | Scaled limit rounds scaled ∧ scaled ≤ value}
      (value / 2 ^ exponent * 2 ^ exponent) := by
  refine ⟨⟨⟨_, exponent, some, small, inside, rfl⟩, Nat.div_mul_le_self _ _⟩, ?_⟩
  rintro _ ⟨⟨mantissa, other, -, otherSmall, -, rfl⟩, below⟩
  rcases Nat.lt_or_ge other exponent with less | atLeast
  · -- one halving fewer was not enough
    obtain ⟨before, rfl⟩ : ∃ before, exponent = before + 1 :=
      Nat.exists_eq_succ_of_ne_zero (Nat.pos_iff_ne_zero.mp (Nat.zero_lt_of_lt less))
    have beyond := first before (Nat.lt_succ_self before)
    have half : limit ≤ value / 2 ^ (before + 1) * 2 := by
      rw [Nat.pow_succ, ← Nat.div_div_eq_div_mul]
      omega
    calc mantissa * 2 ^ other ≤ limit * 2 ^ before :=
          Nat.mul_le_mul otherSmall (Nat.pow_le_pow_right Nat.two_pos (Nat.le_of_lt_succ less))
      _ ≤ value / 2 ^ (before + 1) * 2 * 2 ^ before := Nat.mul_le_mul_right _ half
      _ = value / 2 ^ (before + 1) * 2 ^ (before + 1) := by ring
  · obtain ⟨more, rfl⟩ := Nat.exists_eq_add_of_le atLeast
    have multiple : mantissa * 2 ^ (exponent + more) = mantissa * 2 ^ more * 2 ^ exponent := by ring
    rw [multiple] at below ⊢
    exact Nat.mul_le_mul_right _ ((Nat.le_div_iff_mul_le (Nat.two_pow_pos exponent)).mpr below)

/-- Dividers between one and the greatest that gives the same quotient give that quotient. -/
theorem div_eq_of_between {source divider other : Nat} (atLeast : divider ≤ other)
    (positive : 0 < divider) (some : 0 < source / divider)
    (atMost : other ≤ source / (source / divider)) : source / other = source / divider := by
  refine Nat.le_antisymm (Nat.div_le_div_left atLeast positive) ?_
  rw [Nat.le_div_iff_mul_le (Nat.lt_of_lt_of_le positive atLeast), Nat.mul_comm]
  exact (Nat.le_div_iff_mul_le some).mp atMost

/-- A divider is not above the greatest with the same quotient. -/
theorem le_div_div {source divider : Nat} (some : 0 < source / divider) :
    divider ≤ source / (source / divider) := by
  rw [Nat.le_div_iff_mul_le some, Nat.mul_comm]
  exact Nat.div_mul_le_self source divider

end Library
