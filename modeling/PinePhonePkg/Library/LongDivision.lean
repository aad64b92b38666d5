/-
This file is about division by shifting and subtracting. The divisor is scaled by a
power of two and then halved down; wherever it still fits into the remainder it is
subtracted, and its power counts towards the quotient.
-/

import Mathlib.Algebra.Order.Group.Nat
import Mathlib.Tactic.Ring

namespace Library

namespace LongDivision

/-- One step, with the divisor scaled by a power: the remainder and the quotient so far -/
def step (divisor power : Nat) (state : Nat × Nat) : Nat × Nat :=
  if divisor * power ≤ state.1 then (state.1 - divisor * power, state.2 + power) else state

/-- The steps for the powers of two from the given one down -/
def steps (divisor : Nat) : Nat → Nat × Nat → Nat × Nat
  | 0, state => step divisor 1 state
  | count + 1, state => steps divisor count (step divisor (2 ^ (count + 1)) state)

section Division

variable {divisor power : Nat} (state : Nat × Nat)

/-- A step leaves the remainder modulo the divisor, and what the quotient will be. -/
theorem step_spec (power : Nat) (positive : 0 < divisor) :
    (step divisor power state).1 % divisor = state.1 % divisor ∧
      (step divisor power state).2 + (step divisor power state).1 / divisor =
        state.2 + state.1 / divisor := by
  unfold step
  by_cases fits : divisor * power ≤ state.1
  · rw [if_pos fits]
    obtain ⟨rest, isRest⟩ := Nat.exists_eq_add_of_le fits
    dsimp only
    rw [isRest, Nat.add_sub_cancel_left, Nat.mul_add_mod, Nat.mul_add_div positive]
    exact ⟨rfl, Nat.add_assoc _ _ _⟩
  · rw [if_neg fits]
    exact ⟨rfl, rfl⟩

/-- What fits less than twice does not fit after a step. -/
theorem step_lt (small : state.1 < 2 * (divisor * power)) :
    (step divisor power state).1 < divisor * power := by
  unfold step
  by_cases fits : divisor * power ≤ state.1
  · rw [if_pos fits]
    dsimp only
    omega
  · rw [if_neg fits]
    exact Nat.not_le.mp fits

/-- The steps end with the remainder and the quotient. -/
theorem steps_eq (positive : 0 < divisor) (count : Nat)
    (small : state.1 < 2 * (divisor * 2 ^ count)) :
    steps divisor count state = (state.1 % divisor, state.2 + state.1 / divisor) := by
  induction count generalizing state with
  | zero =>
    obtain ⟨remainder, quotient⟩ := step_spec state 1 positive
    have below : (step divisor 1 state).1 < divisor := by
      have stepped := step_lt state small
      rw [pow_zero, Nat.mul_one] at stepped
      exact stepped
    rw [Nat.mod_eq_of_lt below] at remainder
    rw [Nat.div_eq_of_lt below] at quotient
    exact Prod.ext remainder quotient
  | succ count inductionHypothesis =>
    obtain ⟨remainder, quotient⟩ := step_spec state (2 ^ (count + 1)) positive
    have doubled : divisor * 2 ^ (count + 1) = 2 * (divisor * 2 ^ count) := by ring
    have below : (step divisor (2 ^ (count + 1)) state).1 < 2 * (divisor * 2 ^ count) :=
      Nat.lt_of_lt_of_eq (step_lt state small) doubled
    unfold steps
    rw [inductionHypothesis _ below, remainder, quotient]

end Division

end LongDivision

end Library
