/-
This file is about the divider that brings a rate closest to one that is asked
for. The divided rate is reported in units; it does not exceed what was asked for
exactly in a window below the divided rate, and asking for what was reported
chooses the same divider again.
-/

import Mathlib.Algebra.Order.Group.Nat
import Mathlib.Tactic.Ring

namespace Library

/-- The divider that brings a source closest to a rate -/
def nearest (source rate : Nat) : Nat := (2 * source + rate) / (2 * rate)

section Dividers

variable {source rate divider unit : Nat}

theorem le_nearest_iff (positive : 0 < rate) :
    divider ≤ nearest source rate ↔ divider * (2 * rate) ≤ 2 * source + rate :=
  Nat.le_div_iff_mul_le (Nat.mul_pos Nat.two_pos positive)

theorem nearest_lt_iff (positive : 0 < rate) :
    nearest source rate < divider ↔ 2 * source + rate < divider * (2 * rate) :=
  Nat.div_lt_iff_lt_mul (Nat.mul_pos Nat.two_pos positive)

/-- The rate behind a divider, in whole units, does not exceed that of so many units. -/
theorem report_le_iff (positive : 0 < divider) (unitPositive : 0 < unit) (count : Nat) :
    source / divider / unit ≤ count ↔ source < divider * (unit * count + unit) := by
  rw [Nat.div_div_eq_div_mul, ← Nat.lt_succ_iff,
    Nat.div_lt_iff_lt_mul (Nat.mul_pos positive unitPositive), Nat.mul_comm, Nat.mul_assoc,
    Nat.mul_succ]

/-- A divider that does not leave more than the rate, up to a unit, is at least the nearest. -/
theorem nearest_le (positive : 0 < rate) (under : source < divider * (rate + unit))
    (small : 2 * (divider * unit) ≤ rate) : nearest source rate ≤ divider := by
  refine Nat.le_of_lt_succ ((nearest_lt_iff positive).mpr ?_)
  calc 2 * source + rate < 2 * (divider * (rate + unit)) + rate := by omega
    _ = divider * (2 * rate) + 2 * (divider * unit) + rate := by ring
    _ ≤ divider * (2 * rate) + rate + rate := by omega
    _ = (divider + 1) * (2 * rate) := by ring

/-- The window of the rates for which a divider is the nearest and leaves no more -/
theorem nearest_eq (positive : 0 < rate) (reaches : divider * (2 * rate) ≤ 2 * source + rate)
    (under : source < divider * (rate + unit)) (small : 2 * (divider * unit) ≤ rate) :
    nearest source rate = divider :=
  Nat.le_antisymm (nearest_le positive under small) ((le_nearest_iff positive).mpr reaches)

/-- What a divider leaves, in whole units, is nearest to that divider. -/
theorem nearest_report (positive : 0 < divider) (unitPositive : 0 < unit)
    (fine : (2 * divider + 1) * (divider * unit) ≤ source) :
    nearest source (unit * (source / divider / unit)) = divider := by
  obtain ⟨count, isCount⟩ : ∃ count, count = source / divider / unit := ⟨_, rfl⟩
  rw [Nat.div_div_eq_div_mul] at isCount ⊢
  rw [← isCount]
  have product : 0 < divider * unit := Nat.mul_pos positive unitPositive
  have low : count * (divider * unit) ≤ source := isCount ▸ Nat.div_mul_le_self _ _
  have high : source < count * (divider * unit) + divider * unit := by
    rw [isCount]
    exact Nat.lt_div_mul_add product
  have scaled : divider * (unit * count) = count * (divider * unit) := by ring
  have counts : 0 < unit * count := by
    refine Nat.mul_pos unitPositive (Nat.pos_of_ne_zero fun isZero => ?_)
    rw [isZero, Nat.zero_mul, Nat.zero_add] at high
    have more : divider * unit ≤ (2 * divider + 1) * (divider * unit) :=
      Nat.le_mul_of_pos_left _ (Nat.succ_pos _)
    omega
  refine Nat.le_antisymm (Nat.le_of_lt_succ ((nearest_lt_iff counts).mpr ?_))
    ((le_nearest_iff counts).mpr ?_)
  · -- the last unit that is cut off counts less than half a step of the divider
    refine Nat.lt_of_mul_lt_mul_left (a := divider) ?_
    calc divider * (2 * source + unit * count)
        = divider * (2 * source) + count * (divider * unit) := by rw [Nat.mul_add, scaled]
      _ < (2 * divider + 1) * (count * (divider * unit)) + count * (divider * unit) := by
        have step : (2 * divider + 1) * source <
            (2 * divider + 1) * (count * (divider * unit) + divider * unit) :=
          Nat.mul_lt_mul_of_pos_left high (Nat.succ_pos _)
        have split : (2 * divider + 1) * source = divider * (2 * source) + source := by ring
        have spread : (2 * divider + 1) * (count * (divider * unit) + divider * unit) =
            (2 * divider + 1) * (count * (divider * unit)) +
              (2 * divider + 1) * (divider * unit) := by ring
        omega
      _ = divider * ((divider + 1) * (2 * (unit * count))) := by rw [← scaled]; ring
  · calc divider * (2 * (unit * count)) = 2 * (count * (divider * unit)) := by
          rw [← scaled]; ring
      _ ≤ 2 * source + unit * count := by omega

end Dividers

end Library
