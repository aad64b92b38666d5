/-
This file rounds a range of numbers to the groups it contains. The groups all
have one size and begin at its multiples; the members of the groups that lie
whole in a range form an interval, from the first multiple in the range to the
last.
-/

import Mathlib.Order.Interval.Set.Basic
import Mathlib.Tactic.Common

namespace Library

/-- The numbers whose group lies whole between `first` and `stop`. -/
def wholeGroups (size first stop : Nat) : Set Nat :=
  {item | first ≤ item / size * size ∧ item / size * size + size ≤ stop}

section

variable {size first stop low high : Nat}

/-- The members of a group are those between its start and the start of the next. -/
theorem lt_group_add (positive : 0 < size) (item : Nat) : item < item / size * size + size := by
  have split := Nat.div_add_mod' item size
  have rest := Nat.mod_lt item positive
  omega

/-- Two multiples less than a group apart are in order. -/
theorem multiple_le {before after : Nat} (one : size ∣ before) (other : size ∣ after)
    (near : before < after + size) : before ≤ after := by
  obtain ⟨count, rfl⟩ := one
  obtain ⟨bound, rfl⟩ := other
  rw [← Nat.mul_succ] at near
  exact Nat.mul_le_mul_left size (Nat.le_of_lt_succ (Nat.lt_of_mul_lt_mul_left near))

theorem wholeGroups_eq_Ico (positive : 0 < size) (lowMultiple : size ∣ low)
    (highMultiple : size ∣ high) (lowInside : first ≤ low) (lowNear : low < first + size)
    (highInside : high ≤ stop) (highNear : stop < high + size) :
    wholeGroups size first stop = Set.Ico low high := by
  ext item
  have group : size ∣ item / size * size := Nat.dvd_mul_left size (item / size)
  have groupLe := Nat.div_mul_le_self item size
  have groupEnd := lt_group_add positive item
  constructor
  · rintro ⟨starts, ends⟩
    have fromLow : low ≤ item / size * size := multiple_le lowMultiple group (by omega)
    have toHigh : item / size * size + size ≤ high :=
      multiple_le (Nat.dvd_add_self_right.mpr group) highMultiple (by omega)
    exact ⟨by omega, by omega⟩
  · rintro ⟨fromLow, toHigh⟩
    have starts : low ≤ item / size * size := multiple_le lowMultiple group (by omega)
    have ends : item / size * size + size ≤ high :=
      multiple_le (Nat.dvd_add_self_right.mpr group) highMultiple (by omega)
    exact ⟨by omega, by omega⟩

end

end Library
