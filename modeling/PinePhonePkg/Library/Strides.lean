/-
This file gives elements of one size at addresses a stride apart, where addresses
wrap around at a limit. All of them are inside of a range exactly if the first and
the last are, as numbers that do not wrap.
-/

import Mathlib.Tactic.Common
import Mathlib.Data.Nat.Notation

namespace Library

/-- Elements that are no more than their size apart leave a range below the limit only at its
end. -/
theorem strides_inside_iff {limit base stride size high : ℕ} (bound : high < limit)
    (address : base < limit) (near : stride ≤ size) (count low : ℕ) :
    (∀ index < count, low ≤ (base + index * stride) % limit ∧
        (base + index * stride) % limit + size ≤ high) ↔
      (count ≠ 0 → low ≤ base ∧ base + (count - 1) * stride + size ≤ high) := by
  constructor
  · intro inside some
    have reach (index : ℕ) (among : index < count) : base + index * stride + size ≤ high := by
      induction index with
      | zero =>
        have first := (inside 0 among).2
        rwa [Nat.zero_mul, Nat.add_zero, Nat.mod_eq_of_lt address, ← Nat.add_zero base,
          ← Nat.zero_mul stride] at first
      | succ index inductionHypothesis =>
        have before := inductionHypothesis (Nat.lt_of_succ_lt among)
        have here := (inside (index + 1) among).2
        rw [Nat.succ_mul] at here ⊢
        rwa [Nat.mod_eq_of_lt (by omega)] at here
    have first := (inside 0 (Nat.pos_of_ne_zero some)).1
    rw [Nat.zero_mul, Nat.add_zero, Nat.mod_eq_of_lt address] at first
    exact ⟨first, reach (count - 1) (by omega)⟩
  · intro ends index among
    obtain ⟨first, last⟩ := ends (by omega)
    have order : index * stride ≤ (count - 1) * stride := Nat.mul_le_mul_right _ (by omega)
    rw [Nat.mod_eq_of_lt (by omega)]
    omega

end Library
