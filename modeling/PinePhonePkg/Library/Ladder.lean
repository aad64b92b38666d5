/-
This file gives the ladders of values that a code selects. A device takes a code,
and its driver takes a value and rounds it down to a rung. Code and rung belong
together as the two sides of a Galois connection, from which the rest follows.
-/

import Mathlib.Data.Int.ConditionallyCompleteOrder
import Mathlib.Order.ConditionallyCompleteLattice.Basic
import Mathlib.Order.GaloisConnection.Basic
import Mathlib.Tactic.Common

namespace Library

/-! ### Rungs at one distance, and at two -/

section Slopes

variable {low step : Int} (positive : 0 < step)
include positive

/-- A code is one of a value exactly if its rung is not above the value. -/
theorem slope_galois :
    GaloisConnection (fun code : Int => low + step * code) fun value => (value - low) / step := by
  intro code value
  show low + step * code ≤ value ↔ _
  rw [Int.le_ediv_iff_mul_le positive, Int.mul_comm code]
  omega

variable {knee kneeCode coarse : Int} (coarsePositive : 0 < coarse)
  (bend : knee = low + step * kneeCode)
include coarsePositive bend

/-- The rungs may be further apart from the knee on. -/
theorem slopes_galois :
    GaloisConnection
      (fun code : Int =>
        if code > kneeCode then knee + coarse * (code - kneeCode) else low + step * code)
      fun value =>
        if value > knee then kneeCode + (value - knee) / coarse else (value - low) / step := by
  intro code value
  have fine : code ≤ (value - low) / step ↔ low + step * code ≤ value :=
    (slope_galois positive code value).symm
  have rough : code - kneeCode ≤ (value - knee) / coarse ↔
      knee + coarse * (code - kneeCode) ≤ value :=
    (slope_galois coarsePositive (code - kneeCode) value).symm
  dsimp only
  by_cases above : code > kneeCode
  · have higher : 0 < coarse * (code - kneeCode) := Int.mul_pos coarsePositive (by omega)
    rw [if_pos above]
    by_cases past : value > knee
    · rw [if_pos past, ← rough]
      omega
    · have fineKnee : step * kneeCode < step * code := Int.mul_lt_mul_of_pos_left above positive
      rw [if_neg past, fine]
      omega
  · have lower : step * code ≤ step * kneeCode :=
      Int.mul_le_mul_of_nonneg_left (by omega) (by omega)
    rw [if_neg above]
    by_cases past : value > knee
    · have forward : 0 ≤ (value - knee) / coarse := Int.ediv_nonneg (by omega) (by omega)
      rw [if_pos past]
      omega
    · rw [if_neg past, fine]

end Slopes

/-! ### What a driver that rounds down gets -/

section Rounding

variable {rung code : Int → Int} (ladder : GaloisConnection rung code)
include ladder

/-- The code of a value lies between those of the rungs around it. -/
theorem code_mem_Ico {first last value : Int} (above : rung first ≤ value)
    (below : value < rung last) : code value ∈ Set.Ico first last := by
  refine ⟨(ladder first value).mp above, ?_⟩
  by_contra beyond
  exact absurd ((ladder last value).mpr (not_lt.mp beyond)) (not_le.mpr below)

end Rounding

end Library
