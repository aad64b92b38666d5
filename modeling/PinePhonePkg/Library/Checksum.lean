/-
This file gives additive checksums that stand inside the words they are over.
The place of the checksum counts as a fixed stamp, so storing the checksum does
not change it, and a change of any one other word does.
-/

import Mathlib.Algebra.BigOperators.Group.Finset.Piecewise
import Mathlib.Tactic.Abel

namespace Library.Checksum

variable {Word : Type} [AddCommGroup Word] (stamp : Word) (words : Nat → Word) (count place : Nat)

/-- The plain sum of the first words. -/
def total : Word := ∑ index ∈ Finset.range count, words index

/-- The sum with the word of one place taken out and the stamp put in. -/
def stamped : Word := total words count - words place + stamp

/-- The word of the place is the checksum. -/
def Sealed : Prop := stamped stamp words count place = words place

theorem total_succ : total words (count + 1) = total words count + words count :=
  Finset.sum_range_succ words count

variable {count place}

theorem total_update (inside : place < count) (value : Word) :
    total (Function.update words place value) count = total words count - words place + value := by
  unfold total
  rw [Finset.sum_update_of_mem (Finset.mem_range.mpr inside), Finset.sdiff_singleton_eq_erase,
    Finset.sum_erase_eq_sub (Finset.mem_range.mpr inside)]
  abel

/-- The checksum is the sum with the stamp in the place of the checksum. -/
theorem stamped_eq_total (inside : place < count) :
    stamped stamp words count place = total (Function.update words place stamp) count :=
  (total_update words inside stamp).symm

/-- What stands in the place of the checksum does not matter. -/
theorem stamped_update (inside : place < count) (value : Word) :
    stamped stamp (Function.update words place value) count place =
      stamped stamp words count place := by
  rw [stamped_eq_total stamp _ inside, stamped_eq_total stamp _ inside, Function.update_idem]

theorem sealed_stamped (inside : place < count) :
    Sealed stamp (Function.update words place (stamped stamp words count place)) count place := by
  rw [Sealed, stamped_update stamp words inside, Function.update_self]

/-- A change of another word is noticed. -/
theorem Sealed.not_update {stamp : Word} {words : Nat → Word}
    (holds : Sealed stamp words count place) {other : Nat} (inside : other < count)
    (apart : other ≠ place) {value : Word} (changed : value ≠ words other) :
    ¬Sealed stamp (Function.update words other value) count place := by
  intro unnoticed
  rw [Sealed, stamped] at holds
  rw [Sealed, stamped, total_update words inside,
    Function.update_of_ne (Ne.symm apart) value words] at unnoticed
  have same : total words count - words other + value = total words count :=
    sub_left_injective (add_right_cancel (unnoticed.trans holds.symm))
  refine changed ?_
  rw [sub_add_eq_add_sub, sub_eq_iff_eq_add] at same
  exact add_left_cancel same

end Library.Checksum
