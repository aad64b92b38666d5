/-
This file gives copies of rows, one after the other, from some places of a memory
to others. Where the rows that are written are apart from each other and from those
that are read, each of them is found as it was at its source before.
-/

import PinePhonePkg.Library.Memory

namespace Library

namespace Memory

variable {Byte : Type} {target source : Nat → Nat} {length rows : Nat}

/-- Rows of one length are copied in turn. -/
def copyRows (target source : Nat → Nat) (length : Nat) : Nat → Memory Byte → Memory Byte
  | 0, memory => memory
  | rows + 1, memory =>
    let copied := copyRows target source length rows memory
    copied.overwrite (target rows) length (copied.drop (source rows))

/-- No two of the runs that begin at these places meet. -/
def RowsApart (target source : Nat → Nat) (length rows : Nat) : Prop :=
  ∀ one < rows, ∀ other < rows,
    source one + length ≤ target other ∨ target other + length ≤ source one

/-- The runs do not meet, and come in order. -/
def RowsInOrder (target : Nat → Nat) (length rows : Nat) : Prop :=
  ∀ one other, one < other → other < rows → target one + length ≤ target other

theorem copyRows_outside (memory : Memory Byte) {address : Nat}
    (outside : ∀ row < rows, address < target row ∨ target row + length ≤ address) :
    copyRows target source length rows memory address = memory address := by
  induction rows with
  | zero => rfl
  | succ rows inductionHypothesis =>
    rw [copyRows, overwrite_outside _ _ _ _ _ (outside rows (Nat.lt_succ_self rows))]
    exact inductionHypothesis fun row reached => outside row (Nat.lt_succ_of_lt reached)

theorem copyRows_inside (memory : Memory Byte) (inOrder : RowsInOrder target length rows)
    (apart : RowsApart target source length rows) {row place : Nat} (reached : row < rows)
    (inside : place < length) :
    copyRows target source length rows memory (target row + place) =
      memory (source row + place) := by
  induction rows with
  | zero => exact absurd reached (Nat.not_lt_zero _)
  | succ rows inductionHypothesis =>
    rw [copyRows]
    by_cases last : row = rows
    · subst last
      rw [overwrite_inside _ _ _ _ _ inside, drop]
      refine copyRows_outside memory fun other before => ?_
      have away := apart row reached other (Nat.lt_succ_of_lt before)
      omega
    · have before : row < rows := Nat.lt_of_le_of_ne (Nat.le_of_lt_succ reached) last
      have order := inOrder row rows before (Nat.lt_succ_self rows)
      rw [overwrite_outside _ _ _ _ _ (.inl (by omega))]
      exact inductionHypothesis
        (fun one other less small => inOrder one other less (Nat.lt_succ_of_lt small))
        (fun one first other second =>
          apart one (Nat.lt_succ_of_lt first) other (Nat.lt_succ_of_lt second)) before

/-- Only the places of the rows that are copied matter. -/
theorem copyRows_congr (memory : Memory Byte) {target' source' : Nat → Nat}
    (same : ∀ row < rows, target row = target' row ∧ source row = source' row) :
    copyRows target source length rows memory = copyRows target' source' length rows memory := by
  induction rows with
  | zero => rfl
  | succ rows inductionHypothesis =>
    obtain ⟨targets, sources⟩ := same rows (Nat.lt_succ_self rows)
    rw [copyRows, copyRows, targets, sources,
      inductionHypothesis fun row reached => same row (Nat.lt_succ_of_lt reached)]

theorem copyRows_zero (memory : Memory Byte) :
    copyRows target source 0 rows memory = memory := by
  funext address
  exact copyRows_outside memory fun row _ => by omega

end Memory

end Library
