/-
This file gives the strings that end with a zero byte in a memory, and compares
them with names. A place in memory holds one string.
-/

import Mathlib.Data.List.GetD
import PinePhonePkg.Library.Memory

namespace Library

/-- Whether a name, which has no zero byte, is the string at the start of a memory. -/
def asciiStrEq : List (BitVec 8) → Memory (BitVec 8) → Bool
  | [], memory => memory 0 == 0
  | char :: rest, memory => char == memory 0 && asciiStrEq rest (Memory.drop memory 1)

/-- The string at the start of a memory is the name. -/
def NameIs (memory : Memory (BitVec 8)) (name : List (BitVec 8)) : Prop :=
  (∀ index (inside : index < name.length), memory index = name[index]) ∧
    memory name.length = 0

theorem asciiStrEq_iff (name : List (BitVec 8)) (memory : Memory (BitVec 8)) :
    asciiStrEq name memory = true ↔ NameIs memory name := by
  induction name generalizing memory with
  | nil => simp [asciiStrEq, NameIs]
  | cons char rest inductionHypothesis =>
    have next := inductionHypothesis (Memory.drop memory 1)
    simp only [asciiStrEq, Bool.and_eq_true, beq_iff_eq, next]
    constructor
    · rintro ⟨here, there, ending⟩
      refine ⟨fun index inside => ?_, ?_⟩
      · cases index with
        | zero => exact here.symm
        | succ index =>
          have found := there index (Nat.lt_of_succ_lt_succ inside)
          unfold Memory.drop at found
          rwa [Nat.add_comm 1] at found
      · unfold Memory.drop at ending
        rwa [Nat.add_comm 1] at ending
    · rintro ⟨chars, ending⟩
      refine ⟨(chars 0 (Nat.succ_pos _)).symm, fun index inside => ?_, ?_⟩
      · unfold Memory.drop
        rw [Nat.add_comm 1]
        exact chars (index + 1) (Nat.succ_lt_succ inside)
      · unfold Memory.drop
        rw [Nat.add_comm 1]
        exact ending

variable {memory : Memory (BitVec 8)} {name : List (BitVec 8)}

/-- A string is not longer than another at the same place. -/
theorem NameIs.length_le {first second : List (BitVec 8)} (one : NameIs memory first)
    (other : NameIs memory second) (noZero : 0 ∉ second) :
    second.length ≤ first.length := by
  by_contra longer
  have inside : first.length < second.length := by omega
  have zero : second[first.length] = 0 := (other.1 _ inside).symm.trans one.2
  exact noZero (zero ▸ List.getElem_mem inside)

theorem NameIs.unique {first second : List (BitVec 8)} (one : NameIs memory first)
    (other : NameIs memory second) (firstNoZero : 0 ∉ first) (secondNoZero : 0 ∉ second) :
    first = second := by
  have shorter := one.length_le other secondNoZero
  have longer := other.length_le one firstNoZero
  refine List.ext_getElem (by omega) fun index inFirst inSecond => ?_
  rw [← one.1 index inFirst, ← other.1 index inSecond]

/-- A string that ends in a range is compared within it. -/
theorem asciiStrEq_congr {first second : Memory (BitVec 8)} {length : Nat} (noZero : 0 ∉ name)
    (agree : Memory.Agree length first second) (terminated : ∃ place < length, second place = 0) :
    asciiStrEq name first = asciiStrEq name second := by
  induction name generalizing first second length with
  | nil =>
    obtain ⟨place, inside, -⟩ := terminated
    unfold asciiStrEq
    rw [agree 0 (by omega)]
  | cons char rest inductionHypothesis =>
    obtain ⟨place, inside, ending⟩ := terminated
    unfold asciiStrEq
    rw [agree 0 (by omega)]
    by_cases same : char = second 0
    · have notHere : place ≠ 0 := by
        rintro rfl
        exact noZero (List.mem_cons.mpr (.inl (same.trans ending).symm))
      have later : ∃ next < length - 1, Memory.drop second 1 next = 0 := by
        refine ⟨place - 1, by omega, ?_⟩
        unfold Memory.drop
        rwa [Nat.add_sub_of_le (by omega)]
      have tails : Memory.Agree (length - 1) (Memory.drop first 1) (Memory.drop second 1) :=
        fun next small => agree (1 + next) (by omega)
      rw [inductionHypothesis (fun member => noZero (List.mem_cons_of_mem _ member)) tails later]
    · have different : (char == second 0) = false := beq_false_of_ne same
      rw [different, Bool.false_and, Bool.false_and]

/-- A string that ends in a range is shorter than it. -/
theorem NameIs.length_lt {length : Nat} (nameIs : NameIs memory name) (noZero : 0 ∉ name)
    (terminated : ∃ place < length, memory place = 0) : name.length < length := by
  obtain ⟨place, inside, ending⟩ := terminated
  by_contra longer
  have among : place < name.length := by omega
  have zero : name[place] = 0 := (nameIs.1 place among).symm.trans ending
  exact noZero (zero ▸ List.getElem_mem among)

theorem NameIs.congr {first second : Memory (BitVec 8)} {length : Nat} (nameIs : NameIs first name)
    (short : name.length < length) (agree : Memory.Agree length second first) :
    NameIs second name := by
  refine ⟨fun index inside => ?_, ?_⟩
  · rw [agree index (by omega)]
    exact nameIs.1 index inside
  · rw [agree name.length short]
    exact nameIs.2

/-- The characters in front of the zero byte, at most as many as are given. -/
def asciiChars : Nat → Memory (BitVec 8) → List (BitVec 8)
  | 0, _ => []
  | limit + 1, memory =>
    if memory 0 = 0 then [] else memory 0 :: asciiChars limit (Memory.drop memory 1)

theorem NameIs.rest {char : BitVec 8} (nameIs : NameIs memory (char :: name)) :
    NameIs (Memory.drop memory 1) name := by
  refine ⟨fun index inside => ?_, ?_⟩
  · unfold Memory.drop
    rw [Nat.add_comm 1]
    exact nameIs.1 (index + 1) (Nat.succ_lt_succ inside)
  · unfold Memory.drop
    rw [Nat.add_comm 1]
    exact nameIs.2

theorem NameIs.chars (nameIs : NameIs memory name) (noZero : 0 ∉ name) (limit : Nat) :
    asciiChars limit memory = name.take limit := by
  induction limit generalizing memory name with
  | zero => rfl
  | succ limit inductionHypothesis =>
    unfold asciiChars
    cases name with
    | nil => exact if_pos nameIs.2
    | cons char rest =>
      obtain ⟨notZero, others⟩ := not_or.mp (mt List.mem_cons.mpr noZero)
      have here : memory 0 = char := nameIs.1 0 (Nat.succ_pos _)
      rw [here, if_neg (Ne.symm notZero), inductionHypothesis nameIs.rest others]
      rfl

theorem asciiChars_noZero (limit : Nat) (memory : Memory (BitVec 8)) :
    0 ∉ asciiChars limit memory := by
  induction limit generalizing memory with
  | zero => exact List.not_mem_nil
  | succ limit inductionHypothesis =>
    unfold asciiChars
    split
    · exact List.not_mem_nil
    · rename_i notZero
      intro member
      rcases List.mem_cons.mp member with here | later
      · exact notZero here.symm
      · exact inductionHypothesis _ later

theorem asciiChars_length (limit : Nat) (memory : Memory (BitVec 8)) :
    (asciiChars limit memory).length ≤ limit := by
  induction limit generalizing memory with
  | zero => exact Nat.le_refl _
  | succ limit inductionHypothesis =>
    unfold asciiChars
    split
    · exact Nat.zero_le _
    · exact Nat.succ_le_succ (inductionHypothesis _)

/-- The characters that are read are those of the memory. -/
theorem asciiChars_getElem {limit index : Nat} (memory : Memory (BitVec 8))
    (inside : index < (asciiChars limit memory).length) :
    (asciiChars limit memory)[index] = memory index := by
  induction limit generalizing index memory with
  | zero => exact absurd inside (Nat.not_lt_zero _)
  | succ limit inductionHypothesis =>
    by_cases zero : memory 0 = 0
    · unfold asciiChars at inside
      rw [if_pos zero] at inside
      exact absurd inside (Nat.not_lt_zero _)
    · have read : asciiChars (limit + 1) memory =
          memory 0 :: asciiChars limit (Memory.drop memory 1) := if_neg zero
      simp only [read] at inside ⊢
      cases index with
      | zero => rfl
      | succ index =>
        rw [List.getElem_cons_succ, inductionHypothesis _ (Nat.lt_of_succ_lt_succ inside)]
        exact congrArg memory (Nat.add_comm 1 index)

/-- Fewer characters than the limit are read where they end with a zero byte. -/
theorem asciiChars_end {limit : Nat} (memory : Memory (BitVec 8))
    (short : (asciiChars limit memory).length < limit) :
    memory (asciiChars limit memory).length = 0 := by
  induction limit generalizing memory with
  | zero => exact absurd short (Nat.not_lt_zero _)
  | succ limit inductionHypothesis =>
    by_cases zero : memory 0 = 0
    · have read : asciiChars (limit + 1) memory = [] := if_pos zero
      rw [read]
      exact zero
    · have read : asciiChars (limit + 1) memory =
          memory 0 :: asciiChars limit (Memory.drop memory 1) := if_neg zero
      rw [read, List.length_cons] at short ⊢
      rw [Nat.add_comm]
      exact inductionHypothesis _ (Nat.lt_of_succ_lt_succ short)

theorem asciiChars_take {limit longer : Nat} (le : limit ≤ longer) (memory : Memory (BitVec 8)) :
    asciiChars limit memory = (asciiChars longer memory).take limit := by
  induction limit generalizing longer memory with
  | zero => exact List.take_zero.symm
  | succ limit inductionHypothesis =>
    obtain ⟨more, rfl⟩ : ∃ more, longer = more + 1 := ⟨longer - 1, by omega⟩
    unfold asciiChars
    split
    · rfl
    · rw [List.take_succ_cons, inductionHypothesis (Nat.le_of_succ_le_succ le)]

/-- A string is continued from its zero byte on. -/
theorem NameIs.append {first : List (BitVec 8)} (nameIs : NameIs memory first)
    (second : List (BitVec 8)) :
    NameIs (Memory.overwrite memory first.length (second.length + 1)
      fun place => second.getD place 0) (first ++ second) := by
  have read (place : Nat) (inside : place < second.length + 1) :=
    Memory.overwrite_inside memory first.length (second.length + 1)
      (fun place => second.getD place 0) place inside
  refine ⟨fun index inside => ?_, ?_⟩
  · rw [List.length_append] at inside
    by_cases before : index < first.length
    · rw [Memory.overwrite_outside _ _ _ _ _ (.inl before), List.getElem_append_left before]
      exact nameIs.1 index before
    · obtain ⟨place, rfl⟩ := Nat.exists_eq_add_of_le (Nat.le_of_not_lt before)
      rw [read place (by omega), List.getElem_append_right (Nat.le_add_right _ _)]
      simp only [Nat.add_sub_cancel_left]
      exact List.getD_eq_getElem _ _ (by omega)
  · rw [List.length_append, read second.length (by omega)]
    exact List.getD_eq_default _ _ (Nat.le_refl _)

/-- A string without its last character ends where that was. -/
theorem NameIs.cut {first : List (BitVec 8)} {last : BitVec 8}
    (nameIs : NameIs memory (first ++ [last])) :
    NameIs (Memory.overwrite memory first.length 1 fun _ => 0) first := by
  refine ⟨fun index inside => ?_, ?_⟩
  · rw [Memory.overwrite_outside _ _ _ _ _ (.inl inside),
      nameIs.1 index (by rw [List.length_append]; omega), List.getElem_append_left inside]
  · exact Memory.overwrite_inside memory first.length 1 (fun _ => 0) 0 Nat.one_pos

end Library
