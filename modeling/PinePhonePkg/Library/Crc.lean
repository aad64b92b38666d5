/-
This file gives the cyclic redundancy check of a bit string, with the bits of
the register reflected, and why it may be computed several bits at a time. A
shift of the register is linear in exclusive or, so the low bits of the register
can be shifted by themselves, and the rest of it only moves down. What the low
bits contribute depends on nothing else and may come from a table.
-/

import Mathlib.Logic.Function.Iterate
import Mathlib.Tactic.Common

namespace Library.Crc

variable {width : Nat} (polynomial : BitVec width)

/-- The register after a shift of one place. -/
def shift (register : BitVec width) : BitVec width :=
  if register.getLsbD 0 then (register >>> 1) ^^^ polynomial else register >>> 1

/-- The register after one bit of the message. -/
def feedBit (register : BitVec width) (bit : Bool) : BitVec width :=
  shift polynomial (register ^^^ (BitVec.ofBool bit).setWidth width)

/-- The register after a bit string. -/
def remainder (register : BitVec width) (message : List Bool) : BitVec width :=
  message.foldl (feedBit polynomial) register

/-- The bits of a word, from the lowest one. -/
def bitsOf {size : Nat} (word : BitVec size) : List Bool :=
  (List.range size).map word.getLsbD

/-! ### Shifts -/

theorem shift_xor (first second : BitVec width) :
    shift polynomial (first ^^^ second) = shift polynomial first ^^^ shift polynomial second := by
  refine BitVec.eq_of_getLsbD_eq fun place _ => ?_
  simp only [shift, BitVec.getLsbD_xor, BitVec.ushiftRight_xor_distrib]
  cases first.getLsbD 0 <;> cases second.getLsbD 0 <;>
    simp only [Bool.false_xor, Bool.true_xor, Bool.not_true, Bool.not_false, Bool.false_eq_true,
      if_true, if_false, BitVec.getLsbD_xor]
  all_goals
    cases (first >>> 1).getLsbD place <;> cases (second >>> 1).getLsbD place <;>
      cases polynomial.getLsbD place <;> rfl

theorem shift_iterate_xor (count : Nat) (first second : BitVec width) :
    (shift polynomial)^[count] (first ^^^ second) =
      (shift polynomial)^[count] first ^^^ (shift polynomial)^[count] second := by
  induction count with
  | zero => rfl
  | succ count inductionHypothesis =>
    simp only [Function.iterate_succ_apply', inductionHypothesis, shift_xor]

/-- Bits above those shifted out only move down. -/
theorem shift_iterate_of_low_clear {count : Nat} {register : BitVec width}
    (clear : ∀ place < count, register.getLsbD place = false) :
    (shift polynomial)^[count] register = register >>> count := by
  induction count with
  | zero => simp
  | succ count inductionHypothesis =>
    have lowest : (register >>> count).getLsbD 0 = false := by
      simpa using clear count (Nat.lt_succ_self count)
    rw [Function.iterate_succ_apply',
      inductionHypothesis fun place below => clear place (Nat.lt_succ_of_lt below), shift, lowest,
      BitVec.shiftRight_add]
    simp

/-- The low bits of a register. -/
def low (count : Nat) {size : Nat} (word : BitVec size) : BitVec width :=
  (word.setWidth count).setWidth width

theorem getLsbD_low (count : Nat) {size : Nat} (word : BitVec size) {place : Nat}
    (inside : place < width) :
    (low count word : BitVec width).getLsbD place =
      (decide (place < count) && word.getLsbD place) := by
  simp [low, inside]

/-- Some shifts of a register are those of its low bits, and the rest of it moved down. -/
theorem shift_iterate_split (count : Nat) (register : BitVec width) :
    (shift polynomial)^[count] register =
      (shift polynomial)^[count] (low count register) ^^^ (register >>> count) := by
  have apart : register = low count register ^^^ (register ^^^ low count register) := by
    rw [BitVec.xor_comm register, ← BitVec.xor_assoc, BitVec.xor_self, BitVec.zero_xor]
  have clear : ∀ place < count, (register ^^^ low count register).getLsbD place = false := by
    intro place below
    by_cases inside : place < width
    · rw [BitVec.getLsbD_xor, getLsbD_low count register inside, decide_eq_true below,
        Bool.true_and, Bool.xor_self]
    · exact BitVec.getLsbD_of_ge _ place (Nat.le_of_not_lt inside)
  have rest : (register ^^^ low count register) >>> count = register >>> count := by
    refine BitVec.eq_of_getLsbD_eq fun place _ => ?_
    rw [BitVec.getLsbD_ushiftRight, BitVec.getLsbD_ushiftRight, BitVec.getLsbD_xor]
    by_cases inside : count + place < width
    · have above : ¬count + place < count := by simp
      rw [getLsbD_low count register inside, decide_eq_false above, Bool.false_and, Bool.xor_false]
    · have outside := Nat.le_of_not_lt inside
      rw [BitVec.getLsbD_of_ge _ _ outside, BitVec.getLsbD_of_ge _ _ outside, Bool.xor_false]
  conv_lhs => rw [apart, shift_iterate_xor, shift_iterate_of_low_clear polynomial clear, rest]

/-! ### Whole words of the message -/

/-- The lowest bits of a word, fed one by one, may be added at once before the shifts. -/
theorem remainder_range {size : Nat} (register : BitVec width) (word : BitVec size) {count : Nat}
    (fits : count ≤ width) :
    remainder polynomial register ((List.range count).map word.getLsbD) =
      (shift polynomial)^[count] (register ^^^ low count word) := by
  induction count with
  | zero =>
    have none : (low 0 word : BitVec width) = 0 :=
      BitVec.eq_of_getLsbD_eq fun place inside => by simp [getLsbD_low 0 word inside]
    simp [remainder, none]
  | succ count inductionHypothesis =>
    -- The next bit enters at the bottom as if it had been at its own place from the start.
    have entered : (BitVec.ofBool (word.getLsbD count)).setWidth width =
        (shift polynomial)^[count]
          ((BitVec.ofBool (word.getLsbD count)).setWidth width <<< count) := by
      rw [shift_iterate_of_low_clear polynomial fun place below => by simp [below]]
      refine BitVec.eq_of_getLsbD_eq fun place inside => ?_
      by_cases lowest : place = 0
      · subst lowest
        simp [Nat.lt_of_succ_le fits, inside]
      · simp [BitVec.getLsbD_ofBool, lowest]
    have joined : (low (count + 1) word : BitVec width) =
        low count word ^^^ ((BitVec.ofBool (word.getLsbD count)).setWidth width <<< count) := by
      refine BitVec.eq_of_getLsbD_eq fun place inside => ?_
      rw [BitVec.getLsbD_xor, getLsbD_low _ word inside, getLsbD_low _ word inside,
        BitVec.getLsbD_shiftLeft, BitVec.getLsbD_setWidth, BitVec.getLsbD_ofBool]
      rcases Nat.lt_trichotomy place count with below | rfl | above
      · simp [below, Nat.lt_succ_of_lt below]
      · simp [Nat.lt_of_le_of_lt (Nat.zero_le place) inside, inside]
      · simp [Nat.not_lt_of_gt above, Nat.sub_ne_zero_of_lt above]
        omega
    have before := inductionHypothesis (Nat.le_of_succ_le fits)
    rw [remainder] at before
    rw [remainder, List.range_succ, List.map_append, List.foldl_append, before]
    simp only [List.map_cons, List.map_nil, List.foldl_cons, List.foldl_nil, feedBit]
    rw [entered, ← shift_iterate_xor, BitVec.xor_assoc, ← joined, Function.iterate_succ_apply']

/-- A word of the message is added to the register, and the register is shifted by its size. -/
theorem remainder_bitsOf {size : Nat} (register : BitVec width) (word : BitVec size)
    (fits : size ≤ width) :
    remainder polynomial register (bitsOf word) =
      (shift polynomial)^[size] (register ^^^ word.setWidth width) := by
  rw [bitsOf, remainder_range polynomial register word fits, low, BitVec.setWidth_eq]

/-- A word at a time: the shifts of the low bits come from a table, and the rest of the register
moves down. -/
theorem remainder_bitsOf_table {size : Nat} (register : BitVec width) (word : BitVec size)
    (fits : size ≤ width) :
    remainder polynomial register (bitsOf word) =
      (shift polynomial)^[size] (low size (register ^^^ word.setWidth width)) ^^^
        (register >>> size) := by
  rw [remainder_bitsOf polynomial register word fits, shift_iterate_split,
    BitVec.ushiftRight_xor_distrib]
  have gone : word.setWidth width >>> size = 0 := by
    refine BitVec.eq_of_getLsbD_eq fun place _ => ?_
    simp
  rw [gone]
  exact congrArg _ BitVec.xor_zero

end Library.Crc
