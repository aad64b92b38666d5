/-
This file gives memories: functions from addresses to bytes, with the copy of
one buffer over part of another. A copy is known by what is read inside the
range it covers and outside it; two copies side by side are one longer copy.
-/

import Mathlib.Algebra.Ring.Nat
import Mathlib.Data.Nat.Notation
import Mathlib.Tactic.Common

namespace Library

/-- A memory of unbounded size; a buffer is the part of it below its length. -/
abbrev Memory (Byte : Type) : Type := Nat → Byte

namespace Memory

variable {Byte : Type}

/-- The first `length` bytes of `source` are copied to address `start`. -/
def overwrite (memory : Memory Byte) (start length : Nat) (source : Memory Byte) : Memory Byte :=
  fun address =>
    if start ≤ address ∧ address < start + length then source (address - start)
    else memory address

/-- The memory seen from an offset on. -/
def drop (memory : Memory Byte) (offset : Nat) : Memory Byte :=
  fun address => memory (offset + address)

/-- The first `length` bytes are the same. -/
def Agree (length : Nat) (first second : Memory Byte) : Prop :=
  ∀ address < length, first address = second address

instance [DecidableEq Byte] (length : Nat) (first second : Memory Byte) :
    Decidable (Agree length first second) :=
  inferInstanceAs (Decidable (∀ address < length, first address = second address))

/-! ### Reading what was copied -/

theorem overwrite_inside (memory : Memory Byte) (start length : Nat) (source : Memory Byte)
    (address : Nat) (inside : address < length) :
    overwrite memory start length source (start + address) = source address := by
  unfold overwrite
  rw [if_pos ⟨by omega, by omega⟩, Nat.add_sub_cancel_left]

theorem overwrite_outside (memory : Memory Byte) (start length : Nat) (source : Memory Byte)
    (address : Nat) (outside : address < start ∨ start + length ≤ address) :
    overwrite memory start length source address = memory address := by
  unfold overwrite
  rw [if_neg (by omega)]

theorem drop_drop (memory : Memory Byte) (first second : Nat) :
    drop (drop memory first) second = drop memory (first + second) := by
  funext address
  simp only [drop, Nat.add_assoc]

@[simp]
theorem drop_zero (memory : Memory Byte) : drop memory 0 = memory := by
  funext address
  simp only [drop, Nat.zero_add]

theorem agree_drop_overwrite (memory : Memory Byte) (start length : Nat) (source : Memory Byte) :
    Agree length (drop (overwrite memory start length source) start) source :=
  fun address inside => overwrite_inside memory start length source address inside

/-! ### Copies side by side -/

@[simp]
theorem overwrite_zero (memory : Memory Byte) (start : Nat) (source : Memory Byte) :
    overwrite memory start 0 source = memory := by
  funext address
  exact overwrite_outside memory start 0 source address (by omega)

theorem overwrite_append (memory : Memory Byte) (start first second : Nat)
    (source : Memory Byte) :
    overwrite (overwrite memory start first source) (start + first) second (drop source first) =
      overwrite memory start (first + second) source := by
  funext address
  unfold overwrite drop
  by_cases before : address < start + first
  · rw [if_neg (by omega)]
    by_cases reached : start ≤ address
    · rw [if_pos ⟨reached, before⟩, if_pos ⟨reached, by omega⟩]
    · rw [if_neg (by omega), if_neg (by omega)]
  · by_cases last : address < start + (first + second)
    · rw [if_pos ⟨by omega, by omega⟩, if_pos ⟨by omega, last⟩]
      congr 1
      omega
    · rw [if_neg (by omega), if_neg (by omega), if_neg (by omega)]

/-- Only the bytes that are copied matter. -/
theorem overwrite_congr (memory : Memory Byte) (start length : Nat) {first second : Memory Byte}
    (agree : Agree length first second) :
    overwrite memory start length first = overwrite memory start length second := by
  funext address
  unfold overwrite
  split
  · exact agree _ (by omega)
  · rfl

/-! ### Agreement -/

theorem Agree.symm {length : Nat} {first second : Memory Byte}
    (agree : Agree length first second) : Agree length second first :=
  fun address inside => (agree address inside).symm

theorem Agree.trans {length : Nat} {first second third : Memory Byte}
    (agree : Agree length first second) (next : Agree length second third) :
    Agree length first third :=
  fun address inside => (agree address inside).trans (next address inside)

theorem agree_add (first rest : Nat) (memory source : Memory Byte) :
    Agree (first + rest) memory source ↔
      Agree first memory source ∧ Agree rest (memory.drop first) (source.drop first) := by
  constructor
  · intro agree
    exact ⟨fun address inside => agree address (by omega),
      fun address inside => agree (first + address) (by omega)⟩
  · rintro ⟨before, after⟩ address inside
    by_cases low : address < first
    · exact before address low
    · obtain ⟨place, rfl⟩ := Nat.exists_eq_add_of_le (Nat.not_lt.mp low)
      exact after place (by omega)

theorem Agree.mono {length shorter : Nat} {first second : Memory Byte}
    (agree : Agree length first second) (shorterLe : shorter ≤ length) :
    Agree shorter first second :=
  fun address inside => agree address (Nat.lt_of_lt_of_le inside shorterLe)

end Memory

end Library
