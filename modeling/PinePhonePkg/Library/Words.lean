/-
This file reads and writes little-endian words in a memory of bytes. A word
depends on its own bytes alone, so a write elsewhere is not seen.
-/

import PinePhonePkg.Library.Memory
import Mathlib.Algebra.Order.Ring.Nat
import Mathlib.Tactic.Ring

namespace Library

namespace Memory

/-- The number that `count` bytes give, the lowest byte first. -/
def word (memory : Memory (BitVec 8)) (address : Nat) : Nat → Nat
  | 0 => 0
  | count + 1 => (memory address).toNat + 256 * word memory (address + 1) count

/-- The low `count` bytes of `value` are written at an address. -/
def setWord (memory : Memory (BitVec 8)) (address count value : Nat) : Memory (BitVec 8) :=
  memory.overwrite address count fun index => BitVec.ofNat 8 (value / 256 ^ index)

theorem word_lt (memory : Memory (BitVec 8)) (address count : Nat) :
    word memory address count < 256 ^ count := by
  induction count generalizing address with
  | zero => exact Nat.one_pos
  | succ count inductionHypothesis =>
    have byte := (memory address).isLt
    have rest := inductionHypothesis (address + 1)
    rw [pow_succ]
    unfold word
    omega

theorem word_congr {first second : Memory (BitVec 8)} {address count : Nat}
    (same : ∀ index < count, first (address + index) = second (address + index)) :
    word first address count = word second address count := by
  induction count generalizing address with
  | zero => rfl
  | succ count inductionHypothesis =>
    have here : first address = second address := same 0 (Nat.succ_pos _)
    have rest : word first (address + 1) count = word second (address + 1) count := by
      refine inductionHypothesis fun index inside => ?_
      have next := same (index + 1) (Nat.succ_lt_succ inside)
      rw [Nat.add_assoc, Nat.add_comm 1]
      exact next
    unfold word
    rw [here, rest]

/-- A word seen from an offset on. -/
theorem word_drop (memory : Memory (BitVec 8)) (start address count : Nat) :
    word (drop memory start) address count = word memory (start + address) count := by
  induction count generalizing address with
  | zero => rfl
  | succ count inductionHypothesis =>
    unfold word
    rw [inductionHypothesis, Nat.add_assoc]
    rfl

/-- Memories that agree have the same words. -/
theorem Agree.word {first second : Memory (BitVec 8)} {length address count : Nat}
    (agree : Agree length first second) (inside : address + count ≤ length) :
    Memory.word first address count = Memory.word second address count :=
  word_congr fun index small => agree _ (by omega)

/-- The word that the bytes of a number give. -/
theorem word_bytes (value address count : Nat) {memory : Memory (BitVec 8)}
    (bytes : ∀ index < count, memory (address + index) = BitVec.ofNat 8 (value / 256 ^ index)) :
    word memory address count = value % 256 ^ count := by
  induction count generalizing address value with
  | zero => exact (Nat.mod_one value).symm
  | succ count inductionHypothesis =>
    have here : memory address = BitVec.ofNat 8 value := by
      have first := bytes 0 (Nat.succ_pos _)
      rwa [pow_zero, Nat.div_one] at first
    have rest : word memory (address + 1) count = value / 256 % 256 ^ count := by
      refine inductionHypothesis (value / 256) (address + 1) fun index inside => ?_
      have next := bytes (index + 1) (Nat.succ_lt_succ inside)
      rw [Nat.add_assoc, Nat.add_comm 1, Nat.div_div_eq_div_mul, ← Nat.pow_succ']
      exact next
    unfold word
    rw [here, rest, pow_succ, Nat.mul_comm (256 ^ count), Nat.mod_mul]
    rfl

/-- Reading what was written. -/
theorem word_setWord (memory : Memory (BitVec 8)) (address count value : Nat) :
    word (setWord memory address count value) address count = value % 256 ^ count :=
  word_bytes value address count fun index inside =>
    overwrite_inside memory address count _ index inside

/-- A word of as many bits as its bytes have, when it was written. -/
theorem word_setWord_toNat {width count : Nat} (memory : Memory (BitVec 8)) (address : Nat)
    (value : BitVec width) (whole : width = 8 * count) :
    BitVec.ofNat width (word (setWord memory address count value.toNat) address count) = value := by
  have bound : 2 ^ width = 256 ^ count := by rw [whole, Nat.pow_mul]
  refine BitVec.eq_of_toNat_eq ?_
  rw [BitVec.toNat_ofNat, word_setWord, bound, Nat.mod_mod, ← bound, Nat.mod_eq_of_lt value.isLt]

/-- A word is not changed by a write elsewhere. -/
theorem word_setWord_of_disjoint (memory : Memory (BitVec 8)) {address count value : Nat}
    {other length : Nat} (disjoint : other + length ≤ address ∨ address + count ≤ other) :
    word (setWord memory address count value) other length = word memory other length := by
  refine word_congr fun index inside => ?_
  exact overwrite_outside memory address count _ (other + index) (by omega)

/-- A word is not changed by a copy elsewhere. -/
theorem word_overwrite_of_disjoint (memory source : Memory (BitVec 8)) {start size : Nat}
    {other length : Nat} (disjoint : other + length ≤ start ∨ start + size ≤ other) :
    word (overwrite memory start size source) other length = word memory other length := by
  refine word_congr fun index inside => ?_
  exact overwrite_outside memory start size source (other + index) (by omega)

theorem setWord_outside (memory : Memory (BitVec 8)) {address count value : Nat} {other : Nat}
    (outside : other < address ∨ address + count ≤ other) :
    setWord memory address count value other = memory other :=
  overwrite_outside memory address count _ other outside

/-- The bytes of a word. -/
theorem word_byte (memory : Memory (BitVec 8)) (address : Nat) {count index : Nat}
    (inside : index < count) :
    BitVec.ofNat 8 (word memory address count / 256 ^ index) = memory (address + index) := by
  induction count generalizing address index with
  | zero => omega
  | succ count inductionHypothesis =>
    have byte := (memory address).isLt
    unfold word
    cases index with
    | zero =>
      rw [pow_zero, Nat.div_one]
      refine BitVec.eq_of_toNat_eq ?_
      rw [BitVec.toNat_ofNat]
      change _ = (memory address).toNat
      omega
    | succ index =>
      rw [Nat.pow_succ', ← Nat.div_div_eq_div_mul, Nat.add_mul_div_left _ _ (by decide),
        Nat.div_eq_of_lt byte, Nat.zero_add,
        inductionHypothesis (address + 1) (Nat.lt_of_succ_lt_succ inside)]
      congr 1
      omega

/-- The same word has the same bytes. -/
theorem bytes_of_word {first second : Memory (BitVec 8)} {address count : Nat}
    (same : word first address count = word second address count) {index : Nat}
    (inside : index < count) : first (address + index) = second (address + index) := by
  rw [← word_byte first address inside, same, word_byte second address inside]

/-- The same, for words that are read as numbers of their width. -/
theorem bytes_of_ofNat {first second : Memory (BitVec 8)} {address count : Nat}
    (same : BitVec.ofNat (8 * count) (word first address count) =
      BitVec.ofNat (8 * count) (word second address count)) {index : Nat}
    (inside : index < count) : first (address + index) = second (address + index) := by
  have width : 2 ^ (8 * count) = 256 ^ count := by rw [Nat.pow_mul]
  have values := congrArg BitVec.toNat same
  rw [BitVec.toNat_ofNat, BitVec.toNat_ofNat, width, Nat.mod_eq_of_lt (word_lt _ _ _),
    Nat.mod_eq_of_lt (word_lt _ _ _)] at values
  exact bytes_of_word values inside

/-- Writing back what was read. -/
theorem setWord_word (memory : Memory (BitVec 8)) (address count : Nat) :
    setWord memory address count (word memory address count) = memory := by
  funext other
  by_cases inside : address ≤ other ∧ other < address + count
  · obtain ⟨index, rfl⟩ := Nat.exists_eq_add_of_le inside.1
    have small : index < count := by omega
    exact (overwrite_inside memory address count _ index small).trans
      (word_byte memory address small)
  · exact setWord_outside memory (by omega)

/-- The last write of a word stands. -/
theorem setWord_setWord (memory : Memory (BitVec 8)) (address count first second : Nat) :
    setWord (setWord memory address count first) address count second =
      setWord memory address count second := by
  funext other
  unfold setWord overwrite
  split <;> rfl

end Memory

end Library
