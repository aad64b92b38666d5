/-
This file gives packs of strings as bytes: each string ends with a zero byte, and
an empty string ends the pack. A pack is read back from its bytes, and the two
zero bytes at its end are the first ones side by side. Bytes are put into a buffer
of a fixed size one piece behind the other.
-/

import Mathlib.Data.List.Basic
import Mathlib.Tactic.Common

namespace Library

/-! ### Packs -/

/-- A string that is not empty, by its characters in front of the zero byte. -/
structure PackString : Type where
  chars : List (BitVec 8)
  nonEmpty : chars ≠ []
  noZero : 0 ∉ chars

/-- The characters and the zero behind them -/
def PackString.bytes (string : PackString) : List (BitVec 8) := string.chars ++ [0]

theorem PackString.length_bytes (string : PackString) :
    string.bytes.length = string.chars.length + 1 := List.length_append

/-- The strings one after the other -/
def packBytes (strings : List PackString) : List (BitVec 8) := strings.flatMap PackString.bytes

@[simp]
theorem packBytes_cons (string : PackString) (strings : List PackString) :
    packBytes (string :: strings) = string.bytes ++ packBytes strings := List.flatMap_cons

/-- The strings up to an empty one, when some characters of the first are read already. -/
def readStrings : List (BitVec 8) → List (BitVec 8) → Option (List (List (BitVec 8)))
  | _, [] => none
  | current, byte :: rest =>
    if byte = 0 then
      if current = [] then some [] else (readStrings [] rest).map (current :: ·)
    else readStrings (current ++ [byte]) rest

/-- The place behind the first two zero bytes side by side -/
def pastDoubleZero : List (BitVec 8) → Option Nat
  | [] => none
  | [_] => none
  | first :: second :: rest =>
    if first = 0 ∧ second = 0 then some 2 else (pastDoubleZero (second :: rest)).map (· + 1)

/-! ### Reading a pack -/

theorem readStrings_chars {chars : List (BitVec 8)} (noZero : 0 ∉ chars)
    (current rest : List (BitVec 8)) :
    readStrings current (chars ++ rest) = readStrings (current ++ chars) rest := by
  induction chars generalizing current with
  | nil => rw [List.nil_append, List.append_nil]
  | cons char others inductionHypothesis =>
    obtain ⟨notZero, later⟩ := not_or.mp (mt List.mem_cons.mpr noZero)
    rw [List.cons_append, readStrings, if_neg (Ne.symm notZero), inductionHypothesis later,
      List.append_assoc, List.singleton_append]

theorem readStrings_string (string : PackString) (rest : List (BitVec 8)) :
    readStrings [] (string.bytes ++ rest) = (readStrings [] rest).map (string.chars :: ·) := by
  rw [PackString.bytes, List.append_assoc, readStrings_chars string.noZero, List.nil_append,
    List.singleton_append, readStrings, if_pos rfl, if_neg string.nonEmpty]

/-- The strings of a pack are read back, up to the empty string behind them. -/
theorem readStrings_pack (strings : List PackString) (rest : List (BitVec 8)) :
    readStrings [] (packBytes strings ++ 0 :: rest) = some (strings.map PackString.chars) := by
  induction strings with
  | nil => rfl
  | cons string others inductionHypothesis =>
    rw [packBytes_cons, List.append_assoc, readStrings_string, inductionHypothesis]
    rfl

/-! ### The end of a pack -/

theorem pastDoubleZero_cons {byte : BitVec 8} (notZero : byte ≠ 0) (rest : List (BitVec 8)) :
    pastDoubleZero (byte :: rest) = (pastDoubleZero rest).map (· + 1) := by
  cases rest with
  | nil => rfl
  | cons next others => exact if_neg fun both => notZero both.1

theorem pastDoubleZero_chars {chars : List (BitVec 8)} (noZero : 0 ∉ chars)
    (rest : List (BitVec 8)) :
    pastDoubleZero (chars ++ rest) = (pastDoubleZero rest).map (· + chars.length) := by
  induction chars with
  | nil => simp
  | cons char others inductionHypothesis =>
    obtain ⟨notZero, later⟩ := not_or.mp (mt List.mem_cons.mpr noZero)
    rw [List.cons_append, pastDoubleZero_cons (Ne.symm notZero), inductionHypothesis later,
      Option.map_map]
    rfl

/-- No two zero bytes are side by side before the empty string. -/
theorem pastDoubleZero_pack (string : PackString) (others : List PackString)
    (rest : List (BitVec 8)) :
    pastDoubleZero (packBytes (string :: others) ++ 0 :: rest) =
      some ((packBytes (string :: others)).length + 1) := by
  induction others generalizing string with
  | nil =>
    rw [packBytes_cons, PackString.bytes, List.append_assoc, List.append_assoc,
      pastDoubleZero_chars string.noZero]
    show Option.map _ (some 2) = _
    simp only [Option.map_some, packBytes, List.flatMap_nil, List.length_append,
      List.length_singleton, List.length_nil]
    congr 1
    omega
  | cons next others inductionHypothesis =>
    obtain ⟨char, chars, isChars⟩ := List.exists_cons_of_ne_nil next.nonEmpty
    have notZero : char ≠ 0 := fun isZero => next.noZero (by rw [isChars, isZero]; simp)
    have step (tail : List (BitVec 8)) :
        pastDoubleZero (0 :: (next.bytes ++ tail)) =
          (pastDoubleZero (next.bytes ++ tail)).map (· + 1) := by
      rw [PackString.bytes, isChars]
      exact if_neg fun both => notZero both.2
    have whole := inductionHypothesis next
    rw [packBytes_cons, List.append_assoc] at whole
    rw [packBytes_cons, packBytes_cons, PackString.bytes, List.append_assoc, List.append_assoc,
      List.append_assoc, pastDoubleZero_chars string.noZero, List.singleton_append, step, whole]
    simp only [Option.map_some, List.length_append, List.length_singleton]
    congr 1
    omega

/-! ### Pieces put into a buffer -/

/-- Bytes are put at a place, if they fit. -/
def storeBytes (buffer : List (BitVec 8)) (start : Nat) (bytes : List (BitVec 8)) :
    Option (List (BitVec 8)) :=
  if start + bytes.length ≤ buffer.length then
    some (buffer.take start ++ bytes ++ buffer.drop (start + bytes.length))
  else none

theorem storeBytes_length {buffer : List (BitVec 8)} {start : Nat} {bytes : List (BitVec 8)}
    {stored : List (BitVec 8)} (found : storeBytes buffer start bytes = some stored) :
    start + bytes.length ≤ buffer.length ∧ stored.length = buffer.length := by
  unfold storeBytes at found
  split at found
  · rename_i fits
    refine ⟨fits, ?_⟩
    rw [← Option.some.inj found, List.length_append, List.length_append, List.length_take,
      List.length_drop]
    omega
  · exact absurd found (Option.some_ne_none _).symm

/-- A piece behind the pieces so far takes the place of as many zero bytes. -/
theorem storeBytes_next (front bytes : List (BitVec 8)) (room : Nat)
    (fits : bytes.length ≤ room) :
    storeBytes (front ++ List.replicate room 0) front.length bytes =
      some (front ++ bytes ++ List.replicate (room - bytes.length) 0) := by
  unfold storeBytes
  rw [if_pos (by rw [List.length_append, List.length_replicate]; omega), List.take_left,
    List.drop_append, List.drop_of_length_le (Nat.le_add_right _ _), List.nil_append,
    Nat.add_sub_cancel_left, List.drop_replicate]

end Library
