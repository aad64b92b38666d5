/-
This file shows that both copies of the checksum routine compute the reflected
cyclic redundancy check of their bytes. Each copy builds its table anew in a
local variable, whatever was there before, and then takes the message a byte at
a time. The definition takes it a bit at a time.
-/

import Mathlib.Data.List.FinRange
import PinePhonePkg.Library.Bits
import PinePhonePkg.Library.Crc
import PinePhonePkg.Partition.Mbr

namespace PinePhonePkg

open Library

/-! ### The definition -/

/-- The reflected check with initial value and final complement. -/
def crc32 (message : List U8) : U32 :=
  Crc.remainder 0xEDB88320#32 0xffffffff#32 (message.flatMap Crc.bitsOf) ^^^ 0xffffffff#32

/-! ### The routine -/

/-- `CRC32_DATA_t` -/
structure Crc32Data : Type where
  crc : U32
  tbl : Fin 256 → U32

namespace Crc32Data

/-- One turn of the loop that fills the table. -/
def fillEntry (data : Crc32Data) (index : Fin 256) : Crc32Data :=
  let crc := crc32Bit^[8] (BitVec.ofNat 32 index)
  { crc := crc, tbl := Function.update data.tbl index crc }

/-- The table of the 256 entries -/
def fill (data : Crc32Data) : Crc32Data :=
  (List.finRange 256).foldl fillEntry { data with crc := 0 }

/-- The loop over the bytes; the index into the table is masked. -/
def crc32Loop (data : Crc32Data) (buffer : Buffer) : Nat → Nat → U32 → U32
  | _, 0, crc => crc
  | index, left + 1, crc =>
    crc32Loop data buffer (index + 1) left
      (data.tbl (Fin.ofNat 256 ((crc ^^^ (buffer index).setWidth 32) &&& 0xff).toNat) ^^^
        (crc >>> 8))

end Crc32Data

/-- What both copies do, from what the local variable holds at first. -/
def crc32Routine (stack : Crc32Data) (buffer : Buffer) (length : Nat) : U32 :=
  stack.fill.crc32Loop buffer 0 length 0xffffffff#32 ^^^ 0xffffffff#32

/-- `calc_crc32` -/
def calcCrc32 (stack : Crc32Data) (buffer : Buffer) (length : Nat) : U32 :=
  crc32Routine stack buffer length

/-! ### The table -/

namespace Crc32Data

theorem foldl_fillEntry (data : Crc32Data) (entries : List (Fin 256)) (index : Fin 256) :
    (entries.foldl fillEntry data).tbl index =
      if index ∈ entries then crc32Tbl (BitVec.ofNat 32 index) else data.tbl index := by
  induction entries generalizing data with
  | nil => simp
  | cons entry rest inductionHypothesis =>
    rw [List.foldl_cons, inductionHypothesis]
    by_cases later : index ∈ rest
    · simp [later]
    · by_cases here : index = entry
      · subst here
        simp [later, fillEntry, crc32Tbl]
      · simp [later, here, fillEntry]

/-- After the loop the table holds nothing of what was there before. -/
theorem fill_tbl (data : Crc32Data) (index : Fin 256) :
    data.fill.tbl index = crc32Tbl (BitVec.ofNat 32 index) := by
  simp [fill, foldl_fillEntry]

theorem crc32Loop_fill (data : Crc32Data) (buffer : Buffer) (index left : Nat) (crc : U32) :
    data.fill.crc32Loop buffer index left crc = crc32Bytes buffer index left crc := by
  induction left generalizing index crc with
  | zero => rfl
  | succ left inductionHypothesis =>
    have masked : ((crc ^^^ (buffer index).setWidth 32) &&& 0xff).toNat < 256 :=
      Nat.lt_of_le_of_lt (toNat_and_le _) (by decide)
    unfold crc32Loop crc32Bytes
    rw [fill_tbl, Fin.val_ofNat, Nat.mod_eq_of_lt masked, BitVec.ofNat_toNat, BitVec.setWidth_eq]
    exact inductionHypothesis _ _

end Crc32Data

theorem sunxiCrc32_eq_crc32Routine (stack : Crc32Data) (buffer : Buffer) (length : Nat) :
    sunxiCrc32 buffer length = crc32Routine stack buffer length := by
  rw [sunxiCrc32, crc32Routine, Crc32Data.crc32Loop_fill]

/-! ### A byte at a time -/

theorem crc32Bit_eq_shift : crc32Bit = Crc.shift 0xEDB88320#32 := by
  funext crc
  have odd : crc &&& 1 = 1 ↔ crc.getLsbD 0 = true := by
    have lowest : crc &&& 1 = (BitVec.ofBool (crc.getLsbD 0)).setWidth 32 :=
      BitVec.and_one_eq_setWidth_ofBool_getLsbD
    rw [lowest]
    cases crc.getLsbD 0 <;> decide
  simp only [crc32Bit, Crc.shift, odd]

/-- One turn of the loop feeds the eight bits of a byte. -/
theorem crc32Tbl_xor (crc : U32) (byte : U8) :
    crc32Tbl ((crc ^^^ byte.setWidth 32) &&& 0xff) ^^^ (crc >>> 8) =
      Crc.remainder 0xEDB88320#32 crc (Crc.bitsOf byte) := by
  have masked : (crc ^^^ byte.setWidth 32) &&& 0xff = Crc.low 8 (crc ^^^ byte.setWidth 32) := by
    have field : ((crc ^^^ byte.setWidth 32) &&& 0xff).toNat =
        (crc ^^^ byte.setWidth 32).toNat % 2 ^ 8 := toNat_and_low _ (by decide)
    refine BitVec.eq_of_toNat_eq ?_
    rw [field, Crc.low, BitVec.toNat_setWidth, BitVec.toNat_setWidth]
    exact (Nat.mod_eq_of_lt
      ((Nat.mod_lt _ (Nat.two_pow_pos 8)).trans_le (Nat.pow_le_pow_right (by decide)
        (by decide)))).symm
  rw [Crc.remainder_bitsOf_table _ _ _ (by decide), masked, crc32Tbl, crc32Bit_eq_shift]

theorem crc32Bytes_eq_remainder (buffer : Buffer) (index left : Nat) (crc : U32) :
    crc32Bytes buffer index left crc =
      Crc.remainder 0xEDB88320#32 crc
        (((List.range' index left).map buffer).flatMap Crc.bitsOf) := by
  induction left generalizing index crc with
  | zero => rfl
  | succ left inductionHypothesis =>
    rw [crc32Bytes, inductionHypothesis, crc32Tbl_xor]
    simp only [Crc.remainder, List.range'_succ, List.map_cons, List.flatMap_cons, List.foldl_append]

/-- Both copies compute the check bit by bit, from any contents of their local variables. -/
theorem crc32_copies (stack : Crc32Data) (buffer : Buffer) (length : Nat) :
    sunxiCrc32 buffer length = crc32 ((List.range length).map buffer) ∧
      crc32Routine stack buffer length = crc32 ((List.range length).map buffer) ∧
      calcCrc32 stack buffer length = sunxiCrc32 buffer length := by
  have first : sunxiCrc32 buffer length = crc32 ((List.range length).map buffer) := by
    rw [sunxiCrc32, crc32, crc32Bytes_eq_remainder, List.range_eq_range']
  refine ⟨first, ?_, ?_⟩
  · rw [← sunxiCrc32_eq_crc32Routine, first]
  · rw [calcCrc32, ← sunxiCrc32_eq_crc32Routine]

/-- The check of the digits from 1 to 9 -/
example : crc32 ((List.range 9).map fun place => BitVec.ofNat 8 (0x31 + place)) = 0xCBF43926 := by
  decide +kernel

end PinePhonePkg
