/-
This file settles what the reader of the GUID partition table accepts, where it
reads and what its accessors answer. The accessors look entries up in a table;
they stay in the buffer when the size of the table, as a number, fits in it.
-/

import PinePhonePkg.Partition.Gpt

namespace PinePhonePkg

open Library

/-! ### Tables -/

/-- A table of partitions: the number and the size of its entries, and their bytes. -/
structure GptTable : Type where
  num : U32
  size : U32
  entries : Buffer

namespace GptTable

variable (table : GptTable)

/-- The first sector of an entry -/
def starting (index : Nat) : Ulong :=
  BitVec.ofNat 64 (Memory.word table.entries (index * table.size.toNat + 32) 8)

/-- The last sector of an entry -/
def ending (index : Nat) : Ulong :=
  BitVec.ofNat 64 (Memory.word table.entries (index * table.size.toNat + 40) 8)

/-- The first sector, in 32 bits -/
def offset (index : Nat) : U32 := (table.starting index).setWidth 32

/-- The sectors, in 32 bits -/
def sectors (index : Nat) : U32 := (table.ending index - table.starting index).setWidth 32

/-- The low bytes of the characters of a name, with the stack behind them. -/
def name (stack : Buffer) (index : Nat) : Buffer :=
  fun position =>
    if position < 36 then table.entries (index * table.size.toNat + 56 + 2 * position)
    else stack (position - 36)

/-- The bytes up to a zero byte, at most `left` of them. -/
def asciiStrn : Nat → Nat → List U8
  | 0, _ => []
  | left + 1, address =>
    if Memory.word table.entries address 1 = 0 then []
    else BitVec.ofNat 8 (Memory.word table.entries address 1) :: asciiStrn left (address + 1)

/-- The name of an entry as the accessor copies it, when it is short enough. -/
def copiedName (index : Nat) : Option (List U8) :=
  let name := table.asciiStrn 8 (index * table.size.toNat + 56)
  if name.length < 8 then some name else none

/-- The first entry with a name. -/
def find (partName : List U8) (stack : Buffer) : Option Nat :=
  (List.range table.num.toNat).find? fun index => asciiStrEq partName (table.name stack index)

/-- The entries are long enough, and all of them lie in the buffer. -/
structure Fits : Prop where
  entry : 128 ≤ table.size.toNat
  whole : table.num.toNat * table.size.toNat ≤ sunxiGptSize

variable {table}

theorem Fits.inside (fits : table.Fits) {index : Nat} (counted : index < table.num.toNat) :
    index * table.size.toNat + 128 ≤ sunxiGptSize := by
  have next : (index + 1) * table.size.toNat ≤ table.num.toNat * table.size.toNat :=
    Nat.mul_le_mul_right _ counted
  rw [Nat.add_mul, Nat.one_mul] at next
  have entry := fits.entry
  have whole := fits.whole
  omega

/-- There are at most 128 entries, so their number is not negative. -/
theorem Fits.num_le (fits : table.Fits) : table.num.toNat ≤ 128 := by
  by_contra many
  have product : 129 * 128 ≤ table.num.toNat * table.size.toNat :=
    Nat.mul_le_mul (by omega) fits.entry
  have whole : table.num.toNat * table.size.toNat ≤ 16384 := fits.whole
  omega

end GptTable

/-- The table that the state holds. -/
def GptState.table (state : GptState) : GptTable where
  num := state.gptPartNum
  size := state.gptPartSize
  entries := state.gptBuf

/-! ### The accessors as lookups -/

namespace GptState

variable {state : GptState}

theorem word_inside {address count : Nat} (inside : address + count ≤ sunxiGptSize) :
    state.word (address : Int) count = some (Memory.word state.gptBuf address count) := by
  unfold GptState.word
  rw [if_pos ⟨Int.natCast_nonneg _, by exact_mod_cast inside⟩]
  rfl

theorem Fits.inside (fits : state.table.Fits) {index : Nat}
    (counted : index < state.gptPartNum.toNat) :
    index * state.gptPartSize.toNat + 128 ≤ sunxiGptSize :=
  GptTable.Fits.inside fits counted

theorem entryAt_eq (fits : state.table.Fits) {index : U32} (counted : index < state.gptPartNum) :
    state.entryAt index = ((index.toNat * state.gptPartSize.toNat : Nat) : Int) := by
  have inside : index.toNat * state.gptPartSize.toNat + 128 ≤ 16384 := fits.inside counted
  unfold GptState.entryAt
  rw [BitVec.toNat_mul, Nat.mod_eq_of_lt (by omega)]

theorem entryAtCounter_eq (fits : state.table.Fits) {counter : Nat}
    (counted : counter < state.gptPartNum.toNat) :
    state.entryAtCounter counter = ((counter * state.gptPartSize.toNat : Nat) : Int) := by
  have inside : counter * state.gptPartSize.toNat + 128 ≤ 16384 := fits.inside counted
  have small : counter < 2 ^ 32 := Nat.lt_trans counted state.gptPartNum.isLt
  unfold GptState.entryAtCounter
  rw [BitVec.toInt_eq_toNat_of_lt, BitVec.toNat_mul, BitVec.toNat_ofNat, Nat.mod_eq_of_lt small,
    Nat.mod_eq_of_lt (by omega)]
  rw [BitVec.toNat_mul, BitVec.toNat_ofNat, Nat.mod_eq_of_lt small, Nat.mod_eq_of_lt (by omega)]
  omega

/-- A sector that an entry names. -/
theorem lba_inside {entry place : Nat} (inside : entry + 128 ≤ sunxiGptSize)
    (within : place + 8 ≤ 128) :
    (state.word ((entry : Int) + (place : Int)) 8).map (BitVec.ofNat 64) =
      some (BitVec.ofNat 64 (Memory.word state.gptBuf (entry + place) 8)) := by
  rw [← Int.natCast_add, word_inside (by omega), Option.map_some]

theorem entryOffset_eq (fits : state.table.Fits) {index : Nat}
    (counted : index < state.gptPartNum.toNat) :
    state.entryOffset ((index * state.gptPartSize.toNat : Nat) : Int) =
      some (state.table.offset index) := by
  have starts : state.startingLba _ = _ :=
    lba_inside (Fits.inside fits counted) (show 32 + 8 ≤ 128 by decide)
  unfold GptState.entryOffset
  rw [starts]
  rfl

theorem entrySize_eq (fits : state.table.Fits) {index : Nat}
    (counted : index < state.gptPartNum.toNat) :
    state.entrySize ((index * state.gptPartSize.toNat : Nat) : Int) =
      some (state.table.sectors index) := by
  unfold GptState.entrySize
  have inside := Fits.inside fits counted
  have starts : state.startingLba _ = _ := lba_inside inside (show 32 + 8 ≤ 128 by decide)
  have ends : state.endingLba _ = _ := lba_inside inside (show 40 + 8 ≤ 128 by decide)
  rw [starts, ends]
  rfl

theorem entryInfo_eq (fits : state.table.Fits) {index : Nat}
    (counted : index < state.gptPartNum.toNat) :
    state.entryInfo ((index * state.gptPartSize.toNat : Nat) : Int) =
      some (state.table.offset index, state.table.sectors index) := by
  unfold GptState.entryInfo
  rw [entryOffset_eq fits counted, entrySize_eq fits counted]
  rfl

theorem asciiStrn_succ {address : Int} {char : Nat} (read : state.word address 1 = some char)
    (left : Nat) :
    state.asciiStrn (left + 1) address =
      if char = 0 then some []
      else (state.asciiStrn left (address + 1)).map (BitVec.ofNat 8 char :: ·) := by
  simp only [GptState.asciiStrn, read]

theorem asciiStrn_eq {left address : Nat} (inside : address + left ≤ sunxiGptSize) :
    state.asciiStrn left (address : Int) = some (state.table.asciiStrn left address) := by
  induction left generalizing address with
  | zero => rfl
  | succ left inductionHypothesis =>
    have fits : address + 1 ≤ sunxiGptSize := by omega
    have next : (address + 1) + left ≤ sunxiGptSize := by omega
    have rest : state.asciiStrn left ((address : Int) + 1) = _ := inductionHypothesis next
    rw [asciiStrn_succ (word_inside fits), rest]
    by_cases zero : Memory.word state.gptBuf address 1 = 0
    · simp [GptTable.asciiStrn, GptState.table, zero]
    · simp [GptTable.asciiStrn, GptState.table, zero]

theorem copyName_eq (fits : state.table.Fits) {index : Nat}
    (counted : index < state.gptPartNum.toNat) :
    state.copyName ((index * state.gptPartSize.toNat : Nat) : Int) =
      some (state.table.copiedName index) := by
  have inside := Fits.inside fits counted
  have read : state.asciiStrn 8 (((index * state.gptPartSize.toNat : Nat) : Int) + 56) = _ :=
    asciiStrn_eq (show (index * state.gptPartSize.toNat + 56) + 8 ≤ sunxiGptSize by omega)
  unfold GptState.copyName
  rw [read]
  rfl

/-- An accessor by index answers from the table. -/
theorem byIndex_eq {Result : Type} {read : Int → Option Result} {lookup : Nat → Result}
    (status : state.gptStatus = true) (fits : state.table.Fits)
    (reads : ∀ index, index < state.gptPartNum.toNat →
      read ((index * state.gptPartSize.toNat : Nat) : Int) = some (lookup index)) (index : U32) :
    state.byIndex read index =
      some (if index < state.gptPartNum then some (lookup index.toNat) else none) := by
  unfold GptState.byIndex
  by_cases counted : index < state.gptPartNum
  · rw [if_neg, if_pos counted, entryAt_eq fits counted, reads index.toNat counted]
    · rfl
    · rintro (fails | beyond)
      · rw [status] at fails
        exact absurd fails Bool.false_ne_true
      · exact absurd counted (BitVec.not_lt.mpr beyond)
  · rw [if_pos (.inr (BitVec.not_lt.mp counted)), if_neg counted]

theorem findName_eq (fits : state.table.Fits) (partName : List U8) (stack : Buffer)
    {counter left : Nat} (whole : counter + left = state.gptPartNum.toNat) :
    state.findName partName stack counter left =
      some (((List.range' counter left).find? fun index =>
        asciiStrEq partName (state.table.name stack index)).map fun index =>
          ((index * state.gptPartSize.toNat : Nat) : Int)) := by
  induction left generalizing counter with
  | zero => rfl
  | succ left inductionHypothesis =>
    have counted : counter < state.gptPartNum.toNat := by omega
    have inside := fits.inside counted
    have read : state.tmpData ((counter * state.gptPartSize.toNat : Nat) : Int) stack =
        some (state.table.name stack counter) := by
      have bound : counter * state.gptPartSize.toNat + 128 ≤ sunxiGptSize := inside
      unfold GptState.tmpData
      rw [if_pos ⟨by omega, by exact_mod_cast bound⟩]
      rfl
    unfold GptState.findName
    rw [entryAtCounter_eq fits counted, read, List.range'_succ, List.find?_cons]
    dsimp only
    cases asciiStrEq partName (state.table.name stack counter) with
    | true => rfl
    | false =>
      rw [if_neg Bool.false_ne_true]
      exact inductionHypothesis (by omega)

/-- An accessor by name answers from the table. -/
theorem byName_eq {Result : Type} {read : Int → Option Result} {lookup : Nat → Result}
    (status : state.gptStatus = true) (fits : state.table.Fits)
    (reads : ∀ index, index < state.gptPartNum.toNat →
      read ((index * state.gptPartSize.toNat : Nat) : Int) = some (lookup index))
    (partName : List U8) (stack : Buffer) :
    state.byName read partName stack = some ((state.table.find partName stack).map lookup) := by
  have count : state.gptPartNum.toInt.toNat = state.gptPartNum.toNat := by
    have small : state.gptPartNum.toNat ≤ 128 := fits.num_le
    rw [BitVec.toInt_eq_toNat_of_lt (by omega)]
    rfl
  have found := findName_eq fits partName stack (Nat.zero_add state.gptPartNum.toNat)
  unfold GptState.byName
  have first : (List.range state.gptPartNum.toNat).find?
      (fun index => asciiStrEq partName (state.table.name stack index)) =
        state.table.find partName stack := rfl
  rw [status, if_neg (by decide), count, found, ← List.range_eq_range', first]
  cases position : state.table.find partName stack with
  | none => rfl
  | some index =>
    have counted : index < state.gptPartNum.toNat :=
      List.mem_range.mp (List.mem_of_find?_eq_some position)
    exact congrArg (Option.map some) (reads index counted)

/-! ### The accessors of a table that fits -/

section Answers

variable (status : state.gptStatus = true) (fits : state.table.Fits)

include status fits

theorem sunxiGptPartitionGetOffset_eq (index : U32) : state.sunxiGptPartitionGetOffset index =
    some (if index < state.gptPartNum then some (state.table.offset index.toNat) else none) :=
  byIndex_eq status fits (fun _ => entryOffset_eq fits) index

theorem sunxiGptPartitionGetSize_eq (index : U32) : state.sunxiGptPartitionGetSize index =
    some (if index < state.gptPartNum then some (state.table.sectors index.toNat) else none) :=
  byIndex_eq status fits (fun _ => entrySize_eq fits) index

theorem sunxiGptPartitionGetName_eq (index : U32) : state.sunxiGptPartitionGetName index =
    some (if index < state.gptPartNum then some (state.table.copiedName index.toNat) else none) :=
  byIndex_eq status fits (fun _ => copyName_eq fits) index

theorem sunxiGptPartitionGetOffsetByName_eq (partName : List U8) (stack : Buffer) :
    state.sunxiGptPartitionGetOffsetByName partName stack =
      some ((state.table.find partName stack).map state.table.offset) :=
  byName_eq status fits (fun _ => entryOffset_eq fits) partName stack

theorem sunxiGptPartitionGetSizeByName_eq (partName : List U8) (stack : Buffer) :
    state.sunxiGptPartitionGetSizeByName partName stack =
      some ((state.table.find partName stack).map state.table.sectors) :=
  byName_eq status fits (fun _ => entrySize_eq fits) partName stack

theorem sunxiGptPartitionGetInfoByName_eq (partName : List U8) (stack : Buffer) :
    state.sunxiGptPartitionGetInfoByName partName stack =
      some ((state.table.find partName stack).map
        fun index => (state.table.offset index, state.table.sectors index)) :=
  byName_eq status fits (fun _ => entryInfo_eq fits) partName stack

end Answers

end GptState

/-! ### Where the reader reads -/

/-- Every accessor stays in the buffer for the entries, for every index and every name. -/
structure GptState.AccessesInside (state : GptState) : Prop where
  offset (index : U32) : (state.sunxiGptPartitionGetOffset index).isSome
  size (index : U32) : (state.sunxiGptPartitionGetSize index).isSome
  name (index : U32) : (state.sunxiGptPartitionGetName index).isSome
  offsetByName (partName : List U8) (stack : Buffer) :
    (state.sunxiGptPartitionGetOffsetByName partName stack).isSome
  sizeByName (partName : List U8) (stack : Buffer) :
    (state.sunxiGptPartitionGetSizeByName partName stack).isSome
  infoByName (partName : List U8) (stack : Buffer) :
    (state.sunxiGptPartitionGetInfoByName partName stack).isSome

/-- The checksum, the transfer and, after a success, all accesses stay in their buffers. -/
def GptReaderSafe (state : GptState) (disk : GptDisk) (gptBuff : Buffer) (gptLen : U32) : Prop :=
  ∃ status next after,
    sunxiGptPartitionInitialize state disk gptBuff gptLen = some (status, next, after) ∧
      (status = .success → next.AccessesInside)

/-- The entries can be read, and their checksum is the one in the header. -/
def GptEntriesPass (disk : GptDisk) (header : Buffer) : Prop :=
  (disk (gptPartitionEntryLba header) (gptEntryBytes header)).1 = true ∧
    gptPartitionEntryArrayCrc32 header =
      sunxiCrc32 (disk (gptPartitionEntryLba header) (gptEntryBytes header)).2
        (gptEntryBytes header).toNat

theorem gptReadEntries_success_iff (state : GptState) (disk : GptDisk) (header : Buffer) :
    (gptReadEntries state disk header).1 = .success ↔ GptEntriesPass disk header := by
  have crc : sunxiCrc32 (Memory.overwrite state.gptBuf 0 (gptEntryBytes header).toNat
      (disk (gptPartitionEntryLba header) (gptEntryBytes header)).2) (gptEntryBytes header).toNat =
      sunxiCrc32 (disk (gptPartitionEntryLba header) (gptEntryBytes header)).2
        (gptEntryBytes header).toNat := by
    have agree := Memory.agree_drop_overwrite state.gptBuf 0 (gptEntryBytes header).toNat
      (disk (gptPartitionEntryLba header) (gptEntryBytes header)).2
    rw [Memory.drop_zero] at agree
    exact sunxiCrc32_congr agree
  unfold gptReadEntries GptEntriesPass
  dsimp only
  rw [crc]
  cases (disk (gptPartitionEntryLba header) (gptEntryBytes header)).1 with
  | false => simp
  | true => by_cases same : gptPartitionEntryArrayCrc32 header = sunxiCrc32 (disk
      (gptPartitionEntryLba header) (gptEntryBytes header)).2 (gptEntryBytes header).toNat <;>
      simp [same]

theorem gptReadEntries_state {state : GptState} {disk : GptDisk} {header : Buffer}
    (success : (gptReadEntries state disk header).1 = .success) :
    (gptReadEntries state disk header).2 = {
      gptBuf := Memory.overwrite state.gptBuf 0 (gptEntryBytes header).toNat
        (disk (gptPartitionEntryLba header) (gptEntryBytes header)).2
      gptStatus := true
      gptPartSize := gptSizeOfPartitionEntry header
      gptPartNum := gptNumberOfPartitionEntries header } := by
  unfold gptReadEntries at success ⊢
  dsimp only at success ⊢
  split at success
  · cases success
  · split at success
    · cases success
    · rename_i read same
      rw [if_neg read, if_neg same]

theorem gptHeaderPasses_iff (header : Buffer) :
    gptHeaderPasses header = true ↔ gptSignature header = efiPtabHeaderId ∧
      gptHeaderCrc32 header = gptHeaderCheck header ∧
      128 ≤ (gptSizeOfPartitionEntry header).toNat := by
  unfold gptHeaderPasses
  rw [Bool.and_eq_true, Bool.and_eq_true, beq_iff_eq, beq_iff_eq, and_assoc,
    Bool.not_eq_true', decide_eq_false_iff_not, BitVec.not_lt]
  rfl

theorem GptState.accessesInside_of_fits {state : GptState} (status : state.gptStatus = true)
    (fits : state.table.Fits) : state.AccessesInside where
  offset index := by
    rw [GptState.sunxiGptPartitionGetOffset_eq status fits]
    rfl
  size index := by
    rw [GptState.sunxiGptPartitionGetSize_eq status fits]
    rfl
  name index := by
    rw [GptState.sunxiGptPartitionGetName_eq status fits]
    rfl
  offsetByName partName stack := by
    rw [GptState.sunxiGptPartitionGetOffsetByName_eq status fits]
    rfl
  sizeByName partName stack := by
    rw [GptState.sunxiGptPartitionGetSizeByName_eq status fits]
    rfl
  infoByName partName stack := by
    rw [GptState.sunxiGptPartitionGetInfoByName_eq status fits]
    rfl

/-- Entries that do not fit are read outside the buffer for some index that is accepted. -/
theorem GptState.not_accessesInside {state : GptState} (status : state.gptStatus = true)
    (entry : 128 ≤ state.gptPartSize.toNat)
    (wraps : 2 ^ 32 ≤ state.gptPartNum.toNat * state.gptPartSize.toNat) :
    ¬ state.AccessesInside := by
  intro inside
  -- The first index whose entry starts behind the last place for a word.
  have quotient := Nat.div_add_mod 16344 state.gptPartSize.toNat
  have remainder : 16344 % state.gptPartSize.toNat < state.gptPartSize.toNat :=
    Nat.mod_lt _ (by omega)
  generalize 16344 / state.gptPartSize.toNat = index at quotient
  have size := state.gptPartSize.isLt
  have beyond : 16344 < (index + 1) * state.gptPartSize.toNat := by
    rw [Nat.add_mul, Nat.one_mul, Nat.mul_comm]
    omega
  have small : (index + 1) * state.gptPartSize.toNat < 2 ^ 32 := by
    rw [Nat.add_mul, Nat.one_mul, Nat.mul_comm]
    rcases Nat.lt_or_ge 16344 state.gptPartSize.toNat with large | fits
    · have zero : index = 0 := by
        rcases Nat.eq_zero_or_pos index with zero | positive
        · exact zero
        · have := Nat.le_mul_of_pos_right state.gptPartSize.toNat positive
          omega
      rw [zero, Nat.mul_zero, Nat.zero_add]
      exact size
    · omega
  have counted : index + 1 < state.gptPartNum.toNat :=
    Nat.lt_of_mul_lt_mul_right (Nat.lt_of_lt_of_le small wraps)
  have narrow : index + 1 < 2 ^ 32 := Nat.lt_trans counted state.gptPartNum.isLt
  have access := inside.offset (BitVec.ofNat 32 (index + 1))
  have accepted : ¬ ((!state.gptStatus) = true ∨
      state.gptPartNum ≤ BitVec.ofNat 32 (index + 1)) := by
    rintro (fails | below)
    · rw [status] at fails
      exact absurd fails Bool.false_ne_true
    · have le : state.gptPartNum.toNat ≤ (BitVec.ofNat 32 (index + 1)).toNat := below
      rw [BitVec.toNat_ofNat, Nat.mod_eq_of_lt narrow] at le
      omega
  have address : state.entryAt (BitVec.ofNat 32 (index + 1)) =
      (((index + 1) * state.gptPartSize.toNat : Nat) : Int) := by
    unfold GptState.entryAt
    rw [BitVec.toNat_mul, BitVec.toNat_ofNat, Nat.mod_eq_of_lt narrow, Nat.mod_eq_of_lt small]
  unfold GptState.sunxiGptPartitionGetOffset GptState.byIndex at access
  rw [if_neg accepted, address] at access
  have outside : state.entryOffset (((index + 1) * state.gptPartSize.toNat : Nat) : Int) = none := by
    have far : ¬ ((0 : Int) ≤ (((index + 1) * state.gptPartSize.toNat : Nat) : Int) + 32 ∧
        (((index + 1) * state.gptPartSize.toNat : Nat) : Int) + 32 + (8 : Nat) ≤ sunxiGptSize) := by
      unfold sunxiGptSize
      omega
    unfold GptState.entryOffset GptState.startingLba GptState.word
    rw [if_neg far]
    rfl
  rw [outside] at access
  cases access

/-- The reader stays in its buffers if and only if the header is no longer than its buffer and,
once the header passes, the entries fit in theirs: the product as computed for the transfer, and
as a number when the entries pass too. -/
theorem gptReader_safe_iff (state : GptState) (disk : GptDisk) (gptBuff : Buffer) (gptLen : U32) :
    GptReaderSafe state disk gptBuff gptLen ↔
      gptHeaderSize gptBuff ≤ gptLen ∧
        (gptHeaderPasses gptBuff = true →
          (gptEntryBytes gptBuff).toNat ≤ sunxiGptSize ∧
            (GptEntriesPass disk gptBuff →
              (gptNumberOfPartitionEntries gptBuff).toNat *
                (gptSizeOfPartitionEntry gptBuff).toNat ≤ sunxiGptSize)) := by
  unfold GptReaderSafe sunxiGptPartitionInitialize
  by_cases long : gptLen < gptHeaderSize gptBuff
  · rw [if_pos long]
    exact ⟨fun ⟨_, _, _, done, _⟩ => (by cases done),
      fun fits => absurd long (BitVec.not_lt.mpr fits.1)⟩
  · rw [if_neg long]
    have short := BitVec.not_lt.mp long
    cases passes : gptHeaderPasses gptBuff with
    | false =>
      exact ⟨fun _ => ⟨short, fun absurd => (by cases absurd)⟩,
        fun _ => ⟨_, _, _, rfl, fun success => by cases success⟩⟩
    | true =>
      rw [if_neg (by decide)]
      by_cases large : sunxiGptSize < (gptEntryBytes gptBuff).toNat
      · rw [if_pos large]
        exact ⟨fun ⟨_, _, _, done, _⟩ => (by cases done),
          fun fits => absurd large (Nat.not_lt.mpr (fits.2 rfl).1)⟩
      · rw [if_neg large]
        have room := Nat.not_lt.mp large
        have entry := ((gptHeaderPasses_iff gptBuff).mp passes).2.2
        constructor
        · rintro ⟨status, next, after, done, inside⟩
          obtain ⟨rfl, rest⟩ := Prod.mk.inj (Option.some.inj done)
          obtain ⟨rfl, rfl⟩ := Prod.mk.inj rest
          refine ⟨short, fun _ => ⟨room, fun pass => ?_⟩⟩
          have success := (gptReadEntries_success_iff state disk gptBuff).mpr pass
          have accesses := inside success
          rw [gptReadEntries_state success] at accesses
          by_contra beyond
          refine GptState.not_accessesInside rfl entry ?_ accesses
          change 2 ^ 32 ≤ (gptNumberOfPartitionEntries gptBuff).toNat *
            (gptSizeOfPartitionEntry gptBuff).toNat
          by_contra narrow
          have product : (gptEntryBytes gptBuff).toNat =
              (gptNumberOfPartitionEntries gptBuff).toNat *
                (gptSizeOfPartitionEntry gptBuff).toNat := by
            unfold gptEntryBytes
            rw [BitVec.toNat_mul, Nat.mod_eq_of_lt (Nat.not_le.mp narrow)]
          exact beyond (product ▸ room)
        · rintro ⟨-, fits⟩
          refine ⟨_, _, _, rfl, fun success => ?_⟩
          have pass := (gptReadEntries_success_iff state disk gptBuff).mp success
          rw [gptReadEntries_state success]
          exact GptState.accessesInside_of_fits rfl ⟨entry, (fits rfl).2 pass⟩

/-- A header that is longer than the buffer it lies in. -/
def longHeader : Buffer :=
  Memory.setWord (fun _ => 0) 12 4 (0xffffffff#32).toNat

theorem gptReader_not_safe :
    ¬ ∀ state disk gptBuff gptLen, GptReaderSafe state disk gptBuff gptLen := by
  intro claim
  obtain ⟨_, _, _, done, -⟩ := claim
    { gptBuf := fun _ => 0, gptStatus := false, gptPartSize := 0, gptPartNum := 0 }
    (fun _ _ => (true, fun _ => 0)) longHeader 512
  have size : gptHeaderSize longHeader = 0xffffffff#32 := Memory.word_setWord_toNat _ 12 0xffffffff#32 rfl
  unfold sunxiGptPartitionInitialize at done
  rw [size, if_pos (by decide)] at done
  cases done

end PinePhonePkg
