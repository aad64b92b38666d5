/-
This file follows the chain of boot records that the writer leaves on a disk, as
another system would: a logical partition starts where the record that holds it
says, counted from that record, and a link counts from the start of the extended
partition. Every partition is found, but the last one runs past the end of the
disk.
-/

import PinePhonePkg.Partition.GptLayout
import PinePhonePkg.Partition.MbrChain

namespace PinePhonePkg

open Library

/-! ### Following a chain of boot records -/

/-- The first sector of a partition and its size. -/
structure DiskPartition : Type where
  start : Nat
  size : Nat
deriving DecidableEq

/-- The partitions have no sector in common. -/
def DiskPartition.Disjoint (one other : DiskPartition) : Prop :=
  one.start + one.size ≤ other.start ∨ other.start + other.size ≤ one.start

section Records

variable (sector : Buffer) (index : Nat)

/-- The type of a record's entry -/
def recordType : Nat := Memory.word sector (mbrRecord index + 4) 1

/-- The first sector of a record's entry -/
def recordStart : Nat := Memory.word sector (mbrRecord index + 8) 4

/-- The sectors of a record's entry -/
def recordSize : Nat := Memory.word sector (mbrRecord index + 12) 4

/-- The sector ends with the signature. -/
def recordSigned : Bool := Memory.word sector 510 2 == 0xaa55

end Records

section Chain

variable (disk : Buffer)

/-- The logical partitions from the record in a sector on; `none` when a record is not signed or
the chain is longer than `fuel`. -/
def followChain (extended : Nat) : Nat → Nat → Option (List DiskPartition)
  | 0, _ => none
  | fuel + 1, lba =>
    let sector := sectorAt disk lba
    let logical : DiskPartition := ⟨lba + recordStart sector 0, recordSize sector 0⟩
    if !recordSigned sector then none
    else if recordType sector 1 = 0x05 then
      (followChain extended fuel (extended + recordStart sector 1)).map (logical :: ·)
    else some [logical]

/-- The partitions of one record of the master record. -/
def readRecord (fuel index : Nat) : Option (List DiskPartition) :=
  let sector := sectorAt disk 0
  if recordType sector index = 0 then some []
  else if recordType sector index = 0x05 then
    followChain disk (recordStart sector index) fuel (recordStart sector index)
  else some [⟨recordStart sector index, recordSize sector index⟩]

/-- The partitions of a disk. -/
def readDisk (fuel : Nat) : Option (List DiskPartition) := do
  if !recordSigned (sectorAt disk 0) then none
  else
    let first ← readRecord disk fuel 0
    let second ← readRecord disk fuel 1
    let third ← readRecord disk fuel 2
    let fourth ← readRecord disk fuel 3
    return first ++ second ++ third ++ fourth

/-- More fuel gives the same. -/
theorem followChain_succ {extended fuel lba : Nat} {partitions : List DiskPartition}
    (found : followChain disk extended fuel lba = some partitions) :
    followChain disk extended (fuel + 1) lba = some partitions := by
  induction fuel generalizing lba partitions with
  | zero => cases found
  | succ fuel inductionHypothesis =>
    unfold followChain at found ⊢
    dsimp only at found ⊢
    by_cases unsigned : (!recordSigned (sectorAt disk lba)) = true
    · rw [if_pos unsigned] at found
      cases found
    · rw [if_neg unsigned] at found ⊢
      by_cases linked : recordType (sectorAt disk lba) 1 = 0x05
      · rw [if_pos linked] at found ⊢
        obtain ⟨rest, there, rfl⟩ := Option.map_eq_some_iff.mp found
        rw [inductionHypothesis there]
        rfl
      · rw [if_neg linked] at found ⊢
        exact found

theorem readRecord_succ {fuel index : Nat} {partitions : List DiskPartition}
    (found : readRecord disk fuel index = some partitions) :
    readRecord disk (fuel + 1) index = some partitions := by
  unfold readRecord at found ⊢
  dsimp only at found ⊢
  split
  · rename_i unused
    rwa [if_pos unused] at found
  · rename_i used
    rw [if_neg used] at found
    split
    · rename_i extended
      rw [if_pos extended] at found
      exact followChain_succ disk found
    · rename_i primary
      rwa [if_neg primary] at found

theorem readDisk_succ {fuel : Nat} {partitions : List DiskPartition}
    (found : readDisk disk fuel = some partitions) :
    readDisk disk (fuel + 1) = some partitions := by
  unfold readDisk at found ⊢
  by_cases unsigned : (!recordSigned (sectorAt disk 0)) = true
  · rw [if_pos unsigned] at found
    cases found
  · rw [if_neg unsigned] at found ⊢
    simp only [Option.bind_eq_bind, Option.bind_eq_some_iff] at found ⊢
    obtain ⟨first, one, second, two, third, three, fourth, four, all⟩ := found
    exact ⟨first, readRecord_succ disk one, second, readRecord_succ disk two,
      third, readRecord_succ disk three, fourth, readRecord_succ disk four, all⟩

/-- A disk has one list of partitions, whatever fuel it is read with. -/
theorem readDisk_unique {fuel other : Nat} {first second : List DiskPartition}
    (one : readDisk disk fuel = some first) (two : readDisk disk other = some second) :
    first = second := by
  have more {fuel : Nat} {partitions : List DiskPartition}
      (found : readDisk disk fuel = some partitions) (extra : Nat) :
      readDisk disk (fuel + extra) = some partitions := by
    induction extra with
    | zero => exact found
    | succ extra inductionHypothesis => exact readDisk_succ disk inductionHypothesis
  have left := more one other
  have right := more two fuel
  rw [Nat.add_comm] at right
  exact Option.some.inj (left.symm.trans right)

end Chain

/-- Sectors that agree have the same records. -/
theorem recordSigned_congr {first second : Buffer} (agree : Memory.Agree 512 first second) :
    recordSigned first = recordSigned second := by
  unfold recordSigned
  rw [agree.word (by decide)]

theorem record_congr {first second : Buffer} (agree : Memory.Agree 512 first second)
    {index : Nat} (small : index < 4) :
    recordType first index = recordType second index ∧
      recordStart first index = recordStart second index ∧
      recordSize first index = recordSize second index := by
  unfold recordType recordStart recordSize mbrRecord
  exact ⟨agree.word (by omega), agree.word (by omega), agree.word (by omega)⟩

/-! ### The records that are written -/

theorem setLba_eq (buffer : Buffer) (address : Nat) (value : Ulong) :
    setLba buffer address value = Memory.setWord buffer address 4 value.toNat := by
  have byte (index : Nat) : BitVec.ofNat 8 (getByte value index) =
      BitVec.ofNat 8 (value.toNat / 256 ^ index) := by
    have shifted := byte_shift (by decide) value (8 * index)
    rwa [Nat.pow_mul] at shifted
  funext other
  by_cases inside : address ≤ other ∧ other < address + 4
  · obtain ⟨index, rfl⟩ := Nat.exists_eq_add_of_le inside.1
    have written : Memory.setWord buffer address 4 value.toNat (address + index) =
        BitVec.ofNat 8 (value.toNat / 256 ^ index) :=
      Memory.overwrite_inside buffer address 4 _ index (by omega)
    have cases : index = 0 ∨ index = 1 ∨ index = 2 ∨ index = 3 := by omega
    rw [written, ← byte]
    unfold setLba
    rcases cases with rfl | rfl | rfl | rfl
    · rw [setByte_other _ _ (by omega), setByte_other _ _ (by omega),
        setByte_other _ _ (by omega)]
      exact setByte_same _ _ _
    · rw [setByte_other _ _ (by omega), setByte_other _ _ (by omega)]
      exact setByte_same _ _ _
    · rw [setByte_other _ _ (by omega)]
      exact setByte_same _ _ _
    · exact setByte_same _ _ _
  · unfold setLba
    rw [Memory.setWord_outside buffer (by omega), setByte_other _ _ (by omega),
      setByte_other _ _ (by omega), setByte_other _ _ (by omega), setByte_other _ _ (by omega)]

/-- The bytes of a record that follow its boot indicator, as it was set. -/
theorem setRecord_type (record : Buffer) (index : Nat) (osIndicator : Nat) (start size : Ulong) :
    recordType (setRecord record index osIndicator start size) index = osIndicator % 256 := by
  simp (disch := omega) only [recordType, setRecord, setLba_eq, setByte,
    Memory.word_setWord_of_disjoint, Memory.word_setWord, pow_one]

theorem setRecord_start (record : Buffer) (index : Nat) (osIndicator : Nat)
    (start size : Ulong) :
    recordStart (setRecord record index osIndicator start size) index =
      start.toNat % 2 ^ 32 := by
  simp (disch := omega) only [recordStart, setRecord, setLba_eq,
    Memory.word_setWord_of_disjoint, Memory.word_setWord]
  rfl

theorem setRecord_size (record : Buffer) (index : Nat) (osIndicator : Nat)
    (start size : Ulong) :
    recordSize (setRecord record index osIndicator start size) index = size.toNat % 2 ^ 32 := by
  simp (disch := omega) only [recordSize, setRecord, setLba_eq, Memory.word_setWord]
  rfl

/-- A record leaves the words outside it. -/
theorem word_setRecord (record : Buffer) {index : Nat} (osIndicator : Nat) (start size : Ulong)
    {address count : Nat}
    (outside : address + count ≤ mbrRecord index ∨ mbrRecord index + 16 ≤ address) :
    Memory.word (setRecord record index osIndicator start size) address count =
      Memory.word record address count := by
  simp (disch := omega) only [setRecord, setLba_eq, setByte, Memory.word_setWord_of_disjoint]

section Written

variable (mbr : SunxiMbr)

theorem word_signed (record : Buffer) {address count : Nat} (before : address + count ≤ 510) :
    Memory.word (Memory.setWord record 510 2 0xaa55) address count =
      Memory.word record address count :=
  Memory.word_setWord_of_disjoint record (.inl before)

theorem signed_setWord (record : Buffer) :
    recordSigned (Memory.setWord record 510 2 0xaa55) = true := by
  unfold recordSigned
  rw [Memory.word_setWord]
  rfl

/-- In front of the link, a record is that of its partition. -/
theorem word_extendedRecord (index : Nat) {address count : Nat}
    (before : address + count ≤ mbrRecord 1) :
    Memory.word (extendedRecord mbr index) address count =
      Memory.word (setRecord zeroPool 0 0x83 (logicalStart mbr index) (lengthInSectors mbr index))
        address count := by
  have unsigned : address + count ≤ 510 := Nat.le_trans before (by decide)
  unfold extendedRecord
  dsimp only
  rw [word_signed _ unsigned]
  split
  · exact word_setRecord _ _ _ _ (.inl before)
  · rfl

/-- All records but the last one have a link. -/
theorem extendedRecord_linked {index : Nat} (more : index ≠ (mbr.partCount - 2).toNat) :
    recordType (extendedRecord mbr index) 1 = 0x05 ∧
      recordStart (extendedRecord mbr index) 1 = (BitVec.ofNat 64 index).toNat % 2 ^ 32 := by
  unfold extendedRecord recordType recordStart
  dsimp only
  rw [if_pos more, word_signed _ (by decide), word_signed _ (by decide)]
  exact ⟨setRecord_type _ _ _ _ _, setRecord_start _ _ _ _ _⟩

theorem extendedRecord_last {index : Nat} (last : index = (mbr.partCount - 2).toNat) :
    recordType (extendedRecord mbr index) 1 = 0 := by
  unfold extendedRecord recordType
  dsimp only
  rw [if_neg (not_not_intro last), word_signed _ (by decide), word_setRecord _ _ _ _ (by decide),
    word_zeroPool]

/-- A word whose lowest byte was set. -/
theorem word_setByte_low (record : Buffer) (address count value : Nat) :
    Memory.word (setByte record address value) address (count + 1) =
      value % 256 + 256 * Memory.word record (address + 1) count := by
  have rest : Memory.word (setByte record address value) (address + 1) count =
      Memory.word record (address + 1) count :=
    Memory.word_setWord_of_disjoint record (.inr (Nat.le_refl _))
  rw [Memory.word, setByte_same, rest, BitVec.toNat_ofNat]

/-- The fields of the master record that are read. -/
structure MasterFields (lastBlock : Ulong) (sector : Buffer) : Prop where
  signed : recordSigned sector = true
  udiskType : recordType sector 0 = 0x0B
  udiskStart : recordStart sector 0 = (primaryStart mbr (mbr.partCount - 1).toNat).toNat % 2 ^ 32
  udiskSize : recordSize sector 0 = (unusedSectors mbr lastBlock).toNat % 2 ^ 32
  primaryType : recordType sector 1 = 0x06
  primaryStart : recordStart sector 1 = (primaryStart mbr 0).toNat % 2 ^ 32
  primarySize : recordSize sector 1 = (lengthInSectors mbr 0).toNat % 2 ^ 32
  extendedType : recordType sector 2 = 0x05
  extendedStart : recordStart sector 2 = 1
  unusedType : recordType sector 3 = 0

theorem masterRecord_fields (lastBlock : Ulong) :
    MasterFields mbr lastBlock (masterRecord mbr lastBlock) := by
  have outside (record : Buffer) {address place value count : Nat}
      (apart : place + count ≤ address ∨ address + 1 ≤ place) :
      Memory.word (setByte record address value) place count = Memory.word record place count :=
    Memory.word_setWord_of_disjoint record apart
  have outsideLba (record : Buffer) {address place count : Nat} {value : Ulong}
      (apart : place + count ≤ address ∨ address + 4 ≤ place) :
      Memory.word (setLba record address value) place count = Memory.word record place count := by
    rw [setLba_eq]
    exact Memory.word_setWord_of_disjoint record apart
  constructor
  · exact signed_setWord _
  · simp (disch := decide) only [masterRecord, recordType, word_signed, outsideLba, outside,
      word_setRecord]
    exact setRecord_type _ _ _ _ _
  · simp (disch := decide) only [masterRecord, recordStart, word_signed, outsideLba, outside,
      word_setRecord]
    exact setRecord_start _ _ _ _ _
  · simp (disch := decide) only [masterRecord, recordSize, word_signed, outsideLba, outside,
      word_setRecord]
    exact setRecord_size _ _ _ _ _
  · simp (disch := decide) only [masterRecord, recordType, word_signed, outsideLba, outside]
    exact setRecord_type _ _ _ _ _
  · simp (disch := decide) only [masterRecord, recordStart, word_signed, outsideLba, outside]
    exact setRecord_start _ _ _ _ _
  · simp (disch := decide) only [masterRecord, recordSize, word_signed, outsideLba, outside]
    exact setRecord_size _ _ _ _ _
  · simp (disch := decide) only [masterRecord, recordType, word_signed, outsideLba, outside]
    rw [word_setByte_low]
    rfl
  · simp (disch := decide) only [masterRecord, recordStart, word_signed, outsideLba]
    rw [word_setByte_low]
    simp (disch := decide) only [outside, word_setRecord, word_zeroPool]
  · simp (disch := decide) only [masterRecord, recordType, word_signed, outsideLba, outside,
      word_setRecord, word_zeroPool]

end Written

/-! ### The disk -/

section Disk

variable (mbr : SunxiMbr) (lastBlock : Ulong)

/-- The disk when no write fails. -/
def mbrDisk (disk : Buffer) : Buffer := (eMMCWriteMbr mbr lastBlock (fun _ => true) disk).2

theorem eMMCWriteMbr_eq (disk : Buffer) :
    eMMCWriteMbr mbr lastBlock (fun _ => true) disk =
      (true, Extent.writeAll disk ((mbrWrites mbr lastBlock).map BlockWrite.extent)) :=
  writeBlocks_eq _ 0 disk

/-- The partitions are in order, none is empty, and the disk has room for all of them. -/
structure MbrOrdered : Prop where
  least : 3 ≤ mbr.partCount.toNat
  most : mbr.partCount.toNat ≤ 120
  filled : ∀ index < mbr.partCount.toNat, 0 < (mbr.array index).lenlo.toNat
  ordered : ∀ first second, first < second → second < mbr.partCount.toNat →
    (mbr.array first).addrlo.toNat + (mbr.array first).lenlo.toNat ≤
      (mbr.array second).addrlo.toNat
  room : ∀ index < mbr.partCount.toNat, (mbr.array index).addrlo.toNat + mbrPartitionBase +
    (mbr.array index).lenlo.toNat ≤ lastBlock.toNat + 1

/-- A partition as the table has it; the last one has the rest of the disk. -/
def tablePartition (index : Nat) : DiskPartition where
  start := (mbr.array index).addrlo.toNat + mbrPartitionBase
  size :=
    if index + 1 = mbr.partCount.toNat then
      lastBlock.toNat + 1 - ((mbr.array index).addrlo.toNat + mbrPartitionBase)
    else (mbr.array index).lenlo.toNat

/-- What a chain should give: every partition of the table once, and none over another. -/
def MbrChainValid (disk : Buffer) : Prop :=
  ∃ fuel partitions, readDisk disk fuel = some partitions ∧
    partitions.Perm ((List.range mbr.partCount.toNat).map (tablePartition mbr lastBlock)) ∧
    partitions.Pairwise DiskPartition.Disjoint

/-- The logical partition of an extended record. -/
def chainPartition (index : Nat) : DiskPartition where
  start := index + (logicalStart mbr index).toNat % 2 ^ 32
  size := (lengthInSectors mbr index).toNat % 2 ^ 32

/-- The first partition, as the master record has it. -/
def firstPartition : DiskPartition where
  start := (primaryStart mbr 0).toNat % 2 ^ 32
  size := (lengthInSectors mbr 0).toNat % 2 ^ 32

/-- The last partition, as the master record has it. -/
def udiskPartition : DiskPartition where
  start := (primaryStart mbr (mbr.partCount - 1).toNat).toNat % 2 ^ 32
  size := (unusedSectors mbr lastBlock).toNat % 2 ^ 32

theorem firstPartition_start : (firstPartition mbr).start =
    ((mbr.array 0).addrlo.toNat + mbrPartitionBase) % 2 ^ 32 := by
  have base : mbrPartitionBase = 40960 := rfl
  unfold firstPartition primaryStart
  rw [base]
  bv_omega

theorem lengthInSectors_toNat (index : Nat) :
    (lengthInSectors mbr index).toNat % 2 ^ 32 = (mbr.array index).lenlo.toNat := by
  unfold lengthInSectors
  bv_omega

/-- The partitions in the order in which they are found. -/
def writtenPartitions : List DiskPartition :=
  udiskPartition mbr lastBlock :: firstPartition mbr ::
    (logicalIndices mbr).map (chainPartition mbr)

/-- Where the records go. -/
theorem extendedWrite_extent {index : Nat} (small : index < 120) :
    (extendedWrite mbr index).extent = ⟨index * 512, 512, extendedRecord mbr index⟩ := by
  have value : (BitVec.ofNat 64 index).toNat = index := by
    rw [BitVec.toNat_ofNat, Nat.mod_eq_of_lt (by omega)]
  have size : (512 : U32).toNat = 512 := rfl
  simp only [extendedWrite, BlockWrite.extent, value, size]

theorem masterWrite_extent :
    (masterWrite mbr lastBlock).extent = ⟨0, 512, masterRecord mbr lastBlock⟩ := by
  have value : (0 : Ulong).toNat = 0 := rfl
  have size : (512 : U32).toNat = 512 := rfl
  simp only [masterWrite, BlockWrite.extent, value, size, Nat.zero_mul]

section Ordered

variable {mbr lastBlock} (valid : MbrOrdered mbr lastBlock)
include valid

theorem logicalIndices_eq : logicalIndices mbr = List.range' 1 (mbr.partCount.toNat - 2) := by
  have least := valid.least
  have before : (mbr.partCount - 1).toNat - 1 = mbr.partCount.toNat - 2 := by bv_omega
  unfold logicalIndices
  rw [before]

theorem mem_logicalIndices {index : Nat} :
    index ∈ logicalIndices mbr ↔ 1 ≤ index ∧ index < mbr.partCount.toNat - 1 := by
  have least := valid.least
  rw [logicalIndices_eq valid, List.mem_range'_1]
  omega

/-- The records do not overlap. -/
theorem mbrWrites_apart :
    ((mbrWrites mbr lastBlock).map BlockWrite.extent).Pairwise Extent.Disjoint := by
  have most := valid.most
  unfold mbrWrites
  rw [List.map_append, List.map_map, List.pairwise_append]
  refine ⟨?_, List.pairwise_singleton _ _, ?_⟩
  · have increasing : (List.range' 1 (mbr.partCount.toNat - 2)).Pairwise (· < ·) :=
      List.pairwise_lt_range'
    rw [List.pairwise_map, logicalIndices_eq valid]
    refine increasing.imp_of_mem fun {first second} one two before => ?_
    have firstBound := List.mem_range'_1.mp one
    have secondBound := List.mem_range'_1.mp two
    left
    dsimp only [Function.comp]
    rw [extendedWrite_extent mbr (by omega), extendedWrite_extent mbr (by omega)]
    dsimp only
    omega
  · intro extent member other last
    obtain ⟨index, among, rfl⟩ := List.mem_map.mp member
    have bounds := (mem_logicalIndices valid).mp among
    rw [List.map_singleton, List.mem_singleton] at last
    subst last
    right
    dsimp only [Function.comp]
    rw [extendedWrite_extent mbr (by omega), masterWrite_extent mbr lastBlock]
    dsimp only
    omega

/-- Each record is found in its sector. -/
theorem mbrDisk_extended (disk : Buffer) {index : Nat} (among : index ∈ logicalIndices mbr) :
    Memory.Agree 512 (sectorAt (mbrDisk mbr lastBlock disk) index)
      (extendedRecord mbr index) := by
  have most := valid.most
  have bounds := (mem_logicalIndices valid).mp among
  have member : (extendedWrite mbr index).extent ∈
      (mbrWrites mbr lastBlock).map BlockWrite.extent :=
    List.mem_map_of_mem (List.mem_append_left _ (List.mem_map_of_mem among))
  have found := Extent.writeAll_holds disk (mbrWrites_apart valid) member
  rw [extendedWrite_extent mbr (by omega)] at found
  unfold mbrDisk
  rw [eMMCWriteMbr_eq]
  exact found

theorem mbrDisk_master (disk : Buffer) :
    Memory.Agree 512 (sectorAt (mbrDisk mbr lastBlock disk) 0) (masterRecord mbr lastBlock) := by
  have member : (masterWrite mbr lastBlock).extent ∈
      (mbrWrites mbr lastBlock).map BlockWrite.extent :=
    List.mem_map_of_mem (List.mem_append_right _ (List.mem_singleton_self _))
  have found := Extent.writeAll_holds disk (mbrWrites_apart valid) member
  rw [masterWrite_extent mbr lastBlock] at found
  unfold mbrDisk
  rw [eMMCWriteMbr_eq]
  exact found

/-- A record as it is found, up to its link. -/
theorem extended_found (disk : Buffer) {index : Nat} (among : index ∈ logicalIndices mbr) :
    recordSigned (sectorAt (mbrDisk mbr lastBlock disk) index) = true ∧
      (⟨index + recordStart (sectorAt (mbrDisk mbr lastBlock disk) index) 0,
        recordSize (sectorAt (mbrDisk mbr lastBlock disk) index) 0⟩ : DiskPartition) =
        chainPartition mbr index := by
  have agree := mbrDisk_extended valid disk among
  obtain ⟨-, start, size⟩ := record_congr agree (show 0 < 4 by decide)
  have starts : recordStart (extendedRecord mbr index) 0 = _ :=
    (word_extendedRecord mbr index (by decide)).trans (setRecord_start _ _ _ _ _)
  have sectors : recordSize (extendedRecord mbr index) 0 = _ :=
    (word_extendedRecord mbr index (by decide)).trans (setRecord_size _ _ _ _ _)
  rw [recordSigned_congr agree, start, size, starts, sectors]
  exact ⟨signed_setWord _, rfl⟩

/-- One record of the chain: a link leads to the next sector. -/
theorem followChain_step (disk : Buffer) (fuel : Nat) {index : Nat}
    (among : index ∈ logicalIndices mbr) :
    followChain (mbrDisk mbr lastBlock disk) 1 (fuel + 1) index =
      if index = (mbr.partCount - 2).toNat then some [chainPartition mbr index]
      else (followChain (mbrDisk mbr lastBlock disk) 1 fuel (1 + index)).map
        (chainPartition mbr index :: ·) := by
  have most := valid.most
  have bounds := (mem_logicalIndices valid).mp among
  obtain ⟨linkType, linkStart, -⟩ :=
    record_congr (mbrDisk_extended valid disk among) (show 1 < 4 by decide)
  obtain ⟨signed, partition⟩ := extended_found valid disk among
  have notUnsigned : ¬ (!recordSigned (sectorAt (mbrDisk mbr lastBlock disk) index)) = true := by
    rw [signed]
    decide
  rw [followChain]
  rw [if_neg notUnsigned, partition, linkType, linkStart]
  by_cases last : index = (mbr.partCount - 2).toNat
  · rw [extendedRecord_last mbr last, if_neg (by decide), if_pos last]
  · obtain ⟨linked, next⟩ := extendedRecord_linked mbr last
    have value : (BitVec.ofNat 64 index).toNat % 2 ^ 32 = index := by
      rw [BitVec.toNat_ofNat, Nat.mod_eq_of_lt (show index < 2 ^ 64 by omega),
        Nat.mod_eq_of_lt (by omega)]
    rw [linked, next, value, if_pos rfl, if_neg last]

/-- The chain from a record on, which has as many records as are left. -/
theorem followChain_written (disk : Buffer) {index left : Nat} (from_first : 1 ≤ index)
    (to_last : index + left + 1 = mbr.partCount.toNat - 1) :
    followChain (mbrDisk mbr lastBlock disk) 1 (left + 1) index =
      some ((List.range' index (left + 1)).map (chainPartition mbr)) := by
  have least := valid.least
  have most := valid.most
  have among := (mem_logicalIndices valid).mpr
    (show 1 ≤ index ∧ index < mbr.partCount.toNat - 1 by omega)
  induction left generalizing index with
  | zero =>
    have last : index = (mbr.partCount - 2).toNat := by bv_omega
    rw [followChain_step valid disk _ among, if_pos last]
    rfl
  | succ left inductionHypothesis =>
    have more : index ≠ (mbr.partCount - 2).toNat := by bv_omega
    have next := (mem_logicalIndices valid).mpr
      (show 1 ≤ 1 + index ∧ 1 + index < mbr.partCount.toNat - 1 by omega)
    rw [followChain_step valid disk _ among, if_neg more,
      inductionHypothesis (by omega) (by omega) next, List.range'_succ, Nat.add_comm 1 index]
    rfl

/-- Reading the disk gives the partitions that were written. -/
theorem readDisk_written (disk : Buffer) :
    readDisk (mbrDisk mbr lastBlock disk) (mbr.partCount.toNat - 2) =
      some (writtenPartitions mbr lastBlock) := by
  have least := valid.least
  have agree := mbrDisk_master valid disk
  have fields := masterRecord_fields mbr lastBlock
  obtain ⟨udiskType, udiskStart, udiskSize⟩ := record_congr agree (show 0 < 4 by decide)
  obtain ⟨firstType, firstStart, firstSize⟩ := record_congr agree (show 1 < 4 by decide)
  obtain ⟨extendedType, extendedStart, -⟩ := record_congr agree (show 2 < 4 by decide)
  obtain ⟨unusedType, -, -⟩ := record_congr agree (show 3 < 4 by decide)
  have signed := (recordSigned_congr agree).trans fields.signed
  have udisk : readRecord (mbrDisk mbr lastBlock disk) (mbr.partCount.toNat - 2) 0 =
      some [udiskPartition mbr lastBlock] := by
    unfold readRecord
    dsimp only
    rw [udiskType, udiskStart, udiskSize, fields.udiskType, fields.udiskStart, fields.udiskSize,
      if_neg (by decide), if_neg (by decide)]
    rfl
  have first : readRecord (mbrDisk mbr lastBlock disk) (mbr.partCount.toNat - 2) 1 =
      some [firstPartition mbr] := by
    unfold readRecord
    dsimp only
    rw [firstType, firstStart, firstSize, fields.primaryType, fields.primaryStart,
      fields.primarySize, if_neg (by decide), if_neg (by decide)]
    rfl
  have logical : readRecord (mbrDisk mbr lastBlock disk) (mbr.partCount.toNat - 2) 2 =
      some ((logicalIndices mbr).map (chainPartition mbr)) := by
    have length : mbr.partCount.toNat - 2 = mbr.partCount.toNat - 3 + 1 := by omega
    unfold readRecord
    dsimp only
    rw [extendedType, extendedStart, fields.extendedType, fields.extendedStart,
      if_neg (by decide), if_pos rfl, logicalIndices_eq valid, length]
    exact followChain_written valid disk (Nat.le_refl 1) (by omega)
  have unused : readRecord (mbrDisk mbr lastBlock disk) (mbr.partCount.toNat - 2) 3 =
      some [] := by
    unfold readRecord
    dsimp only
    rw [unusedType, fields.unusedType, if_pos rfl]
  unfold readDisk
  rw [signed, if_neg (by decide), udisk, first, logical, unused]
  simp [writtenPartitions]

end Ordered

end Disk

/-! ### The last partition -/

section Udisk

variable {mbr : SunxiMbr} {lastBlock : Ulong}

/-- The sectors of the logical partitions, as a number. -/
def logicalLength (mbr : SunxiMbr) : Nat :=
  ((logicalIndices mbr).map fun index => (mbr.array index).lenlo.toNat).sum

variable (valid : MbrOrdered mbr lastBlock)
include valid

/-- The logical partitions so far fit before the next one. -/
theorem logicalSum_le {count : Nat} (inside : count + 1 < mbr.partCount.toNat) :
    (mbr.array 1).addrlo.toNat +
        ((List.range' 1 count).map fun index => (mbr.array index).lenlo.toNat).sum ≤
      (mbr.array (count + 1)).addrlo.toNat := by
  induction count with
  | zero => exact Nat.le_refl _
  | succ count inductionHypothesis =>
    have before := inductionHypothesis (by omega)
    have next := valid.ordered (count + 1) (count + 1 + 1) (by omega) inside
    rw [List.range'_1_concat, List.map_append, List.sum_append, List.map_singleton,
      List.sum_singleton, Nat.add_comm 1 count]
    omega

/-- The sum of the code does not overflow. -/
theorem logicalSum_toNat {count : Nat} (inside : count + 1 < mbr.partCount.toNat) :
    ((List.range' 1 count).foldl (fun sectors index => sectors + lengthInSectors mbr index)
        (0 : Ulong)).toNat =
      ((List.range' 1 count).map fun index => (mbr.array index).lenlo.toNat).sum := by
  induction count with
  | zero => rfl
  | succ count inductionHypothesis =>
    have before := inductionHypothesis (by omega)
    have bound := logicalSum_le valid inside
    have word := (mbr.array (count + 1 + 1)).addrlo.isLt
    have length : (lengthInSectors mbr (1 + count)).toNat =
        (mbr.array (1 + count)).lenlo.toNat := by
      unfold lengthInSectors
      bv_omega
    rw [List.range'_1_concat, List.map_append, List.sum_append, List.map_singleton,
      List.sum_singleton] at bound
    rw [List.range'_1_concat, List.foldl_append, List.map_append, List.sum_append,
      List.map_singleton, List.sum_singleton, List.foldl_cons, List.foldl_nil, BitVec.toNat_add,
      before, length, Nat.mod_eq_of_lt (by omega)]

theorem logicalSectors_toNat : (logicalSectors mbr).toNat = logicalLength mbr := by
  have least := valid.least
  unfold logicalSectors logicalLength
  rw [logicalIndices_eq valid]
  exact logicalSum_toNat valid (by omega)

/-- The first partition is in front of the logical ones, so that the last one starts later than
the code takes it to. -/
theorem logicalLength_lt :
    logicalLength mbr < (mbr.array (mbr.partCount.toNat - 1)).addrlo.toNat := by
  have least := valid.least
  have sum := logicalSum_le valid (show mbr.partCount.toNat - 2 + 1 < mbr.partCount.toNat by omega)
  have first := valid.ordered 0 1 (by decide) (by omega)
  have filled := valid.filled 0 (by omega)
  have last : mbr.partCount.toNat - 2 + 1 = mbr.partCount.toNat - 1 := by omega
  rw [last] at sum
  unfold logicalLength
  rw [logicalIndices_eq valid]
  omega

/-- The size that the last partition is found with. -/
theorem udiskPartition_size : (udiskPartition mbr lastBlock).size =
    (lastBlock.toNat + 1 - mbrPartitionBase - logicalLength mbr) % 2 ^ 32 := by
  have least := valid.least
  have sum := logicalSectors_toNat valid
  have before := logicalLength_lt valid
  have room := valid.room (mbr.partCount.toNat - 1) (by omega)
  have base : mbrPartitionBase = 40960 := rfl
  have value : (unusedSectors mbr lastBlock).toNat =
      lastBlock.toNat + 1 - mbrPartitionBase - logicalLength mbr := by
    unfold unusedSectors
    rw [← sum] at before ⊢
    rw [base] at room ⊢
    bv_omega
  unfold udiskPartition
  rw [value]

theorem udiskPartition_start : (udiskPartition mbr lastBlock).start =
    ((mbr.array (mbr.partCount.toNat - 1)).addrlo.toNat + mbrPartitionBase) % 2 ^ 32 := by
  have least := valid.least
  have last : (mbr.partCount - 1).toNat = mbr.partCount.toNat - 1 := by bv_omega
  have base : mbrPartitionBase = 40960 := rfl
  unfold udiskPartition primaryStart
  rw [last, base]
  bv_omega

/-- The last partition is not found as the table has it. -/
theorem udiskPartition_ne :
    udiskPartition mbr lastBlock ≠ tablePartition mbr lastBlock (mbr.partCount.toNat - 1) := by
  intro same
  have least := valid.least
  have before := logicalLength_lt valid
  have filled := valid.filled (mbr.partCount.toNat - 1) (by omega)
  have room := valid.room (mbr.partCount.toNat - 1) (by omega)
  have word := (mbr.array (mbr.partCount.toNat - 1)).addrlo.isLt
  have last : mbr.partCount.toNat - 1 + 1 = mbr.partCount.toNat := by omega
  have size := congrArg DiskPartition.size same
  rw [udiskPartition_size valid] at size
  unfold tablePartition at size
  dsimp only at size
  rw [if_pos last] at size
  omega

/-- Where a logical partition is found. -/
theorem chainPartition_start {index : Nat} (counted : index < mbr.partCount.toNat) :
    (chainPartition mbr index).start =
      index + ((mbr.array index).addrlo.toNat + mbrPartitionBase - index) % 2 ^ 32 := by
  have most := valid.most
  have base : mbrPartitionBase = 40960 := rfl
  have value : (logicalStart mbr index).toNat =
      (mbr.array index).addrlo.toNat + mbrPartitionBase - index := by
    have number : (BitVec.ofNat 64 index).toNat = index := by
      rw [BitVec.toNat_ofNat, Nat.mod_eq_of_lt (by omega)]
    unfold logicalStart
    rw [base]
    bv_omega
  unfold chainPartition
  rw [value]

/-- The last partition of the table is not found on the disk. -/
theorem udisk_not_found : tablePartition mbr lastBlock (mbr.partCount.toNat - 1) ∉
    writtenPartitions mbr lastBlock := by
  intro found
  have least := valid.least
  have base : mbrPartitionBase = 40960 := rfl
  have most := valid.most
  -- The others start before the last partition does.
  have later {index : Nat} (before : index < mbr.partCount.toNat - 1) :
      (mbr.array index).addrlo.toNat < (mbr.array (mbr.partCount.toNat - 1)).addrlo.toNat := by
    have order := valid.ordered index (mbr.partCount.toNat - 1) before (by omega)
    have filled := valid.filled index (by omega)
    omega
  rcases List.mem_cons.mp found with same | others
  · exact udiskPartition_ne valid same.symm
  rcases List.mem_cons.mp others with same | logical
  · have start := congrArg DiskPartition.start same
    have first := later (show 0 < mbr.partCount.toNat - 1 by omega)
    rw [firstPartition_start mbr] at start
    unfold tablePartition at start
    dsimp only at start
    omega
  · obtain ⟨index, among, same⟩ := List.mem_map.mp logical
    have bounds := (mem_logicalIndices valid).mp among
    have start := congrArg DiskPartition.start same
    have next := later bounds.2
    rw [chainPartition_start valid (by omega)] at start
    unfold tablePartition at start
    dsimp only at start
    omega

theorem mbrChain_not_valid_on (disk : Buffer) :
    ¬ MbrChainValid mbr lastBlock (mbrDisk mbr lastBlock disk) := by
  rintro ⟨fuel, partitions, found, permuted, -⟩
  have least := valid.least
  have same := readDisk_unique _ found (readDisk_written valid disk)
  subst same
  refine udisk_not_found valid (permuted.mem_iff.mpr (List.mem_map_of_mem ?_))
  rw [List.mem_range]
  omega

/-- Where sector numbers of 32 bits are enough, the other partitions are found as the table has
them. -/
theorem writtenPartitions_eq
    (fits : ∀ index < mbr.partCount.toNat,
      (mbr.array index).addrlo.toNat + mbrPartitionBase < 2 ^ 32) :
    writtenPartitions mbr lastBlock = udiskPartition mbr lastBlock ::
      (List.range (mbr.partCount.toNat - 1)).map (tablePartition mbr lastBlock) := by
  have least := valid.least
  have most := valid.most
  have base : mbrPartitionBase = 40960 := rfl
  have first : firstPartition mbr = tablePartition mbr lastBlock 0 := by
    have start := firstPartition_start mbr
    have small := fits 0 (by omega)
    have notLast : ¬ 0 + 1 = mbr.partCount.toNat := by omega
    rw [Nat.mod_eq_of_lt small] at start
    unfold tablePartition
    rw [if_neg notLast, ← start, ← lengthInSectors_toNat mbr]
    rfl
  have logical : (logicalIndices mbr).map (chainPartition mbr) =
      (logicalIndices mbr).map (tablePartition mbr lastBlock) := by
    refine List.map_congr_left fun index among => ?_
    have bounds := (mem_logicalIndices valid).mp among
    have start := chainPartition_start valid (show index < mbr.partCount.toNat by omega)
    have small := fits index (by omega)
    have notLast : ¬ index + 1 = mbr.partCount.toNat := by omega
    rw [Nat.mod_eq_of_lt (by omega), Nat.add_sub_of_le (by omega)] at start
    unfold tablePartition
    rw [if_neg notLast, ← start, ← lengthInSectors_toNat mbr]
    rfl
  have range : List.range (mbr.partCount.toNat - 1) =
      0 :: List.range' 1 (mbr.partCount.toNat - 2) := by
    have length : mbr.partCount.toNat - 1 = mbr.partCount.toNat - 2 + 1 := by omega
    rw [List.range_eq_range', length]
    rfl
  unfold writtenPartitions
  rw [first, logical, range, logicalIndices_eq valid]
  rfl

end Udisk

/-- On a disk that takes all writes the chain ends, and gives all partitions but the last as the
table has them where sector numbers of 32 bits are enough; the last one starts where it should,
but it has the sectors in front of the logical partitions as well, and so it is never found. -/
theorem mbrChain_udisk_long (mbr : SunxiMbr) (lastBlock : Ulong) (disk : Buffer)
    (valid : MbrOrdered mbr lastBlock) :
    (eMMCWriteMbr mbr lastBlock (fun _ => true) disk).1 = true ∧
      (∃ fuel, readDisk (mbrDisk mbr lastBlock disk) fuel =
        some (writtenPartitions mbr lastBlock)) ∧
      ((∀ index < mbr.partCount.toNat,
          (mbr.array index).addrlo.toNat + mbrPartitionBase < 2 ^ 32) →
        writtenPartitions mbr lastBlock = udiskPartition mbr lastBlock ::
          (List.range (mbr.partCount.toNat - 1)).map (tablePartition mbr lastBlock)) ∧
      ((udiskPartition mbr lastBlock).start =
          ((mbr.array (mbr.partCount.toNat - 1)).addrlo.toNat + mbrPartitionBase) % 2 ^ 32 ∧
        (udiskPartition mbr lastBlock).size =
          (lastBlock.toNat + 1 - mbrPartitionBase - logicalLength mbr) % 2 ^ 32 ∧
        logicalLength mbr < (mbr.array (mbr.partCount.toNat - 1)).addrlo.toNat) ∧
      ¬ MbrChainValid mbr lastBlock (mbrDisk mbr lastBlock disk) := by
  refine ⟨?_, ⟨_, readDisk_written valid disk⟩, writtenPartitions_eq valid,
    ⟨udiskPartition_start valid, udiskPartition_size valid, logicalLength_lt valid⟩,
    mbrChain_not_valid_on valid disk⟩
  rw [eMMCWriteMbr_eq]

/-! ### Three partitions -/

/-- A table of three partitions of one sector, side by side. -/
def smallMbr : SunxiMbr where
  partCount := 3
  array := fun index => { addrlo := BitVec.ofNat 32 index, lenlo := 1 }

theorem smallMbr_ordered : MbrOrdered smallMbr 15269887 where
  least := by decide
  most := by decide
  filled _ _ := Nat.one_pos
  ordered first second before counted := by
    change second < 3 at counted
    change (BitVec.ofNat 32 first).toNat + 1 ≤ (BitVec.ofNat 32 second).toNat
    rw [BitVec.toNat_ofNat, BitVec.toNat_ofNat, Nat.mod_eq_of_lt (by omega),
      Nat.mod_eq_of_lt (by omega)]
    exact before
  room index counted := by
    change index < 3 at counted
    change (BitVec.ofNat 32 index).toNat + 40960 + 1 ≤ 15269887 + 1
    rw [BitVec.toNat_ofNat, Nat.mod_eq_of_lt (by omega)]
    omega

theorem mbrChain_udisk_long_small :
    ∃ fuel, readDisk (mbrDisk smallMbr 15269887 fun _ => 0) fuel =
      some (writtenPartitions smallMbr 15269887) :=
  (mbrChain_udisk_long smallMbr 15269887 (fun _ => 0) smallMbr_ordered).2.1

/-- The last of three partitions passes the end of the disk. -/
theorem mbrChain_not_valid :
    ¬ ∀ mbr lastBlock disk, MbrOrdered mbr lastBlock →
      MbrChainValid mbr lastBlock (mbrDisk mbr lastBlock disk) :=
  fun claim => mbrChain_not_valid_on smallMbr_ordered (fun _ => 0)
    (claim smallMbr 15269887 (fun _ => 0) smallMbr_ordered)

end PinePhonePkg
