/-
This file models the writer of the boot records: the master record with the
first and the last partition, and a chain of extended records for the others.
-/

import PinePhonePkg.Partition.GptWriter

namespace PinePhonePkg

open Library

/-- `sunxi_partition` -/
structure MbrPartition : Type where
  addrlo : U32
  lenlo : U32

/-- `sunxi_mbr_t` -/
structure SunxiMbr : Type where
  partCount : U32
  array : Nat → MbrPartition

/-! ### A boot record -/

/-- `GET_BYTE` -/
def getByte (data : Ulong) (byteIndex : Nat) : Nat :=
  (data >>> (8 * byteIndex) &&& 0xff).toNat

/-- Four bytes of a record, the lowest first -/
def setLba (buffer : Buffer) (address : Nat) (value : Ulong) : Buffer :=
  let buffer := setByte buffer address (getByte value 0)
  let buffer := setByte buffer (address + 1) (getByte value 1)
  let buffer := setByte buffer (address + 2) (getByte value 2)
  setByte buffer (address + 3) (getByte value 3)

/-- `Partition[index]` -/
def mbrRecord (index : Nat) : Nat := 446 + 16 * index

/-- The type of a partition, its first sector and its size are set. -/
def setRecord (record : Buffer) (index osIndicator : Nat) (startingLba sizeInLba : Ulong) :
    Buffer :=
  let record := setByte record (mbrRecord index + 4) osIndicator
  let record := setLba record (mbrRecord index + 8) startingLba
  setLba record (mbrRecord index + 12) sizeInLba

/-- 20 MB in sectors -/
def mbrPartitionBase : Nat := 20 * 1024 * 1024 / 512

section Records

variable (mbr : SunxiMbr)

/-- The number of a partition is taken off its start, since its record has that sector. -/
def logicalStart (index : Nat) : Ulong :=
  (mbr.array index).addrlo.setWidth 64 - BitVec.ofNat 64 index + BitVec.ofNat 64 mbrPartitionBase

/-- The sum has 32 bits. -/
def primaryStart (index : Nat) : Ulong :=
  ((mbr.array index).addrlo + BitVec.ofNat 32 mbrPartitionBase).setWidth 64

/-- The sectors of a partition -/
def lengthInSectors (index : Nat) : Ulong := (mbr.array index).lenlo.setWidth 64

/-- The record of a logical partition, with a link to the next one. -/
def extendedRecord (index : Nat) : Buffer :=
  let record := setRecord zeroPool 0 0x83 (logicalStart mbr index) (lengthInSectors mbr index)
  let record :=
    if index ≠ (mbr.partCount - 2).toNat then
      setRecord record 1 0x05 (BitVec.ofNat 64 index) (lengthInSectors mbr index)
    else record
  Memory.setWord record 510 2 0xaa55

/-- The partitions that have an extended record. -/
def logicalIndices : List Nat := List.range' 1 ((mbr.partCount - 1).toNat - 1)

/-- The sectors of the logical partitions together. -/
def logicalSectors : Ulong :=
  (logicalIndices mbr).foldl (fun sectors index => sectors + lengthInSectors mbr index) 0

/-- The sectors that the logical partitions leave -/
def unusedSectors (lastBlock : Ulong) : Ulong :=
  lastBlock + 1 - BitVec.ofNat 64 mbrPartitionBase - logicalSectors mbr

/-- The record in sector 0, with the last partition, the first one and the chain of the others -/
def masterRecord (lastBlock : Ulong) : Buffer :=
  let record := setByte zeroPool (mbrRecord 0) 0x80
  let record := setRecord record 0 0x0B (primaryStart mbr (mbr.partCount - 1).toNat)
    (unusedSectors mbr lastBlock)
  let record := setRecord record 1 0x06 (primaryStart mbr 0) (lengthInSectors mbr 0)
  let record := setByte record (mbrRecord 2 + 4) 0x05
  let record := setByte record (mbrRecord 2 + 8) 1
  let record := setLba record (mbrRecord 2 + 12) (logicalSectors mbr)
  Memory.setWord record 510 2 0xaa55

/-! ### Writing the records -/

/-- A record of the chain goes to the sector of its number. -/
def extendedWrite (index : Nat) : BlockWrite where
  lba := BitVec.ofNat 64 index
  size := 512
  data := extendedRecord mbr index

/-- The master record goes to sector 0. -/
def masterWrite (lastBlock : Ulong) : BlockWrite where
  lba := 0
  size := 512
  data := masterRecord mbr lastBlock

/-- The records in the order in which they are written -/
def mbrWrites (lastBlock : Ulong) : List BlockWrite :=
  (logicalIndices mbr).map (extendedWrite mbr) ++ [masterWrite mbr lastBlock]

/-- Whether all writes succeed, and the disk afterwards. -/
def eMMCWriteMbr (lastBlock : Ulong) (succeeds : Nat → Bool) (disk : Buffer) : Bool × Buffer :=
  writeBlocks 512 succeeds 0 (mbrWrites mbr lastBlock) disk

end Records

end PinePhonePkg
