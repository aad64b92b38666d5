/-
This file models the writer of the GUID partition table: the protective boot
record, the primary header with the entry array, the backup header, and the
order in which they are written to the disk.
-/

import PinePhonePkg.Partition.Gpt

namespace PinePhonePkg

open Library

/-! ### The table to write -/

/-- `gpt_partition` -/
structure GptPartition : Type where
  addrhi : U32
  addrlo : U32
  lenhi : U32
  lenlo : U32
  /-- 16 bytes. -/
  name : Buffer
  type : Buffer
  uniqueguid : Buffer
  attrhi : U32
  attrlo : U32

/-- `sunxi_gpt_t` -/
structure SunxiGpt : Type where
  partCount : U32
  array : Nat → GptPartition

/-- Two words of 32 bits as one of 64. -/
def joinWords (high low : U32) : Ulong :=
  (high.setWidth 64 <<< 32) ||| low.setWidth 64

/-- `gpt_table_info_t` -/
structure GptTableInfo : Type where
  myLba : Ulong
  alternateLba : Ulong
  firstLba : Ulong
  lastLba : Ulong
  entryLba : Ulong
  entryNum : U32
  entrySize : U32
  guid : Buffer

/-! ### The parts of the table -/

/-- Memory that is cleared -/
def zeroPool : Buffer := fun _ => 0

/-- The size field gets the upper half of the number of sectors it is told. -/
def protectiveBlock (lastBlock : Ulong) : U32 :=
  ((lastBlock + 1) >>> 32 &&& 0xffffffff).setWidth 32

/-- The buffer with another byte -/
def setByte (buffer : Buffer) (address : Nat) (value : Nat) : Buffer :=
  Memory.setWord buffer address 1 value

/-- `CreateProtectiveMbr`. The record of a partition starts with the boot indicator, and has the
first sector 8 bytes behind it and the size 12. -/
def createProtectiveMbr (protectiveMbr : Buffer) (lastBlock : Ulong) : Buffer :=
  let block := protectiveBlock lastBlock
  let mbr := setByte protectiveMbr 446 0
  let mbr := setByte mbr 450 0xEE
  let mbr := setByte mbr 454 1
  let mbr := setByte mbr 458 (block &&& 0xff).toNat
  let mbr := setByte mbr 459 (block >>> 8 &&& 0xff).toNat
  let mbr := setByte mbr 460 (block >>> 16 &&& 0xff).toNat
  let mbr := setByte mbr 461 (block >>> 24 &&& 0xff).toNat
  let mbr := setByte mbr 447 0
  let mbr := setByte mbr 448 0
  let mbr := setByte mbr 449 0
  let mbr := setByte mbr 451 0
  let mbr := setByte mbr 452 0
  let mbr := setByte mbr 453 0
  Memory.setWord mbr 510 2 0xaa55

/-- The fields of the header that do not depend on the entries. -/
def gptHeaderFields (info : GptTableInfo) (header : Buffer) : Buffer :=
  let header := Memory.setWord header 0 8 efiPtabHeaderId.toNat
  let header := Memory.setWord header 12 4 0x5c
  let header := Memory.setWord header 8 4 0x10000
  let header := Memory.setWord header 24 8 info.myLba.toNat
  let header := Memory.setWord header 32 8 info.alternateLba.toNat
  let header := Memory.overwrite header 56 16 info.guid
  let header := Memory.setWord header 40 8 info.firstLba.toNat
  let header := Memory.setWord header 48 8 info.lastLba.toNat
  let header := Memory.setWord header 72 8 info.entryLba.toNat
  let header := Memory.setWord header 80 4 info.entryNum.toNat
  Memory.setWord header 84 4 info.entrySize.toNat

/-- The first 36 bytes of `tmp_name`: the 16 characters of the name and two zero characters. -/
def tmpName (name : Buffer) : Buffer := fun index =>
  if index < 32 ∧ index % 2 = 0 then name (index / 2) else 0

/-- The first sector of a partition, of its two words -/
def partitionStart (partition : GptPartition) : Ulong :=
  joinWords partition.addrhi partition.addrlo

/-- The sectors of a partition, of its two words -/
def partitionLength (partition : GptPartition) : Ulong :=
  joinWords partition.lenhi partition.lenlo

/-- The last partition is given everything up to the last usable sector. -/
def partitionEnd (gpt : SunxiGpt) (lastUsable : Ulong) (index : Nat) : Ulong :=
  if BitVec.ofNat 32 index = gpt.partCount - 1 then lastUsable
  else partitionStart (gpt.array index) + partitionLength (gpt.array index) - 1

/-- The entry of one partition is filled in at an address. -/
def fillEntry (gpt : SunxiGpt) (lastUsable : Ulong) (index address : Nat) (entries : Buffer) :
    Buffer :=
  let partition := gpt.array index
  let entries := Memory.overwrite entries address 16 partition.type
  let entries := Memory.overwrite entries (address + 16) 16 partition.uniqueguid
  let entries := Memory.setWord entries (address + 48) 8
    (joinWords partition.attrhi partition.attrlo).toNat
  let entries := Memory.setWord entries (address + 32) 8 (partitionStart partition).toNat
  let entries := Memory.setWord entries (address + 40) 8 (partitionEnd gpt lastUsable index).toNat
  Memory.overwrite entries (address + 56) 36 (tmpName partition.name)

/-- The entries from `index` on are filled in, `left` of them. -/
def fillEntries (gpt : SunxiGpt) (lastUsable : Ulong) (entrySize : U32) :
    Nat → Nat → Buffer → Buffer
  | _, 0, entries => entries
  | index, left + 1, entries =>
    fillEntries gpt lastUsable entrySize (index + 1) left
      (fillEntry gpt lastUsable index (BitVec.ofNat 32 index * entrySize).toNat entries)

/-- `CreateGptTableAndEntry`: the header and the entries. -/
def createGptTableAndEntry (gpt : SunxiGpt) (info : GptTableInfo)
    (primaryHeader partEntry : Buffer) : Buffer × Buffer :=
  let header := gptHeaderFields info primaryHeader
  let entries := fillEntries gpt info.lastLba info.entrySize 0 gpt.partCount.toNat partEntry
  let header := Memory.setWord header 88 4
    (sunxiCrc32 entries (info.entryNum * info.entrySize).toNat).toNat
  (setGptHeaderCrc32 header (sunxiCrc32 header (gptHeaderSize header).toNat), entries)

/-- The sector of the header -/
def gptMyLba (header : Buffer) : Ulong := BitVec.ofNat 64 (Memory.word header 24 8)

/-- The sector of the other header -/
def gptAlternateLba (header : Buffer) : Ulong := BitVec.ofNat 64 (Memory.word header 32 8)

/-- The first sector for partitions -/
def gptFirstUsableLba (header : Buffer) : Ulong := BitVec.ofNat 64 (Memory.word header 40 8)

/-- The last sector for partitions -/
def gptLastUsableLba (header : Buffer) : Ulong := BitVec.ofNat 64 (Memory.word header 48 8)

/-- `PrimaryConvertBackup`: the other header, made in the buffer for it. -/
def primaryConvertBackup (firstHeader secondHeader : Buffer) : Buffer :=
  let entryLba := if gptMyLba firstHeader = 1 then gptLastUsableLba firstHeader + 1 else 1 + 1
  let header := Memory.overwrite secondHeader 0 92 firstHeader
  let header := Memory.setWord header 24 8 (gptAlternateLba firstHeader).toNat
  let header := Memory.setWord header 32 8 (gptMyLba firstHeader).toNat
  let header := Memory.setWord header 72 8 entryLba.toNat
  let header := setGptHeaderCrc32 header 0
  setGptHeaderCrc32 header (sunxiCrc32 header (gptHeaderSize header).toNat)

/-! ### Writing the table -/

/-- A write of some bytes from a sector on. -/
structure BlockWrite : Type where
  lba : Ulong
  size : U32
  data : Buffer

/-- `SUNXI_EMMC_DISK_GUID` -/
def sunxiEmmcDiskGuid : Buffer := fun index =>
  [0x40, 0x00, 0x42, 0xae, 0xdd, 0x13, 0xf2, 0x41, 0xae, 0x7f, 0x0d, 0xc3, 0x58, 0x54, 0xc8,
    0xd7].getD index 0

section Write

variable (gpt : SunxiGpt) (blockSize : U32) (lastBlock : Ulong)

/-- What the writer computes from the sectors of the disk -/
def gptTableInfo : GptTableInfo where
  myLba := 1
  alternateLba := lastBlock
  firstLba := ((2 : U32) + 128 * 128 / blockSize).setWidth 64
  lastLba := lastBlock - 1 - (((128 : U32) * 128 / blockSize).setWidth 64)
  entryLba := 2
  entryNum := 128
  entrySize := 128
  guid := sunxiEmmcDiskGuid

/-- The header in front -/
def gptPrimaryHeader : Buffer :=
  (createGptTableAndEntry gpt (gptTableInfo blockSize lastBlock) zeroPool zeroPool).1

/-- The entries, which both headers share -/
def gptPartEntry : Buffer :=
  (createGptTableAndEntry gpt (gptTableInfo blockSize lastBlock) zeroPool zeroPool).2

/-- The header behind -/
def gptBackupHeader : Buffer :=
  primaryConvertBackup (gptPrimaryHeader gpt blockSize lastBlock) zeroPool

/-- The writer of the disk is compiled against a declaration of `CreateProtectiveMbr` with a
`UINT32`, so that the call cuts the number of the last block to 32 bits. -/
def protectiveLastBlock : Ulong :=
  (lastBlock.setWidth 32).setWidth 64

/-- The write of the protective record -/
def gptProtectiveWrite : BlockWrite where
  lba := 0
  size := blockSize
  data := createProtectiveMbr zeroPool (protectiveLastBlock lastBlock)

/-- A header goes to the sector it names. -/
def gptHeaderWrite (header : Buffer) : BlockWrite where
  lba := gptMyLba header
  size := blockSize
  data := header

/-- The entries go to the sectors that a header names. -/
def gptEntriesWrite (header entries : Buffer) : BlockWrite where
  lba := gptPartitionEntryLba header
  size := gptEntryBytes header
  data := entries

/-- The writes after the protective record. -/
def gptTableWrites : List BlockWrite :=
  let primary := gptPrimaryHeader gpt blockSize lastBlock
  let backup := gptBackupHeader gpt blockSize lastBlock
  let entries := gptPartEntry gpt blockSize lastBlock
  [gptHeaderWrite blockSize primary, gptEntriesWrite primary entries,
    gptHeaderWrite blockSize backup, gptEntriesWrite backup entries]

/-- A write that succeeds is on the disk. -/
def BlockWrite.perform (write : BlockWrite) (disk : Buffer) : Buffer :=
  Memory.overwrite disk (write.lba.toNat * blockSize.toNat) write.size.toNat write.data

/-- The writes in turn, up to the first that fails; `succeeds` says which do. -/
def writeBlocks (succeeds : Nat → Bool) : Nat → List BlockWrite → Buffer → Bool × Buffer
  | _, [], disk => (true, disk)
  | index, write :: rest, disk =>
    if !succeeds index then (false, disk)
    else writeBlocks succeeds (index + 1) rest (write.perform blockSize disk)

/-- Whether the status is success, and the disk afterwards. When memory for a header or the
entries is missing, the status is still that of the first write. -/
def eMMCWriteGpt (allocates succeeds : Nat → Bool) (disk : Buffer) : Bool × Buffer :=
  if !allocates 0 then (false, disk)
  else if !succeeds 0 then (false, disk)
  else
    let disk := (gptProtectiveWrite blockSize lastBlock).perform blockSize disk
    if !(allocates 1 && allocates 2 && allocates 3) then (true, disk)
    else writeBlocks blockSize succeeds 1 (gptTableWrites gpt blockSize lastBlock) disk

end Write

end PinePhonePkg
