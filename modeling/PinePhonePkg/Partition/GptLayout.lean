/-
This file compares the disk that the writer leaves with the rules for a GUID
partition table. The headers, the entry arrays and the usable range lie side by
side, and the backup header gives the primary one back; but the protective boot
record has the size of the disk only when its two halves are the same.
-/

import PinePhonePkg.Partition.GptWritten

namespace PinePhonePkg

open Library

/-! ### What is on a disk -/

/-- A run of sectors, the last one included. -/
structure Sectors : Type where
  first : Nat
  last : Nat

/-- The ranges have no sector in common. -/
def Sectors.Disjoint (one other : Sectors) : Prop :=
  one.last < other.first ∨ other.last < one.first

/-- The sectors that are written -/
def BlockWrite.sectors (write : BlockWrite) : Sectors where
  first := write.lba.toNat
  last := write.lba.toNat + write.size.toNat / 512 - 1

section Disk

variable (disk : Buffer)

/-- The bytes from a sector on -/
def sectorAt (lba : Nat) : Buffer := Memory.drop disk (lba * 512)

/-- The primary header -/
def primaryOn : Buffer := sectorAt disk 1

/-- The backup header is where the primary one says. -/
def backupOn : Buffer := sectorAt disk (gptAlternateLba (primaryOn disk)).toNat

/-- The entries are where a header says. -/
def tableOn (header : Buffer) : GptTable where
  num := gptNumberOfPartitionEntries header
  size := gptSizeOfPartitionEntry header
  entries := sectorAt disk (gptPartitionEntryLba header).toNat

/-- The sector a header claims for itself -/
def headerSectors (header : Buffer) : Sectors where
  first := (gptMyLba header).toNat
  last := (gptMyLba header).toNat

/-- The sectors a header names for the entries -/
def arraySectors (header : Buffer) : Sectors where
  first := (gptPartitionEntryLba header).toNat
  last := (gptPartitionEntryLba header).toNat + (gptEntryBytes header).toNat / 512 - 1

/-- The sectors a header leaves for partitions -/
def usableSectors (header : Buffer) : Sectors where
  first := (gptFirstUsableLba header).toNat
  last := (gptLastUsableLba header).toNat

/-- Protective record, primary header, primary array, usable range, backup array and backup
header. -/
def gptRegions : List Sectors :=
  [⟨0, 0⟩, headerSectors (primaryOn disk), arraySectors (primaryOn disk),
    usableSectors (primaryOn disk), arraySectors (backupOn disk), headerSectors (backupOn disk)]

/-- The sectors of a partition -/
def entrySectors (index : Nat) : Sectors where
  first := ((tableOn disk (primaryOn disk)).starting index).toNat
  last := ((tableOn disk (primaryOn disk)).ending index).toNat

/-- The size that the protective record gives the disk. -/
def protectiveSizeOn : Nat := Memory.word (sectorAt disk 0) 458 4

end Disk

/-! ### The rules -/

section Rules

variable (gpt : SunxiGpt) (lastBlock : Ulong) (disk : Buffer)

/-- The partitions are in order and within the usable range of a disk that has room for the
tables. -/
structure GptOrdered : Prop where
  least : 1 ≤ gpt.partCount.toNat
  most : gpt.partCount.toNat ≤ 120
  large : 67 ≤ lastBlock.toNat
  ordered : ∀ first second, first < second → second < gpt.partCount.toNat →
    (partitionStart (gpt.array first)).toNat + (partitionLength (gpt.array first)).toNat ≤
      (partitionStart (gpt.array second)).toNat
  usable : ∀ index < gpt.partCount.toNat, 34 ≤ (partitionStart (gpt.array index)).toNat ∧
    (partitionStart (gpt.array index)).toNat + (partitionLength (gpt.array index)).toNat ≤
      lastBlock.toNat - 32

/-- Every partition has a sector; the last one is given all the sectors that are left. -/
structure GptOccupied : Prop where
  others : ∀ index, index + 1 < gpt.partCount.toNat →
    0 < (partitionLength (gpt.array index)).toNat
  last : (partitionStart (gpt.array (gpt.partCount.toNat - 1))).toNat ≤ lastBlock.toNat - 33

/-- The rules for the tables and the entries. -/
structure GptTablesValid : Prop where
  written : ∀ write ∈ gptWrites gpt lastBlock, write.sectors ∈ gptRegions disk
  apart : (gptRegions disk).Pairwise Sectors.Disjoint
  inside : ∀ region ∈ gptRegions disk, region.first ≤ region.last ∧
    region.last ≤ lastBlock.toNat
  entries : ∀ index < gpt.partCount.toNat,
    (usableSectors (primaryOn disk)).first ≤ (entrySectors disk index).first ∧
      (entrySectors disk index).first ≤ (entrySectors disk index).last ∧
      (entrySectors disk index).last ≤ (usableSectors (primaryOn disk)).last
  entriesApart : ∀ first second, first < second → second < gpt.partCount.toNat →
    (entrySectors disk first).Disjoint (entrySectors disk second)
  exchanged : gptMyLba (backupOn disk) = gptAlternateLba (primaryOn disk) ∧
    gptAlternateLba (backupOn disk) = gptMyLba (primaryOn disk)
  backupArray : Memory.Agree (gptEntryBytes (backupOn disk)).toNat
    (tableOn disk (backupOn disk)).entries (tableOn disk (primaryOn disk)).entries
  crc : gptHeaderCrc32 (backupOn disk) = gptHeaderCheck (backupOn disk)
  same : ∀ place < 92, ¬(16 ≤ place ∧ place < 20) → ¬(24 ≤ place ∧ place < 40) →
    ¬(72 ≤ place ∧ place < 80) → backupOn disk place = primaryOn disk place
  back : ∀ buffer,
    Memory.Agree 92 (primaryConvertBackup (backupOn disk) buffer) (primaryOn disk)

/-- The rules for the whole disk. -/
structure GptDiskValid : Prop where
  tables : GptTablesValid gpt lastBlock disk
  protective : protectiveSizeOn disk = min lastBlock.toNat 0xffffffff

end Rules

/-! ### The disk that is written -/

namespace GptOnDisk

variable {gpt : SunxiGpt} {lastBlock : Ulong} {disk : Buffer}

theorem primary_is (onDisk : GptOnDisk gpt lastBlock disk) :
    GptHeaderIs (gptTableInfo 512 lastBlock) (primaryOn disk) :=
  (gptPrimaryHeader_is gpt lastBlock).congr (onDisk.primary.mono (by decide))

theorem backupOn_eq (onDisk : GptOnDisk gpt lastBlock disk) :
    backupOn disk = sectorAt disk lastBlock.toNat := by
  unfold backupOn
  rw [onDisk.primary_is.alternateLba]
  rfl

theorem backup_agree (onDisk : GptOnDisk gpt lastBlock disk) :
    Memory.Agree 92 (backupOn disk) (gptBackupHeader gpt 512 lastBlock) := by
  rw [onDisk.backupOn_eq]
  exact onDisk.backup.mono (by decide)

theorem backup_is (onDisk : GptOnDisk gpt lastBlock disk) :
    GptHeaderIs (gptBackupInfo lastBlock) (backupOn disk) :=
  (gptBackupHeader_is gpt lastBlock).congr onDisk.backup_agree

theorem converted (onDisk : GptOnDisk gpt lastBlock disk) :
    GptConverted (primaryOn disk) (backupOn disk) :=
  (gptBackupHeader_converted gpt lastBlock).congr (gptBackupHeader_is gpt lastBlock).headerSize
    (onDisk.primary.mono (by decide)) onDisk.backup_agree

theorem primary_crc (onDisk : GptOnDisk gpt lastBlock disk) :
    gptHeaderCrc32 (primaryOn disk) = gptHeaderCheck (primaryOn disk) :=
  gptHeaderCrc32_congr (gptPrimaryHeader_is gpt lastBlock).headerSize
    (createGptTableAndEntry_crc gpt _ zeroPool) (onDisk.primary.mono (by decide))

theorem entries_agree (onDisk : GptOnDisk gpt lastBlock disk) :
    Memory.Agree 16384 (tableOn disk (primaryOn disk)).entries
      (gptPartEntry gpt 512 lastBlock) := by
  have lba : gptPartitionEntryLba (primaryOn disk) = 2 := onDisk.primary_is.partitionEntryLba
  have place : (gptPartitionEntryLba (primaryOn disk)).toNat * 512 = 1024 := by
    rw [lba]
    decide
  unfold tableOn sectorAt
  rw [place]
  exact onDisk.entries

theorem backupEntries_agree (onDisk : GptOnDisk gpt lastBlock disk) :
    Memory.Agree 16384 (tableOn disk (backupOn disk)).entries
      (gptPartEntry gpt 512 lastBlock) := by
  unfold tableOn sectorAt
  rw [onDisk.backup_is.partitionEntryLba]
  exact onDisk.backupEntries

/-- The regions in the order of the rules. -/
theorem regions (onDisk : GptOnDisk gpt lastBlock disk) (large : 67 ≤ lastBlock.toNat) :
    gptRegions disk = [⟨0, 0⟩, ⟨1, 1⟩, ⟨2, 33⟩, ⟨34, lastBlock.toNat - 33⟩,
      ⟨lastBlock.toNat - 32, lastBlock.toNat - 1⟩, ⟨lastBlock.toNat, lastBlock.toNat⟩] := by
  have my : gptMyLba (primaryOn disk) = 1 := onDisk.primary_is.myLba
  have entries : gptPartitionEntryLba (primaryOn disk) = 2 :=
    onDisk.primary_is.partitionEntryLba
  have bytes : gptEntryBytes (primaryOn disk) = 16384 := onDisk.primary_is.bytes rfl rfl
  have first : gptFirstUsableLba (primaryOn disk) = 34 := onDisk.primary_is.firstUsableLba
  have last : gptLastUsableLba (primaryOn disk) = lastBlock - 1 - 32 :=
    onDisk.primary_is.lastUsableLba
  have backupMy : gptMyLba (backupOn disk) = lastBlock := onDisk.backup_is.myLba
  have backupEntries : gptPartitionEntryLba (backupOn disk) = lastBlock - 32 :=
    onDisk.backup_is.partitionEntryLba
  have backupBytes : gptEntryBytes (backupOn disk) = 16384 := onDisk.backup_is.bytes rfl rfl
  have usable : (lastBlock - 1 - 32).toNat = lastBlock.toNat - 33 := by bv_omega
  have array : (lastBlock - 32).toNat = lastBlock.toNat - 32 := by bv_omega
  have one : (1 : Ulong).toNat = 1 := rfl
  have two : (2 : Ulong).toNat = 2 := rfl
  have thirtyFour : (34 : Ulong).toNat = 34 := rfl
  have size : (16384 : U32).toNat / 512 = 32 := rfl
  have arrayEnd : lastBlock.toNat - 32 + 32 - 1 = lastBlock.toNat - 1 := by omega
  simp only [gptRegions, headerSectors, arraySectors, usableSectors, my, entries, bytes, first,
    last, backupMy, backupEntries, backupBytes, usable, array, one, two, thirtyFour, size,
    arrayEnd]

/-- Every write goes to one of the regions. -/
theorem writes_regions (onDisk : GptOnDisk gpt lastBlock disk) (large : 67 ≤ lastBlock.toNat)
    (write : BlockWrite) (member : write ∈ gptWrites gpt lastBlock) :
    write.sectors ∈ gptRegions disk := by
  have extent : write.extent ∈ (gptWrites gpt lastBlock).map BlockWrite.extent :=
    List.mem_map_of_mem member
  have array : (lastBlock - 32).toNat = lastBlock.toNat - 32 := by bv_omega
  have sectors : write.sectors = ⟨write.extent.start / 512,
      write.extent.start / 512 + write.extent.length / 512 - 1⟩ := by
    unfold BlockWrite.sectors BlockWrite.extent
    dsimp only
    rw [Nat.mul_div_cancel _ (by decide)]
  rw [onDisk.regions large, sectors]
  rw [gptWrites_extents, array] at extent
  simp only [List.mem_cons, List.not_mem_nil, or_false] at extent
  rcases extent with same | same | same | same | same <;> rw [same]
  · simp
  · simp
  · simp
  · simp
  · have arrayEnd : lastBlock.toNat - 32 + 31 = lastBlock.toNat - 1 := by omega
    simp [arrayEnd]

theorem entry_eq (onDisk : GptOnDisk gpt lastBlock disk) (most : gpt.partCount.toNat ≤ 128)
    {index : Nat} (counted : index < gpt.partCount.toNat) :
    entrySectors disk index = ⟨(partitionStart (gpt.array index)).toNat,
      (partitionEnd gpt (lastBlock - 33) index).toNat⟩ := by
  have size : gptSizeOfPartitionEntry (primaryOn disk) = 128 := onDisk.primary_is.entrySize
  have word {place : Nat} (inside : place + 8 ≤ 128) :
      Memory.word (tableOn disk (primaryOn disk)).entries (index * 128 + place) 8 =
        Memory.word (gptWrittenTable gpt lastBlock).entries (index * 128 + place) 8 :=
    onDisk.entries_agree.word (by omega)
  have start : (tableOn disk (primaryOn disk)).starting index =
      (gptWrittenTable gpt lastBlock).starting index := by
    unfold GptTable.starting
    change BitVec.ofNat 64 (Memory.word _
      (index * (gptSizeOfPartitionEntry (primaryOn disk)).toNat + 32) 8) = _
    rw [size]
    exact congrArg _ (word (by decide))
  have ending : (tableOn disk (primaryOn disk)).ending index =
      (gptWrittenTable gpt lastBlock).ending index := by
    unfold GptTable.ending
    change BitVec.ofNat 64 (Memory.word _
      (index * (gptSizeOfPartitionEntry (primaryOn disk)).toNat + 40) 8) = _
    rw [size]
    exact congrArg _ (word (by decide))
  unfold entrySectors
  rw [start, ending, gptWrittenTable_starting lastBlock most counted,
    gptWrittenTable_ending lastBlock most counted]

end GptOnDisk

/-! ### The partitions -/

section Partitions

variable {gpt : SunxiGpt} {lastBlock : Ulong} (valid : GptOrdered gpt lastBlock)
include valid

theorem partitionEnd_last :
    (partitionEnd gpt (lastBlock - 33) (gpt.partCount.toNat - 1)).toNat =
      lastBlock.toNat - 33 := by
  have least := valid.least
  have large := valid.large
  have same : BitVec.ofNat 32 (gpt.partCount.toNat - 1) = gpt.partCount - 1 := by bv_omega
  unfold partitionEnd
  rw [if_pos same]
  bv_omega

/-- The end of a partition that is not the last, when it is not empty. -/
theorem partitionEnd_other {index : Nat} (other : index + 1 < gpt.partCount.toNat) :
    (partitionEnd gpt (lastBlock - 33) index).toNat =
      (partitionStart (gpt.array index)).toNat + (partitionLength (gpt.array index)).toNat -
        1 := by
  have most := valid.most
  have usable := valid.usable index (by omega)
  have bound := lastBlock.isLt
  have different : BitVec.ofNat 32 index ≠ gpt.partCount - 1 := by
    intro same
    have values := congrArg BitVec.toNat same
    rw [BitVec.toNat_ofNat] at values
    bv_omega
  unfold partitionEnd
  rw [if_neg different]
  bv_omega

/-- The entries are in the usable range and apart exactly when every partition has a sector. -/
theorem gptEntries_iff {disk : Buffer} (onDisk : GptOnDisk gpt lastBlock disk) :
    (∀ index < gpt.partCount.toNat,
      34 ≤ (entrySectors disk index).first ∧
        (entrySectors disk index).first ≤ (entrySectors disk index).last ∧
        (entrySectors disk index).last ≤ lastBlock.toNat - 33) ↔ GptOccupied gpt lastBlock := by
  have least := valid.least
  have entry {index : Nat} (counted : index < gpt.partCount.toNat) :=
    onDisk.entry_eq (by have most := valid.most; omega) counted
  constructor
  · intro inside
    constructor
    · intro index other
      have bounds := inside index (by omega)
      have usable := valid.usable index (by omega)
      rw [entry (by omega)] at bounds
      dsimp only at bounds
      rw [partitionEnd_other valid other] at bounds
      omega
    · have bounds := inside (gpt.partCount.toNat - 1) (by omega)
      rw [entry (by omega)] at bounds
      dsimp only at bounds
      rw [partitionEnd_last valid] at bounds
      exact bounds.2.1
  · intro occupied index counted
    have usable := valid.usable index counted
    rw [entry counted]
    dsimp only
    by_cases other : index + 1 < gpt.partCount.toNat
    · have length := occupied.others index other
      rw [partitionEnd_other valid other]
      omega
    · have last : index = gpt.partCount.toNat - 1 := by omega
      subst last
      rw [partitionEnd_last valid]
      exact ⟨usable.1, occupied.last, Nat.le_refl _⟩

theorem gptEntries_apart {disk : Buffer} (onDisk : GptOnDisk gpt lastBlock disk)
    (occupied : GptOccupied gpt lastBlock) (first second : Nat) (before : first < second)
    (counted : second < gpt.partCount.toNat) :
    (entrySectors disk first).Disjoint (entrySectors disk second) := by
  have most := valid.most
  have length := occupied.others first (by omega)
  have order := valid.ordered first second before counted
  left
  rw [onDisk.entry_eq (by omega) (by omega), onDisk.entry_eq (by omega) counted]
  dsimp only
  rw [partitionEnd_other valid (by omega)]
  omega

/-- The tables are in order exactly when every partition has a sector. -/
theorem gptTablesValid_iff {disk : Buffer} (onDisk : GptOnDisk gpt lastBlock disk) :
    GptTablesValid gpt lastBlock disk ↔ GptOccupied gpt lastBlock := by
  have large := valid.large
  have regions := onDisk.regions large
  have first : (usableSectors (primaryOn disk)).first = 34 := by
    unfold usableSectors
    rw [onDisk.primary_is.firstUsableLba]
    rfl
  have last : (usableSectors (primaryOn disk)).last = lastBlock.toNat - 33 := by
    have value : gptLastUsableLba (primaryOn disk) = lastBlock - 1 - 32 :=
      onDisk.primary_is.lastUsableLba
    unfold usableSectors
    rw [value]
    bv_omega
  constructor
  · intro tables
    refine (gptEntries_iff valid onDisk).mp fun index counted => ?_
    rw [← first, ← last]
    exact tables.entries index counted
  · intro occupied
    refine ⟨onDisk.writes_regions large, ?_, ?_, ?_, gptEntries_apart valid onDisk occupied,
      ⟨onDisk.converted.myLba, onDisk.converted.alternateLba⟩, ?_, onDisk.converted.crc,
      onDisk.converted.kept, ?_⟩
    · rw [regions]
      simp only [List.pairwise_cons, List.mem_cons, List.not_mem_nil, or_false,
        Sectors.Disjoint, forall_eq_or_imp, forall_eq, List.Pairwise.nil, and_true,
        false_imp_iff, implies_true]
      omega
    · rw [regions]
      simp only [List.mem_cons, List.not_mem_nil, or_false, forall_eq_or_imp, forall_eq]
      omega
    · rw [first, last]
      exact (gptEntries_iff valid onDisk).mpr occupied
    · have bytes : gptEntryBytes (backupOn disk) = 16384 := onDisk.backup_is.bytes rfl rfl
      rw [bytes]
      exact onDisk.backupEntries_agree.trans onDisk.entries_agree.symm
    · intro buffer
      have alternate : gptAlternateLba (primaryOn disk) = lastBlock :=
        onDisk.primary_is.alternateLba
      exact onDisk.converted.back (primaryConvertBackup_converted _ buffer)
        onDisk.primary_is.headerSize (by rw [alternate]; bv_omega)
        onDisk.primary_is.partitionEntryLba onDisk.primary_crc

end Partitions

/-! ### The protective record -/

theorem protectiveBlock_toNat (lastBlock : Ulong) :
    (protectiveBlock lastBlock).toNat = (lastBlock + 1).toNat / 2 ^ 32 := by
  have bound := (lastBlock + 1).isLt
  unfold protectiveBlock
  rw [BitVec.toNat_setWidth, BitVec.toNat_and, BitVec.toNat_ushiftRight, Nat.shiftRight_eq_div_pow]
  change (_ / 2 ^ 32 &&& (2 ^ 32 - 1)) % 2 ^ 32 = _
  rw [Nat.and_two_pow_sub_one_eq_mod, Nat.mod_mod, Nat.mod_eq_of_lt (by omega)]

theorem setByte_same (buffer : Buffer) (address value : Nat) :
    setByte buffer address value address = BitVec.ofNat 8 value := by
  have written := Memory.overwrite_inside buffer address 1
    (fun index => BitVec.ofNat 8 (value / 256 ^ index)) 0 (by decide)
  rwa [Nat.add_zero, pow_zero, Nat.div_one] at written

theorem setByte_other (buffer : Buffer) {address other : Nat} (value : Nat)
    (different : other ≠ address) : setByte buffer address value other = buffer other :=
  Memory.setWord_outside buffer (by omega)

/-- A byte of a word, as the code takes it. -/
theorem byte_shift {width : Nat} (wide : 8 ≤ width) (value : BitVec width) (shift : Nat) :
    BitVec.ofNat 8 (value >>> shift &&& BitVec.ofNat width 0xff).toNat =
      BitVec.ofNat 8 (value.toNat / 2 ^ shift) := by
  have room : 2 ^ 8 ≤ 2 ^ width := Nat.pow_le_pow_right (by decide) wide
  refine BitVec.eq_of_toNat_eq ?_
  rw [BitVec.toNat_and, BitVec.toNat_ushiftRight, Nat.shiftRight_eq_div_pow, BitVec.toNat_ofNat,
    BitVec.toNat_ofNat, BitVec.toNat_ofNat, Nat.mod_eq_of_lt (show 0xff < 2 ^ width by omega)]
  change (_ / 2 ^ shift &&& (2 ^ 8 - 1)) % 2 ^ 8 = _
  rw [Nat.and_two_pow_sub_one_eq_mod, Nat.mod_mod]

theorem protectiveSize_eq (lastBlock : Ulong) :
    Memory.word (createProtectiveMbr zeroPool lastBlock) 458 4 =
      (protectiveBlock lastBlock).toNat := by
  have bound := (protectiveBlock lastBlock).isLt
  have bytes : ∀ index < 4, createProtectiveMbr zeroPool lastBlock (458 + index) =
      BitVec.ofNat 8 ((protectiveBlock lastBlock).toNat / 256 ^ index) := by
    have first := byte_shift (by decide) (protectiveBlock lastBlock) 0
    have second := byte_shift (by decide) (protectiveBlock lastBlock) 8
    have third := byte_shift (by decide) (protectiveBlock lastBlock) 16
    have fourth := byte_shift (by decide) (protectiveBlock lastBlock) 24
    intro index small
    have cases : index = 0 ∨ index = 1 ∨ index = 2 ∨ index = 3 := by omega
    rcases cases with rfl | rfl | rfl | rfl
    · simp (disch := decide) only [createProtectiveMbr, Memory.setWord_outside, setByte_other]
      rw [setByte_same]
      exact first
    · simp (disch := decide) only [createProtectiveMbr, Memory.setWord_outside, setByte_other]
      rw [setByte_same]
      exact second
    · simp (disch := decide) only [createProtectiveMbr, Memory.setWord_outside, setByte_other]
      rw [setByte_same]
      exact third
    · simp (disch := decide) only [createProtectiveMbr, Memory.setWord_outside, setByte_other]
      rw [setByte_same]
      exact fourth
  rw [Memory.word_bytes _ 458 4 bytes, Nat.mod_eq_of_lt (by omega)]

/-- The upper half of what is left of the number is a one at most. -/
theorem protectiveBlock_le (lastBlock : Ulong) :
    (protectiveBlock (protectiveLastBlock lastBlock)).toNat ≤ 1 := by
  have cut : (protectiveLastBlock lastBlock).toNat < 2 ^ 32 := by
    unfold protectiveLastBlock
    bv_omega
  have one : (1 : Ulong).toNat = 1 := rfl
  rw [protectiveBlock_toNat, BitVec.toNat_add, one, Nat.mod_eq_of_lt (by omega)]
  omega

/-- The size in the protective record is never right. -/
theorem protectiveSizeOn_ne {gpt : SunxiGpt} {lastBlock : Ulong} {disk : Buffer}
    (onDisk : GptOnDisk gpt lastBlock disk) (large : 67 ≤ lastBlock.toNat) :
    protectiveSizeOn disk ≠ min lastBlock.toNat 0xffffffff := by
  have size : protectiveSizeOn disk = (protectiveBlock (protectiveLastBlock lastBlock)).toNat :=
    (onDisk.protective.word (by decide)).trans (protectiveSize_eq (protectiveLastBlock lastBlock))
  have small := protectiveBlock_le lastBlock
  rw [size]
  omega

/-! ### The disk as a whole -/

/-- With memory and a disk that takes all writes, the tables are as the rules say if and only if
every partition has a sector; the disk as a whole never is, for the size in the protective
record. -/
theorem gptLayout_valid_iff (gpt : SunxiGpt) (lastBlock : Ulong) (disk : Buffer)
    (valid : GptOrdered gpt lastBlock) :
    (eMMCWriteGpt gpt 512 lastBlock (fun _ => true) (fun _ => true) disk).1 = true ∧
      (GptTablesValid gpt lastBlock (gptDisk gpt lastBlock disk) ↔ GptOccupied gpt lastBlock) ∧
      ¬ GptDiskValid gpt lastBlock (gptDisk gpt lastBlock disk) := by
  have onDisk := gptDisk_onDisk gpt lastBlock disk valid.large
  refine ⟨?_, gptTablesValid_iff valid onDisk, fun whole => ?_⟩
  · rw [eMMCWriteGpt_eq]
  · exact protectiveSizeOn_ne onDisk valid.large whole.protective

/-! ### An ordinary disk -/

/-- A partition of the given first sector and length. -/
def plainPartition (first length : U32) : GptPartition where
  addrhi := 0
  addrlo := first
  lenhi := 0
  lenlo := length
  name := fun _ => 0
  type := fun _ => 0
  uniqueguid := fun _ => 0
  attrhi := 0
  attrlo := 0

/-- A table of one partition of one sector. -/
def smallGpt : SunxiGpt where
  partCount := 1
  array := fun _ => plainPartition 34 1

/-- A boot partition, a system partition after a gap, and one for the rest of the disk. -/
def threeGpt : SunxiGpt where
  partCount := 3
  array := fun index =>
    [plainPartition 34 30, plainPartition 2048 65536, plainPartition 67584 0].getD index
      (plainPartition 0 0)

theorem smallGpt_ordered {lastBlock : Ulong} (large : 67 ≤ lastBlock.toNat) :
    GptOrdered smallGpt lastBlock where
  least := by decide
  most := by decide
  large := large
  ordered first second before counted := by
    change second < 1 at counted
    omega
  usable index _ := by
    have start : (partitionStart (smallGpt.array 0)).toNat = 34 := by decide
    have length : (partitionLength (smallGpt.array 0)).toNat = 1 := by decide
    change 34 ≤ (partitionStart (smallGpt.array 0)).toNat ∧
      (partitionStart (smallGpt.array 0)).toNat + (partitionLength (smallGpt.array 0)).toNat ≤ _
    rw [start, length]
    omega

theorem threeGpt_ordered : GptOrdered threeGpt 15269887 where
  least := by decide
  most := by decide
  large := by decide
  ordered := by
    have all : ∀ second < 3, ∀ first < second,
        (partitionStart (threeGpt.array first)).toNat +
            (partitionLength (threeGpt.array first)).toNat ≤
          (partitionStart (threeGpt.array second)).toNat := by decide
    exact fun first second before counted => all second counted first before
  usable := by decide

theorem gptLayout_valid_iff_threeGpt :
    GptTablesValid threeGpt 15269887 (gptDisk threeGpt 15269887 fun _ => 0) := by
  refine (gptLayout_valid_iff threeGpt 15269887 (fun _ => 0) threeGpt_ordered).2.1.mpr
    ⟨fun index other => ?_, by decide⟩
  have all : ∀ index < 2, 0 < (partitionLength (threeGpt.array index)).toNat := by decide
  exact all index (Nat.lt_of_succ_lt_succ other)

/-- A disk of 8 GB gets a protective record of size zero. -/
theorem gptLayout_not_valid :
    ¬ ∀ gpt lastBlock disk, GptOrdered gpt lastBlock → GptOccupied gpt lastBlock →
      GptDiskValid gpt lastBlock (gptDisk gpt lastBlock disk) := by
  intro claim
  have valid : GptOrdered smallGpt 15269887 := smallGpt_ordered (by decide)
  have occupied : GptOccupied smallGpt 15269887 := by
    refine ⟨fun index other => ?_, by decide⟩
    change index + 1 < 1 at other
    omega
  have whole := claim smallGpt 15269887 (fun _ => 0) valid occupied
  exact protectiveSizeOn_ne (gptDisk_onDisk smallGpt 15269887 (fun _ => 0) valid.large) valid.large
    whole.protective

end PinePhonePkg
