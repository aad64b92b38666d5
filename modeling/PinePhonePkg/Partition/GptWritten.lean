/-
This file says what the writer of the GUID partition table puts on a disk of
sectors of 512 bytes: the fields of the two headers and of the entries, and that
the five writes do not overlap, so that all of them are found on the disk.
-/

import PinePhonePkg.Library.Extents
import PinePhonePkg.Partition.GptAcceptance
import PinePhonePkg.Partition.GptWriter

namespace PinePhonePkg

open Library

/-! ### The headers -/

/-- The fields of a header are those of a table. -/
structure GptHeaderIs (info : GptTableInfo) (header : Buffer) : Prop where
  signature : gptSignature header = efiPtabHeaderId
  headerSize : gptHeaderSize header = 0x5c
  myLba : gptMyLba header = info.myLba
  alternateLba : gptAlternateLba header = info.alternateLba
  firstUsableLba : gptFirstUsableLba header = info.firstLba
  lastUsableLba : gptLastUsableLba header = info.lastLba
  partitionEntryLba : gptPartitionEntryLba header = info.entryLba
  entryNum : gptNumberOfPartitionEntries header = info.entryNum
  entrySize : gptSizeOfPartitionEntry header = info.entrySize

theorem gptHeaderFields_is (info : GptTableInfo) (header : Buffer) :
    GptHeaderIs info (gptHeaderFields info header) := by
  have size (memory : Buffer) :
      BitVec.ofNat 32 (Memory.word (Memory.setWord memory 12 4 0x5c) 12 4) = 0x5c :=
    Memory.word_setWord_toNat memory 12 (0x5c : U32) rfl
  constructor <;>
    simp (disch := decide) only [gptHeaderFields, gptSignature, gptHeaderSize, gptMyLba,
      gptAlternateLba, gptFirstUsableLba, gptLastUsableLba, gptPartitionEntryLba,
      gptNumberOfPartitionEntries, gptSizeOfPartitionEntry, Memory.word_setWord_of_disjoint,
      Memory.word_overwrite_of_disjoint, Memory.word_setWord_toNat, size]

variable {place index : Nat} {first second : Buffer}

theorem GptHeaderIs.congr {info : GptTableInfo} (fields : GptHeaderIs info first)
    (agree : Memory.Agree 92 second first) :
    GptHeaderIs info second where
  signature := (congrArg _ (agree.word (by decide))).trans fields.signature
  headerSize := (congrArg _ (agree.word (by decide))).trans fields.headerSize
  myLba := (congrArg _ (agree.word (by decide))).trans fields.myLba
  alternateLba := (congrArg _ (agree.word (by decide))).trans fields.alternateLba
  firstUsableLba := (congrArg _ (agree.word (by decide))).trans fields.firstUsableLba
  lastUsableLba := (congrArg _ (agree.word (by decide))).trans fields.lastUsableLba
  partitionEntryLba := (congrArg _ (agree.word (by decide))).trans fields.partitionEntryLba
  entryNum := (congrArg _ (agree.word (by decide))).trans fields.entryNum
  entrySize := (congrArg _ (agree.word (by decide))).trans fields.entrySize

theorem GptHeaderIs.bytes {info : GptTableInfo} {header : Buffer}
    (fields : GptHeaderIs info header) (number : info.entryNum = 128)
    (size : info.entrySize = 128) : gptEntryBytes header = 16384 := by
  unfold gptEntryBytes
  rw [fields.entryNum, fields.entrySize, number, size]
  rfl

/-- The checksums are no fields of the table. -/
theorem GptHeaderIs.setWord {info : GptTableInfo} {header : Buffer}
    (fields : GptHeaderIs info header) (checksum : place = 16 ∨ place = 88) (value : Nat) :
    GptHeaderIs info (Memory.setWord header place 4 value) := by
  have word {address count : Nat}
      (disjoint : address + count ≤ 16 ∨ 20 ≤ address ∧ address + count ≤ 88) :
      Memory.word (Memory.setWord header place 4 value) address count =
        Memory.word header address count :=
    Memory.word_setWord_of_disjoint header (by omega)
  constructor
  · exact (congrArg _ (word (by decide))).trans fields.signature
  · exact (congrArg _ (word (by decide))).trans fields.headerSize
  · exact (congrArg _ (word (by decide))).trans fields.myLba
  · exact (congrArg _ (word (by decide))).trans fields.alternateLba
  · exact (congrArg _ (word (by decide))).trans fields.firstUsableLba
  · exact (congrArg _ (word (by decide))).trans fields.lastUsableLba
  · exact (congrArg _ (word (by decide))).trans fields.partitionEntryLba
  · exact (congrArg _ (word (by decide))).trans fields.entryNum
  · exact (congrArg _ (word (by decide))).trans fields.entrySize

/-- A checksum that is computed while its field is zero. -/
theorem gptHeaderCheck_stored (header : Buffer) (free : Memory.word header 16 4 = 0) :
    gptHeaderCrc32 (setGptHeaderCrc32 header
        (sunxiCrc32 header (gptHeaderSize header).toNat)) =
      gptHeaderCheck (setGptHeaderCrc32 header
        (sunxiCrc32 header (gptHeaderSize header).toNat)) := by
  have zero : setGptHeaderCrc32 header 0 = header := by
    have same := Memory.setWord_word header 16 4
    rwa [free] at same
  rw [gptHeaderCheck_setCrc]
  unfold gptHeaderCheck
  rw [zero]
  exact Memory.word_setWord_toNat header 16 _ rfl

theorem word_zeroPool (address count : Nat) : Memory.word zeroPool address count = 0 := by
  induction count generalizing address with
  | zero => rfl
  | succ count inductionHypothesis =>
    unfold Memory.word
    rw [inductionHypothesis]
    rfl

section Created

variable (gpt : SunxiGpt) (info : GptTableInfo) (partEntry : Buffer)

theorem createGptTableAndEntry_is :
    GptHeaderIs info (createGptTableAndEntry gpt info zeroPool partEntry).1 :=
  ((gptHeaderFields_is info zeroPool).setWord (.inr rfl) _).setWord (.inl rfl) _

theorem createGptTableAndEntry_crc :
    gptHeaderCrc32 (createGptTableAndEntry gpt info zeroPool partEntry).1 =
      gptHeaderCheck (createGptTableAndEntry gpt info zeroPool partEntry).1 := by
  refine gptHeaderCheck_stored _ ?_
  simp (disch := decide) only [gptHeaderFields, Memory.word_setWord_of_disjoint,
    Memory.word_overwrite_of_disjoint, word_zeroPool]

theorem createGptTableAndEntry_arrayCrc :
    gptPartitionEntryArrayCrc32 (createGptTableAndEntry gpt info zeroPool partEntry).1 =
      sunxiCrc32 (createGptTableAndEntry gpt info zeroPool partEntry).2
        (info.entryNum * info.entrySize).toNat := by
  have crcAfter : Memory.word (createGptTableAndEntry gpt info zeroPool partEntry).1 88 4 =
      Memory.word (Memory.setWord (gptHeaderFields info zeroPool) 88 4
        (sunxiCrc32 (createGptTableAndEntry gpt info zeroPool partEntry).2
          (info.entryNum * info.entrySize).toNat).toNat) 88 4 :=
    Memory.word_setWord_of_disjoint _ (.inr (by decide))
  unfold gptPartitionEntryArrayCrc32
  rw [crcAfter]
  exact Memory.word_setWord_toNat _ 88 _ rfl

end Created

/-- A header and the other one made of it. -/
structure GptConverted (first second : Buffer) : Prop where
  myLba : gptMyLba second = gptAlternateLba first
  alternateLba : gptAlternateLba second = gptMyLba first
  partitionEntryLba : gptPartitionEntryLba second =
    if gptMyLba first = 1 then gptLastUsableLba first + 1 else 2
  crc : gptHeaderCrc32 second = gptHeaderCheck second
  kept : ∀ place < 92, ¬(16 ≤ place ∧ place < 20) → ¬(24 ≤ place ∧ place < 40) →
    ¬(72 ≤ place ∧ place < 80) → second place = first place

theorem primaryConvertBackup_converted (first second : Buffer) :
    GptConverted first (primaryConvertBackup first second) := by
  constructor
  · simp (disch := decide) only [primaryConvertBackup, gptMyLba, setGptHeaderCrc32,
      Memory.word_setWord_of_disjoint, Memory.word_setWord_toNat]
  · simp (disch := decide) only [primaryConvertBackup, gptAlternateLba, setGptHeaderCrc32,
      Memory.word_setWord_of_disjoint, Memory.word_setWord_toNat]
  · simp (disch := decide) only [primaryConvertBackup, gptPartitionEntryLba, setGptHeaderCrc32,
      Memory.word_setWord_of_disjoint, Memory.word_setWord_toNat]
    rfl
  · refine gptHeaderCheck_stored _ ?_
    exact Memory.word_setWord _ 16 4 0
  · intro place small noCrc noLba noEntries
    simp (disch := omega) only [primaryConvertBackup, setGptHeaderCrc32,
      Memory.setWord_outside]
    have copied := Memory.overwrite_inside second 0 92 first place small
    rwa [Nat.zero_add] at copied

/-- The fields of the header that is made. -/
theorem GptConverted.is {info : GptTableInfo} (converted : GptConverted first second)
    (fields : GptHeaderIs info first) :
    GptHeaderIs { info with
      myLba := info.alternateLba
      alternateLba := info.myLba
      entryLba := if info.myLba = 1 then info.lastLba + 1 else 2 } second := by
  have word {address count : Nat} (inside : address + count ≤ 92)
      (kept : address + count ≤ 16 ∨ 40 ≤ address ∧ address + count ≤ 72 ∨ 80 ≤ address) :
      Memory.word second address count = Memory.word first address count :=
    Memory.word_congr fun index small =>
      converted.kept _ (by omega) (by omega) (by omega) (by omega)
  constructor
  · exact (congrArg _ (word (by decide) (by decide))).trans fields.signature
  · exact (congrArg _ (word (by decide) (by decide))).trans fields.headerSize
  · exact converted.myLba.trans fields.alternateLba
  · exact converted.alternateLba.trans fields.myLba
  · exact (congrArg _ (word (by decide) (by decide))).trans fields.firstUsableLba
  · exact (congrArg _ (word (by decide) (by decide))).trans fields.lastUsableLba
  · rw [converted.partitionEntryLba, fields.myLba, fields.lastUsableLba]
  · exact (congrArg _ (word (by decide) (by decide))).trans fields.entryNum
  · exact (congrArg _ (word (by decide) (by decide))).trans fields.entrySize

/-- The checksum of a header depends on its other bytes. -/
theorem gptHeaderCheck_congr (size : gptHeaderSize second = 0x5c)
    (same : ∀ place < 92, ¬(16 ≤ place ∧ place < 20) → second place = first place) :
    gptHeaderCheck second = gptHeaderCheck first := by
  have sizes : gptHeaderSize second = gptHeaderSize first := by
    refine congrArg (BitVec.ofNat 32) (Memory.word_congr fun index inside => ?_)
    exact same _ (by omega) (by omega)
  unfold gptHeaderCheck
  rw [← sizes, size]
  refine sunxiCrc32_congr fun place small => ?_
  unfold setGptHeaderCrc32 Memory.setWord Memory.overwrite
  split
  · rfl
  · rename_i outside
    exact same place small outside

/-- A header that agrees with a right one has a right checksum. -/
theorem gptHeaderCrc32_congr (size : gptHeaderSize first = 0x5c)
    (crc : gptHeaderCrc32 first = gptHeaderCheck first) (agree : Memory.Agree 92 second first) :
    gptHeaderCrc32 second = gptHeaderCheck second := by
  have sizes : gptHeaderSize second = gptHeaderSize first :=
    congrArg (BitVec.ofNat 32) (agree.word (by decide))
  have stored : gptHeaderCrc32 second = gptHeaderCrc32 first :=
    congrArg (BitVec.ofNat 32) (agree.word (by decide))
  rw [stored, crc, gptHeaderCheck_congr (sizes.trans size) fun place small _ => agree place small]

theorem GptConverted.congr {firstCopy secondCopy : Buffer} (converted : GptConverted first second)
    (size : gptHeaderSize second = 0x5c) (firstAgree : Memory.Agree 92 firstCopy first)
    (secondAgree : Memory.Agree 92 secondCopy second) : GptConverted firstCopy secondCopy := by
  have firstWord {address count : Nat} (inside : address + count ≤ 92) :=
    firstAgree.word inside
  have secondWord {address count : Nat} (inside : address + count ≤ 92) :=
    secondAgree.word inside
  constructor
  · unfold gptMyLba gptAlternateLba
    rw [firstWord (by decide), secondWord (by decide)]
    exact converted.myLba
  · unfold gptMyLba gptAlternateLba
    rw [firstWord (by decide), secondWord (by decide)]
    exact converted.alternateLba
  · unfold gptPartitionEntryLba gptMyLba gptLastUsableLba
    rw [firstWord (by decide), firstWord (by decide), secondWord (by decide)]
    exact converted.partitionEntryLba
  · exact gptHeaderCrc32_congr size converted.crc secondAgree
  · intro place small noCrc noLba noEntries
    rw [firstAgree place small, secondAgree place small]
    exact converted.kept place small noCrc noLba noEntries

/-- Converting a header twice gives it back. -/
theorem GptConverted.back {third : Buffer} (there : GptConverted first second)
    (back : GptConverted second third) (size : gptHeaderSize first = 0x5c)
    (other : gptAlternateLba first ≠ 1) (entries : gptPartitionEntryLba first = 2)
    (crc : gptHeaderCrc32 first = gptHeaderCheck first) : Memory.Agree 92 third first := by
  have my : gptMyLba third = gptMyLba first := back.myLba.trans there.alternateLba
  have alternate : gptAlternateLba third = gptAlternateLba first :=
    back.alternateLba.trans there.myLba
  have entry : gptPartitionEntryLba third = gptPartitionEntryLba first := by
    rw [back.partitionEntryLba, there.myLba, if_neg other, entries]
  have same : ∀ place < 92, ¬(16 ≤ place ∧ place < 20) → third place = first place := by
    intro place small noCrc
    by_cases inMy : 24 ≤ place ∧ place < 32
    · obtain ⟨index, rfl⟩ := Nat.exists_eq_add_of_le inMy.1
      exact Memory.bytes_of_ofNat my (show index < 8 by omega)
    by_cases inAlternate : 32 ≤ place ∧ place < 40
    · obtain ⟨index, rfl⟩ := Nat.exists_eq_add_of_le inAlternate.1
      exact Memory.bytes_of_ofNat alternate (show index < 8 by omega)
    by_cases inEntries : 72 ≤ place ∧ place < 80
    · obtain ⟨index, rfl⟩ := Nat.exists_eq_add_of_le inEntries.1
      exact Memory.bytes_of_ofNat entry (show index < 8 by omega)
    · have noLba : ¬(24 ≤ place ∧ place < 40) := by omega
      rw [back.kept place small noCrc noLba inEntries,
        there.kept place small noCrc noLba inEntries]
  have sizes : gptHeaderSize third = gptHeaderSize first := by
    refine congrArg (BitVec.ofNat 32) (Memory.word_congr fun index inside => ?_)
    exact same _ (by omega) (by omega)
  intro place small
  by_cases inCrc : 16 ≤ place ∧ place < 20
  · have crcs : gptHeaderCrc32 third = gptHeaderCrc32 first := by
      rw [back.crc, crc, gptHeaderCheck_congr (sizes.trans size) same]
    obtain ⟨index, rfl⟩ := Nat.exists_eq_add_of_le inCrc.1
    exact Memory.bytes_of_ofNat crcs (show index < 4 by omega)
  · exact same place small inCrc

/-! ### The entries -/

section Entries

variable (gpt : SunxiGpt) (lastUsable : Ulong)

theorem fillEntry_outside (index : Nat) {address : Nat} (entries : Buffer)
    (outside : place < address ∨ address + 128 ≤ place) :
    fillEntry gpt lastUsable index address entries place = entries place := by
  simp (disch := omega) only [fillEntry, Memory.overwrite_outside, Memory.setWord_outside]

/-- A byte of an entry depends on the byte that was there. -/
theorem fillEntry_local (index address : Nat) (same : first place = second place) :
    fillEntry gpt lastUsable index address first place =
      fillEntry gpt lastUsable index address second place := by
  simp only [fillEntry, Memory.setWord, Memory.overwrite, same]

/-- Where an entry lies. -/
theorem entryAddress (small : index < 128) :
    (BitVec.ofNat 32 index * (128 : U32)).toNat = index * 128 := by
  rw [BitVec.toNat_mul, BitVec.toNat_ofNat]
  change index % 2 ^ 32 * 128 % 2 ^ 32 = index * 128
  rw [Nat.mod_eq_of_lt (by omega), Nat.mod_eq_of_lt (by omega)]

theorem fillEntries_outside {left : Nat} (room : index + left ≤ 128) (entries : Buffer)
    (outside : place < index * 128 ∨ (index + left) * 128 ≤ place) :
    fillEntries gpt lastUsable 128 index left entries place = entries place := by
  induction left generalizing index entries with
  | zero => rfl
  | succ left inductionHypothesis =>
    unfold fillEntries
    rw [entryAddress (by omega), inductionHypothesis (by omega) _ (by omega)]
    exact fillEntry_outside gpt lastUsable index entries (by omega)

/-- Each entry is filled in where no other is. -/
theorem fillEntries_entry {left : Nat} (room : index + left ≤ 128) (entries : Buffer)
    {counted : Nat} (from_index : index ≤ counted) (below : counted < index + left)
    (small : place < 128) :
    fillEntries gpt lastUsable 128 index left entries (counted * 128 + place) =
      fillEntry gpt lastUsable counted (counted * 128) entries (counted * 128 + place) := by
  induction left generalizing index entries with
  | zero => omega
  | succ left inductionHypothesis =>
    unfold fillEntries
    rw [entryAddress (by omega)]
    rcases Nat.eq_or_lt_of_le from_index with rfl | later
    · exact fillEntries_outside gpt lastUsable (by omega) _ (by omega)
    · rw [inductionHypothesis (by omega) _ later (by omega)]
      refine fillEntry_local gpt lastUsable counted _ ?_
      exact fillEntry_outside gpt lastUsable index entries (by omega)

theorem fillEntry_starting (index address : Nat) (entries : Buffer) :
    BitVec.ofNat 64 (Memory.word (fillEntry gpt lastUsable index address entries)
      (address + 32) 8) = partitionStart (gpt.array index) := by
  simp (disch := omega) only [fillEntry, Memory.word_overwrite_of_disjoint,
    Memory.word_setWord_of_disjoint, Memory.word_setWord_toNat]

theorem fillEntry_ending (index address : Nat) (entries : Buffer) :
    BitVec.ofNat 64 (Memory.word (fillEntry gpt lastUsable index address entries)
      (address + 40) 8) = partitionEnd gpt lastUsable index := by
  simp (disch := omega) only [fillEntry, Memory.word_overwrite_of_disjoint,
    Memory.word_setWord_toNat]

theorem fillEntry_name (index address : Nat) (entries : Buffer) (small : place < 36) :
    fillEntry gpt lastUsable index address entries (address + 56 + place) =
      tmpName (gpt.array index).name place :=
  Memory.overwrite_inside _ (address + 56) 36 _ place small

end Entries

/-- The entries that are written, as a table. -/
def gptWrittenTable (gpt : SunxiGpt) (lastBlock : Ulong) : GptTable where
  num := 128
  size := 128
  entries := gptPartEntry gpt 512 lastBlock

theorem gptPartEntry_eq (gpt : SunxiGpt) (lastBlock : Ulong) :
    gptPartEntry gpt 512 lastBlock =
      fillEntries gpt (lastBlock - 33) 128 0 gpt.partCount.toNat zeroPool := by
  have last : (gptTableInfo 512 lastBlock).lastLba = lastBlock - 33 := by
    change lastBlock - 1 - 32 = lastBlock - 33
    bv_omega
  rw [← last]
  rfl

section Table

variable {gpt : SunxiGpt} (lastBlock : Ulong) (most : gpt.partCount.toNat ≤ 128)
include most

theorem gptWrittenTable_entry (counted : index < gpt.partCount.toNat) (small : place < 128) :
    (gptWrittenTable gpt lastBlock).entries (index * 128 + place) =
      fillEntry gpt (lastBlock - 33) index (index * 128) zeroPool (index * 128 + place) := by
  change gptPartEntry gpt 512 lastBlock _ = _
  rw [gptPartEntry_eq]
  exact fillEntries_entry gpt _ (by omega) _ (Nat.zero_le _) (by omega) small

theorem gptWrittenTable_free (free : gpt.partCount.toNat ≤ index) :
    (gptWrittenTable gpt lastBlock).entries (index * 128 + place) = 0 := by
  change gptPartEntry gpt 512 lastBlock _ = _
  rw [gptPartEntry_eq, fillEntries_outside gpt _ (by omega) _ (by omega)]
  rfl

theorem gptWrittenTable_word {count : Nat} (counted : index < gpt.partCount.toNat)
    (inside : place + count ≤ 128) :
    Memory.word (gptWrittenTable gpt lastBlock).entries (index * 128 + place) count =
      Memory.word (fillEntry gpt (lastBlock - 33) index (index * 128) zeroPool)
        (index * 128 + place) count := by
  refine Memory.word_congr fun position small => ?_
  rw [Nat.add_assoc]
  exact gptWrittenTable_entry lastBlock most counted (by omega)

theorem gptWrittenTable_starting (counted : index < gpt.partCount.toNat) :
    (gptWrittenTable gpt lastBlock).starting index = partitionStart (gpt.array index) := by
  have word := gptWrittenTable_word lastBlock most counted (show 32 + 8 ≤ 128 by decide)
  exact (congrArg (BitVec.ofNat 64) word).trans (fillEntry_starting gpt _ index _ _)

theorem gptWrittenTable_ending (counted : index < gpt.partCount.toNat) :
    (gptWrittenTable gpt lastBlock).ending index = partitionEnd gpt (lastBlock - 33) index := by
  have word := gptWrittenTable_word lastBlock most counted (show 40 + 8 ≤ 128 by decide)
  exact (congrArg (BitVec.ofNat 64) word).trans (fillEntry_ending gpt _ index _ _)

end Table

/-! ### The disk -/

/-- The bytes of the disk that are written -/
def BlockWrite.extent (write : BlockWrite) : Extent U8 where
  start := write.lba.toNat * 512
  length := write.size.toNat
  data := write.data

theorem BlockWrite.perform_eq (write : BlockWrite) (disk : Buffer) :
    write.perform 512 disk = write.extent.write disk :=
  rfl

/-- Writes that all succeed are on the disk. -/
theorem writeBlocks_eq (writes : List BlockWrite) (index : Nat) (disk : Buffer) :
    writeBlocks 512 (fun _ => true) index writes disk =
      (true, Extent.writeAll disk (writes.map BlockWrite.extent)) := by
  induction writes generalizing index disk with
  | nil => rfl
  | cons write writes inductionHypothesis =>
    unfold writeBlocks
    rw [if_neg (by decide), inductionHypothesis, BlockWrite.perform_eq, List.map_cons,
      Extent.writeAll_cons]

/-- The five writes. -/
def gptWrites (gpt : SunxiGpt) (lastBlock : Ulong) : List BlockWrite :=
  gptProtectiveWrite 512 lastBlock :: gptTableWrites gpt 512 lastBlock

/-- The disk when memory is not short and no write fails. -/
def gptDisk (gpt : SunxiGpt) (lastBlock : Ulong) (disk : Buffer) : Buffer :=
  (eMMCWriteGpt gpt 512 lastBlock (fun _ => true) (fun _ => true) disk).2

theorem eMMCWriteGpt_eq (gpt : SunxiGpt) (lastBlock : Ulong) (disk : Buffer) :
    eMMCWriteGpt gpt 512 lastBlock (fun _ => true) (fun _ => true) disk =
      (true, Extent.writeAll disk ((gptWrites gpt lastBlock).map BlockWrite.extent)) := by
  simp only [eMMCWriteGpt, Bool.not_true, Bool.false_eq_true, if_false, Bool.and_self]
  rw [writeBlocks_eq, BlockWrite.perform_eq, gptWrites, List.map_cons, Extent.writeAll_cons]

section Headers

variable (gpt : SunxiGpt) (lastBlock : Ulong)

theorem gptPrimaryHeader_is :
    GptHeaderIs (gptTableInfo 512 lastBlock) (gptPrimaryHeader gpt 512 lastBlock) :=
  createGptTableAndEntry_is gpt _ zeroPool

theorem gptBackupHeader_converted :
    GptConverted (gptPrimaryHeader gpt 512 lastBlock) (gptBackupHeader gpt 512 lastBlock) :=
  primaryConvertBackup_converted _ zeroPool

/-- The fields of the backup header. -/
def gptBackupInfo (lastBlock : Ulong) : GptTableInfo :=
  { gptTableInfo 512 lastBlock with
    myLba := lastBlock
    alternateLba := 1
    entryLba := lastBlock - 32 }

theorem gptBackupHeader_is :
    GptHeaderIs (gptBackupInfo lastBlock) (gptBackupHeader gpt 512 lastBlock) := by
  have entries : (gptTableInfo 512 lastBlock).lastLba + 1 = lastBlock - 32 := by
    change lastBlock - 1 - 32 + 1 = lastBlock - 32
    bv_omega
  have fields := (gptBackupHeader_converted gpt lastBlock).is (gptPrimaryHeader_is gpt lastBlock)
  rw [if_pos (show (gptTableInfo 512 lastBlock).myLba = 1 from rfl), entries] at fields
  exact fields

/-- Where the writes go. -/
theorem gptWrites_extents :
    (gptWrites gpt lastBlock).map BlockWrite.extent =
      [⟨0, 512, createProtectiveMbr zeroPool (protectiveLastBlock lastBlock)⟩,
        ⟨512, 512, gptPrimaryHeader gpt 512 lastBlock⟩,
        ⟨1024, 16384, gptPartEntry gpt 512 lastBlock⟩,
        ⟨lastBlock.toNat * 512, 512, gptBackupHeader gpt 512 lastBlock⟩,
        ⟨(lastBlock - 32).toNat * 512, 16384, gptPartEntry gpt 512 lastBlock⟩] := by
  have my : gptMyLba (gptPrimaryHeader gpt 512 lastBlock) = 1 :=
    (gptPrimaryHeader_is gpt lastBlock).myLba
  have entries : gptPartitionEntryLba (gptPrimaryHeader gpt 512 lastBlock) = 2 :=
    (gptPrimaryHeader_is gpt lastBlock).partitionEntryLba
  have bytes : gptEntryBytes (gptPrimaryHeader gpt 512 lastBlock) = 16384 :=
    (gptPrimaryHeader_is gpt lastBlock).bytes rfl rfl
  have backup : gptMyLba (gptBackupHeader gpt 512 lastBlock) = lastBlock :=
    (gptBackupHeader_is gpt lastBlock).myLba
  have backupEntries : gptPartitionEntryLba (gptBackupHeader gpt 512 lastBlock) =
      lastBlock - 32 := (gptBackupHeader_is gpt lastBlock).partitionEntryLba
  have backupBytes : gptEntryBytes (gptBackupHeader gpt 512 lastBlock) = 16384 :=
    (gptBackupHeader_is gpt lastBlock).bytes rfl rfl
  have zero : (0 : Ulong).toNat = 0 := rfl
  have one : (1 : Ulong).toNat = 1 := rfl
  have two : (2 : Ulong).toNat = 2 := rfl
  have sector : (512 : U32).toNat = 512 := rfl
  have array : (16384 : U32).toNat = 16384 := rfl
  simp only [gptWrites, gptTableWrites, gptProtectiveWrite, gptHeaderWrite, gptEntriesWrite,
    List.map_cons, List.map_nil, BlockWrite.extent, my, entries, bytes,
    backup, backupEntries, backupBytes, zero, one, two, sector, array, Nat.zero_mul, Nat.one_mul,
    Nat.reduceMul]

/-- On a disk with room for the tables the writes do not overlap. -/
theorem gptWrites_apart (large : 67 ≤ lastBlock.toNat) :
    ((gptWrites gpt lastBlock).map BlockWrite.extent).Pairwise Extent.Disjoint := by
  have before : (lastBlock - 32).toNat = lastBlock.toNat - 32 := by bv_omega
  rw [gptWrites_extents, before]
  simp only [List.pairwise_cons, List.mem_cons, List.not_mem_nil, or_false, Extent.Disjoint,
    forall_eq_or_imp, forall_eq, List.Pairwise.nil, and_true, false_imp_iff, implies_true]
  omega

/-- What the five writes leave on a disk. -/
structure GptOnDisk (disk : Buffer) : Prop where
  protective : Memory.Agree 512 (Memory.drop disk 0)
    (createProtectiveMbr zeroPool (protectiveLastBlock lastBlock))
  primary : Memory.Agree 512 (Memory.drop disk 512) (gptPrimaryHeader gpt 512 lastBlock)
  entries : Memory.Agree 16384 (Memory.drop disk 1024) (gptPartEntry gpt 512 lastBlock)
  backup : Memory.Agree 512 (Memory.drop disk (lastBlock.toNat * 512))
    (gptBackupHeader gpt 512 lastBlock)
  backupEntries : Memory.Agree 16384 (Memory.drop disk ((lastBlock - 32).toNat * 512))
    (gptPartEntry gpt 512 lastBlock)

theorem gptDisk_onDisk (disk : Buffer) (large : 67 ≤ lastBlock.toNat) :
    GptOnDisk gpt lastBlock (gptDisk gpt lastBlock disk) := by
  have all : gptDisk gpt lastBlock disk =
      Extent.writeAll disk ((gptWrites gpt lastBlock).map BlockWrite.extent) := by
    unfold gptDisk
    rw [eMMCWriteGpt_eq]
  have found {extent : Extent U8}
      (member : extent ∈ (gptWrites gpt lastBlock).map BlockWrite.extent) :
      Memory.Agree extent.length (Memory.drop (gptDisk gpt lastBlock disk) extent.start)
        extent.data :=
    all ▸ Extent.writeAll_holds disk (gptWrites_apart gpt lastBlock large) member
  rw [gptWrites_extents] at found
  constructor
  · exact found (.head _)
  · exact found (.tail _ (.head _))
  · exact found (.tail _ (.tail _ (.head _)))
  · exact found (.tail _ (.tail _ (.tail _ (.head _))))
  · exact found (.tail _ (.tail _ (.tail _ (.tail _ (.head _)))))

end Headers

end PinePhonePkg
