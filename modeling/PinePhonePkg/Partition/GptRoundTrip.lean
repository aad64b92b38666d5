/-
This file reads back the table that the writer put on a disk. The reader accepts
the primary header, finds every partition under its index and its name, and
answers with the sector it starts at; but the size it gives is one sector short,
since the last sector of an entry belongs to the partition.
-/

import PinePhonePkg.Partition.GptLayout

namespace PinePhonePkg

open Library

/-! ### Tables to write -/

section Writable

variable (gpt : SunxiGpt) (names : Nat → List U8) (lastBlock : Ulong)

/-- Partitions of 32 bits within the usable range, with names that differ. -/
structure GptWritable : Prop where
  least : 1 ≤ gpt.partCount.toNat
  most : gpt.partCount.toNat ≤ 120
  large : 67 ≤ lastBlock.toNat
  narrow : ∀ index < gpt.partCount.toNat,
    (gpt.array index).addrhi = 0 ∧ (gpt.array index).lenhi = 0
  filled : ∀ index < gpt.partCount.toNat, (gpt.array index).lenlo ≠ 0
  usable : ∀ index < gpt.partCount.toNat, 34 ≤ (gpt.array index).addrlo.toNat ∧
    (gpt.array index).addrlo.toNat + (gpt.array index).lenlo.toNat ≤ lastBlock.toNat - 32
  named : ∀ index < gpt.partCount.toNat, NameIs (gpt.array index).name (names index) ∧
    names index ≠ [] ∧ (names index).length < 16 ∧ 0 ∉ names index
  distinct : ∀ first second, first < second → second < gpt.partCount.toNat →
    names first ≠ names second

/-- The sectors of a partition; the last one has all up to the last usable sector. -/
def writtenSize (index : Nat) : U32 :=
  if index + 1 = gpt.partCount.toNat then
    (lastBlock - 33 + 1).setWidth 32 - (gpt.array index).addrlo
  else (gpt.array index).lenlo

/-- The accessors find every partition, under its index and its name, and nothing else. -/
structure GptReadsBack (sectors : Nat → U32) (state : GptState) : Prop where
  offset : ∀ index : U32, index < gpt.partCount →
    state.sunxiGptPartitionGetOffset index = some (some (gpt.array index.toNat).addrlo)
  size : ∀ index : U32, index < gpt.partCount →
    state.sunxiGptPartitionGetSize index = some (some (sectors index.toNat))
  offsetByName : ∀ index < gpt.partCount.toNat, ∀ stack,
    state.sunxiGptPartitionGetOffsetByName (names index) stack =
      some (some (gpt.array index).addrlo)
  sizeByName : ∀ index < gpt.partCount.toNat, ∀ stack,
    state.sunxiGptPartitionGetSizeByName (names index) stack = some (some (sectors index))
  infoByName : ∀ index < gpt.partCount.toNat, ∀ stack,
    state.sunxiGptPartitionGetInfoByName (names index) stack =
      some (some ((gpt.array index).addrlo, sectors index))
  missing : ∀ name, name ≠ [] → 0 ∉ name → (∀ index < gpt.partCount.toNat, names index ≠ name) →
    ∀ stack, state.sunxiGptPartitionGetOffsetByName name stack = some none ∧
      state.sunxiGptPartitionGetSizeByName name stack = some none ∧
      state.sunxiGptPartitionGetInfoByName name stack = some none

end Writable

/-! ### The table on the disk -/

section Table

variable {gpt : SunxiGpt} {names : Nat → List U8} {lastBlock : Ulong}
  (writable : GptWritable gpt names lastBlock)
include writable

theorem GptWritable.start {index : Nat} (counted : index < gpt.partCount.toNat) :
    partitionStart (gpt.array index) = (gpt.array index).addrlo.setWidth 64 := by
  unfold partitionStart joinWords
  rw [(writable.narrow index counted).1]
  simp

theorem GptWritable.length {index : Nat} (counted : index < gpt.partCount.toNat) :
    partitionLength (gpt.array index) = (gpt.array index).lenlo.setWidth 64 := by
  unfold partitionLength joinWords
  rw [(writable.narrow index counted).2]
  simp

theorem writtenTable_offset {index : Nat} (counted : index < gpt.partCount.toNat) :
    (gptWrittenTable gpt lastBlock).offset index = (gpt.array index).addrlo := by
  have most := writable.most
  unfold GptTable.offset
  rw [gptWrittenTable_starting lastBlock (by omega) counted, writable.start counted]
  simp

/-- The size that is read is one sector short. -/
theorem writtenTable_sectors {index : Nat} (counted : index < gpt.partCount.toNat) :
    (gptWrittenTable gpt lastBlock).sectors index = writtenSize gpt lastBlock index - 1 := by
  have least := writable.least
  have most := writable.most
  unfold GptTable.sectors
  rw [gptWrittenTable_starting lastBlock (by omega) counted,
    gptWrittenTable_ending lastBlock (by omega) counted, writable.start counted]
  unfold partitionEnd writtenSize
  by_cases last : index + 1 = gpt.partCount.toNat
  · have same : BitVec.ofNat 32 index = gpt.partCount - 1 := by bv_omega
    rw [if_pos same, if_pos last]
    bv_omega
  · have different : BitVec.ofNat 32 index ≠ gpt.partCount - 1 := by
      intro same
      have values := congrArg BitVec.toNat same
      rw [BitVec.toNat_ofNat] at values
      bv_omega
    rw [if_neg different, if_neg last, writable.start counted, writable.length counted]
    bv_omega

/-- The low bytes of the characters that are written are the name. -/
theorem writtenTable_name {index : Nat} (counted : index < gpt.partCount.toNat)
    (stack : Buffer) : NameIs ((gptWrittenTable gpt lastBlock).name stack index) (names index) := by
  have most := writable.most
  obtain ⟨nameIs, -, short, -⟩ := writable.named index counted
  refine nameIs.congr short fun position small => ?_
  have entry := gptWrittenTable_entry lastBlock (by omega) counted
    (show 56 + 2 * position < 128 by omega)
  have filled := fillEntry_name gpt (lastBlock - 33) index (index * 128) zeroPool
    (show 2 * position < 36 by omega)
  rw [← Nat.add_assoc] at entry
  unfold GptTable.name
  rw [if_pos (by omega)]
  refine (entry.trans filled).trans ?_
  unfold tmpName
  rw [if_pos ⟨by omega, by omega⟩, Nat.mul_div_cancel_left _ (by decide)]

/-- An entry that is not used has the empty name. -/
theorem writtenTable_noName {index : Nat} (free : gpt.partCount.toNat ≤ index)
    (stack : Buffer) : NameIs ((gptWrittenTable gpt lastBlock).name stack index) [] := by
  have most := writable.most
  have zero : (gptWrittenTable gpt lastBlock).entries (index * 128 + 56) = 0 :=
    gptWrittenTable_free lastBlock (by omega) free
  exact ⟨fun position inside => absurd inside (Nat.not_lt_zero _), zero⟩

/-- The entries that a name is found in. -/
theorem writtenTable_match {name : List U8} (notEmpty : name ≠ []) (noZero : 0 ∉ name)
    (stack : Buffer) (index : Nat) :
    asciiStrEq name ((gptWrittenTable gpt lastBlock).name stack index) = true ↔
      index < gpt.partCount.toNat ∧ names index = name := by
  rw [asciiStrEq_iff]
  constructor
  · intro found
    by_cases counted : index < gpt.partCount.toNat
    · have named := writtenTable_name writable counted stack
      exact ⟨counted, named.unique found (writable.named index counted).2.2.2 noZero⟩
    · have unnamed := writtenTable_noName writable (Nat.not_lt.mp counted) stack
      exact absurd (found.unique unnamed noZero List.not_mem_nil) notEmpty
  · rintro ⟨counted, rfl⟩
    exact writtenTable_name writable counted stack

theorem writtenTable_find {index : Nat} (counted : index < gpt.partCount.toNat)
    (stack : Buffer) :
    (gptWrittenTable gpt lastBlock).find (names index) stack = some index := by
  have most := writable.most
  obtain ⟨-, notEmpty, -, noZero⟩ := writable.named index counted
  have found := writtenTable_match writable notEmpty noZero stack
  have inTable : index < (128 : U32).toNat := by
    change index < 128
    omega
  refine List.find?_range_eq_some.mpr
    ⟨(found index).mpr ⟨counted, rfl⟩, List.mem_range.mpr inTable, fun earlier before => ?_⟩
  have different := writable.distinct earlier index before counted
  rw [Bool.not_eq_true']
  refine Bool.eq_false_iff.mpr fun same => ?_
  exact different ((found earlier).mp same).2

theorem writtenTable_missing {name : List U8} (notEmpty : name ≠ []) (noZero : 0 ∉ name)
    (missing : ∀ index < gpt.partCount.toNat, names index ≠ name) (stack : Buffer) :
    (gptWrittenTable gpt lastBlock).find name stack = none := by
  refine List.find?_eq_none.mpr fun index _ found => ?_
  obtain ⟨counted, same⟩ := (writtenTable_match writable notEmpty noZero stack index).mp found
  exact missing index counted same

/-- Accessors that answer from the table that was written. -/
theorem GptReadsBack.of_table {state : GptState}
    (answers : state.AnswersFrom (some (gptWrittenTable gpt lastBlock))) :
    GptReadsBack gpt names (fun index => writtenSize gpt lastBlock index - 1) state := by
  have most := writable.most
  have inTable {index : U32} (counted : index < gpt.partCount) :
      index < (gptWrittenTable gpt lastBlock).num := by
    change index < 128
    bv_omega
  have offset {index : Nat} (counted : index < gpt.partCount.toNat) :=
    writtenTable_offset writable counted
  have sectors {index : Nat} (counted : index < gpt.partCount.toNat) :=
    writtenTable_sectors writable counted
  constructor
  · intro index counted
    rw [answers.offset, Option.bind_some, if_pos (inTable counted), offset counted]
  · intro index counted
    rw [answers.size, Option.bind_some, if_pos (inTable counted), sectors counted]
  · intro index counted stack
    rw [answers.offsetByName, Option.bind_some, writtenTable_find writable counted,
      Option.map_some, offset counted]
  · intro index counted stack
    rw [answers.sizeByName, Option.bind_some, writtenTable_find writable counted,
      Option.map_some, sectors counted]
  · intro index counted stack
    rw [answers.infoByName, Option.bind_some, writtenTable_find writable counted,
      Option.map_some, offset counted, sectors counted]
  · intro name notEmpty noZero missing stack
    have none := writtenTable_missing writable notEmpty noZero missing stack
    rw [answers.offsetByName, answers.sizeByName, answers.infoByName, Option.bind_some,
      Option.bind_some, Option.bind_some, none]
    exact ⟨rfl, rfl, rfl⟩

end Table

/-! ### Reading the disk -/

/-- A block device that reads what is on a disk. -/
def diskReader (disk : Buffer) : GptDisk := fun lba _ => (true, sectorAt disk lba.toNat)

section Reading

variable {gpt : SunxiGpt} {lastBlock : Ulong} {disk header : Buffer}
  (onDisk : GptOnDisk gpt lastBlock disk)
  (headerRead : Memory.Agree 512 header (primaryOn disk))
include onDisk headerRead

theorem readHeader_is : GptHeaderIs (gptTableInfo 512 lastBlock) header :=
  onDisk.primary_is.congr (headerRead.mono (by decide))

theorem readHeader_fits : GptSizesFit header 512 := by
  have fields := readHeader_is onDisk headerRead
  have number : gptNumberOfPartitionEntries header = 128 := fields.entryNum
  have size : gptSizeOfPartitionEntry header = 128 := fields.entrySize
  constructor
  · rw [fields.headerSize]
    decide
  · rw [number, size]
    decide

/-- The entries that are read are those that were written. -/
theorem readTable_agrees :
    (gptTableOf (diskReader disk) header).Agrees (gptWrittenTable gpt lastBlock) := by
  have fields := readHeader_is onDisk headerRead
  have lba : gptPartitionEntryLba header = gptPartitionEntryLba (primaryOn disk) :=
    congrArg (BitVec.ofNat 64) (headerRead.word (by decide))
  have number : gptNumberOfPartitionEntries header = 128 := fields.entryNum
  have size : gptSizeOfPartitionEntry header = 128 := fields.entrySize
  refine ⟨number, size, ?_⟩
  change Memory.Agree ((gptNumberOfPartitionEntries header).toNat *
    (gptSizeOfPartitionEntry header).toNat)
    (sectorAt disk (gptPartitionEntryLba header).toNat) (gptPartEntry gpt 512 lastBlock)
  rw [number, size, lba]
  exact onDisk.entries_agree

theorem readHeader_accepted : GptAccepts (diskReader disk) header := by
  have fields := readHeader_is onDisk headerRead
  have bytes : gptEntryBytes header = 16384 := fields.bytes rfl rfl
  have entries := (readTable_agrees onDisk headerRead).entries
  have number : gptNumberOfPartitionEntries header = 128 := fields.entryNum
  have size : gptSizeOfPartitionEntry header = 128 := fields.entrySize
  have stored : gptPartitionEntryArrayCrc32 header =
      gptPartitionEntryArrayCrc32 (gptPrimaryHeader gpt 512 lastBlock) :=
    congrArg (BitVec.ofNat 32) ((headerRead.trans onDisk.primary).word (by decide))
  refine ⟨fields.signature, ?_, ?_, rfl, ?_⟩
  · exact gptHeaderCrc32_congr onDisk.primary_is.headerSize onDisk.primary_crc
      (headerRead.mono (by decide))
  · rw [size]
    decide
  · have created := createGptTableAndEntry_arrayCrc gpt (gptTableInfo 512 lastBlock) zeroPool
    have product : ((gptTableInfo 512 lastBlock).entryNum *
        (gptTableInfo 512 lastBlock).entrySize).toNat = 16384 := by
      change ((128 : U32) * 128).toNat = 16384
      decide
    have length : (16384 : U32).toNat = 16384 := rfl
    have whole : (128 : U32).toNat * (128 : U32).toNat = 16384 := by decide
    rw [product] at created
    rw [stored, bytes, length]
    refine created.trans (sunxiCrc32_congr ?_)
    rw [gptTableOf, number, size, whole] at entries
    exact entries.symm

end Reading

/-! ### Writing and reading -/

theorem GptTable.Agrees.trans {first second third : GptTable} (agrees : first.Agrees second)
    (next : second.Agrees third) : first.Agrees third := by
  refine ⟨agrees.num.trans next.num, agrees.size.trans next.size, agrees.entries.trans ?_⟩
  rw [agrees.num, agrees.size]
  exact next.entries

section RoundTrip

variable {gpt : SunxiGpt} {names : Nat → List U8} {lastBlock : Ulong}
  (writable : GptWritable gpt names lastBlock)
include writable

/-- The reader accepts what was written. -/
theorem gptReadBack (disk : Buffer) (state : GptState) {header : Buffer}
    (headerRead : Memory.Agree 512 header (primaryOn (gptDisk gpt lastBlock disk))) :
    ∃ next after,
      sunxiGptPartitionInitialize state (diskReader (gptDisk gpt lastBlock disk)) header 512 =
        some (.success, next, after) ∧
      GptReadsBack gpt names (fun index => writtenSize gpt lastBlock index - 1) next := by
  have onDisk := gptDisk_onDisk gpt lastBlock disk writable.large
  obtain ⟨status, next, done, accepts, success, -⟩ := sunxiGptPartitionInitialize_spec state
    (diskReader (gptDisk gpt lastBlock disk)) (readHeader_fits onDisk headerRead)
  have accepted := accepts.mpr (readHeader_accepted onDisk headerRead)
  obtain ⟨valid, fits, agrees⟩ := success accepted
  rw [accepted] at done
  refine ⟨next, _, done, GptReadsBack.of_table writable ?_⟩
  exact GptState.answersFrom_some valid fits (agrees.trans (readTable_agrees onDisk headerRead))

/-- A size that is one short is not the size. -/
theorem GptReadsBack.not_whole {state : GptState}
    (short : GptReadsBack gpt names (fun index => writtenSize gpt lastBlock index - 1) state) :
    ¬ GptReadsBack gpt names (writtenSize gpt lastBlock) state := by
  intro whole
  have least := writable.least
  have counted : (0 : U32) < gpt.partCount := by bv_omega
  have same := (short.size 0 counted).symm.trans (whole.size 0 counted)
  simp only [Option.some.injEq] at same
  bv_omega

end RoundTrip

/-- With memory and a disk that takes all writes, the reader accepts the header that was written
and finds every partition, and it gives each of them one sector less than it was written with. -/
theorem gptRoundTrip_short (gpt : SunxiGpt) (names : Nat → List U8) (lastBlock : Ulong)
    (disk : Buffer) (state : GptState) (header : Buffer)
    (writable : GptWritable gpt names lastBlock)
    (headerRead : Memory.Agree 512 header (primaryOn (gptDisk gpt lastBlock disk))) :
    (eMMCWriteGpt gpt 512 lastBlock (fun _ => true) (fun _ => true) disk).1 = true ∧
      ∃ next after,
        sunxiGptPartitionInitialize state (diskReader (gptDisk gpt lastBlock disk)) header 512 =
          some (.success, next, after) ∧
        GptReadsBack gpt names (fun index => writtenSize gpt lastBlock index - 1) next ∧
        ¬ GptReadsBack gpt names (writtenSize gpt lastBlock) next := by
  obtain ⟨next, after, done, short⟩ := gptReadBack writable disk state headerRead
  refine ⟨?_, next, after, done, short, short.not_whole writable⟩
  rw [eMMCWriteGpt_eq]

/-! ### One partition -/

/-- A table of one partition of one sector, with the name a. -/
def namedGpt : SunxiGpt where
  partCount := 1
  array := fun _ => { smallGpt.array 0 with name := fun index => if index = 0 then 97 else 0 }

theorem namedGpt_writable : GptWritable namedGpt (fun _ => [97]) 15269887 where
  least := by decide
  most := by decide
  large := by decide
  narrow _ _ := ⟨rfl, rfl⟩
  filled _ _ := (by decide : (1 : U32) ≠ 0)
  usable _ _ := (by decide : 34 ≤ (34 : U32).toNat ∧
    (34 : U32).toNat + (1 : U32).toNat ≤ (15269887 : Ulong).toNat - 32)
  named _ _ := by
    refine ⟨⟨fun index inside => ?_, rfl⟩, by decide, by decide, by decide⟩
    have first : index = 0 := Nat.lt_one_iff.mp inside
    subst first
    rfl
  distinct first second before counted := by
    change second < 1 at counted
    omega

/-- The reader before its first call. -/
def newGptState : GptState where
  gptBuf := fun _ => 0
  gptStatus := false
  gptPartSize := 0
  gptPartNum := 0

theorem gptRoundTrip_short_named :
    (eMMCWriteGpt namedGpt 512 15269887 (fun _ => true) (fun _ => true) fun _ => 0).1 = true :=
  (gptRoundTrip_short namedGpt (fun _ => [97]) 15269887 (fun _ => 0) newGptState
    (primaryOn (gptDisk namedGpt 15269887 fun _ => 0)) namedGpt_writable fun _ _ => rfl).1

/-- The partition of one sector is read back without a sector. -/
theorem gptRoundTrip_not_whole :
    ¬ ∀ gpt names lastBlock disk state header, GptWritable gpt names lastBlock →
      Memory.Agree 512 header (primaryOn (gptDisk gpt lastBlock disk)) →
      ∃ next after,
        sunxiGptPartitionInitialize state (diskReader (gptDisk gpt lastBlock disk)) header 512 =
          some (.success, next, after) ∧
        GptReadsBack gpt names (writtenSize gpt lastBlock) next := by
  intro claim
  have headerRead : Memory.Agree 512 (primaryOn (gptDisk namedGpt 15269887 fun _ => 0))
      (primaryOn (gptDisk namedGpt 15269887 fun _ => 0)) := fun _ _ => rfl
  obtain ⟨next, after, done, whole⟩ :=
    claim namedGpt (fun _ => [97]) 15269887 (fun _ => 0) newGptState _ namedGpt_writable headerRead
  obtain ⟨other, _, found, short⟩ :=
    gptReadBack namedGpt_writable (fun _ => 0) newGptState headerRead
  have same := (Option.some.inj (done.symm.trans found))
  have states : next = other := congrArg (fun result => result.2.1) same
  exact short.not_whole namedGpt_writable (states ▸ whole)

end PinePhonePkg
