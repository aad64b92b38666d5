/-
This file embeds the erase of the eMMC before a new table of partitions is
burned, and settles what it clears. The erase sends its writes in turn and stops
at the first that fails. For an entry of up to 16 MiB the writes are inside the
partition and cover what they should; the tail of a longer one ends 6 MiB before
the partition does, and an empty entry has its head cleared like a large one.
-/

import PinePhonePkg.Library.Extents
import PinePhonePkg.Library.InTurn
import PinePhonePkg.Partition.Mbr

namespace PinePhonePkg

open Library Program

/-! ### The code -/

/-- `CARD_ERASE_BLOCK_BYTES` -/
def cardEraseBlockBytes : Nat := 8 * 1024 * 1024

/-- `CARD_ERASE_BLOCK_SECTORS` -/
def cardEraseBlockSectors : U32 := 8 * 1024 * 1024 / 512

/-- `BlockSize` of every media of the driver -/
def mediaBlockSize : Nat := 512

/-- `BOOT0_SDMMC_START_ADDR` -/
def eraseBoot0Start : U32 := 256

/-- `UEFI_SDMMC_START_ADDR` -/
def eraseUefiStart : U32 := 512

/-- What the erase asks of others; the answer is whether it went well. All data come from the
buffer of zeros. A write to the disk is for an entry of the table, or for none. -/
inductive EraseRequest : Type where
  | allocateZeroPool (size : Nat)
  | writeBlocks (entry : Option Nat) (lba bufferSize : Ulong)
  | bootFileWrite (startSector nsector : U32)
deriving DecidableEq

/-- A part of the erase, with the result it returns -/
abbrev Eraser (Result : Type) : Type := Program EraseRequest (fun _ => Bool) Result

/-- `array[index].addrlo` -/
def mbrAddrlo (mbr : Buffer) (index : Nat) : U32 :=
  BitVec.ofNat 32 (Memory.word mbr (mbrEntry index + addrloOffset).toNat 4)

/-- `array[index].lenlo` -/
def mbrLenlo (mbr : Buffer) (index : Nat) : U32 :=
  BitVec.ofNat 32 (Memory.word mbr (mbrEntry index + lenloOffset).toNat 4)

/-- The two pieces of a partition that are cleared -/
structure EraseSectors : Type where
  eraseHeadSectors : U32
  eraseHeadAddr : U32
  eraseTailSectors : U32
  eraseTailAddr : U32

/-- The head and the tail that are cleared for a partition -/
def eraseSectors (addrlo lenlo : U32) : EraseSectors :=
  if lenlo > cardEraseBlockSectors * 2 then
    { eraseHeadSectors := cardEraseBlockSectors
      eraseHeadAddr := addrlo
      eraseTailSectors := 2 * 1024 * 1024 / 512
      eraseTailAddr := addrlo + lenlo - cardEraseBlockSectors }
  else if lenlo > cardEraseBlockSectors then
    { eraseHeadSectors := cardEraseBlockSectors
      eraseHeadAddr := addrlo
      eraseTailSectors := 2 * 1024 * 1024 / 512
      eraseTailAddr := addrlo + lenlo - 2 * 1024 * 1024 / 512 }
  else if lenlo > 0 then
    { eraseHeadSectors := lenlo
      eraseHeadAddr := addrlo
      eraseTailSectors := 0
      eraseTailAddr := addrlo }
  else
    { eraseHeadSectors := cardEraseBlockSectors
      eraseHeadAddr := addrlo
      eraseTailSectors := 0
      eraseTailAddr := addrlo }

section Erase

variable (logicOffSetBlock : U32) (mbr : Buffer)

/-- What `WriteBlocks` is asked for by `eMMCFlashIoWrite` -/
def eMMCFlashIoRequest (entry : Nat) (lba numberBlocks : Ulong) : EraseRequest :=
  .writeBlocks (some entry) (lba + logicOffSetBlock.setWidth 64)
    (numberBlocks * BitVec.ofNat 64 mediaBlockSize)

/-- Whether the write goes well -/
def eMMCFlashIoWrite (entry : Nat) (lba numberBlocks : Ulong) : Eraser Bool :=
  Program.send (eMMCFlashIoRequest logicOffSetBlock entry lba numberBlocks)

/-- One turn of the loop over the entries -/
def erasePart (entry : Nat) : Eraser Bool := do
  let sectors := eraseSectors (mbrAddrlo mbr entry) (mbrLenlo mbr entry)
  if ← eMMCFlashIoWrite logicOffSetBlock entry (sectors.eraseHeadAddr.setWidth 64)
      (sectors.eraseHeadSectors.setWidth 64) then
    if sectors.eraseTailSectors ≠ 0 then
      eMMCFlashIoWrite logicOffSetBlock entry (sectors.eraseTailAddr.setWidth 64)
        (sectors.eraseTailSectors.setWidth 64)
    else pure true
  else pure false

/-- The partitions one after the other -/
def eraseParts (entry : Nat) : Nat → Eraser Ulong
  | 0 => pure efiSuccess
  | left + 1 => do
    if ← erasePart logicOffSetBlock mbr entry then eraseParts (entry + 1) left
    else pure efiDeviceError

/-- The status; `PartCount` is compared as unsigned. -/
def eMMCFlashIoErase (erase : Ulong) : Eraser Ulong := do
  if erase = 0 then
    return efiSuccess
  if !(← Program.send (.allocateZeroPool cardEraseBlockBytes)) then
    return efiOutOfResources
  if !(← Program.send (.writeBlocks none (eraseBoot0Start.setWidth 64) (32 * 1024))) then
    return efiDeviceError
  if !(← Program.send (.bootFileWrite eraseBoot0Start
      (BitVec.ofNat 32 (32 * 1024 / mediaBlockSize)))) then
    return efiDeviceError
  if !(← Program.send (.writeBlocks none (eraseUefiStart.setWidth 64) (1024 * 1024))) then
    return efiDeviceError
  if !(← Program.send (.bootFileWrite eraseUefiStart
      (BitVec.ofNat 32 (1024 * 1024 / mediaBlockSize)))) then
    return efiDeviceError
  eraseParts logicOffSetBlock mbr 1 ((mbrPartCount mbr).toNat - 1)

end Erase

/-! ### What is asked of it -/

/-- The bytes of the disk a request clears if it is granted -/
def EraseRequest.extent : EraseRequest → Option (Extent U8)
  | .allocateZeroPool _ => none
  | .writeBlocks _ lba bufferSize => some ⟨lba.toNat * mediaBlockSize, bufferSize.toNat, fun _ => 0⟩
  | .bootFileWrite startSector nsector =>
    some ⟨startSector.toNat * mediaBlockSize, nsector.toNat * mediaBlockSize, fun _ => 0⟩

/-- The disk after a run. A write that fails leaves the disk as it is; there is none in a run
that ends well. -/
def diskAfter (disk : Buffer) (trace : List (Exchange EraseRequest fun _ => Bool)) : Buffer :=
  Extent.writeAll disk <| trace.filterMap fun exchange =>
    if exchange.reply then exchange.request.extent else none

/-- All bytes of a sector are zero. -/
def SectorCleared (disk : Buffer) (sector : Nat) : Prop :=
  ∀ byte < mediaBlockSize, disk (sector * mediaBlockSize + byte) = 0

/-- The table is one of a card; numbers of sectors have 32 bits. -/
structure TableOfCard (mbr : Buffer) (logicOffSetBlock : U32) (sectors : Nat) : Prop where
  numbered : sectors ≤ 2 ^ 32
  count : (mbrPartCount mbr).toNat ≤ sunxiMbrMaxPartCount
  ends : ∀ entry, 1 ≤ entry → entry < (mbrPartCount mbr).toNat →
    logicOffSetBlock.toNat + (mbrAddrlo mbr entry).toNat + (mbrLenlo mbr entry).toNat ≤ sectors

section Contract

variable (logicOffSetBlock : U32) (mbr : Buffer)

/-- The first sector of a partition on the disk -/
def diskSector (entry : Nat) : Nat :=
  logicOffSetBlock.toNat + (mbrAddrlo mbr entry).toNat

/-- A write for an entry stays inside the partition, and inside the buffer of zeros. -/
def EraseInside : EraseRequest → Prop
  | .writeBlocks (some entry) lba bufferSize =>
    diskSector logicOffSetBlock mbr entry ≤ lba.toNat ∧
      lba.toNat * mediaBlockSize + bufferSize.toNat ≤
        (diskSector logicOffSetBlock mbr entry + (mbrLenlo mbr entry).toNat) *
          mediaBlockSize ∧
      bufferSize.toNat ≤ cardEraseBlockBytes
  | _ => True

/-- What an erase has to keep to in every run, and to reach in every run that ends well -/
structure EraseCovers (erase : Ulong) : Prop where
  inside : ∀ trace status, (eMMCFlashIoErase logicOffSetBlock mbr erase).Run trace status →
    ∀ exchange ∈ trace, EraseInside logicOffSetBlock mbr exchange.request
  head : ∀ trace, (eMMCFlashIoErase logicOffSetBlock mbr erase).Run trace efiSuccess →
    ∀ disk entry, 1 ≤ entry → entry < (mbrPartCount mbr).toNat →
      ∀ sector < min (mbrLenlo mbr entry).toNat cardEraseBlockSectors.toNat,
        SectorCleared (diskAfter disk trace) (diskSector logicOffSetBlock mbr entry + sector)
  last : ∀ trace, (eMMCFlashIoErase logicOffSetBlock mbr erase).Run trace efiSuccess →
    ∀ disk entry, 1 ≤ entry → entry < (mbrPartCount mbr).toNat →
      cardEraseBlockSectors.toNat < (mbrLenlo mbr entry).toNat →
        SectorCleared (diskAfter disk trace)
          (diskSector logicOffSetBlock mbr entry + (mbrLenlo mbr entry).toNat - 1)

end Contract

/-- A sector lies in the head or in the tail of a partition, as they are in fact cleared. -/
def InHeadOrTail (addrlo lenlo sector : Nat) : Prop :=
  (addrlo ≤ sector ∧ sector < addrlo + min lenlo 16384) ∨
    (16384 < lenlo ∧ lenlo ≤ 32768 ∧ addrlo + lenlo - 4096 ≤ sector ∧ sector < addrlo + lenlo) ∨
    (32768 < lenlo ∧ addrlo + lenlo - 16384 ≤ sector ∧ sector < addrlo + lenlo - 12288)

/-- No partition is empty, and where one has more than 16 MiB, its last sector is in the head or
the tail of a partition that overlaps it. -/
def ErasesWell (mbr : Buffer) : Prop :=
  ∀ entry, 1 ≤ entry → entry < (mbrPartCount mbr).toNat →
    0 < (mbrLenlo mbr entry).toNat ∧
      (32768 < (mbrLenlo mbr entry).toNat →
        ∃ other, 1 ≤ other ∧ other < (mbrPartCount mbr).toNat ∧
          InHeadOrTail (mbrAddrlo mbr other).toNat (mbrLenlo mbr other).toNat
            ((mbrAddrlo mbr entry).toNat + (mbrLenlo mbr entry).toNat - 1))

/-! ### The erase as a list of requests -/

/-- The requests before the loop, with the status when one is refused -/
def eraseBootRequests : List (EraseRequest × Ulong) :=
  [(.allocateZeroPool cardEraseBlockBytes, efiOutOfResources),
    (.writeBlocks none 256 32768, efiDeviceError), (.bootFileWrite 256 64, efiDeviceError),
    (.writeBlocks none 512 1048576, efiDeviceError), (.bootFileWrite 512 2048, efiDeviceError)]

section Requests

variable (logicOffSetBlock : U32) (mbr : Buffer)

/-- The requests for a partition -/
def erasePartRequests (entry : Nat) : List EraseRequest :=
  let sectors := eraseSectors (mbrAddrlo mbr entry) (mbrLenlo mbr entry)
  eMMCFlashIoRequest logicOffSetBlock entry (sectors.eraseHeadAddr.setWidth 64)
      (sectors.eraseHeadSectors.setWidth 64) ::
    if sectors.eraseTailSectors ≠ 0 then
      [eMMCFlashIoRequest logicOffSetBlock entry (sectors.eraseTailAddr.setWidth 64)
        (sectors.eraseTailSectors.setWidth 64)]
    else []

/-- The requests for all partitions -/
def erasePartsRequests (entry left : Nat) : List EraseRequest :=
  (List.range' entry left).flatMap (erasePartRequests logicOffSetBlock mbr)

/-- All requests of an erase, in order -/
def eraseRequests : List (EraseRequest × Ulong) :=
  eraseBootRequests ++
    (erasePartsRequests logicOffSetBlock mbr 1 ((mbrPartCount mbr).toNat - 1)).map
      fun request => (request, efiDeviceError)

theorem erasePart_eq (entry : Nat) :
    erasePart logicOffSetBlock mbr entry =
      .inTurn true ((erasePartRequests logicOffSetBlock mbr entry).map
        fun request => (request, false)) := by
  unfold erasePart erasePartRequests eMMCFlashIoWrite
  generalize eraseSectors (mbrAddrlo mbr entry) (mbrLenlo mbr entry) = sectors
  by_cases none : sectors.eraseTailSectors = 0
  · simp only [none, ne_eq, not_true_eq_false, if_false]
    rfl
  · simp only [none, ne_eq, not_false_eq_true, if_true, List.map_cons, List.map_nil,
      inTurn_cons _ _ [_], inTurn_single]

theorem eraseParts_eq (entry left : Nat) :
    eraseParts logicOffSetBlock mbr entry left =
      .inTurn efiSuccess ((erasePartsRequests logicOffSetBlock mbr entry left).map
        fun request => (request, efiDeviceError)) := by
  induction left generalizing entry with
  | zero => rfl
  | succ left inductionHypothesis =>
    unfold eraseParts
    rw [erasePart_eq, inductionHypothesis, inTurn_part]
    unfold erasePartsRequests
    rw [List.range'_succ, List.flatMap_cons, List.map_append]

/-- The erase sends its requests in turn. -/
theorem eMMCFlashIoErase_eq {erase : Ulong} (asked : erase ≠ 0) :
    eMMCFlashIoErase logicOffSetBlock mbr erase =
      .inTurn efiSuccess (eraseRequests logicOffSetBlock mbr) := by
  unfold eMMCFlashIoErase
  rw [if_neg asked, eraseParts_eq]
  simp only [inTurn_guard]
  rfl

end Requests

/-! ### The sectors of the requests -/

/-- These sectors are the head of a partition, or its tail. -/
def IsHeadOrTail (addrlo lenlo first count : Nat) : Prop :=
  (first = addrlo ∧ count = if lenlo = 0 then 16384 else min lenlo 16384) ∨
    (16384 < lenlo ∧ count = 4096 ∧
      first = if lenlo ≤ 32768 then addrlo + lenlo - 4096 else addrlo + lenlo - 16384)

theorem eraseSectors_head (addrlo lenlo : U32) :
    (eraseSectors addrlo lenlo).eraseHeadAddr = addrlo ∧
      (eraseSectors addrlo lenlo).eraseHeadSectors.toNat =
        if lenlo.toNat = 0 then 16384 else min lenlo.toNat 16384 := by
  unfold eraseSectors
  have block : cardEraseBlockSectors = 16384 := by decide
  have blocks : cardEraseBlockSectors * 2 = 32768 := by decide
  rw [blocks, block]
  split
  · refine ⟨rfl, ?_⟩
    rw [if_neg (by bv_omega), Nat.min_eq_right (by bv_omega)]
    rfl
  split
  · refine ⟨rfl, ?_⟩
    rw [if_neg (by bv_omega), Nat.min_eq_right (by bv_omega)]
    rfl
  split
  · refine ⟨rfl, ?_⟩
    rw [if_neg (by bv_omega), Nat.min_eq_left (by bv_omega)]
  · refine ⟨rfl, ?_⟩
    rw [if_pos (by bv_omega)]
    rfl

theorem eraseSectors_tail {addrlo lenlo : U32} (ends : addrlo.toNat + lenlo.toNat ≤ 2 ^ 32) :
    (eraseSectors addrlo lenlo).eraseTailSectors =
        (if 16384 < lenlo.toNat then 4096 else 0) ∧
      (16384 < lenlo.toNat → (eraseSectors addrlo lenlo).eraseTailAddr.toNat =
        if lenlo.toNat ≤ 32768 then addrlo.toNat + lenlo.toNat - 4096
        else addrlo.toNat + lenlo.toNat - 16384) := by
  unfold eraseSectors
  have block : cardEraseBlockSectors = 16384 := by decide
  have blocks : cardEraseBlockSectors * 2 = 32768 := by decide
  have tail : (2 * 1024 * 1024 / 512 : U32) = 4096 := by decide
  rw [blocks, block, tail]
  split
  · refine ⟨(if_pos (by bv_omega)).symm, fun long => ?_⟩
    rw [if_neg (by bv_omega)]
    show (addrlo + lenlo - 16384).toNat = _
    bv_omega
  split
  · refine ⟨(if_pos (by bv_omega)).symm, fun long => ?_⟩
    rw [if_pos (by bv_omega)]
    show (addrlo + lenlo - 4096).toNat = _
    bv_omega
  split
  · exact ⟨(if_neg (by bv_omega)).symm, fun long => absurd long (by bv_omega)⟩
  · exact ⟨(if_neg (by bv_omega)).symm, fun long => absurd long (by bv_omega)⟩

section Sectors

variable {logicOffSetBlock : U32} {mbr : Buffer} {sectors : Nat}

/-- The request for a number of sectors of an entry -/
def sectorsRequest (logicOffSetBlock : U32) (entry : Nat) (first count : U32) : EraseRequest :=
  eMMCFlashIoRequest logicOffSetBlock entry (first.setWidth 64) (count.setWidth 64)

theorem toNat_requestLba (logicOffSetBlock first : U32) :
    (first.setWidth 64 + logicOffSetBlock.setWidth 64 : Ulong).toNat =
      logicOffSetBlock.toNat + first.toNat := by
  have firstSmall := first.isLt
  have offsetSmall := logicOffSetBlock.isLt
  rw [BitVec.toNat_add, BitVec.toNat_setWidth_of_le (by decide),
    BitVec.toNat_setWidth_of_le (by decide), Nat.mod_eq_of_lt (by omega), Nat.add_comm]

theorem toNat_requestSize (count : U32) :
    (count.setWidth 64 * BitVec.ofNat 64 mediaBlockSize : Ulong).toNat =
      count.toNat * mediaBlockSize := by
  have small := count.isLt
  have size : (BitVec.ofNat 64 mediaBlockSize).toNat = mediaBlockSize := by decide
  rw [BitVec.toNat_mul, BitVec.toNat_setWidth_of_le (by decide), size]
  unfold mediaBlockSize
  exact Nat.mod_eq_of_lt (by omega)

theorem extent_sectorsRequest (entry : Nat) (first count : U32) :
    (sectorsRequest logicOffSetBlock entry first count).extent =
      some ⟨(logicOffSetBlock.toNat + first.toNat) * mediaBlockSize,
        count.toNat * mediaBlockSize, fun _ => 0⟩ := by
  show some (Extent.mk (BitVec.toNat _ * _) (BitVec.toNat _) _) = _
  rw [toNat_requestLba, toNat_requestSize]

theorem eraseInside_sectorsRequest (entry : Nat) (first count : U32) :
    EraseInside logicOffSetBlock mbr (sectorsRequest logicOffSetBlock entry first count) ↔
      (mbrAddrlo mbr entry).toNat ≤ first.toNat ∧
        first.toNat + count.toNat ≤ (mbrAddrlo mbr entry).toNat + (mbrLenlo mbr entry).toNat ∧
        count.toNat ≤ 16384 := by
  show _ ≤ BitVec.toNat _ ∧ BitVec.toNat _ * _ + BitVec.toNat _ ≤ _ ∧ BitVec.toNat _ ≤ _ ↔ _
  rw [toNat_requestLba, toNat_requestSize]
  unfold diskSector mediaBlockSize cardEraseBlockBytes
  omega

/-- The requests for an entry are for its head and its tail. -/
theorem mem_erasePartRequests_iff {entry : Nat}
    (ends : (mbrAddrlo mbr entry).toNat + (mbrLenlo mbr entry).toNat ≤ 2 ^ 32)
    {request : EraseRequest} :
    request ∈ erasePartRequests logicOffSetBlock mbr entry ↔
      ∃ first count : U32,
        IsHeadOrTail (mbrAddrlo mbr entry).toNat (mbrLenlo mbr entry).toNat
          first.toNat count.toNat ∧
          request = sectorsRequest logicOffSetBlock entry first count := by
  obtain ⟨headAddr, headSectors⟩ := eraseSectors_head (mbrAddrlo mbr entry) (mbrLenlo mbr entry)
  obtain ⟨tailSectors, tailAddr⟩ := eraseSectors_tail ends
  unfold erasePartRequests IsHeadOrTail
  dsimp only
  constructor
  · intro member
    rcases List.mem_cons.mp member with head | tail
    · exact ⟨_, _, Or.inl ⟨congrArg BitVec.toNat headAddr, headSectors⟩, head⟩
    · by_cases long : 16384 < (mbrLenlo mbr entry).toNat
      · rw [tailSectors, if_pos long, if_pos (by decide)] at tail
        exact ⟨_, 4096, Or.inr ⟨long, rfl, tailAddr long⟩, List.mem_singleton.mp tail⟩
      · rw [tailSectors, if_neg long, if_neg (by decide)] at tail
        exact absurd tail List.not_mem_nil
  · rintro ⟨first, count, head | tail, rfl⟩
    · refine List.mem_cons.mpr (Or.inl ?_)
      rw [headAddr, BitVec.eq_of_toNat_eq head.1,
        BitVec.eq_of_toNat_eq (head.2.trans headSectors.symm)]
      rfl
    · obtain ⟨long, count4096, place⟩ := tail
      refine List.mem_cons.mpr (Or.inr ?_)
      rw [tailSectors, if_pos long, if_pos (by decide), List.mem_singleton,
        BitVec.eq_of_toNat_eq (place.trans (tailAddr long).symm),
        show count = 4096 from BitVec.eq_of_toNat_eq count4096]
      rfl

end Sectors

/-! ### Runs, and the disk after them -/

theorem diskAfter_granted (disk : Buffer) (steps : List (EraseRequest × Ulong)) :
    diskAfter disk (steps.map fun step => granted step.1) =
      Extent.writeAll disk (steps.filterMap fun step => step.1.extent) := by
  unfold diskAfter
  rw [List.filterMap_map]
  rfl

theorem data_of_mem_extents {steps : List (EraseRequest × Ulong)} {extent : Extent U8}
    (member : extent ∈ steps.filterMap fun step => step.1.extent) (address : Nat) :
    extent.data address = 0 := by
  obtain ⟨⟨request, status⟩, -, made⟩ := List.mem_filterMap.mp member
  cases request with
  | allocateZeroPool size => exact absurd made (Option.some_ne_none _).symm
  | writeBlocks entry lba bufferSize =>
    obtain rfl := Option.some.inj made
    rfl
  | bootFileWrite startSector nsector =>
    obtain rfl := Option.some.inj made
    rfl

/-- A sector of one of the requests is cleared. -/
theorem sectorCleared_of_mem (disk : Buffer) {steps : List (EraseRequest × Ulong)}
    {step : EraseRequest × Ulong} (member : step ∈ steps) {first count sector : Nat}
    {zeros : Buffer}
    (whole : step.1.extent = some ⟨first * mediaBlockSize, count * mediaBlockSize, zeros⟩)
    (after : first ≤ sector) (before : sector < first + count) :
    SectorCleared (diskAfter disk (steps.map fun step => granted step.1)) sector := by
  intro byte inside
  rw [diskAfter_granted]
  refine Extent.writeAll_of_covered disk (fun extent => data_of_mem_extents)
    ⟨_, List.mem_filterMap.mpr ⟨step, member, whole⟩, ?_⟩
  unfold mediaBlockSize at inside ⊢
  dsimp only
  omega

/-- On a disk without zeros, only sectors of the requests are cleared. -/
theorem mem_of_sectorCleared {steps : List (EraseRequest × Ulong)} {sector : Nat}
    (cleared : SectorCleared
      (diskAfter (fun _ => 1) (steps.map fun step => granted step.1)) sector) :
    ∃ step ∈ steps, ∃ extent, step.1.extent = some extent ∧
      extent.start ≤ sector * mediaBlockSize ∧
        sector * mediaBlockSize < extent.start + extent.length := by
  by_contra none
  have zero := cleared 0 (by decide)
  rw [diskAfter_granted, Nat.add_zero, Extent.writeAll_outside] at zero
  · exact absurd zero (by decide)
  · intro extent member
    obtain ⟨step, among, made⟩ := List.mem_filterMap.mp member
    by_contra inside
    exact none ⟨step, among, extent, made, by omega, by omega⟩

section Runs

variable {logicOffSetBlock : U32} {mbr : Buffer} {erase : Ulong}
  {trace : List (Exchange EraseRequest fun _ => Bool)} {status : Ulong}

theorem eraseRequests_fail :
    ∀ step ∈ eraseRequests logicOffSetBlock mbr, step.2 ≠ efiSuccess := by
  intro step member
  rcases List.mem_append.mp member with boot | part
  · have fails : ∀ other ∈ eraseBootRequests, other.2 ≠ efiSuccess := by decide
    exact fails step boot
  · obtain ⟨request, -, rfl⟩ := List.mem_map.mp part
    show efiDeviceError ≠ efiSuccess
    decide

/-- The erase ends well in the one run in which every request is granted. -/
theorem run_eMMCFlashIoErase_iff (asked : erase ≠ 0) :
    (eMMCFlashIoErase logicOffSetBlock mbr erase).Run trace efiSuccess ↔
      trace = (eraseRequests logicOffSetBlock mbr).map fun step => granted step.1 := by
  rw [eMMCFlashIoErase_eq _ _ asked]
  exact run_inTurn_iff eraseRequests_fail

theorem mem_erasePartsRequests_iff {request : EraseRequest} :
    request ∈ erasePartsRequests logicOffSetBlock mbr 1 ((mbrPartCount mbr).toNat - 1) ↔
      ∃ entry, 1 ≤ entry ∧ entry < (mbrPartCount mbr).toNat ∧
        request ∈ erasePartRequests logicOffSetBlock mbr entry := by
  unfold erasePartsRequests
  rw [List.mem_flatMap]
  constructor
  · rintro ⟨entry, range, member⟩
    have bounds := List.mem_range'_1.mp range
    exact ⟨entry, by omega, by omega, member⟩
  · rintro ⟨entry, positive, below, member⟩
    exact ⟨entry, List.mem_range'_1.mpr ⟨positive, by omega⟩, member⟩

/-- A run sends requests of the list only, and those for entries are for the head or the tail. -/
theorem run_eMMCFlashIoErase_sends (asked : erase ≠ 0)
    (run : (eMMCFlashIoErase logicOffSetBlock mbr erase).Run trace status)
    {exchange : Exchange EraseRequest fun _ => Bool} (member : exchange ∈ trace) :
    (∃ step ∈ eraseBootRequests, step.1 = exchange.request) ∨
      ∃ entry, 1 ≤ entry ∧ entry < (mbrPartCount mbr).toNat ∧
        exchange.request ∈ erasePartRequests logicOffSetBlock mbr entry := by
  rw [eMMCFlashIoErase_eq _ _ asked] at run
  obtain ⟨step, among, same⟩ := inTurn_sends run member
  rcases List.mem_append.mp among with boot | part
  · exact Or.inl ⟨step, boot, same⟩
  · obtain ⟨request, listed, rfl⟩ := List.mem_map.mp part
    subst same
    exact Or.inr (mem_erasePartsRequests_iff.mp listed)

theorem mem_eraseRequests {entry : Nat} (positive : 1 ≤ entry)
    (below : entry < (mbrPartCount mbr).toNat) {request : EraseRequest}
    (member : request ∈ erasePartRequests logicOffSetBlock mbr entry) :
    (request, efiDeviceError) ∈ eraseRequests logicOffSetBlock mbr :=
  List.mem_append_right _ (List.mem_map.mpr
    ⟨request, mem_erasePartsRequests_iff.mpr ⟨entry, positive, below, member⟩, rfl⟩)

end Runs

/-! ### When the erase covers what it should -/

theorem inHeadOrTail_iff {addrlo lenlo sector : Nat} (positive : 0 < lenlo) :
    InHeadOrTail addrlo lenlo sector ↔
      ∃ first count, IsHeadOrTail addrlo lenlo first count ∧
        first ≤ sector ∧ sector < first + count := by
  unfold InHeadOrTail IsHeadOrTail
  constructor
  · rintro (head | middle | long)
    · exact ⟨addrlo, min lenlo 16384, Or.inl ⟨rfl, (if_neg (by omega)).symm⟩, head⟩
    · exact ⟨addrlo + lenlo - 4096, 4096, Or.inr ⟨middle.1, rfl, (if_pos middle.2.1).symm⟩,
        by omega⟩
    · exact ⟨addrlo + lenlo - 16384, 4096,
        Or.inr ⟨by omega, rfl, (if_neg (by omega)).symm⟩, by omega⟩
  · rintro ⟨first, count, head | tail, inside⟩
    · rw [if_neg (by omega)] at head
      omega
    · obtain ⟨long, rfl, place⟩ := tail
      split at place <;> omega

section Table

variable {logicOffSetBlock : U32} {mbr : Buffer} {erase : Ulong} {sectors entry : Nat}

theorem TableOfCard.entryEnds (table : TableOfCard mbr logicOffSetBlock sectors)
    (positive : 1 ≤ entry) (below : entry < (mbrPartCount mbr).toNat) :
    (mbrAddrlo mbr entry).toNat + (mbrLenlo mbr entry).toNat ≤ 2 ^ 32 := by
  have ends := table.ends entry positive below
  have numbered := table.numbered
  omega

/-- The head and the tail of a partition are cleared in a run that ends well. -/
theorem TableOfCard.cleared (table : TableOfCard mbr logicOffSetBlock sectors)
    (positive : 1 ≤ entry) (below : entry < (mbrPartCount mbr).toNat)
    (filled : 0 < (mbrLenlo mbr entry).toNat) (disk : Buffer) {sector : Nat}
    (inside : InHeadOrTail (mbrAddrlo mbr entry).toNat (mbrLenlo mbr entry).toNat sector) :
    SectorCleared
      (diskAfter disk ((eraseRequests logicOffSetBlock mbr).map
        fun step => granted step.1))
      (logicOffSetBlock.toNat + sector) := by
  have ends := table.entryEnds positive below
  obtain ⟨first, count, piece, after, before⟩ := (inHeadOrTail_iff filled).mp inside
  have bounded : first < 2 ^ 32 ∧ count < 2 ^ 32 := by
    rcases piece with ⟨rfl, size⟩ | ⟨long, rfl, place⟩
    · exact ⟨BitVec.isLt _, by split at size <;> omega⟩
    · exact ⟨by split at place <;> omega, by decide⟩
  obtain ⟨firstWord, rfl⟩ : ∃ word : U32, word.toNat = first :=
    ⟨BitVec.ofNatLT first bounded.1, rfl⟩
  obtain ⟨countWord, rfl⟩ : ∃ word : U32, word.toNat = count :=
    ⟨BitVec.ofNatLT count bounded.2, rfl⟩
  have member : sectorsRequest logicOffSetBlock entry firstWord countWord ∈
      erasePartRequests logicOffSetBlock mbr entry :=
    (mem_erasePartRequests_iff ends).mpr ⟨_, _, piece, rfl⟩
  exact sectorCleared_of_mem disk (mem_eraseRequests positive below member)
    (extent_sectorsRequest entry _ _) (by omega) (by omega)

/-- Nothing but the head and the tail of some partition is cleared behind the boot areas. -/
theorem TableOfCard.inHeadOrTail (table : TableOfCard mbr logicOffSetBlock sectors)
    (filled : ∀ other, 1 ≤ other → other < (mbrPartCount mbr).toNat →
      0 < (mbrLenlo mbr other).toNat) {sector : Nat} (behind : 2560 ≤ sector)
    (cleared : SectorCleared
      (diskAfter (fun _ => 1) ((eraseRequests logicOffSetBlock mbr).map
        fun step => granted step.1))
      (logicOffSetBlock.toNat + sector)) :
    ∃ other, 1 ≤ other ∧ other < (mbrPartCount mbr).toNat ∧
      InHeadOrTail (mbrAddrlo mbr other).toNat (mbrLenlo mbr other).toNat sector := by
  obtain ⟨step, member, extent, made, after, before⟩ := mem_of_sectorCleared cleared
  rcases List.mem_append.mp member with boot | part
  · have bootEnds : ∀ step ∈ eraseBootRequests, ∀ extent ∈ step.1.extent,
        extent.start + extent.length ≤ 2560 * mediaBlockSize := by
      simp only [eraseBootRequests, List.forall_mem_cons, EraseRequest.extent, mediaBlockSize]
      decide
    have ends := bootEnds step boot extent made
    unfold mediaBlockSize at before ends
    omega
  · obtain ⟨request, listed, rfl⟩ := List.mem_map.mp part
    obtain ⟨other, positive, below, among⟩ := mem_erasePartsRequests_iff.mp listed
    obtain ⟨first, count, piece, rfl⟩ :=
      (mem_erasePartRequests_iff (table.entryEnds positive below)).mp among
    obtain rfl := Option.some.inj ((extent_sectorsRequest other first count).symm.trans made)
    refine ⟨other, positive, below, (inHeadOrTail_iff (filled other positive below)).mpr
      ⟨_, _, piece, ?_⟩⟩
    unfold mediaBlockSize at after before
    dsimp only at after before
    omega

/-- A partition that is empty is cleared outside, and the last sector of a long one only by
chance. -/
theorem EraseCovers.erasesWell (covers : EraseCovers logicOffSetBlock mbr erase)
    (asked : erase ≠ 0) (table : TableOfCard mbr logicOffSetBlock sectors) : ErasesWell mbr := by
  have run : (eMMCFlashIoErase logicOffSetBlock mbr erase).Run
      ((eraseRequests logicOffSetBlock mbr).map fun step => granted step.1) efiSuccess :=
    (run_eMMCFlashIoErase_iff asked).mpr rfl
  have filled : ∀ entry, 1 ≤ entry → entry < (mbrPartCount mbr).toNat →
      0 < (mbrLenlo mbr entry).toNat := by
    intro entry positive below
    obtain ⟨headAddr, headSectors⟩ := eraseSectors_head (mbrAddrlo mbr entry) (mbrLenlo mbr entry)
    have inside := covers.inside _ _ run _ (List.mem_map_of_mem
      (mem_eraseRequests positive below List.mem_cons_self))
    have bounds := (eraseInside_sectorsRequest entry _ _).mp inside
    rw [headAddr, headSectors] at bounds
    split at bounds <;> omega
  intro entry positive below
  refine ⟨filled entry positive below, fun long => ?_⟩
  have cleared := covers.last _ run (fun _ => 1) entry positive below
    (Nat.lt_trans (by decide) long)
  refine table.inHeadOrTail filled (by omega) ?_
  unfold diskSector at cleared
  rw [Nat.add_assoc, Nat.add_sub_assoc (by omega)] at cleared
  exact cleared

theorem ErasesWell.eraseCovers (well : ErasesWell mbr) (asked : erase ≠ 0)
    (table : TableOfCard mbr logicOffSetBlock sectors) :
    EraseCovers logicOffSetBlock mbr erase where
  inside trace status run exchange member := by
    rcases run_eMMCFlashIoErase_sends asked run member with ⟨step, boot, same⟩ | part
    · have boots : ∀ step ∈ eraseBootRequests, EraseInside logicOffSetBlock mbr step.1 := by
        simp [eraseBootRequests, EraseInside]
      rw [← same]
      exact boots step boot
    · obtain ⟨entry, positive, below, among⟩ := part
      obtain ⟨filled, -⟩ := well entry positive below
      obtain ⟨first, count, piece, same⟩ :=
        (mem_erasePartRequests_iff (table.entryEnds positive below)).mp among
      rw [same, eraseInside_sectorsRequest]
      rcases piece with ⟨start, size⟩ | ⟨long, size, place⟩
      · rw [if_neg (by omega)] at size
        omega
      · split at place <;> omega
  head trace run disk entry positive below sector inside := by
    obtain rfl := (run_eMMCFlashIoErase_iff asked).mp run
    have block : cardEraseBlockSectors.toNat = 16384 := by decide
    rw [block] at inside
    unfold diskSector
    rw [Nat.add_assoc]
    exact table.cleared positive below (well entry positive below).1 disk
      (Or.inl ⟨by omega, by omega⟩)
  last trace run disk entry positive below long := by
    obtain rfl := (run_eMMCFlashIoErase_iff asked).mp run
    have block : cardEraseBlockSectors.toNat = 16384 := by decide
    rw [block] at long
    obtain ⟨filled, lastOf⟩ := well entry positive below
    unfold diskSector
    rw [Nat.add_assoc, Nat.add_sub_assoc (by omega)]
    by_cases longer : 32768 < (mbrLenlo mbr entry).toNat
    · obtain ⟨other, otherPositive, otherBelow, among⟩ := lastOf longer
      exact table.cleared otherPositive otherBelow (well other otherPositive otherBelow).1 disk
        among
    · exact table.cleared positive below filled disk (Or.inr (Or.inl (by omega)))

/-- The erase covers the partitions of a table, and nothing outside them, exactly if none is empty
and none is longer than 16 MiB, save with the help of another. -/
theorem eraseCovers_iff (asked : erase ≠ 0) (table : TableOfCard mbr logicOffSetBlock sectors) :
    EraseCovers logicOffSetBlock mbr erase ↔ ErasesWell mbr :=
  ⟨fun covers => covers.erasesWell asked table, fun well => well.eraseCovers asked table⟩

end Table

/-! ### Tables with one partition -/

/-- A table with the entry 0 and one more, which has this many sectors from sector 32768 on. -/
def tableWith (lenlo : U32) : Buffer :=
  Memory.setWord (Memory.setWord (Memory.setWord (fun _ => 0) 24 4 2) 164 4 32768) 172 4
    lenlo.toNat

theorem mbrPartCount_tableWith (lenlo : U32) : mbrPartCount (tableWith lenlo) = 2 := by
  unfold mbrPartCount tableWith
  rw [Memory.word_setWord_of_disjoint _ (by decide), Memory.word_setWord_of_disjoint _ (by decide)]
  decide

theorem mbrAddrlo_tableWith (lenlo : U32) : mbrAddrlo (tableWith lenlo) 1 = 32768 := by
  show BitVec.ofNat 32 (Memory.word (tableWith lenlo) 164 4) = 32768
  unfold tableWith
  rw [Memory.word_setWord_of_disjoint _ (by decide)]
  decide

theorem mbrLenlo_tableWith (lenlo : U32) : mbrLenlo (tableWith lenlo) 1 = lenlo :=
  Memory.word_setWord_toNat _ 172 lenlo rfl

theorem eq_one_of_tableWith {lenlo : U32} {entry : Nat} (positive : 1 ≤ entry)
    (below : entry < (mbrPartCount (tableWith lenlo)).toNat) : entry = 1 := by
  rw [mbrPartCount_tableWith] at below
  exact Nat.le_antisymm (Nat.le_of_lt_succ below) positive

theorem tableWith_tableOfCard {lenlo : U32} (short : lenlo.toNat ≤ 40000) :
    TableOfCard (tableWith lenlo) 0 0x1d5a000 where
  numbered := by decide
  count := by
    rw [mbrPartCount_tableWith]
    decide
  ends entry positive below := by
    rw [eq_one_of_tableWith positive below, mbrAddrlo_tableWith, mbrLenlo_tableWith]
    show 0 + 32768 + lenlo.toNat ≤ _
    omega

/-- The length of the one partition decides. -/
theorem tableWith_erasesWell_iff (lenlo : U32) :
    ErasesWell (tableWith lenlo) ↔ 0 < lenlo.toNat ∧ lenlo.toNat ≤ 32768 := by
  have start : (32768 : U32).toNat = 32768 := rfl
  constructor
  · intro well
    obtain ⟨positive, last⟩ := well 1 (Nat.le_refl _) (by rw [mbrPartCount_tableWith]; decide)
    rw [mbrLenlo_tableWith] at positive last
    refine ⟨positive, Nat.le_of_not_lt fun long => ?_⟩
    obtain ⟨other, otherPositive, below, among⟩ := last long
    rw [eq_one_of_tableWith otherPositive below, mbrAddrlo_tableWith, mbrLenlo_tableWith, start]
      at among
    unfold InHeadOrTail at among
    omega
  · rintro ⟨filled, short⟩ entry positive below
    rw [eq_one_of_tableWith positive below, mbrLenlo_tableWith]
    exact ⟨filled, fun long => absurd long (Nat.not_lt.mpr short)⟩

theorem eraseCovers_iff_twentyThousand :
    EraseCovers 0 (tableWith 20000) 1 ↔ ErasesWell (tableWith 20000) :=
  eraseCovers_iff (by decide) (tableWith_tableOfCard (by decide))

/-- The tail of a partition of 40000 sectors is not cleared to its end, and an empty partition is
cleared as if it had 16384 sectors. -/
theorem not_eraseCovers :
    ¬ EraseCovers 0 (tableWith 40000) 1 ∧ ¬ EraseCovers 0 (tableWith 0) 1 := by
  constructor
  · intro covers
    have well := covers.erasesWell (by decide) (tableWith_tableOfCard (by decide))
    exact absurd ((tableWith_erasesWell_iff _).mp well).2 (by decide)
  · intro covers
    have well := covers.erasesWell (by decide) (tableWith_tableOfCard (by decide))
    exact absurd ((tableWith_erasesWell_iff _).mp well).1 (by decide)

end PinePhonePkg
