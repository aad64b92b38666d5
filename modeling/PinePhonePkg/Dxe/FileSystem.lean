/-
This file models the block device of the file system partition. It finds the
partition in the table of the eMMC and hands its requests, moved to the start of
the partition, to the transfer for whole disks. The test there compares the moved
sector with the size of the partition and not with its end, so it lets requests
through and turns requests down according to where the partition is.
-/

import PinePhonePkg.Dxe.ReadWrite
import PinePhonePkg.Partition.Gpt

namespace PinePhonePkg

open Library

/-! ### Where the partition is -/

def sunxiUsbMassGptPartNum : U32 := 3

def sunxiGptPrimaryHeaderLba : Ulong := 1

def mmcLogicalOffset : U32 := 0

/-- `FileSystemBase`, `gFileSyStemSize` and what the partition library keeps -/
structure FsState : Type where
  fileSystemBase : U32
  gFileSyStemSize : U32
  gpt : GptState

/-- Whether it succeeds, and the state after. Only the 32 low bits of a number of sectors are
kept. `pool` is what is in the allocated block at first. -/
def sunxiGetFsOffset (fs : FsState) (disk : GptDisk) (media : EfiBlockIoMedia) (pool : Buffer) :
    Option (Bool × FsState) :=
  let answer := disk sunxiGptPrimaryHeaderLba media.blockSize
  if !answer.1 then some (false, fs)
  else do
    let (status, gpt, _) ← sunxiGptPartitionInitialize fs.gpt disk
      (Memory.overwrite pool 0 media.blockSize.toNat answer.2) media.blockSize
    let fs := { fs with gpt := gpt }
    if status ≠ .success then return (false, fs)
    match ← gpt.sunxiGptPartitionGetOffset sunxiUsbMassGptPartNum with
    | none => return (false, fs)
    | some bootFsOffSet =>
      let fs := { fs with fileSystemBase := bootFsOffSet + mmcLogicalOffset }
      match ← gpt.sunxiGptPartitionGetSize sunxiUsbMassGptPartNum with
      | none => return (false, fs)
      | some size =>
        if size = 0 then
          return (true, { fs with
            gFileSyStemSize := (media.lastBlock - fs.fileSystemBase.setWidth 64 -
              mmcLogicalOffset.setWidth 64).setWidth 32 })
        else return (true, { fs with gFileSyStemSize := size })

/-- `gFsSdMmc2`, as it is installed -/
def gFsSdMmc2 (gFileSyStemSize : U32) : EfiBlockIoMedia where
  mediaId := awfsSignature
  removableMedia := false
  mediaPresent := true
  readOnly := false
  blockSize := 512
  lastBlock := (gFileSyStemSize - 1).setWidth 64

/-! ### Its requests -/

section Requests

variable (lower : CardNo → LogicalCall → Int) (fs : FsState) (lba bufferSize : Ulong)
  (buffer : Option Buffer)

/-- The transfer in either direction -/
def sdMmcFsTransfer (operationType : OperationType) : Ulong × List DiskAction :=
  sdReadWrite lower fs.gFileSyStemSize (gFsSdMmc2 fs.gFileSyStemSize)
    (lba + fs.fileSystemBase.setWidth 64) buffer bufferSize operationType

/-- `SdMmcFsReadBlocks`; the media is not looked at. -/
def sdMmcFsReadBlocks (_mediaId : U32) : Ulong × List DiskAction :=
  sdMmcFsTransfer lower fs lba bufferSize buffer .read

/-- `SdMmcFsWriteBlocks`; the media is not looked at. -/
def sdMmcFsWriteBlocks (_mediaId : U32) : Ulong × List DiskAction :=
  sdMmcFsTransfer lower fs lba bufferSize buffer .write

end Requests

/-! ### What is passed on -/

/-- What is asked of a request to transfer these bytes from this sector of the partition on: it is
turned down, or its sectors are the ones asked for and lie in the partition; and it is not turned
down if they do. -/
structure FsContract (fs : FsState) (lba bufferSize : Ulong) (passed : List (U32 × U32)) :
    Prop where
  asAsked : ∀ transfer ∈ passed,
    transfer.1.toNat = fs.fileSystemBase.toNat + lba.toNat ∧
      transfer.2.toNat = bufferSize.toNat / 512
  inside : ∀ transfer ∈ passed,
    fs.fileSystemBase.toNat ≤ transfer.1.toNat ∧
      transfer.1.toNat + transfer.2.toNat ≤
        fs.fileSystemBase.toNat + fs.gFileSyStemSize.toNat
  accepted : lba.toNat + bufferSize.toNat / 512 ≤ fs.gFileSyStemSize.toNat → passed ≠ []

/-- The sector that the test admits last, on the card -/
def FsState.lastAdmitted (fs : FsState) : Nat :=
  (fs.gFileSyStemSize - 1).toNat + fs.gFileSyStemSize.toNat

/-- The test is right about a request. -/
def FsState.Judges (fs : FsState) (lba bufferSize : Ulong) : Prop :=
  (lba.toNat + fs.fileSystemBase.toNat) % 2 ^ 64 ≤ fs.lastAdmitted ↔
    lba.toNat + bufferSize.toNat / 512 ≤ fs.gFileSyStemSize.toNat

section PassedOn

variable {lower : CardNo → LogicalCall → Int} {fs : FsState} {lba bufferSize : Ulong}
  {operationType : OperationType} {buffer : Buffer}

theorem FsState.toNat_lastAccepted (fs : FsState) :
    ((gFsSdMmc2 fs.gFileSyStemSize).lastAccepted fs.gFileSyStemSize).toNat = fs.lastAdmitted := by
  have first := (fs.gFileSyStemSize - 1).isLt
  have second := fs.gFileSyStemSize.isLt
  have sum : (gFsSdMmc2 fs.gFileSyStemSize).lastAccepted fs.gFileSyStemSize =
      (fs.gFileSyStemSize - 1).setWidth 64 + fs.gFileSyStemSize.setWidth 64 :=
    if_neg (not_not.mpr rfl)
  rw [sum, BitVec.toNat_add, BitVec.toNat_setWidth_of_le (by decide),
    BitVec.toNat_setWidth_of_le (by decide)]
  exact Nat.mod_eq_of_lt (by omega)

/-- A request for whole blocks is passed on exactly if the test admits its moved first sector. -/
theorem passedOn_sdMmcFsTransfer (whole : 512 ∣ bufferSize.toNat) :
    passedOn (sdMmcFsTransfer lower fs lba bufferSize (some buffer) operationType).2 =
      if (lba.toNat + fs.fileSystemBase.toNat) % 2 ^ 64 ≤ fs.lastAdmitted then
        [((lba + fs.fileSystemBase.setWidth 64).setWidth 32, (bufferSize / 512).setWidth 32)]
      else [] := by
  have moved : (lba + fs.fileSystemBase.setWidth 64).toNat =
      (lba.toNat + fs.fileSystemBase.toNat) % 2 ^ 64 := by
    rw [BitVec.toNat_add, BitVec.toNat_setWidth_of_le (by decide)]
  have test : lba + fs.fileSystemBase.setWidth 64 >
      (gFsSdMmc2 fs.gFileSyStemSize).lastAccepted fs.gFileSyStemSize ↔
        ¬(lba.toNat + fs.fileSystemBase.toNat) % 2 ^ 64 ≤ fs.lastAdmitted := by
    rw [gt_iff_lt, BitVec.lt_def, moved, fs.toNat_lastAccepted, Nat.not_le]
  have blocks : bufferSize % (gFsSdMmc2 fs.gFileSyStemSize).blockSize.setWidth 64 = 0 :=
    mod_blockSize_eq_zero.mpr whole
  have number : (gFsSdMmc2 fs.gFileSyStemSize).cardNumber = some 2 := rfl
  unfold sdMmcFsTransfer sdReadWrite
  dsimp only
  by_cases admitted : (lba.toNat + fs.fileSystemBase.toNat) % 2 ^ 64 ≤ fs.lastAdmitted
  · rw [if_neg fun behind => test.mp behind admitted, if_neg (not_not.mpr blocks),
      if_pos admitted, number]
    simp [passedOn, transfer_call]
    rfl
  · rw [if_pos (test.mpr admitted), if_neg admitted]
    rfl

variable (whole : 512 ∣ bufferSize.toNat)
include whole

/-- A request of which the test is right is served or turned down as it should be. -/
theorem contract_of_judges (card : fs.fileSystemBase.toNat + fs.gFileSyStemSize.toNat ≤ 2 ^ 32)
    (some : 0 < bufferSize.toNat) (judges : fs.Judges lba bufferSize) :
    FsContract fs lba bufferSize
      (passedOn (sdMmcFsTransfer lower fs lba bufferSize (.some buffer) operationType).2) := by
  rw [passedOn_sdMmcFsTransfer whole]
  split
  case isTrue admitted =>
    have inside := judges.mp admitted
    have first : ((lba + fs.fileSystemBase.setWidth 64).setWidth 32).toNat =
        fs.fileSystemBase.toNat + lba.toNat := by
      rw [BitVec.toNat_setWidth, BitVec.toNat_add, BitVec.toNat_setWidth_of_le (by decide)]
      omega
    have blocks : (bufferSize / 512).toNat = bufferSize.toNat / 512 := BitVec.toNat_udiv
    have count : ((bufferSize / 512).setWidth 32).toNat = bufferSize.toNat / 512 := by
      have small := fs.gFileSyStemSize.isLt
      rw [BitVec.toNat_setWidth, blocks]
      exact Nat.mod_eq_of_lt (by omega)
    constructor
    case asAsked =>
      intro transfer member
      obtain rfl := List.mem_singleton.mp member
      exact ⟨first, count⟩
    case inside =>
      intro transfer member
      obtain rfl := List.mem_singleton.mp member
      rw [first, count]
      omega
    case accepted => exact fun _ => List.cons_ne_nil _ _
  case isFalse behind =>
    exact {
      asAsked := fun transfer member => absurd member List.not_mem_nil
      inside := fun transfer member => absurd member List.not_mem_nil
      accepted := fun inside => absurd (judges.mpr inside) behind }

theorem FsContract.judges (contract : FsContract fs lba bufferSize
    (passedOn (sdMmcFsTransfer lower fs lba bufferSize (some buffer) operationType).2)) :
    fs.Judges lba bufferSize := by
  rw [passedOn_sdMmcFsTransfer whole] at contract
  constructor
  · intro admitted
    rw [if_pos admitted] at contract
    have asked := contract.asAsked _ List.mem_cons_self
    have inside := (contract.inside _ List.mem_cons_self).2
    rw [asked.1, asked.2] at inside
    omega
  · intro inside
    by_contra behind
    exact contract.accepted inside (if_neg behind)

/-- A request to a partition on the card is served or turned down as it should be exactly if the
test is right about it. -/
theorem sdMmcFsTransfer_contract_iff (lower : CardNo → LogicalCall → Int) (lba : Ulong)
    (buffer : Buffer) (operationType : OperationType)
    (card : fs.fileSystemBase.toNat + fs.gFileSyStemSize.toNat ≤ 2 ^ 32)
    (some : 0 < bufferSize.toNat) :
    FsContract fs lba bufferSize
        (passedOn (sdMmcFsTransfer lower fs lba bufferSize (.some buffer) operationType).2) ↔
      fs.Judges lba bufferSize :=
  ⟨fun contract => contract.judges whole, contract_of_judges whole card some⟩

end PassedOn

/-! ### What is found -/

theorem byIndex_some {Result : Type} {gpt : GptState} {read : Int → Option Result} {index : U32}
    {result : Result} (found : gpt.byIndex read index = some (some result)) :
    read (gpt.entryAt index) = some result := by
  unfold GptState.byIndex at found
  split at found
  · cases found
  · simpa using found

/-- The size that is found is the distance of the first and the last sector of the partition,
except that an empty one reaches to the end of the card. -/
theorem sunxiGetFsOffset_found {before fs : FsState} {disk : GptDisk} {media : EfiBlockIoMedia}
    {pool : Buffer} (found : sunxiGetFsOffset before disk media pool = some (true, fs)) :
    ∃ starting ending, fs.gpt.startingLba (fs.gpt.entryAt sunxiUsbMassGptPartNum) = some starting ∧
      fs.gpt.endingLba (fs.gpt.entryAt sunxiUsbMassGptPartNum) = some ending ∧
      fs.fileSystemBase = starting.setWidth 32 ∧
      fs.gFileSyStemSize =
        if (ending - starting).setWidth 32 = (0 : U32) then
          (media.lastBlock - (starting.setWidth 32 : U32).setWidth 64).setWidth 32
        else (ending - starting).setWidth 32 := by
  unfold sunxiGetFsOffset at found
  dsimp only at found
  split at found
  case isTrue => cases found
  case isFalse =>
    obtain ⟨⟨status, gpt, after⟩, -, found⟩ := Option.bind_eq_some_iff.mp found
    dsimp only at found
    split at found
    case isTrue => cases found
    case isFalse =>
      obtain ⟨offset, offsetRead, found⟩ := Option.bind_eq_some_iff.mp found
      cases offset with
      | none => cases found
      | some offset =>
        obtain ⟨size, sizeRead, found⟩ := Option.bind_eq_some_iff.mp found
        cases size with
        | none => cases found
        | some size =>
          have offsetFound := byIndex_some offsetRead
          have sizeFound := byIndex_some sizeRead
          obtain ⟨starting, startingRead, rfl⟩ := Option.map_eq_some_iff.mp offsetFound
          rw [GptState.entrySize, Option.bind_eq_bind] at sizeFound
          obtain ⟨ending, endingRead, sizeFound⟩ := Option.bind_eq_some_iff.mp sizeFound
          rw [startingRead, Option.bind_some] at sizeFound
          injection sizeFound with sizeFound
          subst sizeFound
          have base : (starting.setWidth 32 : U32) + mmcLogicalOffset = starting.setWidth 32 := by
            rw [show mmcLogicalOffset = 0#32 from rfl, BitVec.add_zero]
          dsimp only at found
          rw [base] at found
          split at found
          case isTrue none =>
            injection found with found
            injection found with _ found
            subst found
            refine ⟨starting, ending, startingRead, endingRead, rfl, ?_⟩
            rw [if_pos none]
            rw [show mmcLogicalOffset.setWidth 64 = 0#64 from rfl, BitVec.sub_zero]
          case isFalse some =>
            injection found with found
            injection found with _ found
            subst found
            refine ⟨starting, ending, startingRead, endingRead, rfl, ?_⟩
            rw [if_neg some]

/-- A partition behind its own size, on a card of 4 GiB -/
def farPartition (gpt : GptState) : FsState :=
  ⟨0x40000, 0x20000, gpt⟩

/-- A partition in front of another one -/
def nearPartition (gpt : GptState) : FsState :=
  ⟨0x8000, 0x20000, gpt⟩

/-- The library before it has seen a table -/
def noGpt : GptState :=
  ⟨fun _ => 0, false, 0, 0⟩

theorem sdMmcFsTransfer_contract_iff_near :
    FsContract (nearPartition noGpt) 0 4096
        (passedOn (sdMmcFsTransfer (fun _ _ => 8) (nearPartition noGpt) 0 4096
          (some fun _ => 0) .write).2) ↔
      (nearPartition noGpt).Judges 0 4096 :=
  sdMmcFsTransfer_contract_iff (by decide) _ _ _ _ (by decide) (by decide)

/-- The first sector of one partition is turned down, and a sector behind the other one is
written. -/
theorem not_fsContract :
    ¬FsContract (farPartition noGpt) 0 512
        (passedOn (sdMmcFsTransfer (fun _ _ => 1) (farPartition noGpt) 0 512
          (some fun _ => 0) .read).2) ∧
      ¬FsContract (nearPartition noGpt) 0x20000 512
        (passedOn (sdMmcFsTransfer (fun _ _ => 1) (nearPartition noGpt) 0x20000 512
          (some fun _ => 0) .write).2) := by
  constructor
  · intro contract
    exact contract.accepted (by decide) (by decide)
  · intro contract
    exact absurd (contract.inside (0x28000, 1) (by decide)).2 (by decide)

end PinePhonePkg
