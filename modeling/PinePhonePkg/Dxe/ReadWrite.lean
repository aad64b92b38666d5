/-
This file embeds the transfer of the Block I/O protocol, `SdReadWrite`, and
settles which requests it passes on to the logical layer, and with which
sectors. Its checks look at the first sector only, and the layer below takes 32
bits of a sector number and of a count.
-/

import PinePhonePkg.Dxe.HotPlug
import PinePhonePkg.Dxe.Status
import PinePhonePkg.Logical.Layer

namespace PinePhonePkg

open Library

/-! ### The transfer -/

/-- A read or a write -/
inductive OperationType where
  | read
  | write
  deriving DecidableEq

/-- `SIGNATURE_32('e','m','m','c')` -/
def emmcSignature : U32 := 0x636d6d65

/-- `SIGNATURE_32('a','w','f','s')`, the media of the file system partition -/
def awfsSignature : U32 := 0x73667761

/-- What a transfer does before it returns. -/
inductive DiskAction where
  | raiseTpl
  | restoreTpl
  | logical (card : CardNo) (call : LogicalCall)

/-- The card of a media, by its signature -/
def EfiBlockIoMedia.cardNumber (media : EfiBlockIoMedia) : Option CardNo :=
  if media.mediaId = sdhcSignature then some 0
  else if media.mediaId = emmcSignature ∨ media.mediaId = awfsSignature then some 2
  else none

/-- The last block, with the file system added for the media of its partition. -/
def EfiBlockIoMedia.lastAccepted (media : EfiBlockIoMedia) (gFileSyStemSize : U32) : Ulong :=
  if media.mediaId ≠ awfsSignature then media.lastBlock
  else media.lastBlock + gFileSyStemSize.setWidth 64

/-- The call of the layer below, which takes 32-bit numbers -/
def OperationType.call (operationType : OperationType) (lba blockCount : Ulong) (buffer : Buffer) :
    LogicalCall :=
  match operationType with
  | .read => .read (lba.setWidth 32) (blockCount.setWidth 32) buffer
  | .write => .write (lba.setWidth 32) (blockCount.setWidth 32) buffer

section ReadWrite

variable (lower : CardNo → LogicalCall → Int) (gFileSyStemSize : U32) (media : EfiBlockIoMedia)
  (lba : Ulong)

/-- The status and the actions; `lower` is what the logical layer returns. -/
def sdReadWrite (buffer : Option Buffer) (bufferSize : Ulong) (operationType : OperationType) :
    Ulong × List DiskAction :=
  match buffer with
  | none => (efiInvalidParameter, [])
  | some buffer =>
    if lba > media.lastAccepted gFileSyStemSize then (efiInvalidParameter, [])
    else if bufferSize % media.blockSize.setWidth 64 ≠ 0 then (efiBadBufferSize, [])
    else
      let blockCount := bufferSize / media.blockSize.setWidth 64
      match media.cardNumber with
      | none => (efiNoMedia, [.raiseTpl, .restoreTpl])
      | some card =>
        let call := operationType.call lba blockCount buffer
        (if lower card call < 0 then efiDeviceError else efiSuccess,
          [.raiseTpl, .logical card call, .restoreTpl])

/-- `SdMmcReadBlocks`; the media is not compared. -/
def sdMmcReadBlocks (_mediaId : U32) (bufferSize : Ulong) (buffer : Option Buffer) :
    Ulong × List DiskAction :=
  sdReadWrite lower gFileSyStemSize media lba buffer bufferSize .read

/-- `SdMmcWriteBlocks`; the media is not compared. -/
def sdMmcWriteBlocks (_mediaId : U32) (bufferSize : Ulong) (buffer : Option Buffer) :
    Ulong × List DiskAction :=
  sdReadWrite lower gFileSyStemSize media lba buffer bufferSize .write

end ReadWrite

/-! ### What is passed on -/

/-- The first sector and the number of sectors of a transfer -/
def LogicalCall.transfer : LogicalCall → Option (U32 × U32)
  | .read startSector nsector _ => some (startSector, nsector)
  | .write startSector nsector _ => some (startSector, nsector)
  | _ => none

/-- The transfers a request is passed on as -/
def passedOn (actions : List DiskAction) : List (U32 × U32) :=
  actions.filterMap fun
    | .logical _ call => call.transfer
    | _ => none

/-- The media of a whole card -/
structure WholeDisk (media : EfiBlockIoMedia) : Prop where
  mediaId : media.mediaId = sdhcSignature ∨ media.mediaId = emmcSignature
  blockSize : 0 < media.blockSize

/-- The number of sectors that are asked for -/
def EfiBlockIoMedia.blocks (media : EfiBlockIoMedia) (bufferSize : Ulong) : Nat :=
  bufferSize.toNat / media.blockSize.toNat

/-- What is asked of a request to transfer these bytes from this sector on -/
structure TransferContract (media : EfiBlockIoMedia) (lba bufferSize : Ulong)
    (passed : List (U32 × U32)) : Prop where
  inside : ∀ transfer ∈ passed, ∀ sector, lba.toNat ≤ sector →
    sector < lba.toNat + media.blocks bufferSize → sector ≤ media.lastBlock.toNat
  asAsked : ∀ transfer ∈ passed,
    transfer.1.toNat = lba.toNat ∧ transfer.2.toNat = media.blocks bufferSize
  accepted : lba.toNat + media.blocks bufferSize ≤ media.lastBlock.toNat + 1 →
    media.blockSize.toNat ∣ bufferSize.toNat → passed ≠ []

/-- The request ends on the disk where its first sector is there, and its numbers have 32 bits;
and it is not the empty one right behind the disk, which is turned down. -/
structure Transferable (media : EfiBlockIoMedia) (lba bufferSize : Ulong) : Prop where
  fits : lba ≤ media.lastBlock → media.blockSize.toNat ∣ bufferSize.toNat →
    lba.toNat + media.blocks bufferSize ≤ media.lastBlock.toNat + 1 ∧
      lba.toNat < 2 ^ 32 ∧ media.blocks bufferSize < 2 ^ 32
  notBehind : bufferSize = 0 → lba.toNat ≠ media.lastBlock.toNat + 1

section PassedOn

variable {lower : CardNo → LogicalCall → Int} {gFileSyStemSize : U32} {media : EfiBlockIoMedia}
  {lba bufferSize : Ulong} {operationType : OperationType} {buffer : Buffer}

theorem WholeDisk.lastAccepted (disk : WholeDisk media) (gFileSyStemSize : U32) :
    media.lastAccepted gFileSyStemSize = media.lastBlock := by
  refine if_pos ?_
  rcases disk.mediaId with sdhc | emmc
  · rw [sdhc]
    decide
  · rw [emmc]
    decide

theorem WholeDisk.cardNumber (disk : WholeDisk media) : ∃ card, media.cardNumber = some card := by
  unfold EfiBlockIoMedia.cardNumber
  rcases disk.mediaId with sdhc | emmc
  · exact ⟨0, if_pos sdhc⟩
  · rw [emmc]
    exact ⟨2, rfl⟩

theorem toNat_blockSize (media : EfiBlockIoMedia) :
    (media.blockSize.setWidth 64).toNat = media.blockSize.toNat :=
  BitVec.toNat_setWidth_of_le (by decide)

theorem mod_blockSize_eq_zero :
    bufferSize % media.blockSize.setWidth 64 = 0 ↔ media.blockSize.toNat ∣ bufferSize.toNat := by
  rw [Nat.dvd_iff_mod_eq_zero, ← toNat_blockSize, ← BitVec.toNat_umod, ← BitVec.toNat_inj]
  rfl

theorem toNat_blockCount :
    (bufferSize / media.blockSize.setWidth 64).toNat = media.blocks bufferSize := by
  rw [BitVec.toNat_udiv, toNat_blockSize]
  rfl

theorem transfer_call (operationType : OperationType) (lba blockCount : Ulong) (buffer : Buffer) :
    (operationType.call lba blockCount buffer).transfer =
      some (lba.setWidth 32, blockCount.setWidth 32) := by
  cases operationType <;> rfl

/-- A request to a whole disk is passed on if it starts there and has whole blocks. -/
theorem passedOn_sdReadWrite (disk : WholeDisk media) :
    passedOn (sdReadWrite lower gFileSyStemSize media lba (some buffer) bufferSize
        operationType).2 =
      if lba ≤ media.lastBlock ∧ media.blockSize.toNat ∣ bufferSize.toNat then
        [(lba.setWidth 32, (bufferSize / media.blockSize.setWidth 64).setWidth 32)]
      else [] := by
  obtain ⟨card, number⟩ := disk.cardNumber
  unfold sdReadWrite
  rw [disk.lastAccepted]
  dsimp only
  by_cases behind : lba > media.lastBlock
  · rw [if_pos behind, if_neg fun request => BitVec.not_lt.mpr request.1 behind]
    rfl
  rw [if_neg behind]
  by_cases part : bufferSize % media.blockSize.setWidth 64 ≠ 0
  · rw [if_pos part, if_neg fun request => part (mod_blockSize_eq_zero.mpr request.2)]
    rfl
  rw [if_neg part, number,
    if_pos ⟨BitVec.not_lt.mp behind, mod_blockSize_eq_zero.mp (not_not.mp part)⟩]
  simp [passedOn, transfer_call]

/-- The only request for no sectors is the one of no bytes. -/
theorem WholeDisk.blocks_eq_zero (disk : WholeDisk media)
    (whole : media.blockSize.toNat ∣ bufferSize.toNat) (none : media.blocks bufferSize = 0) :
    bufferSize = 0 := by
  have positive : 0 < media.blockSize.toNat := disk.blockSize
  have bytes := Nat.div_mul_cancel whole
  unfold EfiBlockIoMedia.blocks at none
  rw [none, Nat.zero_mul] at bytes
  exact BitVec.eq_of_toNat_eq bytes.symm

/-- A request keeps the contract exactly if its sectors are on the disk and its numbers are
within 32 bits, where the checks let it through. -/
theorem sdReadWrite_contract_iff (lower : CardNo → LogicalCall → Int) (gFileSyStemSize : U32)
    (lba bufferSize : Ulong) (buffer : Buffer) (operationType : OperationType)
    (disk : WholeDisk media) :
    TransferContract media lba bufferSize
        (passedOn (sdReadWrite lower gFileSyStemSize media lba (some buffer) bufferSize
          operationType).2) ↔
      Transferable media lba bufferSize := by
  rw [passedOn_sdReadWrite disk]
  constructor
  · intro contract
    refine ⟨fun starts whole => ?_, fun empty behind => ?_⟩
    · have inside := contract.inside
      have asAsked := contract.asAsked
      rw [if_pos ⟨starts, whole⟩] at inside asAsked
      obtain ⟨sector, count⟩ := asAsked _ List.mem_cons_self
      refine ⟨?_, sector ▸ BitVec.isLt _, count ▸ BitVec.isLt _⟩
      by_contra beyond
      have onDisk : lba.toNat ≤ media.lastBlock.toNat := starts
      have last := inside _ List.mem_cons_self (media.lastBlock.toNat + 1) (by omega) (by omega)
      omega
    · have none : media.blocks bufferSize = 0 := by
        rw [empty]
        exact Nat.zero_div _
      refine contract.accepted (by omega) (by rw [empty]; exact Nat.dvd_zero _) (if_neg ?_)
      rintro ⟨starts, -⟩
      have onDisk : lba.toNat ≤ media.lastBlock.toNat := starts
      omega
  · intro transferable
    have fits {transfer : U32 × U32}
        (member : transfer ∈ if lba ≤ media.lastBlock ∧
          media.blockSize.toNat ∣ bufferSize.toNat then
            [(lba.setWidth 32, (bufferSize / media.blockSize.setWidth 64).setWidth 32)] else []) :
        transfer = (lba.setWidth 32, (bufferSize / media.blockSize.setWidth 64).setWidth 32) ∧
          lba.toNat + media.blocks bufferSize ≤ media.lastBlock.toNat + 1 ∧
          lba.toNat < 2 ^ 32 ∧ media.blocks bufferSize < 2 ^ 32 := by
      split at member
      · rename_i request
        exact ⟨List.mem_singleton.mp member, transferable.fits request.1 request.2⟩
      · cases member
    refine ⟨fun transfer member sector _ before => ?_, fun transfer member => ?_,
      fun onDisk whole => ?_⟩
    · obtain ⟨-, ends, -⟩ := fits member
      omega
    · obtain ⟨rfl, -, first, count⟩ := fits member
      refine ⟨(BitVec.toNat_setWidth _ _).trans (Nat.mod_eq_of_lt first), ?_⟩
      rw [BitVec.toNat_setWidth, toNat_blockCount]
      exact Nat.mod_eq_of_lt count
    · have starts : lba ≤ media.lastBlock := by
        refine BitVec.le_def.mpr ?_
        by_cases none : media.blocks bufferSize = 0
        · have notBehind := transferable.notBehind (disk.blocks_eq_zero whole none)
          omega
        · omega
      rw [if_pos ⟨starts, whole⟩]
      exact List.cons_ne_nil _ _

end PassedOn

/-- Card 0 after an insertion, whose number of the last block is the -1 made of a status -/
def insertedCard : EfiBlockIoMedia :=
  ⟨sdhcSignature, true, true, false, 512, -1⟩

/-- The eMMC with a number of its last block -/
def emmcDisk (lastBlock : Ulong) : EfiBlockIoMedia :=
  ⟨emmcSignature, false, true, false, 512, lastBlock⟩

theorem emmcDisk_whole (lastBlock : Ulong) : WholeDisk (emmcDisk lastBlock) :=
  ⟨Or.inr rfl, show 0 < (512 : U32) by decide⟩

theorem sdReadWrite_contract_iff_emmcDisk :
    WholeDisk (emmcDisk 99) ∧
      (TransferContract (emmcDisk 99) 90 5120
          (passedOn (sdReadWrite (fun _ _ => 10) 0 (emmcDisk 99) 90 (some fun _ => 0) 5120
            .read).2) ↔
        Transferable (emmcDisk 99) 90 5120) :=
  ⟨emmcDisk_whole 99, sdReadWrite_contract_iff _ _ _ _ _ _ (emmcDisk_whole 99)⟩

/-- Two sectors from the last one on are passed on, and the sector 2^32 of an inserted card is
passed on as sector 0. -/
theorem sdReadWrite_passes_on :
    ¬TransferContract (emmcDisk 99) 99 1024
        (passedOn (sdReadWrite (fun _ _ => 2) 0 (emmcDisk 99) 99 (some fun _ => 0) 1024
          .write).2) ∧
      ¬TransferContract insertedCard (1 <<< 32) 512
        (passedOn (sdReadWrite (fun _ _ => 1) 0 insertedCard (1 <<< 32) (some fun _ => 0) 512
          .read).2) := by
  constructor
  · intro contract
    exact absurd (contract.inside (99, 2) (by decide) 100 (by decide) (by decide)) (by decide)
  · intro contract
    exact absurd (contract.asAsked (0, 1) (by decide)).1 (by decide)

end PinePhonePkg
