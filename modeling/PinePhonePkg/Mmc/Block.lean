/-
This file embeds the block reads and writes of the MMC core. Both cut a request
into chunks of at most `b_max` blocks; the read checks the range of the whole
request first, the write checks the range of each chunk when it comes to it.
-/

import PinePhonePkg.Mmc.Command

namespace PinePhonePkg

open Library

/-! ### One chunk -/

/-- CMD12, with the flags that the caller leaves in the command -/
def stopTransmissionCmd (flags : Option U32) : MmcCmd :=
  ⟨mmcCmdStopTransmission, mmcRspR1b, 0, flags⟩

/-- CMD17 or CMD18, at a sector or a byte address as the card takes it -/
def readBlocksCmd (mmc : Mmc) (start blkcnt : U32) : MmcCmd :=
  ⟨if blkcnt > 1 then mmcCmdReadMultipleBlock else mmcCmdReadSingleBlock, mmcRspR1,
    if mmc.highCapacity then start else start * mmc.readBlLen, some 0⟩

/-- Room for the blocks, of the length of reading -/
def readBlocksData (mmc : Mmc) (blkcnt : U32) : MmcData :=
  ⟨fun _ => 0, mmcDataRead, blkcnt, mmc.readBlLen⟩

/-- The bytes that reach `dst` come with the result, also when the read is reported as failed. -/
def mmcReadBlocks (mmc : Mmc) (start blkcnt : U32) : Driver (U32 × Buffer) := do
  let reply ← mmcSendCmd (readBlocksCmd mmc start blkcnt) (some (readBlocksData mmc blkcnt))
  if reply.error ≠ 0 then
    return (0, reply.dest)
  if blkcnt > 1 then
    let stop ← mmcSendCmd (stopTransmissionCmd (some 0)) none
    if stop.error ≠ 0 then
      return (0, reply.dest)
    -- the status after the stop command is not looked at
    let _ ← mmcSendStatus mmc 1000
    return (blkcnt, reply.dest)
  return (blkcnt, reply.dest)

/-- The source does not set `cmd.flags` here. -/
def writeBlocksCmd (mmc : Mmc) (start blkcnt : U32) : MmcCmd :=
  ⟨if blkcnt = 1 then mmcCmdWriteSingleBlock else mmcCmdWriteMultipleBlock, mmcRspR1,
    if mmc.highCapacity then start else start * mmc.writeBlLen, none⟩

/-- The blocks of the source, of the length of writing -/
def writeBlocksData (mmc : Mmc) (blkcnt : U32) (src : Buffer) : MmcData :=
  ⟨src, mmcDataWrite, blkcnt, mmc.writeBlLen⟩

/-- Writes one chunk, within the capacity, and waits until the card is done with it. -/
def mmcWriteBlocks (mmc : Mmc) (start blkcnt : U32) (src : Buffer) : Driver U32 := do
  if start + blkcnt > mmc.blockDev.lba then
    return 0
  if blkcnt = 0 then
    return 0
  let reply ← mmcSendCmd (writeBlocksCmd mmc start blkcnt) (some (writeBlocksData mmc blkcnt src))
  if reply.error ≠ 0 then
    return 0
  if blkcnt > 1 then
    let stop ← mmcSendCmd (stopTransmissionCmd none) none
    if stop.error ≠ 0 then
      return 0
    let status ← mmcSendStatus mmc 1000
    return if status ≠ 0 then 0 else blkcnt
  let status ← mmcSendStatus mmc 1000
  return if status ≠ 0 then 0 else blkcnt

/-! ### The chunk loops -/

/-- The size of the next chunk. -/
def chunk (mmc : Mmc) (blocksTodo : U32) : U32 :=
  if blocksTodo > mmc.cfg.bMax then mmc.cfg.bMax else blocksTodo

/-- The loop of `mmc_bread`, which has moved on by `offset` bytes in the buffer. Every turn
takes a block at least, so as many turns as there are blocks to do are enough. -/
def mmcBreadLoop (mmc : Mmc) :
    (turns : Nat) → (start blocksTodo : U32) → (offset : Nat) → Buffer → Driver (Bool × Buffer)
  | 0, _, _, _, dst => return (false, dst)
  | turns + 1, start, blocksTodo, offset, dst => do
    let cur := chunk mmc blocksTodo
    let (count, bytes) ← mmcReadBlocks mmc start cur
    let dst := dst.overwrite offset (cur.toNat * mmc.readBlLen.toNat) bytes
    if count ≠ cur then
      return (false, dst)
    if blocksTodo - cur > 0 then
      mmcBreadLoop mmc turns (start + cur) (blocksTodo - cur)
        (offset + (cur * mmc.readBlLen).toNat) dst
    else
      return (true, dst)

/-- `mmc` is what `find_mmc_device` gives. The buffer is returned with the count. -/
def mmcBread (mmc : Option Mmc) (start blkcnt : U32) (dst : Buffer) :
    Driver (Ulong × Buffer) := do
  if blkcnt = 0 then
    return (0, dst)
  match mmc with
  | none => return (0, dst)
  | some mmc =>
    if start + blkcnt > mmc.blockDev.lba then
      return (0, dst)
    let err ← mmcSetBlocklen mmc mmc.readBlLen
    if err ≠ 0 then
      return (0, dst)
    let (done, dst) ← mmcBreadLoop mmc blkcnt.toNat start blkcnt 0 dst
    return (if done then blkcnt.setWidth 64 else 0, dst)

/-- The chunks of a write, until one is not written whole -/
def mmcBwriteLoop (mmc : Mmc) :
    (turns : Nat) → (start blocksTodo : U32) → Buffer → Driver Bool
  | 0, _, _, _ => return false
  | turns + 1, start, blocksTodo, src => do
    let cur := chunk mmc blocksTodo
    let count ← mmcWriteBlocks mmc start cur src
    if count ≠ cur then
      return false
    if blocksTodo - cur > 0 then
      mmcBwriteLoop mmc turns (start + cur) (blocksTodo - cur)
        (src.drop (cur * mmc.writeBlLen).toNat)
    else
      return true

/-- Writes blocks from the source and returns how many there were, or zero. -/
def mmcBwrite (mmc : Option Mmc) (start blkcnt : U32) (src : Buffer) : Driver Ulong := do
  if blkcnt = 0 then
    return 0
  match mmc with
  | none => return 0
  | some mmc =>
    let err ← mmcSetBlocklen mmc mmc.writeBlLen
    if err ≠ 0 then
      return 0
    let done ← mmcBwriteLoop mmc blkcnt.toNat start blkcnt src
    return if done then blkcnt.setWidth 64 else 0

/-- Writes zeros; the count comes back through an `int`. -/
def mmcBerase (mmc : Mmc) (start blkcnt : U32) : Driver Ulong := do
  let size := (blkcnt * mmc.writeBlLen).setWidth 64
  match ← malloc size with
  | none => return -1
  | some memory =>
    let err ← mmcBwrite (some mmc) start blkcnt (memory.overwrite 0 size.toNat fun _ => 0)
    return (err.setWidth 32).signExtend 64

/-! ### The index of a data command -/

theorem writeBlocksCmd_cases (mmc : Mmc) (start blkcnt : U32) :
    (writeBlocksCmd mmc start blkcnt).cmdidx = mmcCmdWriteSingleBlock ∨
      (writeBlocksCmd mmc start blkcnt).cmdidx = mmcCmdWriteMultipleBlock := by
  unfold writeBlocksCmd
  split
  · exact Or.inl rfl
  · exact Or.inr rfl

theorem readBlocksCmd_cases (mmc : Mmc) (start blkcnt : U32) :
    (readBlocksCmd mmc start blkcnt).cmdidx = mmcCmdReadSingleBlock ∨
      (readBlocksCmd mmc start blkcnt).cmdidx = mmcCmdReadMultipleBlock := by
  unfold readBlocksCmd
  split
  · exact Or.inr rfl
  · exact Or.inl rfl

/-! ### The size of a chunk -/

theorem chunk_le (mmc : Mmc) (blocksTodo : U32) : chunk mmc blocksTodo ≤ blocksTodo := by
  unfold chunk
  split <;> bv_omega

theorem chunk_le_bMax (mmc : Mmc) (blocksTodo : U32) : chunk mmc blocksTodo ≤ mmc.cfg.bMax := by
  unfold chunk
  split <;> bv_omega

theorem chunk_pos (mmc : Mmc) (blocksTodo : U32) (todo : 0 < blocksTodo) :
    0 < chunk mmc blocksTodo := by
  unfold chunk
  split
  · exact mmc.cfg.bMaxPos
  · exact todo

end PinePhonePkg
