/-
This file says what a write leaves in the sectors of its range when it may stop
before its end. The chunks whose data command succeeds hold the source, the
chunk whose data command fails holds what that command left there, and the
chunks that are not reached hold what they held before.
-/

import PinePhonePkg.Card.ReadBack
import PinePhonePkg.Card.Touched

namespace PinePhonePkg

open Library Program

/-! ### The bytes of a range -/

/-- The byte of a partition at which a chunk that starts at this block begins. -/
@[irreducible]
def Mmc.chunkByte (mmc : Mmc) (start : U32) : Nat :=
  if mmc.highCapacity then start.toNat * 512 else (start * 512).toNat

/-- Chunk by chunk, the memory of the partition holds the source. -/
def Mmc.Holds (mmc : Mmc) (memory : Buffer) :
    (turns : Nat) → (start blocksTodo : U32) → Buffer → Prop
  | 0, _, _, _ => True
  | turns + 1, start, blocksTodo, src =>
    let cur := chunk mmc blocksTodo
    Memory.Agree (cur.toNat * 512) (memory.drop (mmc.chunkByte start)) src ∧
      (0 < blocksTodo - cur →
        mmc.Holds memory turns (start + cur) (blocksTodo - cur) (src.drop (cur.toNat * 512)))

/-- The address is in the bytes of one of the chunks. -/
def Mmc.Covers (mmc : Mmc) : (turns : Nat) → (start blocksTodo : U32) → (address : Nat) → Prop
  | 0, _, _, _ => False
  | turns + 1, start, blocksTodo, address =>
    let cur := chunk mmc blocksTodo
    (mmc.chunkByte start ≤ address ∧ address < mmc.chunkByte start + cur.toNat * 512) ∨
      0 < blocksTodo - cur ∧ mmc.Covers turns (start + cur) (blocksTodo - cur) address

variable {start blocksTodo : U32} {mmc : Mmc} {src : Buffer}

theorem byteAddress_chunkByte {card : Card} (matched : Matches mmc card) (start : U32) :
    card.byteAddress (if mmc.highCapacity then start else start * 512) = mmc.chunkByte start := by
  unfold Card.byteAddress Mmc.chunkByte
  rw [matched.addressing]
  cases mmc.highCapacity <;> simp

/-- The bytes behind the first blocks of a range are not those of the first blocks, also where
the addresses wrap. -/
theorem chunkByte_apart (mmc : Mmc) {done count : U32} (fits : done.toNat + count.toNat < 2 ^ 23)
    {address : Nat} (inside : mmc.chunkByte (start + done) ≤ address ∧
      address < mmc.chunkByte (start + done) + count.toNat * 512) :
    ¬(mmc.chunkByte start ≤ address ∧ address < mmc.chunkByte start + done.toNat * 512) := by
  unfold Mmc.chunkByte at *
  have small := start.isLt
  cases highCapacity : mmc.highCapacity with
  | true =>
    rw [highCapacity] at inside
    simp only [if_true, BitVec.toNat_add] at inside ⊢
    omega
  | false =>
    rw [highCapacity] at inside
    simp only [Bool.false_eq_true, if_false, BitVec.toNat_add, BitVec.toNat_mul] at inside ⊢
    have literal : (512 : U32).toNat = 512 := by decide
    rw [literal] at inside ⊢
    omega

/-- How a turn of the loop divides the bytes it still has to do. -/
theorem chunk_length (mmc : Mmc) (blocksTodo : U32) :
    (chunk mmc blocksTodo).toNat * 512 + (blocksTodo - chunk mmc blocksTodo).toNat * 512 =
      blocksTodo.toNat * 512 := by
  have atMost := chunk_le mmc blocksTodo
  rw [← Nat.add_mul]
  exact congrArg (· * 512) (by bv_omega)

theorem covers_apart (mmc : Mmc) (turns : Nat) {done : U32}
    (fits : done.toNat + blocksTodo.toNat < 2 ^ 23) {address : Nat}
    (covered : mmc.Covers turns (start + done) blocksTodo address) :
    ¬(mmc.chunkByte start ≤ address ∧ address < mmc.chunkByte start + done.toNat * 512) := by
  induction turns generalizing done blocksTodo with
  | zero => exact covered.elim
  | succ turns inductionHypothesis =>
    have atMost : (chunk mmc blocksTodo).toNat ≤ blocksTodo.toNat := chunk_le mmc blocksTodo
    have sum : (done + chunk mmc blocksTodo).toNat =
        done.toNat + (chunk mmc blocksTodo).toNat := by
      rw [BitVec.toNat_add]
      omega
    rcases covered with first | ⟨-, later⟩
    · exact chunkByte_apart mmc (by omega) first
    · rw [BitVec.add_assoc] at later
      have apart := inductionHypothesis (by bv_omega) later
      intro inside
      refine apart ⟨inside.1, Nat.lt_of_lt_of_le inside.2 (Nat.add_le_add_left ?_ _)⟩
      exact Nat.mul_le_mul_right 512 (by omega)

theorem holds_congr {turns : Nat} {memory other : Buffer}
    (same : ∀ address, mmc.Covers turns start blocksTodo address → memory address = other address) :
    mmc.Holds memory turns start blocksTodo src ↔ mmc.Holds other turns start blocksTodo src := by
  induction turns generalizing start blocksTodo src with
  | zero => rfl
  | succ turns inductionHypothesis =>
    refine and_congr ?_ (imp_congr_right fun more => inductionHypothesis fun address covered =>
      same address (.inr ⟨more, covered⟩))
    refine forall₂_congr fun address inside => ?_
    rw [Memory.drop, Memory.drop, same _ (.inl ⟨Nat.le_add_right _ _, by omega⟩)]

/-! ### What is read from the range -/

/-- A read does not go back in its buffer. -/
theorem readBack_before (card : Card) (mmc : Mmc) (turns : Nat) (start blocksTodo : U32)
    {offset : Nat} (dst : Buffer) {address : Nat} (before : address < offset) :
    card.readBack mmc turns start blocksTodo offset dst address = dst address := by
  induction turns generalizing start blocksTodo offset dst with
  | zero => rfl
  | succ turns inductionHypothesis =>
    unfold Card.readBack
    dsimp only
    have copied := Memory.overwrite_outside dst offset
      ((chunk mmc blocksTodo).toNat * mmc.readBlLen.toNat) (card.blocks mmc start) address
      (.inl before)
    split
    · rw [inductionHypothesis _ _ _ (Nat.lt_add_right _ before), copied]
    · exact copied

theorem readBack_holds {card : Card} (matched : Matches mmc card) {turns : Nat} {offset : Nat}
    {dst : Buffer} (positive : 0 < blocksTodo) (enough : blocksTodo.toNat ≤ turns)
    (fits : blocksTodo.toNat * 512 < 2 ^ 32) :
    Memory.Agree (blocksTodo.toNat * 512)
        ((card.readBack mmc turns start blocksTodo offset dst).drop offset) src ↔
      mmc.Holds (card.media card.access) turns start blocksTodo src := by
  induction turns generalizing start blocksTodo offset dst src with
  | zero => exact absurd positive (by bv_omega)
  | succ turns inductionHypothesis =>
    have atMost : (chunk mmc blocksTodo).toNat ≤ blocksTodo.toNat := chunk_le mmc blocksTodo
    have advances : 0 < (chunk mmc blocksTodo).toNat := chunk_pos mmc blocksTodo positive
    have lengths := chunk_length mmc blocksTodo
    have bytes : (chunk mmc blocksTodo * mmc.readBlLen).toNat =
        (chunk mmc blocksTodo).toNat * 512 := by
      rw [matched.readBlLen]
      bv_omega
    have literal : mmc.readBlLen.toNat = 512 := by
      rw [matched.readBlLen]
      decide
    have blocks : card.blocks mmc start =
        (card.media card.access).drop (mmc.chunkByte start) := by
      unfold Card.blocks
      rw [matched.readBlLen, byteAddress_chunkByte matched]
    unfold Card.readBack Mmc.Holds
    dsimp only
    rw [literal, bytes, blocks]
    by_cases more : 0 < blocksTodo - chunk mmc blocksTodo
    · rw [if_pos more, ← lengths, Memory.agree_add]
      simp only [more, true_implies]
      have restFits : (blocksTodo - chunk mmc blocksTodo).toNat * 512 < 2 ^ 32 := by
        rw [← lengths] at fits
        exact Nat.lt_of_le_of_lt (Nat.le_add_left _ _) fits
      refine and_congr ?_ ?_
      · refine forall₂_congr fun address inside => ?_
        rw [Memory.drop, readBack_before card mmc turns _ _ _ (Nat.add_lt_add_left inside offset),
          Memory.overwrite_inside _ _ _ _ _ inside]
      · rw [Memory.drop_drop, inductionHypothesis more (by bv_omega) restFits]
    · have whole : (chunk mmc blocksTodo).toNat = blocksTodo.toNat := by bv_omega
      rw [if_neg more, whole]
      simp only [more, false_implies, and_true]
      refine forall₂_congr fun address inside => ?_
      rw [Memory.drop, Memory.overwrite_inside _ _ _ _ _ inside]

/-- The image that is read is the source if and only if the partition holds it. -/
theorem image_agree_iff {card : Card} (matched : Matches mmc card) {blkcnt : U32} {dst : Buffer}
    (positive : 0 < blkcnt) (fits : blkcnt.toNat * 512 < 2 ^ 32) :
    Memory.Agree (blkcnt.toNat * 512) (card.image mmc start blkcnt dst) src ↔
      mmc.Holds (card.media card.access) blkcnt.toNat start blkcnt src := by
  rw [← @readBack_holds start blkcnt mmc src card matched blkcnt.toNat 0 dst positive
    (Nat.le_refl _) fits, Memory.drop_zero]
  rfl

/-! ### What a write leaves -/

/-- The source is in the sectors of the range when the write loop ends, given what was in the
partition before. A chunk that is turned down ends the loop, and so does one of which a command
fails; a data command that fails leaves bytes of its own. -/
def Mmc.LeavesSource (mmc : Mmc) (before : Buffer) :
    (turns : Nat) → (start blocksTodo : U32) → Buffer → World → Prop
  | 0, _, _, _, _ => True
  | turns + 1, start, blocksTodo, src, world =>
    let cur := chunk mmc blocksTodo
    let sent := world.answer (writeBlocksCmd mmc start cur) (some (writeBlocksData mmc cur src))
    let write := (mmcWriteBlocks mmc start cur src).exec serve world
    let rest := src.drop (cur.toNat * 512)
    if start + cur > mmc.blockDev.lba then mmc.Holds before (turns + 1) start blocksTodo src
    else
      (sent.error = 0 ∨ Memory.Agree (cur.toNat * 512) sent.bytes src) ∧
        (0 < blocksTodo - cur →
          if write.1 = cur then
            mmc.LeavesSource before turns (start + cur) (blocksTodo - cur) rest write.2
          else mmc.Holds before turns (start + cur) (blocksTodo - cur) rest)

theorem leavesSource_congr {turns : Nat} {memory other : Buffer} {world : World}
    (same : ∀ address, mmc.Covers turns start blocksTodo address → memory address = other address) :
    mmc.LeavesSource memory turns start blocksTodo src world ↔
      mmc.LeavesSource other turns start blocksTodo src world := by
  induction turns generalizing start blocksTodo src world with
  | zero => rfl
  | succ turns inductionHypothesis =>
    unfold Mmc.LeavesSource
    dsimp only
    split
    · exact holds_congr same
    · refine and_congr_right fun _ => imp_congr_right fun more => ?_
      have rest (address : Nat) (covered : mmc.Covers turns (start + chunk mmc blocksTodo)
          (blocksTodo - chunk mmc blocksTodo) address) : memory address = other address :=
        same address (.inr ⟨more, covered⟩)
      split
      · exact inductionHypothesis rest
      · exact holds_congr rest

/-- The partition after the data command of a chunk. -/
def chunkStored (mmc : Mmc) (memory : Buffer) (start cur : U32) (src : Buffer) (answer : Answer) :
    Buffer :=
  memory.overwrite (mmc.chunkByte start) (cur.toNat * 512)
    (if answer.error = 0 then src else answer.bytes)

theorem chunkStored_agree_iff (mmc : Mmc) (memory : Buffer) (start cur : U32) (src : Buffer)
    (answer : Answer) :
    Memory.Agree (cur.toNat * 512)
        ((chunkStored mmc memory start cur src answer).drop (mmc.chunkByte start)) src ↔
      (answer.error = 0 ∨ Memory.Agree (cur.toNat * 512) answer.bytes src) := by
  have left := Memory.agree_drop_overwrite memory (mmc.chunkByte start) (cur.toNat * 512)
    (if answer.error = 0 then src else answer.bytes)
  unfold chunkStored
  by_cases good : answer.error = 0
  · rw [if_pos good] at left ⊢
    exact iff_of_true left (.inl good)
  · rw [if_neg good] at left ⊢
    rw [or_iff_right good]
    exact ⟨left.symm.trans, left.trans⟩

/-- The chunks to come are not stored with this one. -/
theorem chunkStored_covered {turns : Nat} {cur : U32} (fits : cur.toNat + blocksTodo.toNat < 2 ^ 23)
    (memory src : Buffer) (answer : Answer) {address : Nat}
    (covered : mmc.Covers turns (start + cur) blocksTodo address) :
    chunkStored mmc memory start cur src answer address = memory address := by
  have apart := covers_apart mmc turns fits covered
  exact Memory.overwrite_outside _ _ _ _ _ (by omega)

theorem perform_writeBlocks_media {card : Card} (matched : Matches mmc card) (start cur : U32)
    (src : Buffer) (answer : Answer) :
    (card.perform (writeBlocksCmd mmc start cur) (some (writeBlocksData mmc cur src))
        answer).media card.access =
      chunkStored mmc (card.media card.access) start cur src answer := by
  have literal : mmc.writeBlLen.toNat = 512 := by
    rw [matched.writeBlLen]
    decide
  have stored : (card.store (writeBlocksCmd mmc start cur).cmdarg (writeBlocksData mmc cur src)
      (if answer.error = 0 then src else answer.bytes)).media card.access =
      chunkStored mmc (card.media card.access) start cur src answer := by
    have address : card.byteAddress (writeBlocksCmd mmc start cur).cmdarg =
        mmc.chunkByte start := by
      rw [← byteAddress_chunkByte matched start]
      show card.byteAddress (if mmc.highCapacity then start else start * mmc.writeBlLen) = _
      rw [matched.writeBlLen]
    have length : (writeBlocksData mmc cur src).blocks.toNat *
        (writeBlocksData mmc cur src).blocksize.toNat = cur.toNat * 512 := by
      show cur.toNat * mmc.writeBlLen.toNat = _
      rw [literal]
    unfold Card.store chunkStored
    rw [address, length]
    exact Function.update_self _ _ _
  rw [← stored]
  unfold Card.perform
  rcases writeBlocksCmd_cases mmc start cur with equal | equal <;> rw [equal] <;> rfl

/-- Behind the data command of a chunk nothing changes the card. -/
theorem exec_mmcWriteBlocks_media {cur : U32} (src : Buffer) {world : World}
    (matched : Matches mmc world.card) (inside : ¬ start + cur > mmc.blockDev.lba)
    (positive : 0 < cur) :
    ((mmcWriteBlocks mmc start cur src).exec serve world).2.card.media world.card.access =
      chunkStored mmc (world.card.media world.card.access) start cur src
        (world.answer (writeBlocksCmd mmc start cur) (some (writeBlocksData mmc cur src))) := by
  rw [exec_mmcWriteBlocks_command src world inside positive, ← perform_writeBlocks_media matched]
  rfl

theorem exec_mmcWriteBlocks_access (mmc : Mmc) (start cur : U32) (src : Buffer) (world : World) :
    ((mmcWriteBlocks mmc start cur src).exec serve world).2.card.access = world.card.access := by
  obtain ⟨transfers, served, -⟩ := exec_served (always_mmcWriteBlocks mmc start cur src
    (fun _ _ => keepsRegisters_writeBlocks mmc start cur _)
    (keepsRegisters_quiet (stopTransmissionCmd_quiet none) none)
    (keepsRegisters_quiet (sendStatusCmd_quiet mmc) none)).weaken world
  exact served.access

theorem mmcWriteBlocks_outside {cur : U32} (src : Buffer) (outside : start + cur > mmc.blockDev.lba) :
    mmcWriteBlocks mmc start cur src = pure 0 := by
  unfold mmcWriteBlocks
  exact if_pos outside

theorem exec_mmcBwriteLoop_succ (mmc : Mmc) (turns : Nat) (start blocksTodo : U32) (src : Buffer)
    (world : World) :
    (mmcBwriteLoop mmc (turns + 1) start blocksTodo src).exec serve world =
      let write := (mmcWriteBlocks mmc start (chunk mmc blocksTodo) src).exec serve world
      (if write.1 ≠ chunk mmc blocksTodo then pure false
        else if blocksTodo - chunk mmc blocksTodo > 0 then
          mmcBwriteLoop mmc turns (start + chunk mmc blocksTodo)
            (blocksTodo - chunk mmc blocksTodo)
            (src.drop (chunk mmc blocksTodo * mmc.writeBlLen).toNat)
        else pure true : Driver Bool).exec serve write.2 :=
  exec_bind serve _ _ world

section Loop

variable {mmc : Mmc}

/-- A write loop keeps the bytes that are in none of its chunks. -/
theorem exec_mmcBwriteLoop_outside (turns : Nat) (src : Buffer) {world : World}
    (matched : Matches mmc world.card) (positive : 0 < blocksTodo) {address : Nat}
    (outside : ¬ mmc.Covers turns start blocksTodo address) :
    ((mmcBwriteLoop mmc turns start blocksTodo src).exec serve world).2.card.media
        world.card.access address = world.card.media world.card.access address := by
  induction turns generalizing start blocksTodo src world with
  | zero => rfl
  | succ turns inductionHypothesis =>
    have advances := chunk_pos mmc blocksTodo positive
    have away : ¬(mmc.chunkByte start ≤ address ∧
        address < mmc.chunkByte start + (chunk mmc blocksTodo).toNat * 512) :=
      fun inside => outside (.inl inside)
    rw [exec_mmcBwriteLoop_succ]
    dsimp only
    by_cases turnedDown : start + chunk mmc blocksTodo > mmc.blockDev.lba
    · rw [mmcWriteBlocks_outside src turnedDown, if_pos (by rw [exec_pure]; bv_omega)]
      rfl
    have stored := congrFun (exec_mmcWriteBlocks_media src matched turnedDown advances) address
    have access := exec_mmcWriteBlocks_access mmc start (chunk mmc blocksTodo) src world
    have addressing := exec_sectorAddressed
      (mmcWriteBlocks mmc start (chunk mmc blocksTodo) src) world
    generalize (mmcWriteBlocks mmc start (chunk mmc blocksTodo) src).exec serve world = write
      at stored access addressing ⊢
    have first : write.2.card.media world.card.access address =
        world.card.media world.card.access address := by
      rw [stored]
      exact Memory.overwrite_outside _ _ _ _ _ (by omega)
    split
    · exact first
    · split
      · rename_i more
        have later := inductionHypothesis (src.drop (chunk mmc blocksTodo * mmc.writeBlLen).toNat)
          ⟨addressing.trans matched.addressing, matched.readBlLen, matched.writeBlLen⟩ more
          fun covered => outside (.inr ⟨more, covered⟩)
        rw [access] at later
        exact later.trans first
      · exact first

/-- The sectors hold the source after the write loop exactly if it leaves the source there. -/
theorem exec_mmcBwriteLoop_holds (turns : Nat) {world : World} (matched : Matches mmc world.card)
    (positive : 0 < blocksTodo) (enough : blocksTodo.toNat ≤ turns)
    (fits : blocksTodo.toNat < 2 ^ 23) :
    mmc.Holds (((mmcBwriteLoop mmc turns start blocksTodo src).exec serve world).2.card.media
        world.card.access) turns start blocksTodo src ↔
      mmc.LeavesSource (world.card.media world.card.access) turns start blocksTodo src world := by
  induction turns generalizing start blocksTodo src world with
  | zero => exact absurd positive (by bv_omega)
  | succ turns inductionHypothesis =>
    have advances : 0 < (chunk mmc blocksTodo).toNat := chunk_pos mmc blocksTodo positive
    have atMost : (chunk mmc blocksTodo).toNat ≤ blocksTodo.toNat := chunk_le mmc blocksTodo
    have bytes : (chunk mmc blocksTodo * mmc.writeBlLen).toNat =
        (chunk mmc blocksTodo).toNat * 512 := by
      rw [matched.writeBlLen]
      bv_omega
    rw [exec_mmcBwriteLoop_succ, Mmc.LeavesSource]
    dsimp only
    rw [bytes]
    by_cases turnedDown : start + chunk mmc blocksTodo > mmc.blockDev.lba
    · rw [if_pos turnedDown, mmcWriteBlocks_outside src turnedDown,
        if_pos (by rw [exec_pure]; bv_omega)]
      rfl
    rw [if_neg turnedDown]
    have stored := exec_mmcWriteBlocks_media src matched turnedDown advances
    have access := exec_mmcWriteBlocks_access mmc start (chunk mmc blocksTodo) src world
    have addressing := exec_sectorAddressed
      (mmcWriteBlocks mmc start (chunk mmc blocksTodo) src) world
    have sent := @exec_mmcWriteBlocks_sent mmc start (chunk mmc blocksTodo) src world advances
    generalize world.answer (writeBlocksCmd mmc start (chunk mmc blocksTodo))
      (some (writeBlocksData mmc (chunk mmc blocksTodo) src)) = answer at stored sent ⊢
    generalize (mmcWriteBlocks mmc start (chunk mmc blocksTodo) src).exec serve world = write
      at stored access addressing sent ⊢
    -- the chunks to come hold what they held before
    have restFits : (chunk mmc blocksTodo).toNat + (blocksTodo - chunk mmc blocksTodo).toNat <
        2 ^ 23 := by bv_omega
    have later (address : Nat) (covered : mmc.Covers turns (start + chunk mmc blocksTodo)
        (blocksTodo - chunk mmc blocksTodo) address) :
        write.2.card.media world.card.access address =
          world.card.media world.card.access address := by
      rw [stored]
      exact chunkStored_covered restFits _ _ _ covered
    have here := chunkStored_agree_iff mmc (world.card.media world.card.access) start
      (chunk mmc blocksTodo) src answer
    rw [← stored] at here
    by_cases counted : write.1 = chunk mmc blocksTodo
    · rw [if_neg (not_not.mpr counted)]
      by_cases more : 0 < blocksTodo - chunk mmc blocksTodo
      · rw [if_pos more]
        simp only [more, true_implies, if_pos counted]
        have stillMatched : Matches mmc write.2.card :=
          ⟨addressing.trans matched.addressing, matched.readBlLen, matched.writeBlLen⟩
        have rest := @inductionHypothesis (start + chunk mmc blocksTodo)
          (blocksTodo - chunk mmc blocksTodo) (src.drop ((chunk mmc blocksTodo).toNat * 512))
          write.2 stillMatched more (by bv_omega) (by bv_omega)
        have kept (address : Nat) (inside : address < (chunk mmc blocksTodo).toNat * 512) :=
          exec_mmcBwriteLoop_outside turns (src.drop ((chunk mmc blocksTodo).toNat * 512))
            stillMatched more fun covered => covers_apart mmc turns restFits covered
              ⟨Nat.le_add_right (mmc.chunkByte start) address, Nat.add_lt_add_left inside _⟩
        rw [access] at rest kept
        rw [Mmc.Holds]
        refine and_congr (Iff.trans ?_ here) ?_
        · refine forall₂_congr fun address inside => ?_
          rw [Memory.drop, Memory.drop, kept address inside]
        · simp only [more, true_implies]
          exact rest.trans (leavesSource_congr later)
      · rw [if_neg more, Mmc.Holds]
        simp only [more, false_implies, and_true]
        exact here
    · rw [if_pos counted, Mmc.Holds]
      refine and_congr here (imp_congr_right fun more => ?_)
      rw [if_neg counted]
      exact holds_congr later

/-- A write loop that ends well leaves the source. -/
theorem leavesSource_of_done {turns : Nat} {before : Buffer} {world : World}
    (positive : 0 < blocksTodo) (writeBlLen : mmc.writeBlLen = 512)
    (fits : blocksTodo.toNat < 2 ^ 23)
    (done : ((mmcBwriteLoop mmc turns start blocksTodo src).exec serve world).1 = true) :
    mmc.LeavesSource before turns start blocksTodo src world := by
  induction turns generalizing start blocksTodo src world with
  | zero => trivial
  | succ turns inductionHypothesis =>
    have advances := chunk_pos mmc blocksTodo positive
    have atMost := chunk_le mmc blocksTodo
    have bytes : (chunk mmc blocksTodo * mmc.writeBlLen).toNat =
        (chunk mmc blocksTodo).toNat * 512 := by
      rw [writeBlLen]
      bv_omega
    rw [exec_mmcBwriteLoop_succ, bytes] at done
    dsimp only at done
    by_cases counted : ((mmcWriteBlocks mmc start (chunk mmc blocksTodo) src).exec serve
        world).1 = chunk mmc blocksTodo
    · obtain ⟨inside, good⟩ := exec_mmcWriteBlocks_sent advances counted
      rw [if_neg (not_not.mpr counted)] at done
      rw [Mmc.LeavesSource]
      rw [if_neg inside]
      refine ⟨.inl good, fun more => ?_⟩
      rw [if_pos more] at done
      rw [if_pos counted]
      exact inductionHypothesis more (by bv_omega) done
    · rw [if_pos counted] at done
      exact absurd done Bool.false_ne_true

end Loop

/-! ### What a copy of the boot image leaves -/

section Copy

variable (mmc : Mmc) (start blkcnt : U32) (src : Buffer) (world : World)

/-- The memory for the copy is there, and its write and its reading back succeed. -/
def CopySucceeds : Prop :=
  let allocated := (malloc ((blkcnt * mmc.writeBlLen).setWidth 64)).exec serve world
  let write := (mmcBwrite (some mmc) start blkcnt src).exec serve allocated.2
  ∃ dst, allocated.1 = some dst ∧ write.1 = blkcnt.setWidth 64 ∧
    ((mmcBread (some mmc) start blkcnt dst).exec serve write.2).1.1 = blkcnt.setWidth 64

/-- The source is in the sectors of the copy when it ends, given what was in the partition
before: without memory or without the block length nothing is written. -/
@[irreducible]
def Mmc.CopyLeaves (before : Buffer) : Prop :=
  let allocated := (malloc ((blkcnt * mmc.writeBlLen).setWidth 64)).exec serve world
  let ready := (mmcSetBlocklen mmc mmc.writeBlLen).exec serve allocated.2
  if allocated.1 = none ∨ ready.1 ≠ 0 then mmc.Holds before blkcnt.toNat start blkcnt src
  else mmc.LeavesSource before blkcnt.toNat start blkcnt src ready.2

variable {mmc start blkcnt src world}

theorem exec_mmcBwrite_holds (matched : Matches mmc world.card) (positive : 0 < blkcnt)
    (fits : blkcnt.toNat < 2 ^ 23) :
    mmc.Holds (((mmcBwrite (some mmc) start blkcnt src).exec serve world).2.card.media
        world.card.access) blkcnt.toNat start blkcnt src ↔
      if ((mmcSetBlocklen mmc mmc.writeBlLen).exec serve world).1 ≠ 0 then
        mmc.Holds (world.card.media world.card.access) blkcnt.toNat start blkcnt src
      else mmc.LeavesSource (world.card.media world.card.access) blkcnt.toNat start blkcnt src
        ((mmcSetBlocklen mmc mmc.writeBlLen).exec serve world).2 := by
  have untouched : ((mmcSetBlocklen mmc mmc.writeBlLen).exec serve world).2.card = world.card :=
    exec_quiet (always_mmcSetBlocklen mmc mmc.writeBlLen (setBlocklenCmd_quiet _)) world
  unfold mmcBwrite
  rw [if_neg (by bv_omega)]
  dsimp only
  rw [exec_bind]
  generalize (mmcSetBlocklen mmc mmc.writeBlLen).exec serve world = ready at untouched ⊢
  split
  · rw [exec_pure, untouched]
  · rw [exec_bind, exec_pure, ← untouched]
    exact exec_mmcBwriteLoop_holds blkcnt.toNat (untouched.symm ▸ matched) positive
      (Nat.le_refl _) fits

/-- A copy leaves the image on the card exactly if it leaves the source there. -/
theorem exec_mmcDoBurnBoot_leaves (matched : Matches mmc world.card) (positive : 0 < blkcnt)
    (fits : blkcnt.toNat * 512 < 2 ^ 32) (dst : Buffer) :
    Memory.Agree (blkcnt.toNat * 512)
        (((mmcDoBurnBoot mmc start blkcnt src).exec serve world).2.card.image mmc start blkcnt dst)
        src ↔
      mmc.CopyLeaves start blkcnt src world (world.card.media world.card.access) := by
  have allocates : ((malloc ((blkcnt * mmc.writeBlLen).setWidth 64)).exec serve world).2.card =
      world.card := rfl
  have addressing := exec_sectorAddressed (mmcDoBurnBoot mmc start blkcnt src) world
  obtain ⟨transfers, served, -⟩ :=
    exec_served (always_mmcDoBurnBoot_keepsRegisters mmc start blkcnt src) world
  rw [image_agree_iff ⟨addressing.trans matched.addressing, matched.readBlLen,
    matched.writeBlLen⟩ positive fits, served.access]
  unfold mmcDoBurnBoot Mmc.CopyLeaves
  dsimp only
  rw [exec_bind]
  generalize (malloc ((blkcnt * mmc.writeBlLen).setWidth 64)).exec serve world = allocated
    at allocates ⊢
  obtain ⟨_ | memory, after⟩ := allocated
  · rw [if_pos (.inl rfl)]
    dsimp only at allocates ⊢
    rw [exec_pure, allocates]
  · dsimp only at allocates ⊢
    rw [← allocates] at matched ⊢
    have wrote := @exec_mmcBwrite_holds mmc start blkcnt src after matched positive (by omega)
    simp only [reduceCtorEq, false_or]
    rw [← wrote, exec_bind]
    generalize (mmcBwrite (some mmc) start blkcnt src).exec serve after = write
    split
    · rfl
    · rw [exec_bind]
      have kept := (exec_mmcBread_image mmc start blkcnt memory write.2).1.media
        after.card.access
      generalize (mmcBread (some mmc) start blkcnt memory).exec serve write.2 = read at kept ⊢
      have same : read.2.card.media after.card.access = write.2.card.media after.card.access :=
        funext fun address => kept address (.inr (.inr (by omega)))
      rw [exec_ite]
      split <;> rw [exec_pure, same]

/-- A write that is counted leaves the source. -/
theorem holds_of_mmcBwrite (matched : Matches mmc world.card) (fits : blkcnt.toNat < 2 ^ 23)
    (counted : ((mmcBwrite (some mmc) start blkcnt src).exec serve world).1 ≠ 0) :
    mmc.Holds (((mmcBwrite (some mmc) start blkcnt src).exec serve world).2.card.media
      world.card.access) blkcnt.toNat start blkcnt src := by
  obtain ⟨positive, ready, same, done, ends⟩ := mmcBwrite_counted counted
  rw [ends, ← same]
  exact (exec_mmcBwriteLoop_holds blkcnt.toNat (same.symm ▸ matched) positive (Nat.le_refl _)
    fits).mpr (leavesSource_of_done positive matched.writeBlLen fits done)

/-- A copy is counted exactly if its commands succeed: then the comparison does, too. -/
theorem mmcDoBurnBoot_counted_iff (matched : Matches mmc world.card) (positive : 0 < blkcnt)
    (fits : blkcnt.toNat * 512 < 2 ^ 32) :
    ((mmcDoBurnBoot mmc start blkcnt src).exec serve world).1 ≠ 0 ↔
      CopySucceeds mmc start blkcnt src world := by
  have nonzero : blkcnt.setWidth 64 ≠ (0 : Ulong) := by bv_omega
  have size : (blkcnt * mmc.writeBlLen).toNat = blkcnt.toNat * 512 := by
    rw [matched.writeBlLen]
    bv_omega
  have allocates : ((malloc ((blkcnt * mmc.writeBlLen).setWidth 64)).exec serve world).2.card =
      world.card := rfl
  unfold mmcDoBurnBoot CopySucceeds
  dsimp only
  rw [exec_bind]
  generalize (malloc ((blkcnt * mmc.writeBlLen).setWidth 64)).exec serve world = allocated
    at allocates ⊢
  obtain ⟨_ | dst, after⟩ := allocated
  · exact iff_of_false (fun counted => counted rfl) nofun
  dsimp only at allocates ⊢
  simp only [Option.some.injEq, exists_eq_left']
  rw [← allocates] at matched
  have holds := @holds_of_mmcBwrite mmc start blkcnt src after matched (by omega)
  obtain ⟨transfers, served, -⟩ :=
    exec_served (always_mmcBwrite_keepsRegisters mmc start blkcnt src) after
  have addressing := exec_sectorAddressed (mmcBwrite (some mmc) start blkcnt src) after
  rw [exec_bind]
  generalize (mmcBwrite (some mmc) start blkcnt src).exec serve after = write
    at holds served addressing ⊢
  by_cases whole : write.1 = blkcnt.setWidth 64
  · have writeMatched : Matches mmc write.2.card :=
      ⟨addressing.trans matched.addressing, matched.readBlLen, matched.writeBlLen⟩
    have image := (exec_mmcBread_image mmc start blkcnt dst write.2).2
    have count := (always_mmcBread_count (some mmc) start blkcnt dst).result serve write.2
    rw [if_neg (not_not.mpr whole), exec_bind, size, exec_ite, exec_pure,
      exec_pure, whole]
    generalize (mmcBread (some mmc) start blkcnt dst).exec serve write.2 = read at image count ⊢
    by_cases counted : read.1.1 = blkcnt.setWidth 64
    · obtain ⟨-, -, bytes⟩ := image (by rw [counted]; exact nonzero)
      have agree : Memory.Agree (blkcnt.toNat * 512) read.1.2 src := by
        rw [bytes, image_agree_iff writeMatched positive fits, served.access]
        exact holds (by rw [whole]; exact nonzero)
      refine iff_of_true ?_ ⟨rfl, counted⟩
      rw [if_neg ?_]
      · exact nonzero
      · rw [not_or, not_not, counted]
        exact ⟨BitVec.lt_irrefl _, agree.symm⟩
    · have none : read.1.1 = 0 := count.resolve_right counted
      refine iff_of_false (fun some => some ?_) fun both => counted both.2
      rw [if_pos (.inl (by rw [none]; bv_omega))]
  · rw [if_pos whole]
    exact iff_of_false (fun counted => counted rfl) fun both => whole both.1

end Copy

end PinePhonePkg
