/-
This file settles which sectors the block reads and writes address, whatever the
card answers. Both compare 32-bit sums with the size of the card, and the write
does so for each chunk only: a range whose sum wraps passes the check, and a
write that crosses the end of the card is cut short after blocks were written.
On a card that is addressed by bytes a chunk whose byte address wraps goes to
blocks further down.
-/

import PinePhonePkg.Mmc.Addressing
import PinePhonePkg.Mmc.Replies

namespace PinePhonePkg

open Library Program

/-! ### Data commands and the card's range -/

/-- The command reads or writes blocks. -/
def MmcCmd.IsData (cmd : MmcCmd) : Prop :=
  cmd.cmdidx = mmcCmdReadSingleBlock ∨ cmd.cmdidx = mmcCmdReadMultipleBlock ∨
    cmd.cmdidx = mmcCmdWriteSingleBlock ∨ cmd.cmdidx = mmcCmdWriteMultipleBlock

instance (cmd : MmcCmd) : Decidable cmd.IsData :=
  inferInstanceAs (Decidable (_ ∨ _))

/-- The first block a data command addresses: block addresses on a high-capacity card, byte
addresses on any other. -/
def Mmc.firstBlock (mmc : Mmc) (cmd : MmcCmd) (data : MmcData) : Nat :=
  if mmc.highCapacity then cmd.cmdarg.toNat else cmd.cmdarg.toNat / data.blocksize.toNat

/-- The request is a data command. -/
def Request.IsData : Request → Prop
  | .sendCmd cmd (some _) => cmd.IsData
  | _ => False

/-- A data command that stays in the sectors from `first` up to `last`; other requests do. -/
def Request.DataWithin (mmc : Mmc) (first last : Nat) : Request → Prop
  | .sendCmd cmd (some data) =>
      cmd.IsData → first ≤ mmc.firstBlock cmd data ∧
        mmc.firstBlock cmd data + data.blocks.toNat ≤ last
  | _ => True

/-- The blocks a request transfers, in order. Blocks of no bytes are none. -/
def Request.blocks (mmc : Mmc) : Request → List Nat
  | .sendCmd cmd (some data) =>
      if cmd.IsData ∧ data.blocksize ≠ 0 then
        List.range' (mmc.firstBlock cmd data) data.blocks.toNat
      else []
  | _ => []

/-- The blocks a run transfers, in the order of its data commands. -/
def transferred (mmc : Mmc) (trace : List (Exchange Request Request.Reply)) : List Nat :=
  trace.flatMap fun exchange => exchange.request.blocks mmc

theorem transferred_append (mmc : Mmc) (before after : List (Exchange Request Request.Reply)) :
    transferred mmc (before ++ after) = transferred mmc before ++ transferred mmc after :=
  List.flatMap_append

/-- The data command is one for so many blocks of a length from a sector on. -/
structure MovesBlocks (mmc : Mmc) (length start blkcnt : U32) (cmd : MmcCmd) (data : MmcData) :
    Prop where
  isData : cmd.IsData
  address : cmd.cmdarg = if mmc.highCapacity then start else start * length
  count : data.blocks = blkcnt
  blocksize : data.blocksize = length

theorem readBlocks_movesBlocks (mmc : Mmc) (start blkcnt : U32) :
    MovesBlocks mmc mmc.readBlLen start blkcnt (readBlocksCmd mmc start blkcnt)
      (readBlocksData mmc blkcnt) := by
  refine ⟨?_, rfl, rfl, rfl⟩
  rcases readBlocksCmd_cases mmc start blkcnt with single | multiple
  · exact Or.inl single
  · exact Or.inr (Or.inl multiple)

theorem writeBlocks_movesBlocks (mmc : Mmc) (start blkcnt : U32) (src : Buffer) :
    MovesBlocks mmc mmc.writeBlLen start blkcnt (writeBlocksCmd mmc start blkcnt)
      (writeBlocksData mmc blkcnt src) := by
  refine ⟨?_, rfl, rfl, rfl⟩
  rcases writeBlocksCmd_cases mmc start blkcnt with single | multiple
  · exact Or.inr (Or.inr (Or.inl single))
  · exact Or.inr (Or.inr (Or.inr multiple))

namespace MovesBlocks

variable {mmc : Mmc} {length start blkcnt : U32} {cmd : MmcCmd} {data : MmcData}
  (moves : MovesBlocks mmc length start blkcnt cmd data)
include moves

theorem firstBlock : mmc.firstBlock cmd data = mmc.landsOn length start := by
  unfold Mmc.firstBlock Mmc.landsOn
  rw [moves.address, moves.blocksize]
  cases mmc.highCapacity <;> rfl

theorem blocks : Request.blocks mmc (.sendCmd cmd (some data)) =
    mmc.chunkRange length start blkcnt := by
  unfold Request.blocks Mmc.chunkRange
  dsimp only
  rw [moves.firstBlock, moves.count, moves.blocksize]
  by_cases none : length = 0
  · rw [if_neg fun both => both.2 none, if_pos none]
  · rw [if_pos ⟨moves.isData, none⟩, if_neg none]

/-- Nothing else of the run transfers a block. -/
theorem transferred {reply : CmdReply} {after : List (Exchange Request Request.Reply)}
    (none : PinePhonePkg.transferred mmc after = []) :
    PinePhonePkg.transferred mmc (⟨.sendCmd cmd (some data), reply⟩ :: after) =
      mmc.chunkRange length start blkcnt := by
  unfold PinePhonePkg.transferred at none ⊢
  rw [List.flatMap_cons, none, List.append_nil]
  exact moves.blocks

end MovesBlocks

/-! ### One chunk over all replies -/

section Always

variable {assumed : Exchange Request Request.Reply → Prop} {allowed : Request → Prop}

theorem always_mmcReadBlocks (mmc : Mmc) (start blkcnt : U32)
    (data : allowed (.sendCmd (readBlocksCmd mmc start blkcnt) (some (readBlocksData mmc blkcnt))))
    (stop : allowed (.sendCmd (stopTransmissionCmd (some 0)) none))
    (status : allowed (.sendCmd (sendStatusCmd mmc) none)) :
    Always assumed allowed (fun _ => True) (mmcReadBlocks mmc start blkcnt) := by
  unfold mmcReadBlocks
  refine ⟨data, fun reply _ => ?_⟩
  show Always _ _ _ (if reply.error ≠ 0 then _ else _)
  split
  · trivial
  · split
    · refine ⟨stop, fun reply _ => ?_⟩
      show Always _ _ _ (if reply.error ≠ 0 then _ else _)
      split
      · trivial
      · exact (always_mmcSendStatus mmc status 1000).bind fun _ _ => trivial
    · trivial

theorem always_mmcWriteBlocks (mmc : Mmc) (start blkcnt : U32) (src : Buffer)
    (data : start + blkcnt ≤ mmc.blockDev.lba → 0 < blkcnt → allowed
      (.sendCmd (writeBlocksCmd mmc start blkcnt) (some (writeBlocksData mmc blkcnt src))))
    (stop : allowed (.sendCmd (stopTransmissionCmd none) none))
    (status : allowed (.sendCmd (sendStatusCmd mmc) none)) :
    Always assumed allowed (fun count => count ≠ 0 → start + blkcnt ≤ mmc.blockDev.lba)
      (mmcWriteBlocks mmc start blkcnt src) := by
  unfold mmcWriteBlocks
  split
  · exact fun some => absurd rfl some
  · rename_i notPast
    have passes : start + blkcnt ≤ mmc.blockDev.lba := BitVec.not_lt.mp notPast
    split
    · exact fun _ => passes
    · refine ⟨data passes (by bv_omega), fun reply _ => ?_⟩
      show Always _ _ _ (if reply.error ≠ 0 then _ else _)
      split
      · exact fun _ => passes
      · split
        · refine ⟨stop, fun reply _ => ?_⟩
          show Always _ _ _ (if reply.error ≠ 0 then _ else _)
          split
          · exact fun _ => passes
          · exact (always_mmcSendStatus mmc status 1000).bind fun _ _ _ => passes
        · exact (always_mmcSendStatus mmc status 1000).bind fun _ _ _ => passes

/-! ### Chunks over all replies -/

/-- What is left of a request after so many full chunks -/
def LeftAfter (mmc : Mmc) (start blkcnt : U32) (turns : Nat) (first blocksTodo : U32) : Prop :=
  turns * mmc.cfg.bMax.toNat < blkcnt.toNat ∧ first = mmc.chunkStart start turns ∧
    blocksTodo = blkcnt - .ofNat 32 (turns * mmc.cfg.bMax.toNat)

theorem leftAfter_zero (mmc : Mmc) {start blkcnt : U32} (positive : 0 < blkcnt) :
    LeftAfter mmc start blkcnt 0 start blkcnt := by
  refine ⟨?_, (chunkStart_zero mmc start).symm, ?_⟩
  · rw [Nat.zero_mul]
    exact positive
  · rw [Nat.zero_mul]
    exact (BitVec.sub_zero blkcnt).symm

theorem LeftAfter.next {mmc : Mmc} {start blkcnt first blocksTodo : U32} {turns : Nat}
    (left : LeftAfter mmc start blkcnt turns first blocksTodo)
    (more : 0 < blocksTodo - chunk mmc blocksTodo) :
    LeftAfter mmc start blkcnt (turns + 1) (first + chunk mmc blocksTodo)
      (blocksTodo - chunk mmc blocksTodo) := by
  obtain ⟨inside, rfl, rfl⟩ := left
  obtain ⟨full, after⟩ := turn_of_more inside more
  unfold Mmc.chunkCount at full
  refine ⟨after, ?_, ?_⟩
  · rw [full]
    unfold Mmc.chunkStart
    rw [Nat.succ_mul]
    generalize turns * mmc.cfg.bMax.toNat = before
    bv_omega
  · rw [full, Nat.succ_mul]
    generalize turns * mmc.cfg.bMax.toNat = before
    bv_omega

theorem LeftAfter.positive {mmc : Mmc} {start blkcnt first blocksTodo : U32} {turns : Nat}
    (left : LeftAfter mmc start blkcnt turns first blocksTodo) : 0 < chunk mmc blocksTodo := by
  obtain ⟨inside, -, rfl⟩ := left
  refine chunk_pos mmc _ ?_
  generalize turns * mmc.cfg.bMax.toNat = before at inside ⊢
  bv_omega

section Whole

variable (mmc : Mmc) (start blkcnt : U32)

/-- Wherever its range lies, a read that is not turned down sends the commands of its chunks. -/
theorem always_mmcBread_chunks (dst : Buffer)
    (data : start + blkcnt ≤ mmc.blockDev.lba → ∀ turns,
      turns * mmc.cfg.bMax.toNat < blkcnt.toNat → allowed
        (.sendCmd (readBlocksCmd mmc (mmc.chunkStart start turns) (mmc.chunkCount blkcnt turns))
          (some (readBlocksData mmc (mmc.chunkCount blkcnt turns)))))
    (stop : allowed (.sendCmd (stopTransmissionCmd (some 0)) none))
    (status : allowed (.sendCmd (sendStatusCmd mmc) none))
    (blocklen : allowed (.sendCmd (setBlocklenCmd mmc.readBlLen) none)) :
    Always assumed allowed (fun _ => True) (mmcBread (some mmc) start blkcnt dst) := by
  have loop (passes : start + blkcnt ≤ mmc.blockDev.lba) (fuel turns : Nat) (first todo : U32)
      (offset : Nat) (dst : Buffer) (left : LeftAfter mmc start blkcnt turns first todo) :
      Always assumed allowed (fun _ => True)
        (mmcBreadLoop mmc fuel first todo offset dst) := by
    induction fuel generalizing turns first todo offset dst with
    | zero => trivial
    | succ fuel inductionHypothesis =>
      have command : allowed (.sendCmd (readBlocksCmd mmc first (chunk mmc todo))
          (some (readBlocksData mmc (chunk mmc todo)))) := by
        obtain ⟨inside, rfl, rfl⟩ := left
        exact data passes turns inside
      unfold mmcBreadLoop
      refine (always_mmcReadBlocks mmc first (chunk mmc todo) command stop status).bind
        fun result _ => ?_
      show Always _ _ _ (if result.1 ≠ chunk mmc todo then _ else _)
      split
      · trivial
      · split
        · exact inductionHypothesis (turns + 1) _ _ _ _ (left.next (by assumption))
        · trivial
  unfold mmcBread
  split
  · trivial
  rename_i nonzero
  show Always _ _ _ (if start + blkcnt > mmc.blockDev.lba then _ else _)
  split
  · trivial
  rename_i notPast
  refine (always_mmcSetBlocklen mmc mmc.readBlLen blocklen).bind fun err _ => ?_
  split
  · trivial
  · exact (loop (BitVec.not_lt.mp notPast) blkcnt.toNat 0 start blkcnt 0 dst
      (leftAfter_zero mmc (by bv_omega))).bind fun _ _ => trivial

/-- A write sends those of the chunks up to the first that its check turns down. -/
theorem always_mmcBwrite_chunks (src : Buffer)
    (data : ∀ turns src, turns * mmc.cfg.bMax.toNat < blkcnt.toNat →
      (∀ earlier ≤ turns, mmc.chunkStart start earlier + mmc.chunkCount blkcnt earlier ≤
        mmc.blockDev.lba) → allowed
        (.sendCmd (writeBlocksCmd mmc (mmc.chunkStart start turns) (mmc.chunkCount blkcnt turns))
          (some (writeBlocksData mmc (mmc.chunkCount blkcnt turns) src))))
    (stop : allowed (.sendCmd (stopTransmissionCmd none) none))
    (status : allowed (.sendCmd (sendStatusCmd mmc) none))
    (blocklen : allowed (.sendCmd (setBlocklenCmd mmc.writeBlLen) none)) :
    Always assumed allowed (fun _ => True) (mmcBwrite (some mmc) start blkcnt src) := by
  have loop (fuel turns : Nat) (first todo : U32) (src : Buffer)
      (left : LeftAfter mmc start blkcnt turns first todo)
      (before : ∀ earlier < turns, mmc.chunkStart start earlier + mmc.chunkCount blkcnt earlier ≤
        mmc.blockDev.lba) :
      Always assumed allowed (fun _ => True) (mmcBwriteLoop mmc fuel first todo src) := by
    induction fuel generalizing turns first todo src with
    | zero => trivial
    | succ fuel inductionHypothesis =>
      have upTo (passes : first + chunk mmc todo ≤ mmc.blockDev.lba) : ∀ earlier ≤ turns,
          mmc.chunkStart start earlier + mmc.chunkCount blkcnt earlier ≤ mmc.blockDev.lba := by
        intro earlier le
        rcases Nat.lt_or_eq_of_le le with less | rfl
        · exact before earlier less
        · obtain ⟨_, rfl, rfl⟩ := left
          exact passes
      have command (passes : first + chunk mmc todo ≤ mmc.blockDev.lba) :
          allowed (.sendCmd (writeBlocksCmd mmc first (chunk mmc todo))
            (some (writeBlocksData mmc (chunk mmc todo) src))) := by
        have accepted := upTo passes
        obtain ⟨inside, rfl, rfl⟩ := left
        exact data turns src inside accepted
      unfold mmcBwriteLoop
      refine (always_mmcWriteBlocks mmc first (chunk mmc todo) src (fun passes _ => command passes)
        stop status).bind fun count passed => ?_
      show Always _ _ _ (if count ≠ chunk mmc todo then _ else _)
      split
      · trivial
      · have advances := left.positive
        have passes := passed (by bv_omega)
        split
        · exact inductionHypothesis (turns + 1) _ _ _ (left.next (by assumption))
            fun earlier less => upTo passes earlier (Nat.le_of_lt_succ less)
        · trivial
  unfold mmcBwrite
  split
  · trivial
  rename_i nonzero
  refine (always_mmcSetBlocklen mmc mmc.writeBlLen blocklen).bind fun err _ => ?_
  split
  · trivial
  · exact (loop blkcnt.toNat 0 start blkcnt src (leftAfter_zero mmc (by bv_omega))
      fun _ less => absurd less (Nat.not_lt_zero _)).bind fun _ _ => trivial

/-- A read whose range does not wrap sends data commands for this range only. -/
theorem always_mmcBread (dst : Buffer) (bound : start.toNat + blkcnt.toNat ≤ 2 ^ 32)
    (data : ∀ first count : U32, 0 < count → start.toNat ≤ first.toNat →
      first.toNat + count.toNat ≤ start.toNat + blkcnt.toNat →
      allowed (.sendCmd (readBlocksCmd mmc first count) (some (readBlocksData mmc count))))
    (stop : allowed (.sendCmd (stopTransmissionCmd (some 0)) none))
    (status : allowed (.sendCmd (sendStatusCmd mmc) none))
    (blocklen : allowed (.sendCmd (setBlocklenCmd mmc.readBlLen) none)) :
    Always assumed allowed (fun _ => True) (mmcBread (some mmc) start blkcnt dst) := by
  refine always_mmcBread_chunks mmc start blkcnt dst (fun _ turns inside => ?_) stop status blocklen
  obtain ⟨positive, above, below⟩ := chunk_inside inside bound
  exact data _ _ positive above below

theorem always_mmcBwrite (src : Buffer) (bound : start.toNat + blkcnt.toNat ≤ 2 ^ 32)
    (data : ∀ (first count : U32) (src : Buffer), 0 < count → start.toNat ≤ first.toNat →
      first.toNat + count.toNat ≤ start.toNat + blkcnt.toNat → allowed
        (.sendCmd (writeBlocksCmd mmc first count) (some (writeBlocksData mmc count src))))
    (stop : allowed (.sendCmd (stopTransmissionCmd none) none))
    (status : allowed (.sendCmd (sendStatusCmd mmc) none))
    (blocklen : allowed (.sendCmd (setBlocklenCmd mmc.writeBlLen) none)) :
    Always assumed allowed (fun _ => True) (mmcBwrite (some mmc) start blkcnt src) := by
  refine always_mmcBwrite_chunks mmc start blkcnt src (fun turns src inside _ => ?_) stop status
    blocklen
  obtain ⟨positive, above, below⟩ := chunk_inside inside bound
  exact data _ _ _ positive above below

end Whole

end Always

/-! ### When every request goes well -/

/-- A program that transfers nothing, and what it ends with when every request goes well -/
theorem eachRun_transfersNothing {Result : Type} {mmc : Mmc} {program : Driver Result}
    {post : Result → Prop}
    (nothing : Always (fun _ => True) (fun request => request.blocks mmc = [])
      (fun _ => True) program)
    (succeeds : Always Succeeds (fun _ => True) post program) :
    EachRun Succeeds (fun trace result => transferred mmc trace = [] ∧ post result)
      program := by
  intro trace result run good
  refine ⟨List.flatMap_eq_nil_iff.mpr fun exchange member => ?_, (succeeds.run run good).2⟩
  exact (nothing.run run fun _ _ => trivial).1 exchange member

theorem eachRun_mmcSendStatus (mmc : Mmc) :
    EachRun Succeeds (fun trace status => transferred mmc trace = [] ∧ status = 0)
      (mmcSendStatus mmc 1000) :=
  eachRun_transfersNothing
    (always_mmcSendStatus mmc (show Request.blocks mmc (.sendCmd _ none) = [] from rfl) 1000)
    (succeeds_mmcSendStatus mmc 1000 (by decide) (by decide))

theorem eachRun_mmcSetBlocklen (mmc : Mmc) (len : U32) :
    EachRun Succeeds (fun trace err => transferred mmc trace = [] ∧ err = 0)
      (mmcSetBlocklen mmc len) :=
  eachRun_transfersNothing
    (always_mmcSetBlocklen mmc len (show Request.blocks mmc (.sendCmd _ none) = [] from rfl))
    (succeeds_mmcSetBlocklen mmc len)

theorem eachRun_mmcReadBlocks (mmc : Mmc) (start blkcnt : U32) :
    EachRun Succeeds
      (fun trace result => transferred mmc trace = mmc.chunkRange mmc.readBlLen start blkcnt ∧
        result.1 = blkcnt) (mmcReadBlocks mmc start blkcnt) := by
  unfold mmcReadBlocks
  refine eachRun_call fun reply good => ?_
  show EachRun _ _ (if reply.error ≠ 0 then _ else _)
  rw [if_neg (not_not.mpr good.1)]
  have moves := readBlocks_movesBlocks mmc start blkcnt
  split
  · refine eachRun_call fun stopped good => ?_
    show EachRun _ _ (if stopped.error ≠ 0 then _ else _)
    rw [if_neg (not_not.mpr good.1)]
    refine (eachRun_mmcSendStatus mmc).bind fun before status settled =>
      eachRun_pure ⟨moves.transferred ?_, rfl⟩
    rw [List.append_nil]
    exact settled.1
  · exact eachRun_pure ⟨moves.transferred rfl, rfl⟩

theorem eachRun_mmcWriteBlocks (mmc : Mmc) (start blkcnt : U32) (src : Buffer)
    (passes : start + blkcnt ≤ mmc.blockDev.lba) (positive : 0 < blkcnt) :
    EachRun Succeeds
      (fun trace count => transferred mmc trace = mmc.chunkRange mmc.writeBlLen start blkcnt ∧
        count = blkcnt) (mmcWriteBlocks mmc start blkcnt src) := by
  unfold mmcWriteBlocks
  rw [if_neg (by bv_omega), if_neg (by bv_omega)]
  refine eachRun_call fun reply good => ?_
  show EachRun _ _ (if reply.error ≠ 0 then _ else _)
  rw [if_neg (not_not.mpr good.1)]
  have moves := writeBlocks_movesBlocks mmc start blkcnt src
  split
  · refine eachRun_call fun stopped good => ?_
    show EachRun _ _ (if stopped.error ≠ 0 then _ else _)
    rw [if_neg (not_not.mpr good.1)]
    refine (eachRun_mmcSendStatus mmc).bind fun before status settled =>
      eachRun_pure ⟨moves.transferred ?_, if_neg (not_not.mpr settled.2)⟩
    rw [List.append_nil]
    exact settled.1
  · refine (eachRun_mmcSendStatus mmc).bind fun before status settled =>
      eachRun_pure ⟨moves.transferred ?_, if_neg (not_not.mpr settled.2)⟩
    rw [List.append_nil]
    exact settled.1

/-- The loop of the read transfers its chunks one after the other. -/
theorem eachRun_mmcBreadLoop (mmc : Mmc) (turns : Nat) (start blocksTodo : U32) (offset : Nat)
    (dst : Buffer) (positive : 0 < blocksTodo) (enough : blocksTodo.toNat ≤ turns) :
    EachRun Succeeds
      (fun trace result =>
        transferred mmc trace = mmc.chunkBlocks mmc.readBlLen turns start blocksTodo ∧
          result.1 = true) (mmcBreadLoop mmc turns start blocksTodo offset dst) := by
  induction turns generalizing start blocksTodo offset dst with
  | zero => exact absurd positive (by bv_omega)
  | succ turns inductionHypothesis =>
    have fits := chunk_le mmc blocksTodo
    have advances := chunk_pos mmc blocksTodo positive
    unfold mmcBreadLoop Mmc.chunkBlocks
    dsimp only
    refine (eachRun_mmcReadBlocks mmc start (chunk mmc blocksTodo)).bind fun before result full => ?_
    show EachRun _ _ (if result.1 ≠ chunk mmc blocksTodo then _ else _)
    rw [if_neg (not_not.mpr full.2)]
    split
    · rename_i more
      refine (inductionHypothesis (start + chunk mmc blocksTodo) (blocksTodo - chunk mmc blocksTodo)
        _ _ more (by bv_omega)).mono fun after result rest => ?_
      rw [transferred_append, full.1, rest.1]
      exact ⟨rfl, rest.2⟩
    · refine eachRun_pure (⟨?_, rfl⟩ : _ ∧ _)
      rw [List.append_nil, List.append_nil, full.1]

theorem eachRun_mmcBwriteLoop (mmc : Mmc) (turns : Nat) (start blocksTodo : U32)
    (src : Buffer) (positive : 0 < blocksTodo) (enough : blocksTodo.toNat ≤ turns)
    (inside : start.toNat + blocksTodo.toNat ≤ mmc.blockDev.lba.toNat) :
    EachRun Succeeds
      (fun trace done =>
        transferred mmc trace = mmc.chunkBlocks mmc.writeBlLen turns start blocksTodo ∧
          done = true) (mmcBwriteLoop mmc turns start blocksTodo src) := by
  induction turns generalizing start blocksTodo src with
  | zero => exact absurd positive (by bv_omega)
  | succ turns inductionHypothesis =>
    have fits := chunk_le mmc blocksTodo
    have advances := chunk_pos mmc blocksTodo positive
    unfold mmcBwriteLoop Mmc.chunkBlocks
    dsimp only
    refine (eachRun_mmcWriteBlocks mmc start (chunk mmc blocksTodo) src (by bv_omega)
      advances).bind fun before count full => ?_
    rw [if_neg (not_not.mpr full.2)]
    split
    · rename_i more
      refine (inductionHypothesis (start + chunk mmc blocksTodo) (blocksTodo - chunk mmc blocksTodo)
        _ more (by bv_omega) (by bv_omega)).mono fun after done rest => ?_
      rw [transferred_append, full.1, rest.1]
      exact ⟨rfl, rest.2⟩
    · refine eachRun_pure (⟨?_, rfl⟩ : _ ∧ _)
      rw [List.append_nil, List.append_nil, full.1]

/-! ### The range of a whole request -/

/-- The request lies wholly inside the card, without 32-bit wrapping. -/
def Mmc.Contains (mmc : Mmc) (start blkcnt : U32) : Prop :=
  start.toNat + blkcnt.toNat ≤ mmc.blockDev.lba.toNat

instance (mmc : Mmc) (start blkcnt : U32) : Decidable (mmc.Contains start blkcnt) :=
  inferInstanceAs (Decidable (_ ≤ _))

/-- What the size of the card asks of a block transfer: no data command reaches past the last
block, and a request that does not lie in the card is turned down before any data command is
sent. -/
structure RangeKept {Result : Type} (mmc : Mmc) (start blkcnt : U32) (program : Driver Result)
    (count : Result → Ulong) : Prop where
  within : ∀ trace result, program.Run trace result →
    ∀ exchange ∈ trace, exchange.request.DataWithin mmc 0 mmc.blockDev.lba.toNat
  rejected : ¬ mmc.Contains start blkcnt → ∀ trace result, program.Run trace result →
    count result = 0 ∧ ∀ exchange ∈ trace, ¬ exchange.request.IsData

/-- A request that lies in the card is carried out unless some command fails: its blocks are
transferred one after the other, and no others. -/
def CarriedOut {Result : Type} (mmc : Mmc) (start blkcnt : U32) (program : Driver Result)
    (count : Result → Ulong) : Prop :=
  mmc.Contains start blkcnt → 0 < blkcnt → ∀ trace result, program.Run trace result →
    (∀ exchange ∈ trace, Succeeds exchange) →
      count result = blkcnt.setWidth 64 ∧
        transferred mmc trace = List.range' start.toNat blkcnt.toNat

/-- Without a data command nothing can leave the card's range. -/
theorem dataWithin_of_not_isData {request : Request} (notData : ¬ request.IsData) (mmc : Mmc)
    (first last : Nat) : request.DataWithin mmc first last := by
  cases request with
  | sendCmd cmd data =>
    cases data with
    | none => trivial
    | some data => exact fun isData => absurd isData notData
  | setIos | updatePhase | malloc | unsetWord => trivial

/-- A program that never sends a data command and counts nothing keeps any range. -/
theorem rangeKept_of_rejects {Result : Type} {mmc : Mmc} {start blkcnt : U32}
    {program : Driver Result} {count : Result → Ulong}
    (rejects : Always (fun _ => True) (fun request => ¬ request.IsData)
      (fun result => count result = 0) program) :
    RangeKept mmc start blkcnt program count where
  within _ _ run exchange member :=
    dataWithin_of_not_isData ((rejects.run run fun _ _ => trivial).1 exchange member) mmc _ _
  rejected _ _ _ run :=
    have all := rejects.run run fun _ _ => trivial
    ⟨all.2, all.1⟩

/-- A program of which the blocks are known carries a request out if they are those of it. -/
theorem carriedOut_iff {Result : Type} {mmc : Mmc} {start blkcnt : U32} {length : U32}
    {program : Driver Result} {count : Result → Ulong} (inside : mmc.Contains start blkcnt)
    (carries : 0 < blkcnt → EachRun Succeeds
      (fun trace result =>
        transferred mmc trace = mmc.chunkBlocks length blkcnt.toNat start blkcnt ∧
          count result = blkcnt.setWidth 64) program) :
    CarriedOut mmc start blkcnt program count ↔
      blkcnt = 0 ∨ mmc.ChunksReach length start blkcnt := by
  by_cases nothing : blkcnt = 0
  · exact iff_of_true (fun _ positive => absurd positive (by bv_omega)) (.inl nothing)
  have positive : 0 < blkcnt := by bv_omega
  have noWrap : start.toNat + blkcnt.toNat < 2 ^ 32 :=
    Nat.lt_of_le_of_lt inside mmc.blockDev.lba.isLt
  rw [or_iff_right nothing, ← chunkBlocks_eq_iff blkcnt.toNat positive (Nat.le_refl _) noWrap]
  constructor
  · intro carriedOut
    have good := trace_serveWell_succeeds program ()
    have run := run_exec serveWell program ()
    exact (carries positive _ _ run good).1.symm.trans (carriedOut inside positive _ _ run good).2
  · intro reached _ _ trace result run good
    have carried := carries positive trace result run good
    exact ⟨carried.2, carried.1.trans reached⟩

/-! ### The read -/

/-- The check of the read accepts the range by its 32-bit sum. -/
theorem eachRun_mmcBread (mmc : Mmc) (start blkcnt : U32) (dst : Buffer) (positive : 0 < blkcnt)
    (accepted : start + blkcnt ≤ mmc.blockDev.lba) :
    EachRun Succeeds
      (fun trace result =>
        transferred mmc trace = mmc.chunkBlocks mmc.readBlLen blkcnt.toNat start blkcnt ∧
          result.1 = blkcnt.setWidth 64) (mmcBread (some mmc) start blkcnt dst) := by
  unfold mmcBread
  rw [if_neg (by bv_omega)]
  show EachRun _ _ (if start + blkcnt > mmc.blockDev.lba then _ else _)
  rw [if_neg (by bv_omega)]
  refine (eachRun_mmcSetBlocklen mmc mmc.readBlLen).bind fun before err quiet => ?_
  rw [if_neg (not_not.mpr quiet.2)]
  refine (eachRun_mmcBreadLoop mmc blkcnt.toNat start blkcnt 0 dst positive
    (Nat.le_refl _)).bind fun during result full => eachRun_pure ⟨?_, ?_⟩
  · rw [List.append_nil, transferred_append, quiet.1, List.nil_append, full.1]
  · show (if result.1 then blkcnt.setWidth 64 else 0) = _
    rw [full.2]
    rfl

theorem succeeds_mmcBread (mmc : Mmc) (start blkcnt : U32) (dst : Buffer) (positive : 0 < blkcnt)
    (accepted : start + blkcnt ≤ mmc.blockDev.lba) :
    Always Succeeds (fun _ => True) (fun result => result.1 = blkcnt.setWidth 64)
      (mmcBread (some mmc) start blkcnt dst) :=
  ((eachRun_mmcBread mmc start blkcnt dst positive accepted).mono fun _ _ full => full.2).always

theorem trace_mmcReadBlocks_data (mmc : Mmc) (start blkcnt : U32) :
    ∃ exchange ∈ (mmcReadBlocks mmc start blkcnt).trace serveWell (),
      exchange.request =
        .sendCmd (readBlocksCmd mmc start blkcnt) (some (readBlocksData mmc blkcnt)) :=
  ⟨_, List.mem_cons_self, rfl⟩

/-- The loop of the read sends each of its chunks. -/
theorem trace_mmcBreadLoop_chunk (mmc : Mmc) (fuel turns : Nat) (start blocksTodo : U32)
    (offset : Nat) (dst : Buffer) (enough : blocksTodo.toNat ≤ fuel)
    (inside : turns * mmc.cfg.bMax.toNat < blocksTodo.toNat) :
    ∃ exchange ∈ (mmcBreadLoop mmc fuel start blocksTodo offset dst).trace serveWell (),
      exchange.request = .sendCmd
        (readBlocksCmd mmc (mmc.chunkStart start turns) (mmc.chunkCount blocksTodo turns))
        (some (readBlocksData mmc (mmc.chunkCount blocksTodo turns))) := by
  induction fuel generalizing turns start blocksTodo offset dst with
  | zero => omega
  | succ fuel inductionHypothesis =>
    have fits := chunk_le mmc blocksTodo
    have advances := chunk_pos mmc blocksTodo (by bv_omega)
    unfold mmcBreadLoop
    cases turns with
    | zero =>
      rw [chunkStart_zero, chunkCount_zero]
      obtain ⟨exchange, member, request⟩ := trace_mmcReadBlocks_data mmc start (chunk mmc blocksTodo)
      exact ⟨exchange, mem_trace_bind_first serveWell member, request⟩
    | succ turns =>
      obtain ⟨more, after⟩ := more_of_turn inside
      have full := exec_serveWell ((eachRun_mmcReadBlocks mmc start (chunk mmc blocksTodo)).mono
        fun _ _ carried => carried.2).always
      rw [← chunkStart_next more, ← chunkCount_next more]
      obtain ⟨exchange, member, request⟩ := inductionHypothesis turns (start + chunk mmc blocksTodo)
        (blocksTodo - chunk mmc blocksTodo) _ _ (by bv_omega) after
      refine ⟨exchange, mem_trace_bind_rest serveWell ?_, request⟩
      dsimp only
      rw [if_neg (not_not.mpr full), if_pos more]
      exact member

/-- When the check accepts the range, the read sends each of its chunks. -/
theorem trace_mmcBread_chunk (mmc : Mmc) (start blkcnt : U32) (dst : Buffer) (turns : Nat)
    (inside : turns * mmc.cfg.bMax.toNat < blkcnt.toNat)
    (accepted : start + blkcnt ≤ mmc.blockDev.lba) :
    ∃ exchange ∈ (mmcBread (some mmc) start blkcnt dst).trace serveWell (),
      exchange.request = .sendCmd
        (readBlocksCmd mmc (mmc.chunkStart start turns) (mmc.chunkCount blkcnt turns))
        (some (readBlocksData mmc (mmc.chunkCount blkcnt turns))) := by
  have settled := exec_serveWell (succeeds_mmcSetBlocklen mmc mmc.readBlLen)
  obtain ⟨exchange, sent, request⟩ := trace_mmcBreadLoop_chunk mmc blkcnt.toNat turns start blkcnt 0
    dst (Nat.le_refl _) inside
  refine ⟨exchange, ?_, request⟩
  unfold mmcBread
  rw [if_neg (by bv_omega)]
  show _ ∈ trace serveWell (if start + blkcnt > mmc.blockDev.lba then _ else _) ()
  rw [if_neg (by bv_omega)]
  refine mem_trace_bind_rest serveWell ?_
  rw [if_neg (not_not.mpr settled)]
  exact mem_trace_bind_first serveWell sent

theorem mmcBread_rangeKept_iff (mmc : Mmc) (start blkcnt : U32) (dst : Buffer) :
    RangeKept mmc start blkcnt (mmcBread (some mmc) start blkcnt dst) Prod.fst ↔
      blkcnt = 0 ∨ mmc.Contains start blkcnt ∨ mmc.blockDev.lba < start + blkcnt := by
  by_cases nothing : blkcnt = 0
  · refine iff_of_true (rangeKept_of_rejects ?_) (Or.inl nothing)
    unfold mmcBread
    rw [if_pos nothing]
    rfl
  by_cases passes : mmc.blockDev.lba < start + blkcnt
  · refine iff_of_true (rangeKept_of_rejects ?_) (Or.inr (Or.inr passes))
    unfold mmcBread
    rw [if_neg nothing]
    show Always _ _ _ (if start + blkcnt > mmc.blockDev.lba then _ else _)
    rw [if_pos passes]
    rfl
  simp only [nothing, passes, false_or, or_false]
  by_cases inside : mmc.Contains start blkcnt
  · have noWrap : start.toNat + blkcnt.toNat < 2 ^ 32 :=
      Nat.lt_of_le_of_lt inside mmc.blockDev.lba.isLt
    have always : Always (fun _ => True)
        (Request.DataWithin mmc 0 mmc.blockDev.lba.toNat) (fun _ => True)
        (mmcBread (some mmc) start blkcnt dst) := by
      refine always_mmcBread mmc start blkcnt dst (Nat.le_of_lt noWrap)
        (fun first count _ _ last _ => ⟨Nat.zero_le _, ?_⟩) trivial trivial trivial
      rw [(readBlocks_movesBlocks mmc first count).firstBlock]
      exact Nat.le_trans (Nat.add_le_add_right (landsOn_le mmc _ first) _)
        (Nat.le_trans last inside)
    exact iff_of_true
      { within := fun trace result run => (always.run run fun _ _ => trivial).1
        rejected := fun outside => absurd inside outside } inside
  · have carries := eachRun_mmcBread mmc start blkcnt dst (by bv_omega) (by bv_omega)
    have ends := carries _ _ (run_exec serveWell _ ()) (trace_serveWell_succeeds _ ())
    refine iff_of_false (fun kept => ?_) inside
    have none := (kept.rejected inside _ _ (run_exec serveWell _ ())).1
    have zero : blkcnt.setWidth 64 = 0 := ends.2.symm.trans none
    exact nothing (by bv_omega)

theorem mmcBread_carriedOut_iff (mmc : Mmc) {start blkcnt : U32} (dst : Buffer)
    (inside : mmc.Contains start blkcnt) :
    CarriedOut mmc start blkcnt (mmcBread (some mmc) start blkcnt dst) Prod.fst ↔
      blkcnt = 0 ∨ mmc.ChunksReach mmc.readBlLen start blkcnt := by
  refine carriedOut_iff inside fun positive => eachRun_mmcBread mmc start blkcnt dst positive ?_
  unfold Mmc.Contains at inside
  bv_omega

/-! ### The write -/

theorem eachRun_mmcBwrite (mmc : Mmc) (start blkcnt : U32) (src : Buffer) (positive : 0 < blkcnt)
    (inside : mmc.Contains start blkcnt) :
    EachRun Succeeds
      (fun trace count =>
        transferred mmc trace = mmc.chunkBlocks mmc.writeBlLen blkcnt.toNat start blkcnt ∧
          count = blkcnt.setWidth 64) (mmcBwrite (some mmc) start blkcnt src) := by
  unfold mmcBwrite
  rw [if_neg (by bv_omega)]
  refine (eachRun_mmcSetBlocklen mmc mmc.writeBlLen).bind fun before err quiet => ?_
  rw [if_neg (not_not.mpr quiet.2)]
  refine (eachRun_mmcBwriteLoop mmc blkcnt.toNat start blkcnt src positive (Nat.le_refl _)
    inside).bind fun during done full => eachRun_pure ⟨?_, ?_⟩
  · rw [List.append_nil, transferred_append, quiet.1, List.nil_append, full.1]
  · rw [full.2]
    rfl

theorem succeeds_mmcBwrite (mmc : Mmc) (start blkcnt : U32) (src : Buffer) (positive : 0 < blkcnt)
    (inside : mmc.Contains start blkcnt) :
    Always Succeeds (fun _ => True) (fun count => count = blkcnt.setWidth 64)
      (mmcBwrite (some mmc) start blkcnt src) :=
  ((eachRun_mmcBwrite mmc start blkcnt src positive inside).mono fun _ _ full => full.2).always

theorem trace_mmcWriteBlocks_data (mmc : Mmc) (start blkcnt : U32) (src : Buffer)
    (positive : 0 < blkcnt) (accepted : start + blkcnt ≤ mmc.blockDev.lba) :
    ∃ exchange ∈ (mmcWriteBlocks mmc start blkcnt src).trace serveWell (),
      exchange.request =
        .sendCmd (writeBlocksCmd mmc start blkcnt) (some (writeBlocksData mmc blkcnt src)) := by
  unfold mmcWriteBlocks
  rw [if_neg (by bv_omega), if_neg (by bv_omega)]
  exact ⟨_, List.mem_cons_self, rfl⟩

/-- The loop of the write sends a chunk when its check accepts it and those before it. -/
theorem trace_mmcBwriteLoop_chunk (mmc : Mmc) (fuel turns : Nat) (start blocksTodo : U32)
    (src : Buffer) (enough : blocksTodo.toNat ≤ fuel)
    (inside : turns * mmc.cfg.bMax.toNat < blocksTodo.toNat)
    (accepted : ∀ earlier ≤ turns,
      mmc.chunkStart start earlier + mmc.chunkCount blocksTodo earlier ≤ mmc.blockDev.lba) :
    ∃ exchange ∈ (mmcBwriteLoop mmc fuel start blocksTodo src).trace serveWell (), ∃ bytes,
      exchange.request = .sendCmd
        (writeBlocksCmd mmc (mmc.chunkStart start turns) (mmc.chunkCount blocksTodo turns))
        (some (writeBlocksData mmc (mmc.chunkCount blocksTodo turns) bytes)) := by
  induction fuel generalizing turns start blocksTodo src with
  | zero => omega
  | succ fuel inductionHypothesis =>
    have fits := chunk_le mmc blocksTodo
    have advances := chunk_pos mmc blocksTodo (by bv_omega)
    have first := accepted 0 (Nat.zero_le _)
    rw [chunkStart_zero, chunkCount_zero] at first
    unfold mmcBwriteLoop
    cases turns with
    | zero =>
      rw [chunkStart_zero, chunkCount_zero]
      obtain ⟨exchange, member, request⟩ := trace_mmcWriteBlocks_data mmc start
        (chunk mmc blocksTodo) src advances first
      exact ⟨exchange, mem_trace_bind_first serveWell member, src, request⟩
    | succ turns =>
      obtain ⟨more, after⟩ := more_of_turn inside
      have full := exec_serveWell ((eachRun_mmcWriteBlocks mmc start (chunk mmc blocksTodo) src first
        advances).mono fun _ _ carried => carried.2).always
      rw [← chunkStart_next more, ← chunkCount_next more]
      obtain ⟨exchange, member, bytes, request⟩ := inductionHypothesis turns
        (start + chunk mmc blocksTodo) (blocksTodo - chunk mmc blocksTodo) _ (by bv_omega) after
        fun earlier le => by
          rw [chunkStart_next more, chunkCount_next more]
          exact accepted (earlier + 1) (Nat.succ_le_succ le)
      refine ⟨exchange, mem_trace_bind_rest serveWell ?_, bytes, request⟩
      rw [if_neg (not_not.mpr full), if_pos more]
      exact member

theorem trace_mmcBwrite_chunk (mmc : Mmc) (start blkcnt : U32) (src : Buffer) (turns : Nat)
    (inside : turns * mmc.cfg.bMax.toNat < blkcnt.toNat)
    (accepted : ∀ earlier ≤ turns,
      mmc.chunkStart start earlier + mmc.chunkCount blkcnt earlier ≤ mmc.blockDev.lba) :
    ∃ exchange ∈ (mmcBwrite (some mmc) start blkcnt src).trace serveWell (), ∃ bytes,
      exchange.request = .sendCmd
        (writeBlocksCmd mmc (mmc.chunkStart start turns) (mmc.chunkCount blkcnt turns))
        (some (writeBlocksData mmc (mmc.chunkCount blkcnt turns) bytes)) := by
  have settled := exec_serveWell (succeeds_mmcSetBlocklen mmc mmc.writeBlLen)
  obtain ⟨exchange, sent, bytes, request⟩ := trace_mmcBwriteLoop_chunk mmc blkcnt.toNat turns start
    blkcnt src (Nat.le_refl _) inside accepted
  refine ⟨exchange, ?_, bytes, request⟩
  unfold mmcBwrite
  rw [if_neg (by bv_omega)]
  refine mem_trace_bind_rest serveWell ?_
  rw [if_neg (not_not.mpr settled)]
  exact mem_trace_bind_first serveWell sent

/-- When the check turns down the first chunk, the loop ends before it sends anything. -/
theorem always_mmcBwriteLoop_rejected (mmc : Mmc) (turns : Nat) (start blocksTodo : U32)
    (src : Buffer) (positive : 0 < blocksTodo)
    (rejected : mmc.blockDev.lba < start + chunk mmc blocksTodo) :
    Always (fun _ => True) (fun request => ¬ request.IsData) (fun done => done = false)
      (mmcBwriteLoop mmc turns start blocksTodo src) := by
  have advances := chunk_pos mmc blocksTodo positive
  cases turns with
  | zero => rfl
  | succ turns =>
    have turnedDown : mmcWriteBlocks mmc start (chunk mmc blocksTodo) src = pure 0 :=
      if_pos rejected
    unfold mmcBwriteLoop
    show Always _ _ _ (mmcWriteBlocks mmc start (chunk mmc blocksTodo) src >>= _)
    rw [turnedDown]
    show Always _ _ _ (if (0 : U32) ≠ chunk mmc blocksTodo then _ else _)
    rw [if_pos (by bv_omega)]
    rfl

theorem mmcBwrite_rangeKept_iff (mmc : Mmc) (start blkcnt : U32) (src : Buffer) :
    RangeKept mmc start blkcnt (mmcBwrite (some mmc) start blkcnt src) id ↔
      blkcnt = 0 ∨ mmc.Contains start blkcnt ∨
        mmc.blockDev.lba < start + chunk mmc blkcnt := by
  by_cases nothing : blkcnt = 0
  · refine iff_of_true (rangeKept_of_rejects ?_) (Or.inl nothing)
    unfold mmcBwrite
    rw [if_pos nothing]
    rfl
  have positive : 0 < blkcnt := by bv_omega
  simp only [nothing, false_or]
  by_cases inside : mmc.Contains start blkcnt
  · have noWrap : start.toNat + blkcnt.toNat < 2 ^ 32 :=
      Nat.lt_of_le_of_lt inside mmc.blockDev.lba.isLt
    have always : Always (fun _ => True)
        (Request.DataWithin mmc 0 mmc.blockDev.lba.toNat) (fun _ => True)
        (mmcBwrite (some mmc) start blkcnt src) := by
      refine always_mmcBwrite mmc start blkcnt src (Nat.le_of_lt noWrap)
        (fun first count src _ _ last _ => ⟨Nat.zero_le _, ?_⟩) trivial trivial trivial
      rw [(writeBlocks_movesBlocks mmc first count src).firstBlock]
      exact Nat.le_trans (Nat.add_le_add_right (landsOn_le mmc _ first) _)
        (Nat.le_trans last inside)
    exact iff_of_true
      { within := fun trace result run => (always.run run fun _ _ => trivial).1
        rejected := fun outside => absurd inside outside } (.inl inside)
  rw [or_iff_right inside]
  by_cases passes : mmc.blockDev.lba < start + chunk mmc blkcnt
  · refine iff_of_true (rangeKept_of_rejects ?_) passes
    unfold mmcBwrite
    rw [if_neg nothing]
    refine (always_mmcSetBlocklen mmc mmc.writeBlLen fun isData => isData).bind fun err _ => ?_
    split
    · rfl
    · refine (always_mmcBwriteLoop_rejected mmc _ start blkcnt src (by bv_omega) passes).bind
        fun done stopped => ?_
      show id (if done then blkcnt.setWidth 64 else 0) = _
      rw [stopped]
      rfl
  · refine iff_of_false (fun kept => ?_) passes
    obtain ⟨exchange, member, bytes, request⟩ := trace_mmcBwrite_chunk mmc start blkcnt src 0
      (by rw [Nat.zero_mul]; exact positive) fun earlier le => by
        rw [Nat.le_zero.mp le, chunkStart_zero, chunkCount_zero]
        exact BitVec.not_lt.mp passes
    refine (kept.rejected inside _ _ (run_exec serveWell _ ())).2 exchange member ?_
    rw [request]
    exact (writeBlocks_movesBlocks mmc _ _ bytes).isData

theorem mmcBwrite_carriedOut_iff (mmc : Mmc) {start blkcnt : U32} (src : Buffer)
    (inside : mmc.Contains start blkcnt) :
    CarriedOut mmc start blkcnt (mmcBwrite (some mmc) start blkcnt src) id ↔
      blkcnt = 0 ∨ mmc.ChunksReach mmc.writeBlLen start blkcnt :=
  carriedOut_iff inside fun positive => eachRun_mmcBwrite mmc start blkcnt src positive inside

/-- A write keeps the range and is carried out if it is inside the card with all its chunks
addressable, or if its first chunk is turned down. -/
theorem mmcBwrite_kept_iff (mmc : Mmc) (start blkcnt : U32) (src : Buffer) :
    (RangeKept mmc start blkcnt (mmcBwrite (some mmc) start blkcnt src) id ∧
        CarriedOut mmc start blkcnt (mmcBwrite (some mmc) start blkcnt src) id) ↔
      blkcnt = 0 ∨ (mmc.Contains start blkcnt ∧ mmc.ChunksReach mmc.writeBlLen start blkcnt) ∨
        mmc.blockDev.lba < start + chunk mmc blkcnt := by
  rw [mmcBwrite_rangeKept_iff]
  by_cases inside : mmc.Contains start blkcnt
  · have fits := chunk_le mmc blkcnt
    have accepted : ¬ mmc.blockDev.lba < start + chunk mmc blkcnt := by
      have card := mmc.blockDev.lba.isLt
      unfold Mmc.Contains at inside
      bv_omega
    simp only [inside, accepted, or_true, true_and, or_false]
    exact mmcBwrite_carriedOut_iff mmc src inside
  · have vacuous : CarriedOut mmc start blkcnt (mmcBwrite (some mmc) start blkcnt src) id :=
      fun contains => absurd contains inside
    simp only [inside, vacuous, false_or, false_and, and_true]

/-! ### Both transfers -/

/-- A read keeps the range exactly when it is empty, inside the card, or has a 32-bit sum past the
end of the card; inside the card it reads the blocks it was asked for exactly when all its chunks
are addressable. A write keeps the range and covers a request inside the card exactly when it is
empty, inside the card with all its chunks addressable, or its first chunk has a 32-bit sum past the
end of the card. -/
theorem block_transfers_keep_range_iff (mmc : Mmc) (start blkcnt : U32) (dst src : Buffer) :
    (RangeKept mmc start blkcnt (mmcBread (some mmc) start blkcnt dst) Prod.fst ↔
      blkcnt = 0 ∨ mmc.Contains start blkcnt ∨ mmc.blockDev.lba < start + blkcnt) ∧
    (CarriedOut mmc start blkcnt (mmcBread (some mmc) start blkcnt dst) Prod.fst ↔
      (mmc.Contains start blkcnt → blkcnt = 0 ∨ mmc.ChunksReach mmc.readBlLen start blkcnt)) ∧
    ((RangeKept mmc start blkcnt (mmcBwrite (some mmc) start blkcnt src) id ∧
        CarriedOut mmc start blkcnt (mmcBwrite (some mmc) start blkcnt src) id) ↔
      blkcnt = 0 ∨ (mmc.Contains start blkcnt ∧ mmc.ChunksReach mmc.writeBlLen start blkcnt) ∨
        mmc.blockDev.lba < start + chunk mmc blkcnt) := by
  refine ⟨mmcBread_rangeKept_iff mmc start blkcnt dst, ?_, mmcBwrite_kept_iff mmc start blkcnt src⟩
  by_cases inside : mmc.Contains start blkcnt
  · rw [mmcBread_carriedOut_iff mmc dst inside, forall_prop_of_true inside]
  · exact iff_of_true (fun contains => absurd contains inside) fun contains =>
      absurd contains inside

/-- On a card of 100 blocks, one block at 2^32 - 1 is read and written; a write of 65536 blocks to
a card of 65535 blocks is noticed only after its first 65535 blocks; and on a card that is addressed
by bytes, block 2^23 is written to block 0. -/
theorem block_transfers_leave_range :
    (¬ ∀ dst, RangeKept { Mmc.unidentified with highCapacity := true, blockDev := ⟨100⟩ }
      0xffffffff 1
      (mmcBread (some { Mmc.unidentified with highCapacity := true, blockDev := ⟨100⟩ })
        0xffffffff 1 dst) Prod.fst) ∧
    (¬ ∀ src, RangeKept { Mmc.unidentified with highCapacity := true, blockDev := ⟨100⟩ }
      0xffffffff 1
      (mmcBwrite (some { Mmc.unidentified with highCapacity := true, blockDev := ⟨100⟩ })
        0xffffffff 1 src) id) ∧
    (¬ ∀ src, RangeKept { Mmc.unidentified with highCapacity := true, blockDev := ⟨65535⟩ } 0 65536
      (mmcBwrite (some { Mmc.unidentified with highCapacity := true, blockDev := ⟨65535⟩ })
        0 65536 src) id) ∧
    ¬ ∀ src, CarriedOut { Mmc.unidentified with blockDev := ⟨0x1000000⟩ } 0x800000 1
      (mmcBwrite (some { Mmc.unidentified with blockDev := ⟨0x1000000⟩ }) 0x800000 1 src) id := by
  refine ⟨fun kept => ?_, fun kept => ?_, fun kept => ?_, fun kept => ?_⟩
  · exact absurd ((mmcBread_rangeKept_iff _ _ _ _).mp (kept fun _ => 0)) (by decide)
  · exact absurd ((mmcBwrite_rangeKept_iff _ _ _ _).mp (kept fun _ => 0)) (by decide)
  · exact absurd ((mmcBwrite_rangeKept_iff _ _ _ _).mp (kept fun _ => 0)) (by decide)
  · exact absurd ((mmcBwrite_carriedOut_iff _ _ (by decide)).mp (kept fun _ => 0)) (by decide)

end PinePhonePkg
