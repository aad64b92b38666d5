/-
This file follows block transfers into the card. A write that reports success
has copied its buffer to the sectors it was asked for, in chunks that follow
each other, and has changed nothing else; a read that reports success has copied
those sectors into its buffer. This needs the byte addresses and the buffer
offsets, which the source computes in 32 bits, to fit.
-/

import PinePhonePkg.Mmc.BlockRange
import PinePhonePkg.Card.Commands

namespace PinePhonePkg

open Library Program

/-! ### Cards and descriptors that belong together -/

/-- The descriptor addresses the card the way the card expects, in blocks of 512 bytes. -/
structure Matches (mmc : Mmc) (card : Card) : Prop where
  addressing : card.sectorAddressed = mmc.highCapacity
  readBlLen : mmc.readBlLen = 512
  writeBlLen : mmc.writeBlLen = 512

/-- No address the transfer computes wraps: block addresses on a high-capacity card, byte
addresses on any other. -/
def Mmc.Addressable (mmc : Mmc) (start blkcnt : U32) : Prop :=
  if mmc.highCapacity then start.toNat + blkcnt.toNat ≤ 2 ^ 32
  else (start.toNat + blkcnt.toNat) * 512 ≤ 2 ^ 32

instance (mmc : Mmc) (start blkcnt : U32) : Decidable (mmc.Addressable start blkcnt) := by
  unfold Mmc.Addressable
  infer_instance

/-- No buffer offset wraps: there is one chunk only, or a full chunk has less than 2^32 bytes. -/
def Mmc.ChunksFit (mmc : Mmc) (blkcnt : U32) : Prop :=
  blkcnt ≤ mmc.cfg.bMax ∨ mmc.cfg.bMax.toNat * 512 < 2 ^ 32

instance (mmc : Mmc) (blkcnt : U32) : Decidable (mmc.ChunksFit blkcnt) :=
  inferInstanceAs (Decidable (_ ∨ _))

theorem addressable_bound {mmc : Mmc} {start blkcnt : U32}
    (addressable : mmc.Addressable start blkcnt) : start.toNat + blkcnt.toNat ≤ 2 ^ 32 := by
  unfold Mmc.Addressable at addressable
  split at addressable <;> omega

/-- A part of an addressable range is addressable. -/
theorem Mmc.Addressable.part {mmc : Mmc} {start blkcnt first count : U32}
    (addressable : mmc.Addressable start blkcnt)
    (inside : first.toNat + count.toNat ≤ start.toNat + blkcnt.toNat) :
    mmc.Addressable first count := by
  unfold Mmc.Addressable at addressable ⊢
  split at addressable
  · rw [if_pos (by assumption)]
    omega
  · rw [if_neg (by assumption)]
    exact Nat.le_trans (Nat.mul_le_mul_right 512 inside) addressable

theorem byteAddress_eq {mmc : Mmc} {card : Card} {start blkcnt : U32}
    (addressing : card.sectorAddressed = mmc.highCapacity)
    (addressable : mmc.Addressable start blkcnt) (positive : 0 < blkcnt) :
    card.byteAddress (if mmc.highCapacity then start else start * 512) = start.toNat * 512 := by
  unfold Mmc.Addressable at addressable
  unfold Card.byteAddress
  rw [addressing]
  cases highCapacity : mmc.highCapacity with
  | true => rfl
  | false =>
    rw [highCapacity] at addressable
    show (start * 512).toNat = start.toNat * 512
    have bound : (start.toNat + blkcnt.toNat) * 512 ≤ 2 ^ 32 := addressable
    bv_omega

/-- The offset moves on by a whole chunk as long as another chunk follows. -/
theorem chunk_bytes {mmc : Mmc} {blocksTodo : U32} (fits : mmc.ChunksFit blocksTodo)
    (more : 0 < blocksTodo - chunk mmc blocksTodo) :
    (chunk mmc blocksTodo * 512).toNat = (chunk mmc blocksTodo).toNat * 512 := by
  have atMost := chunk_le_bMax mmc blocksTodo
  rcases fits with single | small
  · have whole : chunk mmc blocksTodo = blocksTodo := if_neg (by bv_omega)
    rw [whole] at more
    exact absurd more (by bv_omega)
  · bv_omega

theorem Mmc.ChunksFit.rest {mmc : Mmc} {blocksTodo : U32} (fits : mmc.ChunksFit blocksTodo) :
    mmc.ChunksFit (blocksTodo - chunk mmc blocksTodo) := by
  have atMost := chunk_le mmc blocksTodo
  rcases fits with single | small
  · exact Or.inl (by bv_omega)
  · exact Or.inr small

/-! ### What a transfer leaves on the card -/

/-- The card after `count` sectors from `start` on were written, in these transfers. -/
def Card.wrote (card : Card) (start count : Nat) (source : Buffer) (transfers : List Transfer) :
    Card :=
  { card with
    media := Function.update card.media card.access
      ((card.media card.access).overwrite (start * 512) (count * 512) source)
    transfers := card.transfers ++ transfers }

/-- The card after these transfers read from it. -/
def Card.served (card : Card) (transfers : List Transfer) : Card :=
  { card with transfers := card.transfers ++ transfers }

@[simp]
theorem wrote_access (card : Card) (start count : Nat) (source : Buffer)
    (transfers : List Transfer) : (card.wrote start count source transfers).access = card.access :=
  rfl

theorem wrote_media_self (card : Card) (start count : Nat) (source : Buffer)
    (transfers : List Transfer) :
    (card.wrote start count source transfers).media card.access =
      (card.media card.access).overwrite (start * 512) (count * 512) source :=
  Function.update_self _ _ _

theorem wrote_media_other (card : Card) (start count : Nat) (source : Buffer)
    (transfers : List Transfer) (access : U8) (other : access ≠ card.access) :
    (card.wrote start count source transfers).media access = card.media access :=
  Function.update_of_ne other _ _

theorem wrote_wrote (card : Card) (start first second : Nat) (source : Buffer)
    (before after : List Transfer) :
    (card.wrote start first source before).wrote (start + first) second
        (source.drop (first * 512)) after =
      card.wrote start (first + second) source (before ++ after) := by
  refine Card.ext rfl rfl ?_ rfl rfl rfl (List.append_assoc _ _ _)
  funext access
  by_cases same : access = card.access
  · subst same
    have outer := wrote_media_self (card.wrote start first source before) (start + first) second
      (source.drop (first * 512)) after
    rw [wrote_access] at outer
    rw [outer, wrote_media_self, wrote_media_self, Nat.add_mul, Nat.add_mul]
    exact Memory.overwrite_append _ _ _ _ _
  · have outer := wrote_media_other (card.wrote start first source before) (start + first) second
      (source.drop (first * 512)) after access same
    rw [outer, wrote_media_other _ _ _ _ _ access same, wrote_media_other _ _ _ _ _ access same]

theorem served_served (card : Card) (before after : List Transfer) :
    (card.served before).served after = card.served (before ++ after) := by
  unfold Card.served
  rw [List.append_assoc]

/-- Transfers in this partition that follow each other from block `first` to block `last`, none
of them empty and none longer than `most` blocks. -/
def Tiles (access : U8) (write : Bool) (most : Nat) :
    (first last : Nat) → List Transfer → Prop
  | first, last, [] => first = last
  | first, last, transfer :: rest =>
      ∃ blocks, transfer = ⟨access, write, first * 512, blocks * 512⟩ ∧ 0 < blocks ∧
        blocks ≤ most ∧ Tiles access write most (first + blocks) last rest

theorem tiles_append {access : U8} {write : Bool} {most first last blocks : Nat}
    {rest : List Transfer} (positive : 0 < blocks) (bounded : blocks ≤ most)
    (tiles : Tiles access write most (first + blocks) last rest) :
    Tiles access write most first last
      (⟨access, write, first * 512, blocks * 512⟩ :: rest) :=
  ⟨blocks, rfl, positive, bounded, tiles⟩

/-! ### One chunk -/

theorem writeBlocksCmd_notStatus (mmc : Mmc) (start blkcnt : U32) :
    (writeBlocksCmd mmc start blkcnt).cmdidx ≠ mmcCmdSendStatus := by
  rcases writeBlocksCmd_cases mmc start blkcnt with equal | equal <;> rw [equal] <;> decide

theorem readBlocksCmd_notStatus (mmc : Mmc) (start blkcnt : U32) :
    (readBlocksCmd mmc start blkcnt).cmdidx ≠ mmcCmdSendStatus := by
  rcases readBlocksCmd_cases mmc start blkcnt with equal | equal <;> rw [equal] <;> decide

theorem perform_writeBlocks (card : Card) (mmc : Mmc) (start blkcnt : U32) (data : MmcData)
    (answer : Answer) (done : answer.error = 0) :
    card.perform (writeBlocksCmd mmc start blkcnt) (some data) answer =
      (card.store (writeBlocksCmd mmc start blkcnt).cmdarg data data.src).record true
        (writeBlocksCmd mmc start blkcnt).cmdarg data := by
  unfold Card.perform
  rcases writeBlocksCmd_cases mmc start blkcnt with equal | equal <;> rw [equal]
  · show (card.store _ data (if answer.error = 0 then data.src else answer.bytes)).record _ _ _ = _
    rw [if_pos done]
  · show (card.store _ data (if answer.error = 0 then data.src else answer.bytes)).record _ _ _ = _
    rw [if_pos done]

theorem perform_readBlocks (card : Card) (mmc : Mmc) (start blkcnt : U32) (data : MmcData)
    (answer : Answer) :
    card.perform (readBlocksCmd mmc start blkcnt) (some data) answer =
      card.record false (readBlocksCmd mmc start blkcnt).cmdarg data := by
  unfold Card.perform
  rcases readBlocksCmd_cases mmc start blkcnt with equal | equal <;> rw [equal] <;> rfl

theorem fetch_readBlocks (card : Card) (mmc : Mmc) (start blkcnt : U32) (answer : Answer)
    (done : answer.error = 0) :
    card.fetch (readBlocksCmd mmc start blkcnt) answer =
      (card.media card.access).drop (card.byteAddress (readBlocksCmd mmc start blkcnt).cmdarg) := by
  unfold Card.fetch
  rw [if_pos done]
  rcases readBlocksCmd_cases mmc start blkcnt with equal | equal <;> rw [equal] <;> rfl

theorem byteAddress_store (card : Card) (arg : U32) (data : MmcData) (source : Buffer)
    (other : U32) : (card.store arg data source).byteAddress other = card.byteAddress other := rfl

section Matched

variable {mmc : Mmc} {card : Card} {start blkcnt : U32}

theorem byteAddress_writeBlocks (matched : Matches mmc card)
    (addressable : mmc.Addressable start blkcnt) (positive : 0 < blkcnt) :
    card.byteAddress (writeBlocksCmd mmc start blkcnt).cmdarg = start.toNat * 512 := by
  show card.byteAddress (if mmc.highCapacity then start else start * mmc.writeBlLen) = _
  rw [matched.writeBlLen]
  exact byteAddress_eq matched.addressing addressable positive

theorem byteAddress_readBlocks (matched : Matches mmc card)
    (addressable : mmc.Addressable start blkcnt) (positive : 0 < blkcnt) :
    card.byteAddress (readBlocksCmd mmc start blkcnt).cmdarg = start.toNat * 512 := by
  show card.byteAddress (if mmc.highCapacity then start else start * mmc.readBlLen) = _
  rw [matched.readBlLen]
  exact byteAddress_eq matched.addressing addressable positive

theorem Matches.bytes_writeBlocks (matched : Matches mmc card) (blkcnt : U32) (src : Buffer) :
    (writeBlocksData mmc blkcnt src).blocks.toNat *
      (writeBlocksData mmc blkcnt src).blocksize.toNat = blkcnt.toNat * 512 := by
  show blkcnt.toNat * mmc.writeBlLen.toNat = _
  rw [matched.writeBlLen]
  rfl

end Matched

/-- What a write command without an error leaves on the card. -/
theorem command_writeBlocks_card (mmc : Mmc) (start blkcnt : U32) (src : Buffer) (world : World)
    (matched : Matches mmc world.card) (addressable : mmc.Addressable start blkcnt)
    (positive : 0 < blkcnt)
    (done : (world.answer (writeBlocksCmd mmc start blkcnt)
      (some (writeBlocksData mmc blkcnt src))).error = 0) :
    (world.command (writeBlocksCmd mmc start blkcnt) (some (writeBlocksData mmc blkcnt src))).card =
      world.card.wrote start.toNat blkcnt.toNat src
        [⟨world.card.access, true, start.toNat * 512, blkcnt.toNat * 512⟩] := by
  have address := byteAddress_writeBlocks matched addressable positive
  have length := matched.bytes_writeBlocks blkcnt src
  show world.card.perform _ _ _ = _
  rw [perform_writeBlocks _ _ _ _ _ _ done]
  unfold Card.record
  rw [byteAddress_store, address, length]
  unfold Card.store
  rw [address, length]
  rfl

/-- What a read command leaves on the card. -/
theorem command_readBlocks_card (mmc : Mmc) (start blkcnt : U32) (world : World)
    (matched : Matches mmc world.card) (addressable : mmc.Addressable start blkcnt)
    (positive : 0 < blkcnt) :
    (world.command (readBlocksCmd mmc start blkcnt) (some (readBlocksData mmc blkcnt))).card =
      world.card.served [⟨world.card.access, false, start.toNat * 512, blkcnt.toNat * 512⟩] := by
  have length : (readBlocksData mmc blkcnt).blocks.toNat *
      (readBlocksData mmc blkcnt).blocksize.toNat = blkcnt.toNat * 512 := by
    show blkcnt.toNat * mmc.readBlLen.toNat = _
    rw [matched.readBlLen]
    rfl
  show world.card.perform _ _ _ = _
  rw [perform_readBlocks]
  unfold Card.record
  rw [byteAddress_readBlocks matched addressable positive, length]
  rfl

theorem stopTransmissionCmd_quiet (flags : Option U32) : (stopTransmissionCmd flags).Quiet := by
  show mmcCmdStopTransmission ∈ _
  decide

/-- A chunk that is counted passed its check and was sent without an error. -/
theorem exec_mmcWriteBlocks_sent {mmc : Mmc} {start blkcnt : U32} {src : Buffer} {world : World}
    (positive : 0 < blkcnt)
    (counted : ((mmcWriteBlocks mmc start blkcnt src).exec serve world).1 = blkcnt) :
    ¬ start + blkcnt > mmc.blockDev.lba ∧ (world.answer (writeBlocksCmd mmc start blkcnt)
      (some (writeBlocksData mmc blkcnt src))).error = 0 := by
  have zero : (0 : U32) ≠ blkcnt := by bv_omega
  have sent := exec_mmcSendCmd (writeBlocksCmd mmc start blkcnt)
    (some (writeBlocksData mmc blkcnt src)) (writeBlocksCmd_notStatus mmc start blkcnt) world
  unfold mmcWriteBlocks at counted
  by_cases outside : start + blkcnt > mmc.blockDev.lba
  · rw [if_pos outside] at counted
    exact absurd counted zero
  · rw [if_neg outside, if_neg (Ne.symm zero), exec_bind, sent] at counted
    refine ⟨outside, by_contra fun failed => ?_⟩
    rw [if_pos failed] at counted
    exact absurd counted zero

/-- Behind the data command of a chunk nothing changes the card. -/
theorem exec_mmcWriteBlocks_command {mmc : Mmc} {start blkcnt : U32} (src : Buffer) (world : World)
    (inside : ¬ start + blkcnt > mmc.blockDev.lba) (positive : 0 < blkcnt) :
    ((mmcWriteBlocks mmc start blkcnt src).exec serve world).2.card =
      (world.command (writeBlocksCmd mmc start blkcnt)
        (some (writeBlocksData mmc blkcnt src))).card := by
  have status : (sendStatusCmd mmc).Quiet := sendStatusCmd_quiet mmc
  have sent := exec_mmcSendCmd (writeBlocksCmd mmc start blkcnt)
    (some (writeBlocksData mmc blkcnt src)) (writeBlocksCmd_notStatus mmc start blkcnt) world
  unfold mmcWriteBlocks
  rw [if_neg inside, if_neg (by bv_omega), exec_bind, sent]
  refine exec_quiet ?_ _
  split
  · trivial
  split
  · refine ⟨stopTransmissionCmd_quiet none, fun reply _ => ?_⟩
    show Always _ _ _ (if reply.error ≠ 0 then _ else _)
    split
    · trivial
    · exact (always_mmcSendStatus mmc status 1000).bind fun _ _ => trivial
  · exact (always_mmcSendStatus mmc status 1000).bind fun _ _ => trivial

theorem exec_mmcWriteBlocks_card (mmc : Mmc) (start blkcnt : U32) (src : Buffer) (world : World)
    (matched : Matches mmc world.card) (addressable : mmc.Addressable start blkcnt)
    (positive : 0 < blkcnt)
    (counted : ((mmcWriteBlocks mmc start blkcnt src).exec serve world).1 = blkcnt) :
    ((mmcWriteBlocks mmc start blkcnt src).exec serve world).2.card =
      world.card.wrote start.toNat blkcnt.toNat src
        [⟨world.card.access, true, start.toNat * 512, blkcnt.toNat * 512⟩] := by
  obtain ⟨inside, done⟩ := exec_mmcWriteBlocks_sent positive counted
  exact (exec_mmcWriteBlocks_command src world inside positive).trans
    (command_writeBlocks_card mmc start blkcnt src world matched addressable positive done)

/-- A read chunk that is counted brings back what its command addresses, and nothing behind the
command changes the card. -/
theorem exec_mmcReadBlocks_sent {mmc : Mmc} {start blkcnt : U32} {world : World}
    (positive : 0 < blkcnt)
    (counted : ((mmcReadBlocks mmc start blkcnt).exec serve world).1.1 = blkcnt) :
    ((mmcReadBlocks mmc start blkcnt).exec serve world).2.card =
      (world.command (readBlocksCmd mmc start blkcnt) (some (readBlocksData mmc blkcnt))).card ∧
    ((mmcReadBlocks mmc start blkcnt).exec serve world).1.2 =
      (world.card.media world.card.access).drop
        (world.card.byteAddress (readBlocksCmd mmc start blkcnt).cmdarg) := by
  have zero : (0 : U32) ≠ blkcnt := by bv_omega
  have status : (sendStatusCmd mmc).Quiet := sendStatusCmd_quiet mmc
  have sent := exec_mmcSendCmd (readBlocksCmd mmc start blkcnt)
    (some (readBlocksData mmc blkcnt)) (readBlocksCmd_notStatus mmc start blkcnt) world
  unfold mmcReadBlocks at counted ⊢
  rw [exec_bind, sent] at counted ⊢
  by_cases done : (world.answer (readBlocksCmd mmc start blkcnt)
      (some (readBlocksData mmc blkcnt))).error = 0
  · rw [if_neg (not_not.mpr done)] at counted ⊢
    refine ⟨exec_quiet ?_ _, ?_⟩
    · split
      · refine ⟨stopTransmissionCmd_quiet (some 0), fun reply _ => ?_⟩
        show Always _ _ _ (if reply.error ≠ 0 then _ else _)
        split
        · trivial
        · exact (always_mmcSendStatus mmc status 1000).bind fun _ _ => trivial
      · trivial
    · rw [← fetch_readBlocks world.card mmc start blkcnt _ done]
      split
      · rw [exec_bind, exec_ite]
        split
        · rfl
        · rw [exec_bind]
          rfl
      · rfl
  · rw [if_pos done] at counted
    exact absurd counted zero

theorem exec_mmcReadBlocks_card (mmc : Mmc) (start blkcnt : U32) (world : World)
    (matched : Matches mmc world.card) (addressable : mmc.Addressable start blkcnt)
    (positive : 0 < blkcnt)
    (counted : ((mmcReadBlocks mmc start blkcnt).exec serve world).1.1 = blkcnt) :
    ((mmcReadBlocks mmc start blkcnt).exec serve world).2.card =
      world.card.served [⟨world.card.access, false, start.toNat * 512, blkcnt.toNat * 512⟩] ∧
    ((mmcReadBlocks mmc start blkcnt).exec serve world).1.2 =
      (world.card.media world.card.access).drop (start.toNat * 512) := by
  obtain ⟨card, bytes⟩ := exec_mmcReadBlocks_sent positive counted
  rw [byteAddress_readBlocks matched addressable positive] at bytes
  exact ⟨card.trans (command_readBlocks_card mmc start blkcnt world matched addressable positive),
    bytes⟩

/-! ### The loops -/

theorem wrote_matches {mmc : Mmc} {card : Card} (matched : Matches mmc card) (start count : Nat)
    (source : Buffer) (transfers : List Transfer) :
    Matches mmc (card.wrote start count source transfers) :=
  ⟨matched.addressing, matched.readBlLen, matched.writeBlLen⟩

theorem served_matches {mmc : Mmc} {card : Card} (matched : Matches mmc card)
    (transfers : List Transfer) : Matches mmc (card.served transfers) :=
  ⟨matched.addressing, matched.readBlLen, matched.writeBlLen⟩

/-- How a turn of either loop divides the blocks it still has to do. -/
theorem chunk_divides {mmc : Mmc} {start blocksTodo : U32}
    (addressable : mmc.Addressable start blocksTodo)
    (more : 0 < blocksTodo - chunk mmc blocksTodo) :
    (start + chunk mmc blocksTodo).toNat = start.toNat + (chunk mmc blocksTodo).toNat ∧
      (chunk mmc blocksTodo).toNat + (blocksTodo - chunk mmc blocksTodo).toNat =
        blocksTodo.toNat := by
  have atMost := chunk_le mmc blocksTodo
  have limit := addressable_bound addressable
  constructor <;> bv_omega

/-- A write loop that ends well has written every block it had to do. -/
theorem exec_mmcBwriteLoop_card (mmc : Mmc) (turns : Nat) (start blocksTodo : U32) (src : Buffer)
    (world : World) (matched : Matches mmc world.card)
    (addressable : mmc.Addressable start blocksTodo) (fits : mmc.ChunksFit blocksTodo)
    (positive : 0 < blocksTodo)
    (done : ((mmcBwriteLoop mmc turns start blocksTodo src).exec serve world).1 = true) :
    ∃ transfers, Tiles world.card.access true mmc.cfg.bMax.toNat start.toNat
        (start.toNat + blocksTodo.toNat) transfers ∧
      ((mmcBwriteLoop mmc turns start blocksTodo src).exec serve world).2.card =
        world.card.wrote start.toNat blocksTodo.toNat src transfers := by
  induction turns generalizing start blocksTodo src world with
  | zero => exact absurd done Bool.false_ne_true
  | succ turns inductionHypothesis =>
    have atMost : (chunk mmc blocksTodo).toNat ≤ blocksTodo.toNat := chunk_le mmc blocksTodo
    have bounded := chunk_le_bMax mmc blocksTodo
    have advances : 0 < (chunk mmc blocksTodo).toNat := chunk_pos mmc blocksTodo positive
    unfold mmcBwriteLoop at done ⊢
    rw [exec_bind] at done ⊢
    by_cases counted : ((mmcWriteBlocks mmc start (chunk mmc blocksTodo) src).exec serve
        world).1 = chunk mmc blocksTodo
    · have wrote := exec_mmcWriteBlocks_card mmc start (chunk mmc blocksTodo) src world matched
        (addressable.part (by omega)) advances counted
      rw [if_neg (not_not.mpr counted)] at done ⊢
      by_cases more : 0 < blocksTodo - chunk mmc blocksTodo
      · have bytes := chunk_bytes fits more
        obtain ⟨next, rest⟩ := chunk_divides addressable more
        rw [if_pos more, matched.writeBlLen, bytes] at done ⊢
        have stillMatched : Matches mmc
            ((mmcWriteBlocks mmc start (chunk mmc blocksTodo) src).exec serve world).2.card :=
          wrote ▸ wrote_matches matched _ _ _ _
        obtain ⟨transfers, tiles, card⟩ := inductionHypothesis (start + chunk mmc blocksTodo)
          (blocksTodo - chunk mmc blocksTodo) _ _ stillMatched
          (addressable.part (by omega)) fits.rest more done
        rw [wrote, wrote_access, next, Nat.add_assoc, rest] at tiles
        refine ⟨_, tiles_append advances bounded tiles, ?_⟩
        rw [card, wrote, next, wrote_wrote, rest]
        rfl
      · have whole : chunk mmc blocksTodo = blocksTodo := by bv_omega
        have last : Tiles world.card.access true mmc.cfg.bMax.toNat
            (start.toNat + (chunk mmc blocksTodo).toNat) (start.toNat + blocksTodo.toNat) [] := by
          rw [whole]
          rfl
        rw [if_neg more]
        refine ⟨_, tiles_append advances bounded last, wrote.trans ?_⟩
        rw [whole]
    · rw [if_pos counted] at done
      exact absurd done Bool.false_ne_true

theorem exec_mmcBreadLoop_succ (mmc : Mmc) (turns : Nat) (start blocksTodo : U32) (offset : Nat)
    (dst : Buffer) (world : World) :
    (mmcBreadLoop mmc (turns + 1) start blocksTodo offset dst).exec serve world =
      let read := (mmcReadBlocks mmc start (chunk mmc blocksTodo)).exec serve world
      let copied := dst.overwrite offset ((chunk mmc blocksTodo).toNat * mmc.readBlLen.toNat)
        read.1.2
      (if read.1.1 ≠ chunk mmc blocksTodo then pure (false, copied)
        else if blocksTodo - chunk mmc blocksTodo > 0 then
          mmcBreadLoop mmc turns (start + chunk mmc blocksTodo)
            (blocksTodo - chunk mmc blocksTodo)
            (offset + (chunk mmc blocksTodo * mmc.readBlLen).toNat) copied
        else pure (true, copied) : Driver (Bool × Buffer)).exec serve read.2 :=
  exec_bind serve _ _ world

/-- A read loop that ends well was served every block it had to do, and has copied them if no
buffer offset wraps. -/
theorem exec_mmcBreadLoop_card (mmc : Mmc) (turns : Nat) (start blocksTodo : U32) (offset : Nat)
    (dst : Buffer) (world : World) (matched : Matches mmc world.card)
    (addressable : mmc.Addressable start blocksTodo) (positive : 0 < blocksTodo)
    (done : ((mmcBreadLoop mmc turns start blocksTodo offset dst).exec serve world).1.1 = true) :
    (∃ transfers, Tiles world.card.access false mmc.cfg.bMax.toNat start.toNat
        (start.toNat + blocksTodo.toNat) transfers ∧
      ((mmcBreadLoop mmc turns start blocksTodo offset dst).exec serve world).2.card =
        world.card.served transfers) ∧
    (mmc.ChunksFit blocksTodo →
      ((mmcBreadLoop mmc turns start blocksTodo offset dst).exec serve world).1.2 =
        dst.overwrite offset (blocksTodo.toNat * 512)
          ((world.card.media world.card.access).drop (start.toNat * 512))) := by
  induction turns generalizing start blocksTodo offset dst world with
  | zero => exact absurd done Bool.false_ne_true
  | succ turns inductionHypothesis =>
    have atMost : (chunk mmc blocksTodo).toNat ≤ blocksTodo.toNat := chunk_le mmc blocksTodo
    have bounded := chunk_le_bMax mmc blocksTodo
    have advances : 0 < (chunk mmc blocksTodo).toNat := chunk_pos mmc blocksTodo positive
    rw [exec_mmcBreadLoop_succ] at done ⊢
    dsimp only at done ⊢
    by_cases counted : ((mmcReadBlocks mmc start (chunk mmc blocksTodo)).exec serve
        world).1.1 = chunk mmc blocksTodo
    · obtain ⟨served, bytes⟩ := exec_mmcReadBlocks_card mmc start (chunk mmc blocksTodo) world
        matched (addressable.part (by omega)) advances counted
      rw [if_neg (not_not.mpr counted)] at done ⊢
      by_cases more : 0 < blocksTodo - chunk mmc blocksTodo
      · obtain ⟨next, rest⟩ := chunk_divides addressable more
        rw [if_pos more, matched.readBlLen] at done ⊢
        have stillMatched : Matches mmc
            ((mmcReadBlocks mmc start (chunk mmc blocksTodo)).exec serve world).2.card :=
          served ▸ served_matches matched _
        obtain ⟨⟨transfers, tiles, card⟩, copied⟩ := inductionHypothesis
          (start + chunk mmc blocksTodo) (blocksTodo - chunk mmc blocksTodo) _ _ _ stillMatched
          (addressable.part (by omega)) more done
        rw [served, next] at tiles copied
        refine ⟨⟨_, tiles_append advances bounded ?_, by rw [card, served, served_served]; rfl⟩,
          fun fits => ?_⟩
        · rw [Nat.add_assoc, rest] at tiles
          exact tiles
        · rw [copied fits.rest, bytes, chunk_bytes fits more, ← rest, Nat.add_mul, Nat.add_mul,
            ← Memory.drop_drop]
          exact Memory.overwrite_append _ _ _ _ _
      · have whole : chunk mmc blocksTodo = blocksTodo := by bv_omega
        have last : Tiles world.card.access false mmc.cfg.bMax.toNat
            (start.toNat + (chunk mmc blocksTodo).toNat) (start.toNat + blocksTodo.toNat) [] := by
          rw [whole]
          rfl
        rw [if_neg more]
        refine ⟨⟨_, tiles_append advances bounded last, served⟩, fun _ => ?_⟩
        rw [exec_pure, bytes, matched.readBlLen, whole]
        rfl
    · rw [if_pos counted] at done
      exact absurd done Bool.false_ne_true

/-! ### Whole transfers -/

/-- A write that counts anything ran its loop to the end, on the card as it was. -/
theorem mmcBwrite_counted {mmc : Mmc} {start blkcnt : U32} {src : Buffer} {world : World}
    (counted : ((mmcBwrite (some mmc) start blkcnt src).exec serve world).1 ≠ 0) :
    0 < blkcnt ∧ ∃ ready : World, ready.card = world.card ∧
      ((mmcBwriteLoop mmc blkcnt.toNat start blkcnt src).exec serve ready).1 = true ∧
      (mmcBwrite (some mmc) start blkcnt src).exec serve world = (blkcnt.setWidth 64,
        ((mmcBwriteLoop mmc blkcnt.toNat start blkcnt src).exec serve ready).2) := by
  have untouched : ((mmcSetBlocklen mmc mmc.writeBlLen).exec serve world).2.card = world.card :=
    exec_quiet (always_mmcSetBlocklen mmc mmc.writeBlLen (setBlocklenCmd_quiet _)) world
  unfold mmcBwrite at counted ⊢
  by_cases empty : blkcnt = 0
  · rw [if_pos empty] at counted
    exact absurd rfl counted
  rw [if_neg empty] at counted ⊢
  dsimp only at counted ⊢
  rw [exec_bind] at counted ⊢
  refine ⟨by bv_omega, _, untouched, ?_⟩
  by_cases settled : ((mmcSetBlocklen mmc mmc.writeBlLen).exec serve world).1 = 0
  · rw [if_neg (not_not.mpr settled), exec_bind] at counted ⊢
    have done : ((mmcBwriteLoop mmc blkcnt.toNat start blkcnt src).exec serve
        ((mmcSetBlocklen mmc mmc.writeBlLen).exec serve world).2).1 = true := by
      by_contra stopped
      rw [if_neg stopped] at counted
      exact counted rfl
    refine ⟨done, ?_⟩
    rw [if_pos done]
    rfl
  · rw [if_pos settled] at counted
    exact absurd rfl counted

/-- A read that counts anything passed the check of its range and ran its loop to the end, on the
card as it was. -/
theorem mmcBread_counted {mmc : Mmc} {start blkcnt : U32} {dst : Buffer} {world : World}
    (counted : ((mmcBread (some mmc) start blkcnt dst).exec serve world).1.1 ≠ 0) :
    0 < blkcnt ∧ start + blkcnt ≤ mmc.blockDev.lba ∧ ∃ ready : World, ready.card = world.card ∧
      ((mmcBreadLoop mmc blkcnt.toNat start blkcnt 0 dst).exec serve ready).1.1 = true ∧
      (mmcBread (some mmc) start blkcnt dst).exec serve world =
        ((blkcnt.setWidth 64,
            ((mmcBreadLoop mmc blkcnt.toNat start blkcnt 0 dst).exec serve ready).1.2),
          ((mmcBreadLoop mmc blkcnt.toNat start blkcnt 0 dst).exec serve ready).2) := by
  have untouched : ((mmcSetBlocklen mmc mmc.readBlLen).exec serve world).2.card = world.card :=
    exec_quiet (always_mmcSetBlocklen mmc mmc.readBlLen (setBlocklenCmd_quiet _)) world
  unfold mmcBread at counted ⊢
  by_cases empty : blkcnt = 0
  · rw [if_pos empty] at counted
    exact absurd rfl counted
  rw [if_neg empty] at counted ⊢
  dsimp only at counted ⊢
  by_cases outside : start + blkcnt > mmc.blockDev.lba
  · rw [if_pos outside] at counted
    exact absurd rfl counted
  rw [if_neg outside, exec_bind] at counted ⊢
  refine ⟨by bv_omega, BitVec.not_lt.mp outside, _, untouched, ?_⟩
  by_cases settled : ((mmcSetBlocklen mmc mmc.readBlLen).exec serve world).1 = 0
  · rw [if_neg (not_not.mpr settled), exec_bind] at counted ⊢
    generalize (mmcBreadLoop mmc blkcnt.toNat start blkcnt 0 dst).exec serve
      ((mmcSetBlocklen mmc mmc.readBlLen).exec serve world).2 = loop at counted ⊢
    obtain ⟨⟨done, read⟩, after⟩ := loop
    cases done with
    | false => exact absurd rfl counted
    | true => exact ⟨rfl, rfl⟩
  · rw [if_pos settled] at counted
    exact absurd rfl counted

/-- A write that returns its block count has written the blocks it was asked for. -/
theorem exec_mmcBwrite_card (mmc : Mmc) (start blkcnt : U32) (src : Buffer) (world : World)
    (matched : Matches mmc world.card) (addressable : mmc.Addressable start blkcnt)
    (fits : mmc.ChunksFit blkcnt) (positive : 0 < blkcnt)
    (counted : ((mmcBwrite (some mmc) start blkcnt src).exec serve world).1 =
      blkcnt.setWidth 64) :
    ∃ transfers, Tiles world.card.access true mmc.cfg.bMax.toNat start.toNat
        (start.toNat + blkcnt.toNat) transfers ∧
      ((mmcBwrite (some mmc) start blkcnt src).exec serve world).2.card =
        world.card.wrote start.toNat blkcnt.toNat src transfers := by
  obtain ⟨-, ready, same, done, ends⟩ := mmcBwrite_counted (by rw [counted]; bv_omega)
  have wrote := exec_mmcBwriteLoop_card mmc blkcnt.toNat start blkcnt src ready
    (by rw [same]; exact matched) addressable fits positive done
  rw [same] at wrote
  rw [ends]
  exact wrote

/-- A read that returns its block count has filled the buffer with the blocks it was asked for. -/
theorem exec_mmcBread_buffer (mmc : Mmc) (start blkcnt : U32) (dst : Buffer) (world : World)
    (matched : Matches mmc world.card) (addressable : mmc.Addressable start blkcnt)
    (fits : mmc.ChunksFit blkcnt) (positive : 0 < blkcnt)
    (counted : ((mmcBread (some mmc) start blkcnt dst).exec serve world).1.1 =
      blkcnt.setWidth 64) :
    ((mmcBread (some mmc) start blkcnt dst).exec serve world).1.2 =
      dst.overwrite 0 (blkcnt.toNat * 512)
        ((world.card.media world.card.access).drop (start.toNat * 512)) := by
  obtain ⟨-, -, ready, same, done, ends⟩ := mmcBread_counted (by rw [counted]; bv_omega)
  have copied := (exec_mmcBreadLoop_card mmc blkcnt.toNat start blkcnt 0 dst ready
    (by rw [same]; exact matched) addressable positive done).2 fits
  rw [same] at copied
  rw [ends]
  exact copied

end PinePhonePkg
