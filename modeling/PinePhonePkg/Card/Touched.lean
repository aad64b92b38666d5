/-
This file says which sectors a block transfer touched. A transfer that counts
its blocks was made of data commands that follow each other from the first
sector it was asked for to the last, and every other sector of the card is as it
was. On a card with byte addresses this rests on the check of the range, which
keeps the addresses below 2^32.
-/

import PinePhonePkg.Card.Partition
import PinePhonePkg.Card.RoundTrip

namespace PinePhonePkg

open Library

/-! ### Touched sectors -/

/-- Between the two states the data commands went to the sectors from `first` up to `last` of
one hardware partition, to each of them once, and no other sector changed. -/
structure Card.Touched (before after : Card) (access : U8) (write : Bool) (first last : Nat) :
    Prop where
  transfers : ∃ most transfers, Tiles access write most first last transfers ∧
    after.transfers = before.transfers ++ transfers
  media : ∀ partition address,
    partition ≠ access ∨ address < first * 512 ∨ last * 512 ≤ address →
      after.media partition address = before.media partition address

theorem served_touched {card : Card} {most first last : Nat} {transfers : List Transfer}
    (tiles : Tiles card.access false most first last transfers) :
    card.Touched (card.served transfers) card.access false first last :=
  ⟨⟨most, transfers, tiles, rfl⟩, fun _ _ _ => rfl⟩

theorem wrote_touched {card : Card} {most start count : Nat} {transfers : List Transfer}
    (tiles : Tiles card.access true most start (start + count) transfers) (source : Buffer) :
    card.Touched (card.wrote start count source transfers) card.access true start
      (start + count) :=
  ⟨⟨most, transfers, tiles, rfl⟩, fun partition address outside =>
    wrote_outside card start count source transfers partition address outside⟩

/-! ### What no command changes -/

theorem perform_sectorAddressed (card : Card) (cmd : MmcCmd) (data : Option MmcData)
    (answer : Answer) : (card.perform cmd data answer).sectorAddressed = card.sectorAddressed := by
  unfold Card.perform
  dsimp only
  split <;> first | rfl | (split <;> rfl)

theorem serve_sectorAddressed (request : Request) (world : World) :
    (serve request world).2.card.sectorAddressed = world.card.sectorAddressed := by
  cases request with
  | sendCmd cmd data =>
    rw [serve_sendCmd]
    split
    · rfl
    · exact perform_sectorAddressed _ _ _ _
  | setIos | updatePhase | malloc | unsetWord => rfl

/-- How a card is addressed does not change. -/
theorem exec_sectorAddressed {Result : Type} (program : Driver Result) (world : World) :
    (program.exec serve world).2.card.sectorAddressed = world.card.sectorAddressed := by
  induction program generalizing world with
  | done result => rfl
  | call request next inductionHypothesis =>
    exact (inductionHypothesis _ _).trans (serve_sectorAddressed request world)

/-! ### Reads -/

/-- A read that returns its block count passed the check of its range and was served the blocks
of the range. -/
theorem touched_mmcBread (mmc : Mmc) (start blkcnt : U32) (dst : Buffer) (world : World)
    (matched : Matches mmc world.card)
    (addressable : start + blkcnt ≤ mmc.blockDev.lba → mmc.Addressable start blkcnt)
    (positive : 0 < blkcnt)
    (counted : ((mmcBread (some mmc) start blkcnt dst).exec serve world).1.1 =
      blkcnt.setWidth 64) :
    world.card.Touched ((mmcBread (some mmc) start blkcnt dst).exec serve world).2.card
      world.card.access false start.toNat (start.toNat + blkcnt.toNat) := by
  obtain ⟨-, inside, ready, same, done, ends⟩ := mmcBread_counted (by rw [counted]; bv_omega)
  obtain ⟨⟨transfers, tiles, served⟩, -⟩ := exec_mmcBreadLoop_card mmc blkcnt.toNat start blkcnt 0
    dst ready (by rw [same]; exact matched) (addressable inside) positive done
  rw [same] at tiles served
  rw [ends]
  exact served ▸ served_touched tiles

/-! ### Writes -/

/-- A chunk that is counted passed the check of its range. -/
theorem mmcWriteBlocks_inside {mmc : Mmc} {start blkcnt : U32} {src : Buffer} {world : World}
    (positive : 0 < blkcnt)
    (counted : ((mmcWriteBlocks mmc start blkcnt src).exec serve world).1 = blkcnt) :
    start + blkcnt ≤ mmc.blockDev.lba := by
  have zero : (0 : U32) ≠ blkcnt := by bv_omega
  by_contra outside
  unfold mmcWriteBlocks at counted
  rw [if_pos (BitVec.not_le.mp outside)] at counted
  exact zero counted

/-- The chunks of a write that is counted are inside the device, and so is the whole write. -/
theorem mmcBwriteLoop_inside {mmc : Mmc} {turns : Nat} {start blocksTodo : U32} {src : Buffer}
    {world : World} (bound : start.toNat + blocksTodo.toNat < 2 ^ 32) (positive : 0 < blocksTodo)
    (done : ((mmcBwriteLoop mmc turns start blocksTodo src).exec serve world).1 = true) :
    start.toNat + blocksTodo.toNat ≤ mmc.blockDev.lba.toNat := by
  induction turns generalizing start blocksTodo src world with
  | zero => exact absurd done Bool.false_ne_true
  | succ turns inductionHypothesis =>
    have atMost : (chunk mmc blocksTodo).toNat ≤ blocksTodo.toNat := chunk_le mmc blocksTodo
    have advances : 0 < chunk mmc blocksTodo := chunk_pos mmc blocksTodo positive
    unfold mmcBwriteLoop at done
    rw [Program.exec_bind] at done
    by_cases counted : ((mmcWriteBlocks mmc start (chunk mmc blocksTodo) src).exec serve
        world).1 = chunk mmc blocksTodo
    · rw [if_neg (not_not.mpr counted)] at done
      by_cases more : 0 < blocksTodo - chunk mmc blocksTodo
      · rw [if_pos more] at done
        have rest := inductionHypothesis (by bv_omega) more done
        bv_omega
      · have inside := mmcWriteBlocks_inside advances counted
        have whole : chunk mmc blocksTodo = blocksTodo := by bv_omega
        rw [whole] at inside
        bv_omega
    · rw [if_pos counted] at done
      exact absurd done Bool.false_ne_true

/-- A write that returns its block count has written the blocks of its range. -/
theorem touched_mmcBwrite (mmc : Mmc) (start blkcnt : U32) (src : Buffer) (world : World)
    (matched : Matches mmc world.card) (bound : start.toNat + blkcnt.toNat < 2 ^ 32)
    (addressable : start + blkcnt ≤ mmc.blockDev.lba → mmc.Addressable start blkcnt)
    (fits : mmc.ChunksFit blkcnt) (positive : 0 < blkcnt)
    (counted : ((mmcBwrite (some mmc) start blkcnt src).exec serve world).1 =
      blkcnt.setWidth 64) :
    world.card.Touched ((mmcBwrite (some mmc) start blkcnt src).exec serve world).2.card
      world.card.access true start.toNat (start.toNat + blkcnt.toNat) := by
  have inside : start + blkcnt ≤ mmc.blockDev.lba := by
    obtain ⟨-, ready, -, done, -⟩ := mmcBwrite_counted (by rw [counted]; bv_omega)
    have within := mmcBwriteLoop_inside bound positive done
    bv_omega
  obtain ⟨transfers, tiles, wrote⟩ := exec_mmcBwrite_card mmc start blkcnt src world matched
    (addressable inside) fits positive counted
  exact wrote ▸ wrote_touched tiles src

end PinePhonePkg
