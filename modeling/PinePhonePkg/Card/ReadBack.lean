/-
This file gives the bytes a counted read brings back as a function of the card,
for any range the check of the read accepts, also one whose 32-bit addresses
wrap. Two counted reads of one range bring back the same bytes as long as the
blocks of the partition are the same in between.
-/

import PinePhonePkg.Card.Partition

namespace PinePhonePkg

open Library

/-! ### What a read brings back -/

/-- The bytes of a chunk that starts at this block. -/
def Card.blocks (card : Card) (mmc : Mmc) (start : U32) : Buffer :=
  (card.media card.access).drop
    (card.byteAddress (if mmc.highCapacity then start else start * mmc.readBlLen))

/-- The buffer of the read loop when every command succeeds. -/
def Card.readBack (card : Card) (mmc : Mmc) :
    (turns : Nat) → (start blocksTodo : U32) → (offset : Nat) → Buffer → Buffer
  | 0, _, _, _, dst => dst
  | turns + 1, start, blocksTodo, offset, dst =>
    let cur := chunk mmc blocksTodo
    let dst := dst.overwrite offset (cur.toNat * mmc.readBlLen.toNat) (card.blocks mmc start)
    if blocksTodo - cur > 0 then
      card.readBack mmc turns (start + cur) (blocksTodo - cur)
        (offset + (cur * mmc.readBlLen).toNat) dst
    else dst

/-- The whole of a read. -/
def Card.image (card : Card) (mmc : Mmc) (start blkcnt : U32) (dst : Buffer) : Buffer :=
  card.readBack mmc blkcnt.toNat start blkcnt 0 dst

/-- The cards hold the same blocks where the reads go. -/
structure Card.SameBlocks (card other : Card) : Prop where
  addressing : other.sectorAddressed = card.sectorAddressed
  blocks : other.media other.access = card.media card.access

theorem Card.SameBlocks.readBack {card other : Card} (same : card.SameBlocks other) (mmc : Mmc)
    (turns : Nat) (start blocksTodo : U32) (offset : Nat) (dst : Buffer) :
    other.readBack mmc turns start blocksTodo offset dst =
      card.readBack mmc turns start blocksTodo offset dst := by
  have chunks (start : U32) : other.blocks mmc start = card.blocks mmc start := by
    unfold Card.blocks Card.byteAddress
    rw [same.blocks, same.addressing]
  induction turns generalizing start blocksTodo offset dst with
  | zero => rfl
  | succ turns inductionHypothesis =>
    unfold Card.readBack
    dsimp only
    rw [chunks, inductionHypothesis]

theorem Card.KeptOutside.sameBlocks {before after : Card} (kept : before.KeptOutside 0 0 after) :
    before.SameBlocks after := by
  refine ⟨kept.addressing, funext fun address => ?_⟩
  rw [kept.access]
  exact kept.media before.access address (Or.inr (Or.inr (by omega)))

/-- Where the buffers agree, or the chunks are copied, the results agree. -/
theorem readBack_agree (card : Card) {mmc : Mmc} (turns : Nat) {start blocksTodo : U32}
    {offset : Nat} {dst other : Buffer} (readBlLen : mmc.readBlLen = 512)
    (positive : 0 < blocksTodo) (enough : blocksTodo.toNat ≤ turns)
    (fits : blocksTodo.toNat * 512 < 2 ^ 32) (address : Nat)
    (covered : dst address = other address ∨
      offset ≤ address ∧ address < offset + blocksTodo.toNat * 512) :
    card.readBack mmc turns start blocksTodo offset dst address =
      card.readBack mmc turns start blocksTodo offset other address := by
  induction turns generalizing start blocksTodo offset dst other with
  | zero => exact absurd positive (by bv_omega)
  | succ turns inductionHypothesis =>
    have atMost : (chunk mmc blocksTodo).toNat ≤ blocksTodo.toNat := chunk_le mmc blocksTodo
    have advances : 0 < (chunk mmc blocksTodo).toNat := chunk_pos mmc blocksTodo positive
    have bytes : (chunk mmc blocksTodo * 512 : U32).toNat = (chunk mmc blocksTodo).toNat * 512 := by
      bv_omega
    have copied (source : Buffer)
        (here : dst address = other address ∨
          offset ≤ address ∧ address < offset + (chunk mmc blocksTodo).toNat * 512) :
        dst.overwrite offset ((chunk mmc blocksTodo).toNat * 512) source address =
          other.overwrite offset ((chunk mmc blocksTodo).toNat * 512) source address := by
      by_cases inside : offset ≤ address ∧ address < offset + (chunk mmc blocksTodo).toNat * 512
      · obtain ⟨place, rfl⟩ := Nat.exists_eq_add_of_le inside.1
        rw [Memory.overwrite_inside _ _ _ _ _ (by omega),
          Memory.overwrite_inside _ _ _ _ _ (by omega)]
      · rw [Memory.overwrite_outside _ _ _ _ _ (by omega),
          Memory.overwrite_outside _ _ _ _ _ (by omega)]
        exact here.resolve_right inside
    unfold Card.readBack
    dsimp only
    rw [readBlLen, bytes]
    have literal : (512 : U32).toNat = 512 := by decide
    rw [literal]
    by_cases more : 0 < blocksTodo - chunk mmc blocksTodo
    · rw [if_pos more, if_pos more]
      have rest : (blocksTodo - chunk mmc blocksTodo).toNat =
          blocksTodo.toNat - (chunk mmc blocksTodo).toNat := by bv_omega
      have enoughRest : (blocksTodo - chunk mmc blocksTodo).toNat ≤ turns := by omega
      have fitsRest : (blocksTodo - chunk mmc blocksTodo).toNat * 512 < 2 ^ 32 :=
        Nat.lt_of_le_of_lt (Nat.mul_le_mul_right 512 (by omega)) fits
      refine inductionHypothesis more enoughRest fitsRest ?_
      by_cases inside : address < offset + (chunk mmc blocksTodo).toNat * 512
      · rcases covered with agree | ⟨low, _⟩
        · exact Or.inl (copied _ (Or.inl agree))
        · exact Or.inl (copied _ (Or.inr ⟨low, inside⟩))
      · rcases covered with agree | ⟨_, high⟩
        · exact Or.inl (copied _ (Or.inl agree))
        · exact Or.inr ⟨by omega, by omega⟩
    · rw [if_neg more, if_neg more]
      have whole : chunk mmc blocksTodo = blocksTodo := by bv_omega
      exact copied _ (whole.symm ▸ covered)

/-- The bytes of an image do not depend on what was in the buffer before. -/
theorem image_agree (card : Card) {mmc : Mmc} {start blkcnt : U32} (dst other : Buffer)
    (readBlLen : mmc.readBlLen = 512) (fits : blkcnt.toNat * 512 < 2 ^ 32) :
    Memory.Agree (blkcnt.toNat * 512) (card.image mmc start blkcnt dst)
      (card.image mmc start blkcnt other) := by
  intro address inside
  exact readBack_agree card blkcnt.toNat readBlLen (by bv_omega) (Nat.le_refl _) fits address
    (Or.inr ⟨Nat.zero_le _, by omega⟩)

/-! ### Counted reads -/

/-- A chunk that is counted brings back its blocks, and no chunk changes the card's blocks. -/
theorem exec_mmcReadBlocks_blocks (mmc : Mmc) (start blkcnt : U32) (world : World)
    (positive : 0 < blkcnt) :
    world.card.KeptOutside 0 0 ((mmcReadBlocks mmc start blkcnt).exec serve world).2.card ∧
      (((mmcReadBlocks mmc start blkcnt).exec serve world).1.1 = blkcnt →
        ((mmcReadBlocks mmc start blkcnt).exec serve world).1.2 = world.card.blocks mmc start) := by
  refine ⟨exec_kept world (always_mmcReadBlocks mmc start blkcnt ?_ ?_ ?_), fun counted => ?_⟩
  · exact storesWithin_readBlocks world.card mmc start blkcnt _ 0 0
  · exact storesWithin_quiet (stopTransmissionCmd_quiet (some 0)) none
  · exact storesWithin_quiet (sendStatusCmd_quiet mmc) none
  · exact (exec_mmcReadBlocks_sent positive counted).2

theorem exec_mmcBreadLoop_readBack (mmc : Mmc) (turns : Nat) (start blocksTodo : U32)
    (offset : Nat) (dst : Buffer) (world : World) (positive : 0 < blocksTodo)
    (done : ((mmcBreadLoop mmc turns start blocksTodo offset dst).exec serve world).1.1 = true) :
    ((mmcBreadLoop mmc turns start blocksTodo offset dst).exec serve world).1.2 =
      world.card.readBack mmc turns start blocksTodo offset dst := by
  induction turns generalizing start blocksTodo offset dst world with
  | zero => rfl
  | succ turns inductionHypothesis =>
    obtain ⟨kept, bytes⟩ := exec_mmcReadBlocks_blocks mmc start (chunk mmc blocksTodo) world
      (chunk_pos mmc blocksTodo positive)
    unfold Card.readBack
    rw [exec_mmcBreadLoop_succ] at done ⊢
    dsimp only at done ⊢
    by_cases counted : ((mmcReadBlocks mmc start (chunk mmc blocksTodo)).exec serve
        world).1.1 = chunk mmc blocksTodo
    · rw [if_neg (not_not.mpr counted)] at done ⊢
      rw [bytes counted] at done ⊢
      by_cases more : 0 < blocksTodo - chunk mmc blocksTodo
      · rw [if_pos more] at done ⊢
        rw [if_pos more, inductionHypothesis _ _ _ _ _ more done]
        exact kept.sameBlocks.readBack mmc _ _ _ _ _
      · rw [if_neg more, if_neg more]
        rfl
    · rw [if_pos counted] at done
      exact absurd done Bool.false_ne_true

/-- A read changes no block, and one that counts passed its check and brings back the image. -/
theorem exec_mmcBread_image (mmc : Mmc) (start blkcnt : U32) (dst : Buffer) (world : World) :
    world.card.KeptOutside 0 0 ((mmcBread (some mmc) start blkcnt dst).exec serve world).2.card ∧
      (((mmcBread (some mmc) start blkcnt dst).exec serve world).1.1 ≠ 0 →
        0 < blkcnt ∧ start + blkcnt ≤ mmc.blockDev.lba ∧
          ((mmcBread (some mmc) start blkcnt dst).exec serve world).1.2 =
            world.card.image mmc start blkcnt dst) := by
  constructor
  · exact exec_mmcBread_kept mmc start blkcnt dst world
  · intro counted
    obtain ⟨positive, inside, ready, same, done, ends⟩ := mmcBread_counted counted
    have copied := exec_mmcBreadLoop_readBack mmc blkcnt.toNat start blkcnt 0 dst ready positive done
    rw [same] at copied
    rw [ends]
    exact ⟨positive, inside, copied⟩

end PinePhonePkg
