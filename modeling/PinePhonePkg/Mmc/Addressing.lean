/-
This file says where the addresses of the commands lead. The core counts in
blocks; a card that is addressed by bytes gets the product with the block
length, cut to 32 bits, so that a block far enough up leads to one further down.
The chunks of a request are looked at by their first blocks.
-/

import PinePhonePkg.Mmc.Block

namespace PinePhonePkg

/-! ### Addresses -/

/-- The block that the address of a block leads to: the block itself on a high-capacity card, the
one at the byte address on any other. -/
def Mmc.landsOn (mmc : Mmc) (length block : U32) : Nat :=
  if mmc.highCapacity then block.toNat else (block * length).toNat / length.toNat

/-- The address of the block leads to it. -/
def Mmc.Reaches (mmc : Mmc) (length block : U32) : Prop :=
  mmc.landsOn length block = block.toNat

instance (mmc : Mmc) (length block : U32) : Decidable (mmc.Reaches length block) :=
  inferInstanceAs (Decidable (_ = _))

section Addresses

variable {mmc : Mmc} {length block : U32}

theorem landsOn_highCapacity (highCapacity : mmc.highCapacity = true) :
    mmc.landsOn length block = block.toNat :=
  if_pos highCapacity

/-- An address that wraps leads further down. -/
theorem landsOn_le (mmc : Mmc) (length block : U32) : mmc.landsOn length block ≤ block.toNat := by
  unfold Mmc.landsOn
  split
  · exact Nat.le_refl _
  · rw [BitVec.toNat_mul]
    calc block.toNat * length.toNat % 2 ^ 32 / length.toNat
        ≤ block.toNat * length.toNat / length.toNat := Nat.div_le_div_right (Nat.mod_le _ _)
      _ ≤ block.toNat := Nat.div_le_of_le_mul (Nat.le_of_eq (Nat.mul_comm _ _))

/-- A block is reached unless its byte address has more than 32 bits. -/
theorem reaches_iff (positive : 0 < length) :
    mmc.Reaches length block ↔
      mmc.highCapacity = true ∨ block.toNat * length.toNat < 2 ^ 32 := by
  have size : 0 < length.toNat := by bv_omega
  unfold Mmc.Reaches Mmc.landsOn
  cases mmc.highCapacity with
  | true => exact iff_of_true rfl (Or.inl rfl)
  | false =>
    simp only [Bool.false_eq_true, if_false, false_or]
    rw [BitVec.toNat_mul]
    constructor
    · intro reached
      by_contra wraps
      have below : block.toNat * length.toNat % 2 ^ 32 < block.toNat * length.toNat :=
        Nat.lt_of_lt_of_le (Nat.mod_lt _ (by decide)) (Nat.not_lt.mp wraps)
      have less := (Nat.div_lt_iff_lt_mul size).mpr below
      omega
    · intro small
      rw [Nat.mod_eq_of_lt small, Nat.mul_div_cancel _ size]

/-- When a block is reached, so are those before it. -/
theorem Mmc.Reaches.before (reaches : mmc.Reaches length block) {other : U32}
    (before : other ≤ block) : mmc.Reaches length other := by
  by_cases none : length = 0
  · subst none
    unfold Mmc.Reaches Mmc.landsOn at reaches ⊢
    split
    · rfl
    · rename_i lowCapacity
      have zero : (0 : U32).toNat = 0 := rfl
      rw [if_neg lowCapacity, zero, Nat.div_zero] at reaches
      rw [zero, Nat.div_zero]
      bv_omega
  · have positive : 0 < length := by bv_omega
    refine (reaches_iff positive).mpr (((reaches_iff positive).mp reaches).imp_right fun small => ?_)
    exact Nat.lt_of_le_of_lt (Nat.mul_le_mul_right _ (BitVec.le_def.mp before)) small

end Addresses

/-! ### Chunks -/

/-- The first block of the chunk that follows so many full ones -/
def Mmc.chunkStart (mmc : Mmc) (start : U32) (turns : Nat) : U32 :=
  start + .ofNat 32 (turns * mmc.cfg.bMax.toNat)

/-- The length of the chunk that follows so many full ones -/
def Mmc.chunkCount (mmc : Mmc) (blkcnt : U32) (turns : Nat) : U32 :=
  chunk mmc (blkcnt - .ofNat 32 (turns * mmc.cfg.bMax.toNat))

/-- The first block of the last chunk -/
def Mmc.lastChunk (mmc : Mmc) (start blkcnt : U32) : U32 :=
  mmc.chunkStart start ((blkcnt.toNat - 1) / mmc.cfg.bMax.toNat)

/-- Every chunk of the request is transferred where it was meant to be: the blocks have bytes, and
the address of the last chunk does not wrap. -/
def Mmc.ChunksReach (mmc : Mmc) (length start blkcnt : U32) : Prop :=
  0 < length ∧ mmc.Reaches length (mmc.lastChunk start blkcnt)

instance (mmc : Mmc) (length start blkcnt : U32) :
    Decidable (mmc.ChunksReach length start blkcnt) :=
  inferInstanceAs (Decidable (_ ∧ _))

/-- The blocks that a chunk leads to, in order. Blocks of no bytes are none. -/
def Mmc.chunkRange (mmc : Mmc) (length start blkcnt : U32) : List Nat :=
  if length = 0 then [] else List.range' (mmc.landsOn length start) blkcnt.toNat

/-- The blocks that the chunks of a request lead to, chunk by chunk. -/
def Mmc.chunkBlocks (mmc : Mmc) (length : U32) :
    (turns : Nat) → (start blocksTodo : U32) → List Nat
  | 0, _, _ => []
  | turns + 1, start, blocksTodo =>
      let cur := chunk mmc blocksTodo
      mmc.chunkRange length start cur ++
        if blocksTodo - cur > 0 then
          mmc.chunkBlocks length turns (start + cur) (blocksTodo - cur)
        else []

section Chunks

variable {mmc : Mmc} {length start blocksTodo : U32}

/-- Until the last chunk, every chunk is of the full size. -/
theorem chunk_more (more : 0 < blocksTodo - chunk mmc blocksTodo) :
    chunk mmc blocksTodo = mmc.cfg.bMax ∧ mmc.cfg.bMax < blocksTodo := by
  unfold chunk at more ⊢
  split
  · exact ⟨rfl, by assumption⟩
  · rename_i whole
    rw [if_neg whole] at more
    bv_omega

theorem chunkStart_zero (mmc : Mmc) (start : U32) : mmc.chunkStart start 0 = start := by
  unfold Mmc.chunkStart
  rw [Nat.zero_mul]
  exact BitVec.add_zero start

theorem chunkCount_zero (mmc : Mmc) (blkcnt : U32) : mmc.chunkCount blkcnt 0 = chunk mmc blkcnt := by
  unfold Mmc.chunkCount
  rw [Nat.zero_mul]
  exact congrArg (chunk mmc) (BitVec.sub_zero blkcnt)

/-- Counted from the next chunk on, a chunk comes one turn earlier. -/
theorem chunkStart_next (more : 0 < blocksTodo - chunk mmc blocksTodo) (turns : Nat) :
    mmc.chunkStart (start + chunk mmc blocksTodo) turns = mmc.chunkStart start (turns + 1) := by
  have full := (chunk_more more).1
  unfold Mmc.chunkStart
  rw [full, Nat.succ_mul]
  generalize turns * mmc.cfg.bMax.toNat = before
  bv_omega

theorem chunkCount_next (more : 0 < blocksTodo - chunk mmc blocksTodo) (turns : Nat) :
    mmc.chunkCount (blocksTodo - chunk mmc blocksTodo) turns =
      mmc.chunkCount blocksTodo (turns + 1) := by
  have full := (chunk_more more).1
  unfold Mmc.chunkCount
  rw [full, Nat.succ_mul]
  congr 1
  generalize turns * mmc.cfg.bMax.toNat = before
  bv_omega

/-- A chunk that comes later comes after the first one. -/
theorem more_of_turn {turns : Nat} (inside : (turns + 1) * mmc.cfg.bMax.toNat < blocksTodo.toNat) :
    0 < blocksTodo - chunk mmc blocksTodo ∧
      turns * mmc.cfg.bMax.toNat < (blocksTodo - chunk mmc blocksTodo).toNat := by
  have fits := chunk_le mmc blocksTodo
  have bound := chunk_le_bMax mmc blocksTodo
  rw [Nat.succ_mul] at inside
  generalize turns * mmc.cfg.bMax.toNat = before at inside ⊢
  constructor <;> bv_omega

theorem turn_of_more {turns : Nat} {blkcnt : U32}
    (inside : turns * mmc.cfg.bMax.toNat < blkcnt.toNat)
    (more : 0 < blkcnt - .ofNat 32 (turns * mmc.cfg.bMax.toNat) - mmc.chunkCount blkcnt turns) :
    mmc.chunkCount blkcnt turns = mmc.cfg.bMax ∧
      (turns + 1) * mmc.cfg.bMax.toNat < blkcnt.toNat := by
  obtain ⟨full, longer⟩ := chunk_more more
  refine ⟨full, ?_⟩
  rw [Nat.succ_mul]
  generalize turns * mmc.cfg.bMax.toNat = before at inside longer ⊢
  bv_omega

/-- A chunk of a request that does not wrap lies in it. -/
theorem chunk_inside {turns : Nat} {blkcnt : U32}
    (inside : turns * mmc.cfg.bMax.toNat < blkcnt.toNat)
    (bound : start.toNat + blkcnt.toNat ≤ 2 ^ 32) :
    0 < mmc.chunkCount blkcnt turns ∧ start.toNat ≤ (mmc.chunkStart start turns).toNat ∧
      (mmc.chunkStart start turns).toNat + (mmc.chunkCount blkcnt turns).toNat ≤
        start.toNat + blkcnt.toNat := by
  unfold Mmc.chunkCount Mmc.chunkStart
  generalize turns * mmc.cfg.bMax.toNat = before at inside ⊢
  have fits := chunk_le mmc (blkcnt - .ofNat 32 before)
  have advances := chunk_pos mmc (blkcnt - .ofNat 32 before) (by bv_omega)
  refine ⟨advances, ?_, ?_⟩ <;> bv_omega

theorem lastChunk_first (positive : 0 < blocksTodo) (single : ¬ 0 < blocksTodo - chunk mmc blocksTodo) :
    mmc.lastChunk start blocksTodo = start := by
  have short : blocksTodo.toNat ≤ mmc.cfg.bMax.toNat := by
    have fits := chunk_le mmc blocksTodo
    have bound := chunk_le_bMax mmc blocksTodo
    bv_omega
  unfold Mmc.lastChunk
  rw [Nat.div_eq_of_lt (by bv_omega)]
  exact chunkStart_zero mmc start

/-- A chunk later the last chunk is the same. -/
theorem lastChunk_next (more : 0 < blocksTodo - chunk mmc blocksTodo) :
    mmc.lastChunk (start + chunk mmc blocksTodo) (blocksTodo - chunk mmc blocksTodo) =
      mmc.lastChunk start blocksTodo := by
  have size : 0 < mmc.cfg.bMax.toNat := mmc.cfg.bMaxPos
  have count : (blocksTodo - chunk mmc blocksTodo).toNat - 1 + mmc.cfg.bMax.toNat =
      blocksTodo.toNat - 1 := by
    have full := chunk_more more
    bv_omega
  unfold Mmc.lastChunk
  rw [chunkStart_next more, ← count, Nat.add_div_right _ size]

theorem le_lastChunk (noWrap : start.toNat + blocksTodo.toNat < 2 ^ 32) :
    start ≤ mmc.lastChunk start blocksTodo := by
  have below := Nat.div_mul_le_self (blocksTodo.toNat - 1) mmc.cfg.bMax.toNat
  unfold Mmc.lastChunk Mmc.chunkStart
  generalize (blocksTodo.toNat - 1) / mmc.cfg.bMax.toNat * mmc.cfg.bMax.toNat = before at below ⊢
  bv_omega

theorem chunkBlocks_zero (turns : Nat) : mmc.chunkBlocks 0 turns start blocksTodo = [] := by
  induction turns generalizing start blocksTodo with
  | zero => rfl
  | succ turns inductionHypothesis =>
    unfold Mmc.chunkBlocks Mmc.chunkRange
    dsimp only
    rw [if_pos rfl, List.nil_append, inductionHypothesis, ite_self]

/-- The chunks lead to the blocks of the request exactly when the last one is where it should be. -/
theorem chunkBlocks_eq_iff (turns : Nat) (positive : 0 < blocksTodo)
    (enough : blocksTodo.toNat ≤ turns) (noWrap : start.toNat + blocksTodo.toNat < 2 ^ 32) :
    mmc.chunkBlocks length turns start blocksTodo = List.range' start.toNat blocksTodo.toNat ↔
      mmc.ChunksReach length start blocksTodo := by
  by_cases someBytes : length = 0
  · subst someBytes
    rw [chunkBlocks_zero]
    refine iff_of_false (fun empty => ?_) fun reach => absurd reach.1 (by decide)
    have count := congrArg List.length empty
    rw [List.length_range', List.length_nil] at count
    bv_omega
  have bytes : 0 < length := by bv_omega
  unfold Mmc.ChunksReach
  rw [and_iff_right bytes]
  induction turns generalizing start blocksTodo with
  | zero => exact absurd positive (by bv_omega)
  | succ turns inductionHypothesis =>
    have fits := chunk_le mmc blocksTodo
    have advances := chunk_pos mmc blocksTodo positive
    have first : List.range' (mmc.landsOn length start) (chunk mmc blocksTodo).toNat =
        List.range' start.toNat (chunk mmc blocksTodo).toNat ↔ mmc.Reaches length start := by
      rw [List.range'_inj]
      have some : (chunk mmc blocksTodo).toNat ≠ 0 := by bv_omega
      exact ⟨fun same => same.2.resolve_left some, fun reached => ⟨rfl, Or.inr reached⟩⟩
    unfold Mmc.chunkBlocks Mmc.chunkRange
    dsimp only
    rw [if_neg someBytes]
    by_cases more : 0 < blocksTodo - chunk mmc blocksTodo
    · have split : List.range' start.toNat blocksTodo.toNat =
          List.range' start.toNat (chunk mmc blocksTodo).toNat ++
            List.range' (start + chunk mmc blocksTodo).toNat
              (blocksTodo - chunk mmc blocksTodo).toNat := by
        have next : (start + chunk mmc blocksTodo).toNat =
            start.toNat + (chunk mmc blocksTodo).toNat := by bv_omega
        have rest : blocksTodo.toNat =
            (chunk mmc blocksTodo).toNat + (blocksTodo - chunk mmc blocksTodo).toNat := by bv_omega
        rw [next, List.range'_append_1, ← rest]
      have rest := @inductionHypothesis (start + chunk mmc blocksTodo)
        (blocksTodo - chunk mmc blocksTodo) more (by bv_omega) (by bv_omega)
      rw [lastChunk_next more] at rest
      rw [if_pos more, split,
        List.append_eq_append_iff_of_size_eq_left (by simp only [List.length_range'])]
      refine (and_congr first rest).trans ?_
      exact ⟨fun both => both.2, fun last => ⟨last.before (le_lastChunk noWrap), last⟩⟩
    · have whole : (chunk mmc blocksTodo).toNat = blocksTodo.toNat := by bv_omega
      rw [if_neg more, List.append_nil, ← whole, first, lastChunk_first positive more]

end Chunks

end PinePhonePkg
