/-
This file settles when the start-up gets the capacities of a card right. What CSD
and EXT_CSD say about them is stated on the registers, with CSD as one number of
128 bits and without a width for any intermediate value; the code takes the
fields from the response words and from bytes.
-/

import PinePhonePkg.Start.EraseGroups

namespace PinePhonePkg

open Library

/-! ### The registers -/

/-- CSD as one number; the first response word has the highest bits. -/
def csdNumber (csd : Vector U32 4) : Nat :=
  (getElem csd 0 zero_lt_words).toNat * 2 ^ 96 + (getElem csd 1 one_lt_words).toNat * 2 ^ 64 +
    (getElem csd 2 two_lt_words).toNat * 2 ^ 32 + (getElem csd 3 three_lt_words).toNat

/-- The field of CSD from a bit on -/
def csdField (csd : Vector U32 4) (place count : Nat) : Nat :=
  csdNumber csd / 2 ^ place % 2 ^ count

/-- C_SIZE of the second CSD structure -/
def cSizeLarge (csd : Vector U32 4) : Nat := csdField csd 48 22

/-- C_SIZE of the first CSD structure -/
def cSize (csd : Vector U32 4) : Nat := csdField csd 62 12

/-- The exponent of the size of a card that counts blocks of its own length -/
def cSizeMult (csd : Vector U32 4) : Nat := csdField csd 47 3

/-- The exponent of the length of a block that is read -/
def readBlLenField (csd : Vector U32 4) : Nat := csdField csd 80 4

/-- SEC_COUNT -/
def secCount (extCsd : Buffer) : Nat := Memory.word extCsd extCsdSecCnt 4

/-- The bytes of a mebibyte -/
def mib : Nat := 2 ^ 20

/-- What CSD says in its first structure -/
def byteCapacity (csd : Vector U32 4) : Nat :=
  (cSize csd + 1) * 2 ^ (cSizeMult csd + 2) * 2 ^ readBlLenField csd

/-- The same formula with the size of the second structure and the multiplier at its end -/
def largeCapacity (csd : Vector U32 4) : Nat :=
  (cSizeLarge csd + 1) * 2 ^ 10 * 2 ^ readBlLenField csd

/-! ### The fields as the code takes them -/

section Fields

variable (csd : Vector U32 4)

theorem csdReadBlLen_toNat : (csdReadBlLen csd).toNat = 2 ^ readBlLenField csd := by
  have field : (csd[1] >>> 16 &&& 0xf).toNat = readBlLenField csd := by
    rw [toNat_shiftRight_and _ (show (0xf : U32).toNat = 2 ^ 4 - 1 by decide)]
    unfold readBlLenField csdField csdNumber
    have high := csd[1].isLt
    have middle := csd[2].isLt
    have low := csd[3].isLt
    omega
  have small : readBlLenField csd < 16 := Nat.mod_lt _ (by decide)
  unfold csdReadBlLen
  rw [field, BitVec.toNat_shiftLeft, Nat.shiftLeft_eq, Nat.mod_eq_of_lt]
  · exact Nat.one_mul _
  · show 1 * 2 ^ readBlLenField csd < 2 ^ 32
    rw [Nat.one_mul]
    exact Nat.pow_lt_pow_right (by decide) (Nat.lt_trans small (by decide))

theorem csdCsize_large : (csdCsize true csd).toNat = cSizeLarge csd := by
  have high : (csd[1] &&& 0x3f).toNat = csd[1].toNat % 2 ^ 6 := toNat_and_low _ (by decide)
  have low : ((csd[2] &&& 0xffff0000) >>> 16).toNat = csd[2].toNat / 2 ^ 16 % 2 ^ 16 :=
    toNat_and_shiftRight _ (by decide)
  have words := csd[2].isLt
  unfold csdCsize
  rw [if_pos rfl, BitVec.toNat_setWidth_of_le (by decide), toNat_shiftLeft_or, high, low]
  · unfold cSizeLarge csdField csdNumber
    have last := csd[3].isLt
    omega
  · omega
  · omega

theorem csdCsize_byte : (csdCsize false csd).toNat = cSize csd := by
  have high : (csd[1] &&& 0x3ff).toNat = csd[1].toNat % 2 ^ 10 := toNat_and_low _ (by decide)
  have low : ((csd[2] &&& 0xc0000000) >>> 30).toNat = csd[2].toNat / 2 ^ 30 % 2 ^ 2 :=
    toNat_and_shiftRight _ (by decide)
  have words := csd[2].isLt
  unfold csdCsize
  rw [if_neg Bool.false_ne_true, BitVec.toNat_setWidth_of_le (by decide), toNat_shiftLeft_or,
    high, low]
  · unfold cSize csdField csdNumber
    have last := csd[3].isLt
    omega
  · omega
  · omega

theorem csdCmult_byte : (csdCmult false csd).toNat = cSizeMult csd := by
  have field : ((csd[2] &&& 0x00038000) >>> 15).toNat = csd[2].toNat / 2 ^ 15 % 2 ^ 3 :=
    toNat_and_shiftRight _ (by decide)
  unfold csdCmult
  rw [if_neg Bool.false_ne_true, BitVec.toNat_setWidth_of_le (by decide), field]
  unfold cSizeMult csdField csdNumber
  have words := csd[2].isLt
  have last := csd[3].isLt
  omega

/-- The product has room in the 64 bits of `capacity_user`. -/
theorem capacity_toNat {size mult length : Ulong} (sized : size.toNat < 2 ^ 22)
    (shifted : mult.toNat ≤ 8) (long : length.toNat ≤ 2 ^ 15) :
    ((size + 1) <<< (mult + 2) * length).toNat =
      (size.toNat + 1) * 2 ^ (mult.toNat + 2) * length.toNat := by
  have shift : (mult + 2).toNat = mult.toNat + 2 :=
    BitVec.toNat_add_of_lt (Nat.lt_of_le_of_lt (Nat.add_le_add_right shifted 2) (by decide))
  have succ : (size + 1).toNat = size.toNat + 1 :=
    BitVec.toNat_add_of_lt (Nat.lt_trans (Nat.add_lt_add_right sized 1) (by decide))
  have power : 2 ^ (mult.toNat + 2) ≤ 2 ^ 10 :=
    Nat.pow_le_pow_right (by decide) (Nat.add_le_add_right shifted 2)
  have blocks : (size.toNat + 1) * 2 ^ (mult.toNat + 2) ≤ 2 ^ 22 * 2 ^ 10 :=
    Nat.mul_le_mul sized power
  rw [BitVec.toNat_mul, BitVec.shiftLeft_eq', BitVec.toNat_shiftLeft, shift, succ,
    Nat.shiftLeft_eq, Nat.mod_eq_of_lt (Nat.lt_of_le_of_lt blocks (by decide)), Nat.mod_eq_of_lt]
  exact Nat.lt_of_le_of_lt (Nat.mul_le_mul blocks long) (by decide)

theorem readBlLen_toNat_le : ((csdReadBlLen csd).setWidth 64 : Ulong).toNat ≤ 2 ^ 15 := by
  have small : readBlLenField csd < 16 := Nat.mod_lt _ (by decide)
  rw [BitVec.toNat_setWidth_of_le (by decide), csdReadBlLen_toNat]
  exact Nat.pow_le_pow_right (by decide) (Nat.le_of_lt_succ small)

theorem csdCapacity_large : (csdCapacity true csd).toNat = largeCapacity csd := by
  have sized : cSizeLarge csd < 2 ^ 22 := Nat.mod_lt _ (by decide)
  have mult : csdCmult true csd = 8 := if_pos rfl
  have shift : (8 : Ulong).toNat + 2 = 10 := by decide
  unfold csdCapacity largeCapacity
  rw [mult, capacity_toNat (csdCsize_large csd ▸ sized) (by decide) (readBlLen_toNat_le csd),
    csdCsize_large, shift, BitVec.toNat_setWidth_of_le (by decide), csdReadBlLen_toNat]

theorem csdCapacity_byte : (csdCapacity false csd).toNat = byteCapacity csd := by
  have sized : cSize csd < 2 ^ 12 := Nat.mod_lt _ (by decide)
  have mult : cSizeMult csd < 2 ^ 3 := Nat.mod_lt _ (by decide)
  unfold csdCapacity byteCapacity
  rw [capacity_toNat (csdCsize_byte csd ▸ Nat.lt_trans sized (by decide))
    (csdCmult_byte csd ▸ Nat.le_of_lt mult) (readBlLen_toNat_le csd),
    csdCsize_byte, csdCmult_byte, BitVec.toNat_setWidth_of_le (by decide), csdReadBlLen_toNat]

/-- What CSD says by the formula that the addressing mode selects -/
def csdBytes (highCapacity : Bool) : Nat :=
  if highCapacity then largeCapacity csd else byteCapacity csd

theorem csdCapacity_toNat (highCapacity : Bool) :
    (csdCapacity highCapacity csd).toNat = csdBytes csd highCapacity := by
  unfold csdBytes
  cases highCapacity with
  | true =>
    rw [if_pos rfl]
    exact csdCapacity_large csd
  | false =>
    rw [if_neg Bool.false_ne_true]
    exact csdCapacity_byte csd

theorem secCnt_toNat (extCsd : Buffer) : (secCnt extCsd).toNat = secCount extCsd := by
  have bound : secCount extCsd < 256 ^ 4 := Memory.word_lt extCsd extCsdSecCnt 4
  show (BitVec.ofNat 32 (secCount extCsd)).toNat = secCount extCsd
  rw [BitVec.toNat_ofNat]
  exact Nat.mod_eq_of_lt bound

end Fields

/-! ### What is specified -/

/-- The blocks of the user area: by SEC_COUNT for an eMMC of more than 2 GiB, and by the structure
of CSD otherwise -/
def specifiedBlocks (mmc : StartMmc) (csd : Vector U32 4) (extCsd : Buffer) : Nat :=
  if (mmc.started csd).hasExtCsd ∧ 2048 * mib < secCount extCsd * 512 then secCount extCsd
  else if mmc.isSd ∧ mmc.highCapacity then (cSizeLarge csd + 1) * 1024
  else byteCapacity csd / 512

/-- The three bytes of the multiplier of a general purpose partition -/
def gpMult (extCsd : Buffer) (index : Fin 4) : Nat :=
  Memory.word extCsd (extCsdGpSizeMult + index.val * 3) 3

/-- The partitions of a device that has EXT_CSD -/
structure PartitionsRight (left : StartMmc) (extCsd : Buffer) : Prop where
  boot : left.capacityBoot.toNat = (extCsd extCsdBootMult).toNat * (128 * 1024)
  rpmb : left.capacityRpmb.toNat = (extCsd extCsdRpmbMult).toNat * (128 * 1024)
  gp : ∀ index, (left.capacityGp index).toNat =
    gpMult extCsd index * (extCsd extCsdHcEraseGrpSize).toNat *
      (extCsd extCsdHcWpGrpSize).toNat * (512 * 1024)

/-- The capacities are those specified, and the number of blocks has kept all bits. -/
structure CapacityRight (mmc left : StartMmc) (csd : Vector U32 4) (extCsd : Buffer) : Prop where
  blocks : left.blockDev.lba.toNat = specifiedBlocks mmc csd extCsd
  kept : left.blockDev.lba.toNat = left.capacity.toNat / 512
  partitions : (mmc.started csd).hasExtCsd → PartitionsRight left extCsd

/-! ### When they are right -/

/-- The command that reads EXT_CSD was answered. -/
def ExtCsdAnswered (trace : List StartExchange) : Prop :=
  ∃ reply, firstReply mmcCmdSendExtCsd trace = some reply ∧ reply.error = 0

/-- The number of blocks comes out right. Where SEC_COUNT gives it, SEC_COUNT has to be looked at,
which it is from 2049 MiB on; where C_SIZE of the second structure does, its blocks have to be
of 512 bytes. Otherwise the registers have to say the same by the formula that is used. -/
def BlocksDecoded (mmc : StartMmc) (csd : Vector U32 4) (extCsd : Buffer) (answered : Prop) :
    Prop :=
  if (mmc.started csd).hasExtCsd ∧ 2048 * mib < secCount extCsd * 512 then
    (answered ∧ 2 ≤ extCsd extCsdRev ∧ 2049 * mib ≤ secCount extCsd * 512) ∨
      csdBytes csd mmc.highCapacity / 512 = secCount extCsd
  else if mmc.isSd ∧ mmc.highCapacity then readBlLenField csd = 9 ∧ cSizeLarge csd + 1 < 2 ^ 22
  else mmc.highCapacity → largeCapacity csd / 512 = byteCapacity csd / 512

/-- The partitions come out right: the RPMB partition is not left out, and the general purpose
partitions, whose unit of 512 KiB is missing, are of no size. -/
structure PartitionsDecoded (extCsd : Buffer) : Prop where
  rpmb : extCsd extCsdPartitioningSupport &&& partSupport ≠ 0 ∨ extCsd extCsdBootMult ≠ 0 ∨
    extCsd extCsdRpmbMult = 0
  gp : ∀ index, gpMult extCsd index * (extCsd extCsdHcEraseGrpSize).toNat *
    (extCsd extCsdHcWpGrpSize).toNat = 0

/-! ### The number of blocks -/

section Blocks

variable (mmc : StartMmc) (csd : Vector U32 4) (extCsd : Buffer)

theorem toNat_lba (capacity : Ulong) :
    ((capacity >>> 9).setWidth 32 : U32).toNat = capacity.toNat / 512 % 2 ^ 32 := by
  rw [BitVec.toNat_setWidth, BitVec.toNat_ushiftRight, Nat.shiftRight_eq_div_pow]

/-- The number of blocks is right and has kept its bits if the capacity is right and the number
has room. -/
theorem lba_right_iff {capacity : Ulong} {specified : Nat} :
    ((capacity >>> 9).setWidth 32 : U32).toNat = specified ∧
        ((capacity >>> 9).setWidth 32 : U32).toNat = capacity.toNat / 512 ↔
      capacity.toNat / 512 = specified ∧ specified < 2 ^ 32 := by
  rw [toNat_lba]
  constructor
  · rintro ⟨right, kept⟩
    rw [kept] at right
    exact ⟨right, right ▸ kept ▸ Nat.mod_lt _ (by decide)⟩
  · rintro ⟨rfl, room⟩
    exact ⟨Nat.mod_eq_of_lt room, Nat.mod_eq_of_lt room⟩

theorem secCapacity_toNat :
    ((secCnt extCsd).setWidth 64 * mmcMaxBlockLen.setWidth 64 : Ulong).toNat =
      secCount extCsd * 512 := by
  have bound : (secCnt extCsd).toNat < 2 ^ 32 := (secCnt extCsd).isLt
  rw [BitVec.toNat_mul, BitVec.toNat_setWidth_of_le (by decide), secCnt_toNat,
    show (mmcMaxBlockLen.setWidth 64 : Ulong).toNat = 512 by decide, Nat.mod_eq_of_lt]
  rw [secCnt_toNat] at bound
  omega

/-- The test of the code is one for 2049 MiB. -/
theorem secCapacity_large_iff :
    ((secCnt extCsd).setWidth 64 * mmcMaxBlockLen.setWidth 64 : Ulong) >>> 20 > 2 * 1024 ↔
      2049 * mib ≤ secCount extCsd * 512 := by
  show (2 * 1024 : Ulong).toNat < _ ↔ _
  rw [BitVec.toNat_ushiftRight, secCapacity_toNat, Nat.shiftRight_eq_div_pow,
    show (2 * 1024 : Ulong).toNat = 2048 by decide]
  unfold mib
  omega

theorem takeSecCnt_capacityUser (err : Int) :
    (mmc.takeSecCnt err extCsd).capacityUser.toNat =
      if err = 0 ∧ 2 ≤ extCsd extCsdRev ∧ 2049 * mib ≤ secCount extCsd * 512 then
        secCount extCsd * 512
      else mmc.capacityUser.toNat := by
  unfold StartMmc.takeSecCnt
  simp only [secCapacity_large_iff, ge_iff_le]
  split
  · exact secCapacity_toNat extCsd
  · rfl

theorem largeCapacity_eq_iff : largeCapacity csd / 512 = (cSizeLarge csd + 1) * 1024 ↔
    readBlLenField csd = 9 := by
  have blocks : largeCapacity csd = (cSizeLarge csd + 1) * (2 * 2 ^ readBlLenField csd) * 512 := by
    unfold largeCapacity
    ring
  have nine : 1024 = 2 * 2 ^ 9 := by decide
  rw [blocks, Nat.mul_div_cancel _ (by decide), nine,
    Nat.mul_right_inj (Nat.succ_ne_zero _), Nat.mul_right_inj (by decide)]
  exact Nat.pow_right_inj (by decide)

theorem byteCapacity_lt : byteCapacity csd / 512 < 2 ^ 32 := by
  have sized : cSize csd < 2 ^ 12 := Nat.mod_lt _ (by decide)
  have mult : cSizeMult csd < 2 ^ 3 := Nat.mod_lt _ (by decide)
  have length : readBlLenField csd < 2 ^ 4 := Nat.mod_lt _ (by decide)
  have bound : byteCapacity csd ≤ 2 ^ 12 * 2 ^ 9 * 2 ^ 15 :=
    Nat.mul_le_mul (Nat.mul_le_mul sized
      (Nat.pow_le_pow_right (by decide) (Nat.add_le_add_right (Nat.le_of_lt_succ mult) 2)))
      (Nat.pow_le_pow_right (by decide) (Nat.le_of_lt_succ length))
  exact Nat.lt_of_le_of_lt (Nat.div_le_div_right bound) (by decide)

/-- `capacity_user` behind EXT_CSD, in bytes -/
def userBytes (answered : Prop) [Decidable answered] : Nat :=
  if (mmc.started csd).hasExtCsd ∧ answered ∧ 2 ≤ extCsd extCsdRev ∧
      2049 * mib ≤ secCount extCsd * 512 then secCount extCsd * 512
  else csdBytes csd mmc.highCapacity

/-- The number of blocks is decoded if the bytes are those specified and their number has room. -/
theorem blocksDecoded_iff (answered : Prop) [Decidable answered] :
    BlocksDecoded mmc csd extCsd answered ↔
      userBytes mmc csd extCsd answered / 512 = specifiedBlocks mmc csd extCsd ∧
        specifiedBlocks mmc csd extCsd < 2 ^ 32 := by
  unfold BlocksDecoded specifiedBlocks userBytes
  by_cases large : (mmc.started csd).hasExtCsd ∧ 2048 * mib < secCount extCsd * 512
  · have room : secCount extCsd < 2 ^ 32 := secCnt_toNat extCsd ▸ (secCnt extCsd).isLt
    rw [if_pos large, if_pos large, and_iff_left room]
    by_cases taken : answered ∧ 2 ≤ extCsd extCsdRev ∧ 2049 * mib ≤ secCount extCsd * 512
    · rw [if_pos ⟨large.1, taken⟩]
      exact iff_of_true (Or.inl taken) (Nat.mul_div_cancel _ (by decide))
    · rw [if_neg fun given => taken given.2, or_iff_right taken]
  · have notTaken : ¬((mmc.started csd).hasExtCsd ∧ answered ∧ 2 ≤ extCsd extCsdRev ∧
        2049 * mib ≤ secCount extCsd * 512) := by
      rintro ⟨has, -, -, enough⟩
      refine large ⟨has, Nat.lt_of_lt_of_le ?_ enough⟩
      unfold mib
      decide
    rw [if_neg large, if_neg large, if_neg notTaken]
    by_cases sdLarge : mmc.isSd ∧ mmc.highCapacity
    · rw [if_pos sdLarge, if_pos sdLarge, sdLarge.2]
      have bytes : csdBytes csd true = largeCapacity csd := if_pos rfl
      rw [bytes, largeCapacity_eq_iff]
      omega
    · rw [if_neg sdLarge, if_neg sdLarge, and_iff_left (byteCapacity_lt csd)]
      cases mmc.highCapacity with
      | true =>
        have bytes : csdBytes csd true = largeCapacity csd := if_pos rfl
        rw [bytes, imp_iff_right rfl]
      | false =>
        have bytes : csdBytes csd false = byteCapacity csd := if_neg Bool.false_ne_true
        rw [bytes]
        exact iff_of_true (fun given => absurd given Bool.false_ne_true) rfl

end Blocks

/-! ### The partitions -/

section Partitions

variable (mmc : StartMmc) (extCsd : Buffer)

theorem multCapacity_toNat (mult : U8) : (multCapacity mult).toNat = mult.toNat * (128 * 1024) := by
  have bound := mult.isLt
  unfold multCapacity
  bv_omega

theorem gpMult_bytes (index : Fin 4) :
    ((extCsd (extCsdGpSizeMult + index.val * 3 + 2)).setWidth 64 <<< 16 +
        (extCsd (extCsdGpSizeMult + index.val * 3 + 1)).setWidth 64 <<< 8 +
        (extCsd (extCsdGpSizeMult + index.val * 3)).setWidth 64 : Ulong).toNat =
      gpMult extCsd index := by
  have word : gpMult extCsd index = (extCsd (extCsdGpSizeMult + index.val * 3)).toNat +
      256 * ((extCsd (extCsdGpSizeMult + index.val * 3 + 1)).toNat +
        256 * ((extCsd (extCsdGpSizeMult + index.val * 3 + 2)).toNat + 256 * 0)) := rfl
  rw [word]
  generalize extCsd (extCsdGpSizeMult + index.val * 3) = low
  generalize extCsd (extCsdGpSizeMult + index.val * 3 + 1) = middle
  generalize extCsd (extCsdGpSizeMult + index.val * 3 + 2) = high
  have lowBound := low.isLt
  have middleBound := middle.isLt
  have highBound := high.isLt
  simp only [BitVec.toNat_add, BitVec.toNat_shiftLeft, BitVec.toNat_setWidth, Nat.shiftLeft_eq]
  omega

theorem gpCapacity_toNat (index : Fin 4) :
    (gpCapacity extCsd index).toNat =
      gpMult extCsd index * (extCsd extCsdHcEraseGrpSize).toNat *
        (extCsd extCsdHcWpGrpSize).toNat := by
  have mult : gpMult extCsd index < 256 ^ 3 := Memory.word_lt _ _ _
  have erase := (extCsd extCsdHcEraseGrpSize).isLt
  have protect := (extCsd extCsdHcWpGrpSize).isLt
  have first : gpMult extCsd index * (extCsd extCsdHcEraseGrpSize).toNat ≤ 256 ^ 3 * 2 ^ 8 :=
    Nat.mul_le_mul (Nat.le_of_lt mult) (Nat.le_of_lt erase)
  have second : gpMult extCsd index * (extCsd extCsdHcEraseGrpSize).toNat *
      (extCsd extCsdHcWpGrpSize).toNat ≤ 256 ^ 3 * 2 ^ 8 * 2 ^ 8 :=
    Nat.mul_le_mul first (Nat.le_of_lt protect)
  unfold gpCapacity
  dsimp only
  rw [BitVec.toNat_mul, BitVec.toNat_mul, gpMult_bytes, BitVec.toNat_setWidth_of_le (by decide),
    BitVec.toNat_setWidth_of_le (by decide), Nat.mod_eq_of_lt (Nat.lt_of_le_of_lt first ?_),
    Nat.mod_eq_of_lt (Nat.lt_of_le_of_lt second ?_)]
  · decide
  · decide

/-- The capacities of the partitions -/
def Layout.partitions (layout : Layout) : Ulong × Ulong × (Fin 4 → Ulong) :=
  (layout.capacityBoot, layout.capacityRpmb, layout.capacityGp)

/-- They are decoded if EXT_CSD tells of any. -/
def decodedPartitions (extCsd : Buffer) (before : Ulong × Ulong × (Fin 4 → Ulong)) :
    Ulong × Ulong × (Fin 4 → Ulong) :=
  if extCsd extCsdPartitioningSupport &&& partSupport ≠ 0 ∨ extCsd extCsdBootMult ≠ 0 then
    (multCapacity (extCsd extCsdBootMult), multCapacity (extCsd extCsdRpmbMult), gpCapacity extCsd)
  else before

theorem takePartitions_capacities : (mmc.takePartitions extCsd).layout.partitions =
    decodedPartitions extCsd mmc.layout.partitions := by
  unfold StartMmc.takePartitions decodedPartitions
  split
  · rfl
  · rfl

/-- The partitions are right where they are decoded, if they were of no size before. -/
theorem partitionsRight_iff {left : StartMmc}
    (taken : left.layout.partitions = decodedPartitions extCsd (0, 0, fun _ => 0)) :
    PartitionsRight left extCsd ↔ PartitionsDecoded extCsd := by
  unfold decodedPartitions at taken
  split at taken
  · rename_i present
    have boot : left.capacityBoot = multCapacity (extCsd extCsdBootMult) :=
      congrArg Prod.fst taken
    have rpmb : left.capacityRpmb = multCapacity (extCsd extCsdRpmbMult) :=
      congrArg (fun capacities => capacities.2.1) taken
    have gp : left.capacityGp = gpCapacity extCsd :=
      congrArg (fun capacities => capacities.2.2) taken
    constructor
    · intro right
      refine ⟨present.imp_right Or.inl, fun index => ?_⟩
      have same := right.gp index
      rw [gp, gpCapacity_toNat] at same
      omega
    · intro decoded
      refine ⟨boot ▸ multCapacity_toNat _, rpmb ▸ multCapacity_toNat _, fun index => ?_⟩
      rw [gp, gpCapacity_toNat, decoded.gp index]
  · rename_i absent
    obtain ⟨support, bootMult⟩ := not_or.mp absent
    have boot : left.capacityBoot = 0 := congrArg Prod.fst taken
    have rpmb : left.capacityRpmb = 0 := congrArg (fun capacities => capacities.2.1) taken
    have gp : left.capacityGp = fun _ => 0 := congrArg (fun capacities => capacities.2.2) taken
    constructor
    · intro right
      refine ⟨Or.inr (Or.inr ?_), fun index => ?_⟩
      · have same := right.rpmb
        rw [rpmb] at same
        change 0 = _ at same
        refine BitVec.eq_of_toNat_eq ?_
        show (extCsd extCsdRpmbMult).toNat = 0
        omega
      · have same := right.gp index
        rw [gp] at same
        change 0 = _ at same
        omega
    · intro decoded
      refine ⟨?_, ?_, fun index => ?_⟩
      · rw [boot, not_not.mp bootMult]
        rfl
      · have none := (decoded.rpmb.resolve_left support).resolve_left bootMult
        rw [rpmb, none]
        rfl
      · rw [gp, decoded.gp index]
        rfl

end Partitions

/-! ### The capacities behind the start-up -/

section Behind

variable (mmc : StartMmc) (err : Int) (extCsd : Buffer)

theorem takePartitions_partNum_capacityUser :
    ((mmc.takePartitions extCsd).partNum, (mmc.takePartitions extCsd).capacityUser) =
      (mmc.partNum, mmc.capacityUser) := by
  unfold StartMmc.takePartitions
  split
  · rfl
  · rfl

/-- The size of the erase groups changes no number of a partition and no capacity. -/
theorem takePartitionedSize_capacities :
    ∃ size, mmc.takePartitionedSize extCsd = { mmc with eraseGrpSize := size } := by
  unfold StartMmc.takePartitionedSize
  split
  · exact ⟨_, rfl⟩
  · exact ⟨mmc.eraseGrpSize, rfl⟩

theorem takeSecCnt_capacities :
    ∃ capacity, mmc.takeSecCnt err extCsd = { mmc with capacityUser := capacity } := by
  unfold StartMmc.takeSecCnt
  dsimp only
  split
  · exact ⟨_, rfl⟩
  · exact ⟨mmc.capacityUser, rfl⟩

theorem withExtCsd_partNum_capacityUser :
    ((mmc.withExtCsd err extCsd).partNum, (mmc.withExtCsd err extCsd).capacityUser) =
      (mmc.partNum, (mmc.takeSecCnt err extCsd).capacityUser) := by
  let sized := (mmc.takeSecCnt err extCsd).takeEraseGrpSize extCsd
  obtain ⟨size, group⟩ := takePartitionedSize_capacities sized extCsd
  obtain ⟨capacity, sectors⟩ := takeSecCnt_capacities mmc err extCsd
  have taken : ((mmc.withExtCsd err extCsd).partNum, (mmc.withExtCsd err extCsd).capacityUser) =
      ((sized.takePartitionedSize extCsd).partNum,
        (sized.takePartitionedSize extCsd).capacityUser) :=
    takePartitions_partNum_capacityUser _ extCsd
  rw [taken, group]
  show ((mmc.takeSecCnt err extCsd).partNum, (mmc.takeSecCnt err extCsd).capacityUser) = _
  rw [sectors]

theorem withExtCsd_capacities (none : mmc.layout.partitions = (0, 0, fun _ => 0)) :
    (mmc.withExtCsd err extCsd).layout.partitions =
      decodedPartitions extCsd (0, 0, fun _ => 0) := by
  let sized := (mmc.takeSecCnt err extCsd).takeEraseGrpSize extCsd
  obtain ⟨size, group⟩ := takePartitionedSize_capacities sized extCsd
  obtain ⟨capacity, sectors⟩ := takeSecCnt_capacities mmc err extCsd
  have before : (sized.takePartitionedSize extCsd).layout.partitions = (0, 0, fun _ => 0) := by
    rw [group, ← none]
    show (mmc.takeSecCnt err extCsd).layout.partitions = _
    rw [sectors]
    rfl
  rw [← before]
  exact takePartitions_capacities _ extCsd

end Behind

section Started

variable {stack : StartStack} {mmc left transfer described : StartMmc}
  {trace : List StartExchange} {csd : Vector U32 4}

/-- The user area is selected, and its blocks are counted. -/
theorem Started.capacities (started : Started stack mmc left trace csd transfer described)
    (user : mmc.partNum = 0) :
    left.capacity = described.capacityUser ∧ left.capacityBoot = described.capacityBoot ∧
      left.capacityRpmb = described.capacityRpmb ∧ left.capacityGp = described.capacityGp := by
  have first : transfer.partNum = 0 := (congrArg Layout.partNum started.decoded).trans user
  have number : described.partNum = 0 := by
    have extCsd := started.extCsd
    split at extCsd
    · obtain ⟨reply, -, decoded⟩ := extCsd
      have kept := congrArg Prod.fst
        (withExtCsd_partNum_capacityUser transfer reply.error (heldExtCsd stack reply))
      exact (congrArg Layout.partNum decoded).trans (kept.trans first)
    · rw [extCsd]
      exact first
  have settled := started.settled
  rw [number] at settled
  exact ⟨congrArg Layout.capacity settled, congrArg Layout.capacityBoot settled,
    congrArg Layout.capacityRpmb settled, congrArg Layout.capacityGp settled⟩

theorem Started.extCsd_held {extCsd : Buffer}
    (started : Started stack mmc left trace csd transfer described)
    (has : (mmc.started csd).hasExtCsd) (held : extCsdRead stack trace = some extCsd) :
    ∃ reply, firstReply mmcCmdSendExtCsd trace = some reply ∧
      described.layout = (transfer.withExtCsd reply.error extCsd).layout := by
  have decided := started.extCsd
  rw [if_pos has] at decided
  obtain ⟨reply, first, decoded⟩ := decided
  unfold extCsdRead at held
  rw [first] at held
  obtain rfl := Option.some.inj held
  exact ⟨reply, first, decoded⟩

theorem Started.userBytes_eq {extCsd : Buffer} [Decidable (ExtCsdAnswered trace)]
    (started : Started stack mmc left trace csd transfer described)
    (held : (mmc.started csd).hasExtCsd → extCsdRead stack trace = some extCsd) :
    described.capacityUser.toNat = userBytes mmc csd extCsd (ExtCsdAnswered trace) := by
  have decoded : transfer.capacityUser.toNat = csdBytes csd mmc.highCapacity := by
    rw [← csdCapacity_toNat]
    exact congrArg BitVec.toNat (congrArg Layout.capacityUser started.decoded)
  unfold userBytes
  by_cases has : (mmc.started csd).hasExtCsd
  · obtain ⟨reply, first, layout⟩ := started.extCsd_held has (held has)
    have answered : ExtCsdAnswered trace ↔ reply.error = 0 := by
      refine ⟨fun ⟨other, also, fine⟩ => ?_, fun fine => ⟨reply, first, fine⟩⟩
      obtain rfl := Option.some.inj (first.symm.trans also)
      exact fine
    have user : described.capacityUser = (transfer.takeSecCnt reply.error extCsd).capacityUser :=
      (congrArg Layout.capacityUser layout).trans
        (congrArg Prod.snd (withExtCsd_partNum_capacityUser transfer reply.error extCsd))
    rw [user, takeSecCnt_capacityUser, decoded]
    simp only [has, answered, true_and]
  · have same := started.extCsd
    rw [if_neg has] at same
    rw [same, decoded, if_neg fun given => has given.1]

end Started

/-- The capacities behind a successful start-up are right exactly if they are decoded. -/
theorem mmcStartup_capacity_iff (stack : StartStack) (mmc : StartMmc) {left : StartMmc}
    {trace : List StartExchange} (run : Program.Run (mmcStartup stack mmc) trace (0, left))
    (user : mmc.partNum = 0) {csd : Vector U32 4} {extCsd : Buffer}
    (read : csdRead trace = some csd)
    (held : (mmc.started csd).hasExtCsd → extCsdRead stack trace = some extCsd) :
    CapacityRight mmc left csd extCsd ↔
      BlocksDecoded mmc csd extCsd (ExtCsdAnswered trace) ∧
        ((mmc.started csd).hasExtCsd → PartitionsDecoded extCsd) := by
  classical
  obtain ⟨other, transfer, described, started⟩ := run_mmcStartup run
  obtain rfl := Option.some.inj (started.read.symm.trans read)
  obtain ⟨capacity, boot, rpmb, gp⟩ := started.capacities user
  have partitions : (mmc.started other).hasExtCsd →
      (PartitionsRight left extCsd ↔ PartitionsDecoded extCsd) := by
    intro has
    obtain ⟨reply, -, layout⟩ := started.extCsd_held has (held has)
    refine partitionsRight_iff extCsd ?_
    have kept : left.layout.partitions = described.layout.partitions := by
      show (left.capacityBoot, left.capacityRpmb, left.capacityGp) = _
      rw [boot, rpmb, gp]
      rfl
    rw [kept, layout]
    exact withExtCsd_capacities transfer reply.error extCsd
      (congrArg Layout.partitions started.decoded)
  rw [blocksDecoded_iff, ← started.userBytes_eq held, ← capacity, ← lba_right_iff, ← started.lba]
  constructor
  · intro right
    exact ⟨⟨right.blocks, right.kept⟩, fun has => (partitions has).mp (right.partitions has)⟩
  · rintro ⟨⟨blocks, kept⟩, decoded⟩
    exact ⟨blocks, kept, fun has => (partitions has).mpr (decoded has)⟩

/-! ### A device of a number of sectors -/

/-- EXT_CSD of a device without further partitions, with two bytes of SEC_COUNT -/
def sectorsExtCsd (lowest high : U8) : Buffer
  | 192 => 8
  | 212 => lowest
  | 214 => high
  | _ => 0

/-- The start-up of the device, with its trace and its result -/
def startSectors (lowest high : U8) : List StartExchange × (Int × StartMmc) :=
  ((mmcStartup .zero (.answered true)).trace
      (serveRegisters emmcCsd (sectorsExtCsd lowest high)) (),
    ((mmcStartup .zero (.answered true)).exec
      (serveRegisters emmcCsd (sectorsExtCsd lowest high)) ()).1)

theorem startSectors_run {lowest high : U8} (succeeds : (startSectors lowest high).2.1 = 0) :
    Program.Run (mmcStartup .zero (.answered true)) (startSectors lowest high).1
      (0, (startSectors lowest high).2.2) :=
  Program.run_exec_fst _ succeeds

/-- The buffer holds EXT_CSD of the card behind a start-up that has asked for it. -/
theorem extCsdRead_registers {Result : Type} (stack : StartStack) {csd : Vector U32 4}
    {extCsd : Buffer} {program : StartDriver Result}
    (asked : (firstReply mmcCmdSendExtCsd
      (program.trace (serveRegisters csd extCsd) ())).isSome) :
    extCsdRead stack (program.trace (serveRegisters csd extCsd) ()) = some extCsd := by
  obtain ⟨reply, first⟩ := Option.isSome_iff_exists.mp asked
  obtain ⟨⟨request, served⟩, member, found⟩ := List.exists_of_findSome?_eq_some first
  obtain ⟨_, given⟩ := Program.exists_served_of_mem_trace _ member
  unfold extCsdRead
  rw [first]
  cases request with
  | sendCmd cmd data =>
    obtain ⟨-, same⟩ := Option.ite_none_right_eq_some.mp found
    obtain rfl := (Option.some.inj same).symm.trans given
    rfl
  | _ => exact absurd found.symm (Option.some_ne_none _)

/-- A device of 4 GiB -/
theorem mmcStartup_capacity_iff_fourGib :
    CapacityRight (.answered true) (startSectors 0 0x80).2.2 emmcCsd (sectorsExtCsd 0 0x80) ↔
      BlocksDecoded (.answered true) emmcCsd (sectorsExtCsd 0 0x80)
          (ExtCsdAnswered (startSectors 0 0x80).1) ∧
        ((StartMmc.started (.answered true) emmcCsd).hasExtCsd →
          PartitionsDecoded (sectorsExtCsd 0 0x80)) :=
  mmcStartup_capacity_iff .zero (.answered true) (startSectors_run (by decide +kernel)) rfl
    (by decide +kernel) fun _ =>
      extCsdRead_registers _ (by decide +kernel)

/-- Not every successful start-up gets the capacities right: a device of 2 GiB and one block gets
those of CSD. -/
theorem mmcStartup_misses_capacity :
    ¬∀ (stack : StartStack) (mmc left : StartMmc) (trace : List StartExchange)
      (csd : Vector U32 4) (extCsd : Buffer),
      Program.Run (mmcStartup stack mmc) trace (0, left) → mmc.partNum = 0 →
        csdRead trace = some csd →
          ((mmc.started csd).hasExtCsd → extCsdRead stack trace = some extCsd) →
            CapacityRight mmc left csd extCsd := by
  intro all
  have right : CapacityRight (.answered true) (startSectors 1 0x40).2.2 emmcCsd
      (sectorsExtCsd 1 0x40) :=
    all _ _ _ _ _ _ (startSectors_run (by decide +kernel)) rfl (by decide +kernel) fun _ =>
      extCsdRead_registers _ (by decide +kernel)
  exact absurd right.blocks (by decide +kernel)

end PinePhonePkg
