/-
This file settles when the size of an erase group is zero behind the start-up.
Every later erase divides by it. The size that follows from CSD is never zero,
and the one from EXT_CSD is tested before it is taken, but for a partitioned
device, where it is taken as it is.
-/

import PinePhonePkg.Library.Bits
import PinePhonePkg.Start.Runs

namespace PinePhonePkg

open Library

/-! ### The two sizes -/

theorem atMostMaxBlockLen_bounds {length : U32} (positive : 0 < length) :
    0 < atMostMaxBlockLen length ∧ atMostMaxBlockLen length ≤ mmcMaxBlockLen := by
  unfold atMostMaxBlockLen
  split
  · exact ⟨by decide, BitVec.le_refl _⟩
  · rename_i small
    exact ⟨positive, BitVec.not_lt.mp small⟩

theorem one_shiftLeft_pos {count : Nat} (small : count < 32) : 0 < (1 : U32) <<< count := by
  rw [BitVec.lt_def, BitVec.toNat_shiftLeft, Nat.mod_eq_of_lt]
  · exact Nat.shiftLeft_eq _ _ ▸ Nat.mul_pos Nat.one_pos (Nat.two_pow_pos _)
  · rw [Nat.shiftLeft_eq]
    exact (Nat.one_mul _).symm ▸ Nat.pow_lt_pow_right (by decide) small

theorem started_writeBlLen (mmc : StartMmc) (csd : Vector U32 4) :
    0 < (mmc.started csd).writeBlLen ∧ (mmc.started csd).writeBlLen ≤ mmcMaxBlockLen := by
  have shift (word : U32) : 0 < (1 : U32) <<< (word &&& 0xf).toNat :=
    one_shiftLeft_pos (Nat.lt_of_le_of_lt (toNat_and_le word) (by decide))
  have either (sd : Bool) : 0 < if sd then csdReadBlLen csd else csdWriteBlLen csd := by
    cases sd with
    | true | false => exact shift _
  exact atMostMaxBlockLen_bounds (either _)

/-- The size from EXT_CSD is zero only if its byte is. -/
theorem hcEraseGprSize_ne_zero_iff {mmc : StartMmc} (extCsd : Buffer)
    (positive : 0 < mmc.writeBlLen) (small : mmc.writeBlLen ≤ mmcMaxBlockLen) :
    mmc.hcEraseGprSize extCsd ≠ 0 ↔ extCsd extCsdHcEraseGrpSize ≠ 0 := by
  have value : (mmc.hcEraseGprSize extCsd).toNat =
      (extCsd extCsdHcEraseGrpSize).toNat * 524288 / mmc.writeBlLen.toNat := by
    have byte := (extCsd extCsdHcEraseGrpSize).isLt
    unfold StartMmc.hcEraseGprSize mmcMaxBlockLen
    rw [BitVec.toNat_udiv]
    congr 1
    bv_omega
  have bound : mmc.writeBlLen.toNat ≤ 512 := small
  have nonzero : 0 < mmc.writeBlLen.toNat := positive
  rw [not_iff_not, BitVec.toNat_eq, BitVec.toNat_eq, value]
  constructor
  · intro zero
    rcases Nat.div_eq_zero_iff.mp zero with none | less
    · exact absurd none (Nat.ne_of_gt nonzero)
    · show (extCsd extCsdHcEraseGrpSize).toNat = 0
      omega
  · intro zero
    rw [zero]
    exact Nat.zero_mul _ ▸ Nat.zero_div _

/-- The size from CSD is the product of two numbers that are small and not zero. -/
theorem defEraseGrpSize_ne_zero (mmc : StartMmc) : mmc.defEraseGrpSize ≠ 0 := by
  have size : ((mmc.csd[2] &&& 0x00007c00) >>> 10).toNat ≤ 31 := toNat_and_shiftRight_le _
  have mult : ((mmc.csd[2] &&& 0x000003e0) >>> 5).toNat ≤ 31 := toNat_and_shiftRight_le _
  have value : mmc.defEraseGrpSize.toNat =
      (((mmc.csd[2] &&& 0x00007c00) >>> 10).toNat + 1) *
        (((mmc.csd[2] &&& 0x000003e0) >>> 5).toNat + 1) := by
    unfold StartMmc.defEraseGrpSize
    rw [BitVec.toNat_mul, BitVec.toNat_add_of_lt, BitVec.toNat_add_of_lt, Nat.mod_eq_of_lt]
    · rfl
    · have bound := Nat.mul_le_mul (Nat.succ_le_succ size) (Nat.succ_le_succ mult)
      exact Nat.lt_of_le_of_lt bound (by decide)
    · exact Nat.lt_of_le_of_lt (Nat.succ_le_succ mult) (by decide)
    · exact Nat.lt_of_le_of_lt (Nat.succ_le_succ size) (by decide)
  intro zero
  rw [zero] at value
  exact absurd value.symm (Nat.mul_ne_zero (Nat.succ_ne_zero _) (Nat.succ_ne_zero _))

/-! ### The size behind the start-up -/

section Sizes

variable (mmc : StartMmc) (err : Int) (extCsd : Buffer)

theorem takeSecCnt_writeBlLen : (mmc.takeSecCnt err extCsd).writeBlLen = mmc.writeBlLen := by
  unfold StartMmc.takeSecCnt
  dsimp only
  split
  · rfl
  · rfl

theorem takePartitions_eraseGrpSize :
    (mmc.takePartitions extCsd).eraseGrpSize = mmc.eraseGrpSize := by
  unfold StartMmc.takePartitions
  split
  · rfl
  · rfl

theorem mmcSetCapacity_eraseGrpSize (partNum : U8) :
    (mmcSetCapacity mmc partNum).2.eraseGrpSize = mmc.eraseGrpSize := by
  unfold mmcSetCapacity
  cases mmc.partCapacity partNum with
  | none | some => rfl

/-- The size that is taken without a partitioned device is not zero: that from EXT_CSD is taken
only if it is not, and that from CSD never is. -/
theorem takeEraseGrpSize_ne_zero : (mmc.takeEraseGrpSize extCsd).eraseGrpSize ≠ 0 := by
  unfold StartMmc.takeEraseGrpSize
  dsimp only
  split
  · rename_i tested
    exact tested.2.1
  · exact defEraseGrpSize_ne_zero mmc

theorem withExtCsd_eraseGrpSize_ne_zero_iff (positive : 0 < mmc.writeBlLen)
    (small : mmc.writeBlLen ≤ mmcMaxBlockLen) :
    (mmc.withExtCsd err extCsd).eraseGrpSize ≠ 0 ↔
      (isPartitioned extCsd → extCsd extCsdHcEraseGrpSize ≠ 0) := by
  let sized := (mmc.takeSecCnt err extCsd).takeEraseGrpSize extCsd
  have block : sized.writeBlLen = mmc.writeBlLen := takeSecCnt_writeBlLen mmc err extCsd
  have kept : (mmc.withExtCsd err extCsd).eraseGrpSize =
      (sized.takePartitionedSize extCsd).eraseGrpSize := takePartitions_eraseGrpSize _ _
  rw [kept]
  unfold StartMmc.takePartitionedSize
  by_cases partitioned : isPartitioned extCsd
  · rw [if_pos partitioned, imp_iff_right partitioned]
    exact hcEraseGprSize_ne_zero_iff extCsd (block ▸ positive) (block ▸ small)
  · rw [if_neg partitioned]
    exact iff_of_true (takeEraseGrpSize_ne_zero _ extCsd) fun given => absurd given partitioned

end Sizes

/-- Behind a successful start-up the size of an erase group is not zero, but for a partitioned
device whose EXT_CSD gives none. -/
theorem mmcStartup_eraseGrpSize_iff (stack : StartStack) (mmc : StartMmc) {left : StartMmc}
    {trace : List StartExchange} (run : Program.Run (mmcStartup stack mmc) trace (0, left)) :
    left.eraseGrpSize ≠ 0 ↔
      ∀ csd extCsd, csdRead trace = some csd → (mmc.started csd).hasExtCsd →
        extCsdRead stack trace = some extCsd → isPartitioned extCsd →
          extCsd extCsdHcEraseGrpSize ≠ 0 := by
  obtain ⟨csd, transfer, described, started⟩ := run_mmcStartup run
  have size : left.eraseGrpSize = described.eraseGrpSize :=
    (congrArg Layout.eraseGrpSize started.settled).trans (mmcSetCapacity_eraseGrpSize _ _)
  have block : transfer.writeBlLen = (mmc.started csd).writeBlLen :=
    congrArg Layout.writeBlLen started.decoded
  obtain ⟨positive, small⟩ := started_writeBlLen mmc csd
  rw [size]
  have extCsd := started.extCsd
  split at extCsd
  · rename_i has
    obtain ⟨reply, first, decoded⟩ := extCsd
    have held : extCsdRead stack trace = some (heldExtCsd stack reply) := by
      unfold extCsdRead
      rw [first]
      rfl
    rw [show described.eraseGrpSize = _ from congrArg Layout.eraseGrpSize decoded]
    refine (withExtCsd_eraseGrpSize_ne_zero_iff transfer reply.error _ (block ▸ positive)
      (block ▸ small)).trans ⟨fun sized other extCsd _ _ read => ?_, fun all => ?_⟩
    · obtain rfl := Option.some.inj (held.symm.trans read)
      exact sized
    · exact all csd _ started.read has held
  · rename_i hasNot
    refine iff_of_true ?_ fun other extCsd read has => ?_
    · rw [extCsd, show transfer.eraseGrpSize = 1 from congrArg Layout.eraseGrpSize started.decoded]
      decide
    · obtain rfl := Option.some.inj (started.read.symm.trans read)
      exact absurd has hasNot

/-! ### A partitioned device -/

/-- CSD of an eMMC with blocks of 512 bytes -/
def emmcCsd : Vector U32 4 := #v[0x10000000, 0x000903ff, 0xc0038000, 0x02400000]

/-- EXT_CSD of a partitioned device whose erase groups have this many units of 512 KiB -/
def partitionedExtCsd (size : U8) : Buffer
  | 156 => 1
  | 160 => 1
  | 185 => 1
  | 192 => 8
  | 224 => size
  | _ => 0

/-- The start-up of the device, with its trace and its result -/
def startPartitioned (size : U8) : List StartExchange × (Int × StartMmc) :=
  ((mmcStartup .zero (.answered true)).trace (serveRegisters emmcCsd (partitionedExtCsd size)) (),
    ((mmcStartup .zero (.answered true)).exec (serveRegisters emmcCsd (partitionedExtCsd size))
      ()).1)

theorem startPartitioned_run {size : U8} (succeeds : (startPartitioned size).2.1 = 0) :
    Program.Run (mmcStartup .zero (.answered true)) (startPartitioned size).1
      (0, (startPartitioned size).2.2) :=
  Program.run_exec_fst _ succeeds

theorem mmcStartup_eraseGrpSize_iff_oneUnit :
    (startPartitioned 1).2.2.eraseGrpSize ≠ 0 ↔
      ∀ csd extCsd, csdRead (startPartitioned 1).1 = some csd →
        (StartMmc.started (.answered true) csd).hasExtCsd →
          extCsdRead .zero (startPartitioned 1).1 = some extCsd → isPartitioned extCsd →
            extCsd extCsdHcEraseGrpSize ≠ 0 :=
  mmcStartup_eraseGrpSize_iff .zero (.answered true) (startPartitioned_run (by decide +kernel))

/-- Not every successful start-up leaves erase groups with a size. -/
theorem mmcStartup_leaves_no_groups :
    ¬∀ (stack : StartStack) (mmc left : StartMmc) (trace : List StartExchange),
      Program.Run (mmcStartup stack mmc) trace (0, left) → left.eraseGrpSize ≠ 0 := by
  intro all
  have run := @startPartitioned_run 0 (by decide +kernel)
  exact all _ _ _ _ run (by decide +kernel)

end PinePhonePkg
