/-
This file embeds how the boot code sizes the memory: the primary core carves the
frame buffer and the area for parked cores from the top of the DRAM, and each
secondary core computes the size that is left and waits to read it. Both start
from a word in the boot header. The layout is right exactly if that word gives
room for the two areas.
-/

import PinePhonePkg.Mmc.Types
import Mathlib.Data.List.Chain

namespace PinePhonePkg

/-! ### The shared words -/

/-- `PcdSystemMemoryBase` -/
def pcdSystemMemoryBase : Ulong := 0x41000000

/-- The word of the boot header and the configuration words, which all cores share -/
@[ext]
structure SystemMemory where
  dramPara5 : U32
  systemMemorySize : Ulong
  frameBufferBase : Ulong
  frameBufferSize : Ulong
  mpParkSharedBase : Ulong
  mpParkSharedSize : Ulong

namespace SystemMemory

variable (memory : SystemMemory)

/-- The size field of the header, in MiB -/
def dramSize (dramPara5 : U32) : U32 :=
  (dramPara5 >>> 16) &&& 0xffff

/-- The size field of 2 GiB -/
def largestDram : U32 :=
  (2048 : U32) <<< 16

/-- At most 2 GiB are counted. -/
def limitDram : SystemMemory :=
  if dramSize memory.dramPara5 > 2048 then
    { memory with dramPara5 := (memory.dramPara5 &&& 0xffff) ||| largestDram }
  else memory

/-- What is put into a header that gives no size; the source joins the parts with an `&`. -/
def assumedDram : Ulong :=
  (((memory.systemMemorySize + memory.mpParkSharedSize + memory.frameBufferSize) >>> 20) <<< 16) &&&
    (memory.dramPara5 &&& 0xffff).setWidth 64

/-- Where nothing was found, the size that is assumed -/
def assumeDram : SystemMemory :=
  if dramSize memory.dramPara5 = 0 then
    { memory with dramPara5 := memory.dramPara5 ||| memory.assumedDram.setWidth 32 }
  else memory

/-- The bytes of the memory -/
def actualDramSize : Ulong :=
  (dramSize memory.dramPara5 * 1024 * 1024).setWidth 64

/-! ### The cores -/

/-- The stores of the primary core -/
def primaryStores : List (SystemMemory → SystemMemory) :=
  [fun memory => { memory with systemMemorySize := memory.actualDramSize - 0x1000000 },
    fun memory => { memory with
      frameBufferBase :=
        pcdSystemMemoryBase + memory.systemMemorySize - memory.frameBufferSize },
    fun memory => { memory with
      mpParkSharedBase := memory.frameBufferBase - memory.mpParkSharedSize },
    fun memory => { memory with
      systemMemorySize := memory.systemMemorySize - memory.frameBufferSize },
    fun memory => { memory with
      systemMemorySize := memory.systemMemorySize - memory.mpParkSharedSize }]

/-- The stores the primary core makes; without a size it leaves the configuration alone. -/
def storesMade : List (SystemMemory → SystemMemory) :=
  [limitDram, assumeDram] ++
    if memory.limitDram.assumeDram.actualDramSize ≠ 0 then primaryStores else []

/-- What the primary core leaves -/
def carved : SystemMemory :=
  memory.storesMade.foldl (fun memory store => store memory) memory

/-- What a secondary core waits for, when it finds the shared words so -/
def awaitedSize : Ulong :=
  memory.limitDram.assumeDram.actualDramSize -
    (0x1000000 + memory.frameBufferSize + memory.mpParkSharedSize)

/-- The shared words when the function returns. A secondary core returns once it reads the size
it waits for; `reads` is what it finds there in turn, and `turns` how often it has looked. -/
def armPlatformInitializeSystemMemory (isPrimaryCore : Bool) (reads : Nat → Ulong) (turns : Nat) :
    Option SystemMemory :=
  if isPrimaryCore then some memory.carved
  else if ∃ turn < turns, reads turn = memory.awaitedSize then some memory.limitDram.assumeDram
  else none

end SystemMemory

/-! ### The memory map -/

/-- How a region is cached -/
inductive MemoryAttributes where
  | device
  | ddrCached
  | ddrUncached
  | writeThrough
  deriving DecidableEq

/-- A region of the map; its virtual base is the same. -/
structure MemoryRegion where
  physicalBase : Ulong
  length : Ulong
  attributes : MemoryAttributes

/-- The table without the entry of zeros at its end -/
def SystemMemory.armPlatformGetVirtualMemoryMap (memory : SystemMemory) : List MemoryRegion :=
  [⟨0, 0x40000000, .device⟩,
    ⟨pcdSystemMemoryBase, memory.systemMemorySize, .ddrCached⟩,
    ⟨memory.mpParkSharedBase, memory.mpParkSharedSize, .ddrUncached⟩,
    ⟨memory.frameBufferBase, memory.frameBufferSize, .writeThrough⟩]

/-! ### The contract -/

namespace MemoryRegion

/-- The end of a region -/
def stop (region : MemoryRegion) : Nat :=
  region.physicalBase.toNat + region.length.toNat

/-- The regions have no address in common. -/
def Apart (region other : MemoryRegion) : Prop :=
  region.stop ≤ other.physicalBase.toNat ∨ other.stop ≤ region.physicalBase.toNat

end MemoryRegion

namespace SystemMemory

variable (memory : SystemMemory)

/-- The size of the DRAM as the header gives it, at most 2 GiB -/
def dramBytes : Nat :=
  min (dramSize memory.dramPara5).toNat 2048 * 2 ^ 20

/-- The differences the cores form, each with what it takes away -/
def differences : List (Ulong × Ulong) :=
  let dram := memory.limitDram.assumeDram.actualDramSize
  (dram, 0x1000000 + memory.frameBufferSize + memory.mpParkSharedSize) ::
    if dram ≠ 0 then
      [(dram, 0x1000000),
        (pcdSystemMemoryBase + (dram - 0x1000000), memory.frameBufferSize),
        (pcdSystemMemoryBase + (dram - 0x1000000) - memory.frameBufferSize,
          memory.mpParkSharedSize),
        (dram - 0x1000000, memory.frameBufferSize),
        (dram - 0x1000000 - memory.frameBufferSize, memory.mpParkSharedSize)]
    else []

/-- What a core reads in turn settles on the value that is left there. -/
def Settles (reads : Nat → Ulong) (value : Ulong) : Prop :=
  ∃ start, ∀ turn ≥ start, reads turn = value

/-- What is asked of the cores that start from these words -/
structure Sized : Prop where
  /-- Memory, parking area and frame buffer follow one another. -/
  consecutive : memory.carved.armPlatformGetVirtualMemoryMap.tail.IsChain
    fun region next => region.stop = next.physicalBase.toNat
  apart : memory.carved.armPlatformGetVirtualMemoryMap.tail.Pairwise MemoryRegion.Apart
  inside : ∀ region ∈ memory.carved.armPlatformGetVirtualMemoryMap.tail,
    pcdSystemMemoryBase ≤ region.physicalBase ∧
      region.stop + 0x1000000 ≤ pcdSystemMemoryBase.toNat + memory.dramBytes
  noWrap : ∀ difference ∈ memory.differences, difference.2 ≤ difference.1
  /-- Whenever a secondary core looks at the header, it waits for what the primary stores. -/
  awaited : ∀ seen ∈ memory.storesMade.scanl (fun memory store => store memory) memory,
    seen.awaitedSize = memory.carved.systemMemorySize
  ends : ∀ seen ∈ memory.storesMade.scanl (fun memory store => store memory) memory,
    ∀ reads, Settles reads memory.carved.systemMemorySize →
      ∃ turns, (seen.armPlatformInitializeSystemMemory false reads turns).isSome

/-- The DRAM has room for the first 16 MiB, the frame buffer and the parking area. -/
def HasRoom : Prop :=
  0x1000000 + memory.frameBufferSize.toNat + memory.mpParkSharedSize.toNat ≤ memory.dramBytes

/-! ### The header -/

/-- The size field of a word with another size put over it -/
theorem dramSize_replaced (word : U32) : dramSize ((word &&& 0xffff) ||| largestDram) = 2048 := by
  have low : (word &&& 0xffff) >>> 16 = 0#32 := by
    rw [BitVec.ushiftRight_and_distrib]
    exact BitVec.and_zero
  unfold dramSize
  rw [BitVec.ushiftRight_or_distrib, low, BitVec.zero_or]
  rfl

theorem toNat_dramSize_limitDram :
    (dramSize memory.limitDram.dramPara5).toNat = min (dramSize memory.dramPara5).toNat 2048 := by
  unfold limitDram
  by_cases large : dramSize memory.dramPara5 > 2048
  · rw [if_pos large]
    have above : 2048 < (dramSize memory.dramPara5).toNat := large
    show (dramSize _).toNat = _
    rw [dramSize_replaced]
    exact (Nat.min_eq_right (Nat.le_of_lt above)).symm
  · rw [if_neg large]
    exact (Nat.min_eq_left (Nat.not_lt.mp large)).symm

/-- A number with its low bits cleared has no bit in common with one below them. -/
theorem shiftLeft_and_low (high : Ulong) (word : U32) :
    (high <<< 16) &&& (word &&& 0xffff).setWidth 64 = 0 := by
  have low : (word &&& 0xffff).setWidth 64 = word.setWidth 64 &&& (0xffff : Ulong) :=
    BitVec.setWidth_and
  have none : (high <<< 16) &&& (0xffff : Ulong) = 0 := by
    apply BitVec.eq_of_toNat_eq
    rw [BitVec.toNat_and, BitVec.toNat_shiftLeft]
    refine (Nat.and_two_pow_sub_one_eq_mod _ 16).trans ?_
    show high.toNat <<< 16 % 2 ^ 64 % 2 ^ 16 = 0
    rw [Nat.shiftLeft_eq]
    omega
  rw [low, BitVec.and_comm (word.setWidth 64), ← BitVec.and_assoc, none]
  exact BitVec.zero_and

/-- The assumed size has only the bits that are in both halves of a word, that is none. -/
theorem assumeDram_eq : memory.assumeDram = memory := by
  unfold assumeDram assumedDram
  rw [shiftLeft_and_low]
  simp

/-! ### The words the cores agree on -/

@[simp]
theorem limitDram_frameBufferSize : memory.limitDram.frameBufferSize = memory.frameBufferSize := by
  unfold limitDram
  split <;> rfl

@[simp]
theorem limitDram_mpParkSharedSize :
    memory.limitDram.mpParkSharedSize = memory.mpParkSharedSize := by
  unfold limitDram
  split <;> rfl

theorem toNat_actualDramSize :
    memory.limitDram.assumeDram.actualDramSize.toNat = memory.dramBytes := by
  have limited := memory.toNat_dramSize_limitDram
  have most := Nat.min_le_right (dramSize memory.dramPara5).toNat 2048
  rw [assumeDram_eq]
  unfold actualDramSize dramBytes
  rw [← limited] at most ⊢
  rw [BitVec.toNat_setWidth, BitVec.toNat_mul, BitVec.toNat_mul,
    show (1024 : U32).toNat = 1024 from rfl]
  omega

/-- The header as far as the cores look at it, and the two sizes -/
def SameSizes (other : SystemMemory) : Prop :=
  dramSize other.limitDram.dramPara5 = dramSize memory.limitDram.dramPara5 ∧
    other.frameBufferSize = memory.frameBufferSize ∧
    other.mpParkSharedSize = memory.mpParkSharedSize

theorem sameSizes_limitDram : memory.SameSizes memory.limitDram := by
  refine ⟨BitVec.eq_of_toNat_eq ?_, memory.limitDram_frameBufferSize,
    memory.limitDram_mpParkSharedSize⟩
  rw [toNat_dramSize_limitDram, toNat_dramSize_limitDram]
  exact Nat.min_eq_left (Nat.min_le_right _ _)

variable {memory}

theorem SameSizes.trans {other last : SystemMemory} (first : memory.SameSizes other)
    (second : other.SameSizes last) : memory.SameSizes last :=
  ⟨second.1.trans first.1, second.2.1.trans first.2.1, second.2.2.trans first.2.2⟩

theorem SameSizes.awaitedSize {other : SystemMemory} (same : memory.SameSizes other) :
    other.awaitedSize = memory.awaitedSize := by
  obtain ⟨dram, frameBuffer, mpPark⟩ := same
  unfold SystemMemory.awaitedSize actualDramSize
  rw [assumeDram_eq, assumeDram_eq, dram, frameBuffer, mpPark]

theorem sameSizes_of_eq {other : SystemMemory} (header : other.dramPara5 = memory.dramPara5)
    (frameBuffer : other.frameBufferSize = memory.frameBufferSize)
    (mpPark : other.mpParkSharedSize = memory.mpParkSharedSize) : memory.SameSizes other := by
  refine ⟨BitVec.eq_of_toNat_eq ?_, frameBuffer, mpPark⟩
  rw [toNat_dramSize_limitDram, toNat_dramSize_limitDram, header]

/-- No store of the primary core changes what a secondary core waits for. -/
theorem sameSizes_store {store : SystemMemory → SystemMemory} (member : store ∈ memory.storesMade)
    (other : SystemMemory) : other.SameSizes (store other) := by
  have among : store ∈ [limitDram, assumeDram] ++ primaryStores := by
    rcases List.mem_append.mp member with header | carving
    · exact List.mem_append_left _ header
    · refine List.mem_append_right _ ?_
      split at carving
      · exact carving
      · cases carving
  simp only [primaryStores, List.cons_append, List.nil_append, List.mem_cons, List.not_mem_nil,
    or_false] at among
  rcases among with rfl | rfl | rfl | rfl | rfl | rfl | rfl
  · exact other.sameSizes_limitDram
  · rw [assumeDram_eq]
    exact ⟨rfl, rfl, rfl⟩
  all_goals exact sameSizes_of_eq rfl rfl rfl

/-- What each step of a list keeps holds along the list. -/
theorem holds_of_mem_scanl {holds : SystemMemory → Prop}
    {stores : List (SystemMemory → SystemMemory)}
    (kept : ∀ store ∈ stores, ∀ state, holds state → holds (store state)) {start : SystemMemory}
    (first : holds start) {seen : SystemMemory}
    (member : seen ∈ stores.scanl (fun state store => store state) start) : holds seen := by
  induction stores generalizing start with
  | nil =>
    rw [List.mem_singleton.mp member]
    exact first
  | cons store stores inductionHypothesis =>
    rw [List.scanl_cons] at member
    rcases List.mem_cons.mp member with rfl | later
    · exact first
    · exact inductionHypothesis (fun other among => kept other (List.mem_cons_of_mem _ among))
        (kept store List.mem_cons_self start first) later

theorem awaitedSize_of_seen {seen : SystemMemory}
    (member : seen ∈ memory.storesMade.scanl (fun state store => store state) memory) :
    seen.awaitedSize = memory.awaitedSize :=
  (@holds_of_mem_scanl memory.SameSizes _
    (fun _ among state same => same.trans (sameSizes_store among state)) _
    ⟨rfl, rfl, rfl⟩ _ member).awaitedSize

/-! ### Carving -/

/-- The words a size leaves. -/
theorem carved_eq (sized : memory.limitDram.assumeDram.actualDramSize ≠ 0) :
    memory.carved =
      let dram := memory.limitDram.assumeDram.actualDramSize
      { memory.limitDram with
        systemMemorySize := dram - 0x1000000 - memory.frameBufferSize - memory.mpParkSharedSize
        frameBufferBase := pcdSystemMemoryBase + (dram - 0x1000000) - memory.frameBufferSize
        mpParkSharedBase := pcdSystemMemoryBase + (dram - 0x1000000) - memory.frameBufferSize -
          memory.mpParkSharedSize } := by
  unfold carved storesMade
  rw [if_pos sized]
  simp only [primaryStores, List.cons_append, List.nil_append, List.foldl_cons, List.foldl_nil,
    assumeDram_eq, limitDram_frameBufferSize, limitDram_mpParkSharedSize]

section Room

variable {dram frameBufferSize mpParkSharedSize : Ulong}

/-- With enough room no difference wraps, and the bases are what they are as numbers. -/
theorem differences_fit (small : dram.toNat ≤ 2 ^ 31)
    (room : 0x1000000 + frameBufferSize.toNat + mpParkSharedSize.toNat ≤ dram.toNat) :
    (0x1000000 + frameBufferSize + mpParkSharedSize ≤ dram ∧ (0x1000000 : Ulong) ≤ dram) ∧
      (frameBufferSize ≤ pcdSystemMemoryBase + (dram - 0x1000000) ∧
        mpParkSharedSize ≤ pcdSystemMemoryBase + (dram - 0x1000000) - frameBufferSize) ∧
      frameBufferSize ≤ dram - 0x1000000 ∧
        mpParkSharedSize ≤ dram - 0x1000000 - frameBufferSize := by
  unfold pcdSystemMemoryBase
  bv_omega

theorem carved_toNat (small : dram.toNat ≤ 2 ^ 31)
    (room : 0x1000000 + frameBufferSize.toNat + mpParkSharedSize.toNat ≤ dram.toNat) :
    (dram - 0x1000000 - frameBufferSize - mpParkSharedSize).toNat =
        dram.toNat - 0x1000000 - frameBufferSize.toNat - mpParkSharedSize.toNat ∧
      (pcdSystemMemoryBase + (dram - 0x1000000) - frameBufferSize).toNat =
        0x41000000 + dram.toNat - 0x1000000 - frameBufferSize.toNat ∧
      (pcdSystemMemoryBase + (dram - 0x1000000) - frameBufferSize - mpParkSharedSize).toNat =
        0x41000000 + dram.toNat - 0x1000000 - frameBufferSize.toNat - mpParkSharedSize.toNat := by
  unfold pcdSystemMemoryBase
  bv_omega

end Room

theorem carved_frameBufferSize (memory : SystemMemory) :
    memory.carved.frameBufferSize = memory.frameBufferSize ∧
      memory.carved.mpParkSharedSize = memory.mpParkSharedSize := by
  by_cases sized : memory.limitDram.assumeDram.actualDramSize ≠ 0
  · rw [carved_eq sized]
    exact ⟨memory.limitDram_frameBufferSize, memory.limitDram_mpParkSharedSize⟩
  · unfold carved storesMade
    rw [if_neg sized]
    simp [assumeDram_eq]

theorem hasRoom_of_sized (memory : SystemMemory) (sized : memory.Sized) : memory.HasRoom := by
  obtain ⟨frameBuffer, mpPark⟩ := memory.carved_frameBufferSize
  have consecutive := sized.consecutive
  have last := (sized.inside ⟨memory.carved.frameBufferBase, memory.carved.frameBufferSize,
    .writeThrough⟩ (by simp [armPlatformGetVirtualMemoryMap])).2
  simp only [armPlatformGetVirtualMemoryMap, List.tail_cons, List.isChain_cons_cons,
    List.isChain_singleton, and_true, MemoryRegion.stop, frameBuffer, mpPark] at consecutive last
  unfold HasRoom
  omega

theorem sized_of_hasRoom (memory : SystemMemory) (room : memory.HasRoom) : memory.Sized := by
  have bytes := memory.toNat_actualDramSize
  have most : memory.dramBytes ≤ 2 ^ 31 := by
    unfold dramBytes
    omega
  unfold HasRoom at room
  rw [← bytes] at room most
  have sized : memory.limitDram.assumeDram.actualDramSize ≠ 0 := by
    intro none
    rw [none] at room
    have zero : (0 : Ulong).toNat = 0 := rfl
    omega
  obtain ⟨⟨all, first⟩, ⟨below, behind⟩, less, rest⟩ := differences_fit most room
  obtain ⟨size, frameBuffer, mpPark⟩ := carved_toNat most room
  have base : pcdSystemMemoryBase.toNat = 0x41000000 := rfl
  have stored : memory.awaitedSize = memory.carved.systemMemorySize := by
    rw [carved_eq sized]
    show memory.limitDram.assumeDram.actualDramSize - _ = _
    bv_omega
  have awaited (seen : SystemMemory)
      (member : seen ∈ memory.storesMade.scanl (fun memory store => store memory) memory) :
      seen.awaitedSize = memory.carved.systemMemorySize :=
    (awaitedSize_of_seen member).trans stored
  refine ⟨?_, ?_, ?_, ?_, awaited, ?_⟩
  · rw [carved_eq sized]
    simp only [armPlatformGetVirtualMemoryMap, List.tail_cons, List.isChain_cons_cons,
      List.isChain_singleton, and_true, MemoryRegion.stop, limitDram_mpParkSharedSize]
    omega
  · rw [carved_eq sized]
    simp only [armPlatformGetVirtualMemoryMap, List.tail_cons, List.pairwise_cons,
      List.mem_cons, List.not_mem_nil, or_false, forall_eq_or_imp, forall_eq, MemoryRegion.Apart,
      MemoryRegion.stop, limitDram_mpParkSharedSize, limitDram_frameBufferSize]
    simp
    omega
  · rw [carved_eq sized]
    simp only [armPlatformGetVirtualMemoryMap, List.tail_cons, List.mem_cons, List.not_mem_nil,
      or_false, forall_eq_or_imp, forall_eq, MemoryRegion.stop, limitDram_mpParkSharedSize,
      limitDram_frameBufferSize, BitVec.le_def]
    omega
  · unfold differences
    dsimp only
    rw [if_pos sized]
    simp only [List.forall_mem_cons]
    exact ⟨all, first, below, behind, less, rest, fun _ member => absurd member List.not_mem_nil⟩
  · intro seen member reads ⟨start, settled⟩
    refine ⟨start + 1, ?_⟩
    have found : ∃ turn < start + 1, reads turn = seen.awaitedSize :=
      ⟨start, Nat.lt_succ_self start, (settled start (Nat.le_refl _)).trans (awaited seen member).symm⟩
    unfold armPlatformInitializeSystemMemory
    rw [if_neg Bool.false_ne_true, if_pos found]
    rfl

/-- The memory is laid out as it should be, and every wait ends, exactly if the header gives
room for what is carved. -/
theorem sized_iff_hasRoom (memory : SystemMemory) : memory.Sized ↔ memory.HasRoom :=
  ⟨memory.hasRoom_of_sized, memory.sized_of_hasRoom⟩

/-- The configuration of the platform, with a word of the boot header -/
def configured (dramPara5 : U32) : SystemMemory :=
  ⟨dramPara5, 0x3df80000, 0x48000000, 0x1000000, 0x7ef80000, 0x80000⟩

/-- A header that gives no size leaves no value that a secondary core could wait for. -/
theorem not_sized_without_size : ¬(configured 0).Sized ∧
    ∀ turns, (configured 0).armPlatformInitializeSystemMemory false
      (fun _ => (configured 0).carved.systemMemorySize) turns = none := by
  refine ⟨fun sized => ?_, fun turns => (if_neg Bool.false_ne_true).trans (if_neg ?_)⟩
  · exact absurd (hasRoom_of_sized _ sized) (by unfold HasRoom; decide)
  · rintro ⟨turn, -, found⟩
    have different : (configured 0).carved.systemMemorySize ≠ (configured 0).awaitedSize := by
      decide
    exact different found

end SystemMemory

end PinePhonePkg
