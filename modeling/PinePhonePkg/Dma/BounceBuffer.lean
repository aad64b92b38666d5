/-
This file embeds the buffers that stand in for a user's buffer in a transfer
by DMA, and settles when the device gets a proper range. Copies in and out are
always right. The range is not: a buffer that is used directly has only its
first byte compared with the end of low memory, and the alignment is the
largest one of the compiler's types, which need not be that of a cache line.
-/

import PinePhonePkg.Library.Bits
import PinePhonePkg.Dxe.Status

namespace PinePhonePkg

open Library

/-! ### The code -/

/-- The macro computes in 64 bits. -/
def roundup (x y : Ulong) : Ulong := (x + (y - 1)) / y * y

/-- The pages of bytes, rounded up -/
def efiSizeToPages (size : Ulong) : Ulong :=
  (size >>> 12) + if size &&& 0xfff ≠ 0 then 1 else 0

def efiPageSize : Ulong := 4096

def genBbRead : U32 := 1

def genBbWrite : U32 := 2

/-- `struct bounce_buffer` -/
structure BounceBuffer : Type where
  userBuffer : Ulong
  bounceBuffer : Ulong
  len : Ulong
  lenAligned : Ulong
  flags : U32

section Bounce

variable (allocatePages : Ulong → Option Ulong) (minalign lowMemoryTop : Ulong)

/-- `AllocateAlignedPages32`, with zero for `NULL`. The pages come from `allocatePages`, which is
asked for pages up to the end of low memory; `exec_internalAllocateAlignedPages32` shows that the
code, with the requests it makes, comes to this address. -/
def allocateAlignedPages32 (pages alignment : Ulong) : Ulong :=
  if pages = 0 then 0
  else if alignment > efiPageSize then
    match allocatePages (pages + efiSizeToPages alignment) with
    | none => 0
    | some memory => (memory + (alignment - 1)) &&& ~~~(alignment - 1)
  else (allocatePages pages).getD 0

/-- `minalign` is `ARCH_DMA_MINALIGN`. -/
def addrAligned (state : BounceBuffer) : Bool :=
  state.userBuffer &&& (minalign - 1) = 0 ∧ state.len = state.lenAligned

/-- The buffer is in low memory. -/
def addrLower32bit (state : BounceBuffer) : Bool := state.bounceBuffer < lowMemoryTop

/-- The state before it is decided whether a buffer has to stand in -/
def requestedBuffer (data len : Ulong) (flags : U32) : BounceBuffer where
  userBuffer := data
  bounceBuffer := data
  len := len
  lenAligned := roundup len minalign
  flags := flags

/-- The state and the memory afterwards; `none` is `-ENOMEM`. -/
def bounceBufferStart (memory : Buffer) (data len : Ulong) (flags : U32) :
    Option (BounceBuffer × Buffer) :=
  let state := requestedBuffer minalign data len flags
  if !addrAligned minalign state || !addrLower32bit lowMemoryTop state then
    let bounceBuffer :=
      allocateAlignedPages32 allocatePages (efiSizeToPages state.lenAligned) minalign
    if bounceBuffer = 0 then none
    else some ({ state with bounceBuffer := bounceBuffer },
      if state.flags &&& genBbRead ≠ 0 then copyMem memory bounceBuffer data len else memory)
  else some (state, memory)

/-- The memory afterwards -/
def bounceBufferStop (state : BounceBuffer) (memory : Buffer) : Buffer :=
  if state.bounceBuffer = state.userBuffer then memory
  else if state.flags &&& genBbWrite ≠ 0 then
    copyMem memory state.userBuffer state.bounceBuffer state.len
  else memory

end Bounce

/-! ### What is asked of it -/

/-- The address is in the buffer. -/
def InBuffer (start length : Ulong) (address : Nat) : Prop :=
  start.toNat ≤ address ∧ address < start.toNat + length.toNat

/-- A device changes bytes of its range only, and only if the flags say that it writes. -/
structure DeviceLeaves (state : BounceBuffer) (started left : Buffer) : Prop where
  outside : ∀ address, ¬ InBuffer state.bounceBuffer state.lenAligned address →
    left address = started address
  readOnly : state.flags &&& genBbWrite = 0 → left = started

/-- The range that a device gets, and what becomes of the memory -/
structure Bounces (line : Nat) (lowMemoryTop data len : Ulong) (flags : U32) (memory : Buffer)
    (state : BounceBuffer) (started : Buffer) : Prop where
  aligned : line ∣ state.bounceBuffer.toNat ∧
    line ∣ state.bounceBuffer.toNat + state.lenAligned.toNat
  below : state.bounceBuffer.toNat + state.lenAligned.toNat ≤ lowMemoryTop.toNat
  room : len.toNat ≤ state.lenAligned.toNat
  reads : flags &&& genBbRead ≠ 0 →
    Memory.Agree len.toNat (started.drop state.bounceBuffer.toNat) (memory.drop data.toNat)
  writes : ∀ left, DeviceLeaves state started left → flags &&& genBbWrite ≠ 0 →
    Memory.Agree len.toNat ((bounceBufferStop state left).drop data.toNat)
      (left.drop state.bounceBuffer.toNat)
  keeps : ∀ left, DeviceLeaves state started left → flags &&& genBbWrite = 0 →
    Memory.Agree len.toNat ((bounceBufferStop state left).drop data.toNat)
      (memory.drop data.toNat)
  outside : ∀ left, DeviceLeaves state started left → ∀ address, ¬ InBuffer data len address →
    ¬ InBuffer state.bounceBuffer state.lenAligned address →
      bounceBufferStop state left address = memory address

/-- What the boot services promise about pages that are asked for up to an address: whole pages,
the last byte not above the address, and none of them in use for the user's buffer -/
structure GivesPages (allocatePages : Ulong → Option Ulong) (lowMemoryTop data len : Ulong) :
    Prop where
  aligned : ∀ pages base, allocatePages pages = some base → 4096 ∣ base.toNat
  below : ∀ pages base, allocatePages pages = some base →
    base.toNat + pages.toNat * 4096 ≤ lowMemoryTop.toNat + 1
  apart : ∀ pages base, allocatePages pages = some base →
    base.toNat + pages.toNat * 4096 ≤ data.toNat ∨ data.toNat + len.toNat ≤ base.toNat

section Contract

variable (allocatePages : Ulong → Option Ulong) (minalign lowMemoryTop : Ulong) (line : Nat)
  (data len : Ulong) (flags : U32)

/-- Whenever the start succeeds, whatever the memory holds, all goes well. -/
def BounceDiscipline : Prop :=
  ∀ memory state started,
    bounceBufferStart allocatePages minalign lowMemoryTop memory data len flags =
        some (state, started) →
      Bounces line lowMemoryTop data len flags memory state started

/-- The user's buffer is used directly. -/
def UsedDirectly : Prop :=
  addrAligned minalign (requestedBuffer minalign data len flags) = true ∧
    addrLower32bit lowMemoryTop (requestedBuffer minalign data len flags) = true

/-- A buffer that is used directly ends in low memory and has whole cache lines; where pages stand
in for it, the length is rounded to whole lines, and they do not end one byte too high. -/
structure BouncesWell : Prop where
  direct : UsedDirectly minalign lowMemoryTop data len flags →
    line ∣ data.toNat ∧ line ∣ len.toNat ∧ data.toNat + len.toNat ≤ lowMemoryTop.toNat
  bounced : ¬ UsedDirectly minalign lowMemoryTop data len flags → roundup len minalign ≠ 0 →
    ∀ base, allocatePages (efiSizeToPages (roundup len minalign)) = some base → base ≠ 0 →
      line ∣ (roundup len minalign).toNat ∧
        base.toNat + (roundup len minalign).toNat ≠ lowMemoryTop.toNat + 1

end Contract

/-! ### Sizes -/

theorem toNat_roundup {x y : Ulong} {k : Nat} (power : y.toNat = 2 ^ k) :
    (roundup x y).toNat =
      if x.toNat + 2 ^ k ≤ 2 ^ 64 then (x.toNat + (2 ^ k - 1)) / 2 ^ k * 2 ^ k else 0 := by
  have positive : 0 < 2 ^ k := Nat.two_pow_pos k
  have fits : x.toNat < 2 ^ 64 := x.isLt
  have powerFits : 2 ^ k < 2 ^ 64 := power ▸ y.isLt
  have rest : (y - 1).toNat = 2 ^ k - 1 := by
    have one : (1 : Ulong).toNat = 1 := rfl
    rw [BitVec.toNat_sub_of_le (by rw [BitVec.le_def]; omega), power, one]
  unfold roundup
  rw [BitVec.toNat_mul, BitVec.toNat_udiv, BitVec.toNat_add, rest, power]
  split
  next room =>
    have product := Nat.div_mul_le_self (x.toNat + (2 ^ k - 1)) (2 ^ k)
    rw [Nat.mod_eq_of_lt (show x.toNat + (2 ^ k - 1) < 2 ^ 64 by omega),
      Nat.mod_eq_of_lt (by omega)]
  next full =>
    -- The sum wraps to less than one unit.
    have wrapped : (x.toNat + (2 ^ k - 1)) % 2 ^ 64 = x.toNat + (2 ^ k - 1) - 2 ^ 64 := by omega
    rw [wrapped, Nat.div_eq_of_lt (by omega), Nat.zero_mul, Nat.zero_mod]

theorem toNat_efiSizeToPages (size : Ulong) :
    (efiSizeToPages size).toNat = (size.toNat + 4095) / 4096 := by
  have fits : size.toNat < 2 ^ 64 := size.isLt
  have low : (size &&& 0xfff).toNat = size.toNat % 2 ^ 12 := toNat_and_low size rfl
  have rest : size &&& 0xfff ≠ 0 ↔ size.toNat % 4096 ≠ 0 := by
    rw [Ne, ← BitVec.toNat_inj, low]
    rfl
  have shifted : (size >>> 12).toNat = size.toNat / 4096 := by
    rw [BitVec.toNat_ushiftRight, Nat.shiftRight_eq_div_pow]
  unfold efiSizeToPages
  rw [BitVec.toNat_add, shifted]
  by_cases whole : size &&& 0xfff ≠ 0
  · rw [if_pos whole]
    have left := rest.mp whole
    have one : (1 : Ulong).toNat = 1 := rfl
    omega
  · rw [if_neg whole]
    have even : size.toNat % 4096 = 0 := by
      by_contra left
      exact whole (rest.mpr left)
    have zero : (0 : Ulong).toNat = 0 := rfl
    omega

theorem le_efiSizeToPages (size : Ulong) : size.toNat ≤ (efiSizeToPages size).toNat * 4096 := by
  rw [toNat_efiSizeToPages]
  omega

theorem efiSizeToPages_eq_zero_iff (size : Ulong) : efiSizeToPages size = 0 ↔ size = 0 := by
  have zero : (0 : Ulong).toNat = 0 := rfl
  rw [← BitVec.toNat_inj, ← BitVec.toNat_inj, toNat_efiSizeToPages]
  omega

/-- The length is rounded up, unless the sum wraps. -/
theorem le_roundup {x y : Ulong} {k : Nat} (power : y.toNat = 2 ^ k) (nonzero : roundup x y ≠ 0) :
    x.toNat ≤ (roundup x y).toNat := by
  have positive : 0 < 2 ^ k := Nat.two_pow_pos k
  have value : (roundup x y).toNat ≠ 0 := fun none => nonzero (BitVec.eq_of_toNat_eq none)
  rw [toNat_roundup power] at value ⊢
  split at value
  next room =>
    rw [if_pos room]
    have split := Nat.div_add_mod (x.toNat + (2 ^ k - 1)) (2 ^ k)
    have less := Nat.mod_lt (x.toNat + (2 ^ k - 1)) positive
    rw [Nat.mul_comm] at split
    omega
  next => exact absurd rfl value

theorem roundup_zero {y : Ulong} {k : Nat} (power : y.toNat = 2 ^ k) : roundup 0 y = 0 := by
  have positive : 0 < 2 ^ k := Nat.two_pow_pos k
  have zero : (0 : Ulong).toNat = 0 := rfl
  refine BitVec.eq_of_toNat_eq ?_
  rw [toNat_roundup power, zero, Nat.zero_add, Nat.zero_add, Nat.div_eq_of_lt (by omega),
    Nat.zero_mul, ite_self]

/-! ### A buffer that is used directly -/

section Contract

variable {allocatePages : Ulong → Option Ulong} {minalign lowMemoryTop : Ulong} {line : Nat}
  {data len : Ulong} {flags : U32} {memory started : Buffer} {state : BounceBuffer}

theorem bounceBufferStart_direct (direct : UsedDirectly minalign lowMemoryTop data len flags) :
    bounceBufferStart allocatePages minalign lowMemoryTop memory data len flags =
      some (requestedBuffer minalign data len flags, memory) := by
  unfold bounceBufferStart
  dsimp only
  rw [direct.1, direct.2]
  rfl

theorem UsedDirectly.roundup_eq (direct : UsedDirectly minalign lowMemoryTop data len flags) :
    roundup len minalign = len :=
  (of_decide_eq_true direct.1).2.symm

theorem bounceBufferStop_direct (left : Buffer) :
    bounceBufferStop (requestedBuffer minalign data len flags) left = left :=
  if_pos rfl

/-- Used directly, a range is as good as the user's buffer is. -/
theorem bounces_direct_iff (whole : roundup len minalign = len) :
    Bounces line lowMemoryTop data len flags memory
        (requestedBuffer minalign data len flags) memory ↔
      line ∣ data.toNat ∧ line ∣ len.toNat ∧ data.toNat + len.toNat ≤ lowMemoryTop.toNat := by
  have range : (requestedBuffer minalign data len flags).lenAligned = len := whole
  constructor
  · intro ⟨⟨start, last⟩, below, _, _, _, _, _⟩
    rw [range] at last below
    exact ⟨start, (Nat.dvd_add_right start).mp last, below⟩
  · intro ⟨start, length, below⟩
    refine ⟨⟨start, ?_⟩, ?_, ?_, fun _ _ _ => rfl, ?_, ?_, ?_⟩
    · rw [range]
      exact Nat.dvd_add start length
    · rw [range]
      exact below
    · exact Nat.le_of_eq (congrArg BitVec.toNat range.symm)
    · intro left _ _ address _
      rw [bounceBufferStop_direct]
      rfl
    · intro left leaves quiet address _
      rw [bounceBufferStop_direct, leaves.readOnly quiet]
    · intro left leaves address _ apart
      rw [bounceBufferStop_direct]
      exact leaves.outside address apart

/-! ### Pages that stand in -/

/-- The state with pages in place of the user's buffer -/
def bouncedBuffer (minalign data len : Ulong) (flags : U32) (base : Ulong) : BounceBuffer :=
  { requestedBuffer minalign data len flags with bounceBuffer := base }

/-- The memory after the user's bytes are copied there, if they are to be read -/
def bouncedMemory (memory : Buffer) (data len : Ulong) (flags : U32) (base : Ulong) : Buffer :=
  if flags &&& genBbRead ≠ 0 then copyMem memory base data len else memory

theorem allocateAlignedPages32_eq_iff {pages alignment base : Ulong}
    (small : alignment.toNat ≤ 4096) (nonzero : base ≠ 0) :
    allocateAlignedPages32 allocatePages pages alignment = base ↔
      pages ≠ 0 ∧ allocatePages pages = some base := by
  have fits : ¬ alignment > efiPageSize := by
    rw [gt_iff_lt, BitVec.lt_def]
    exact Nat.not_lt.mpr small
  unfold allocateAlignedPages32
  rw [if_neg fits]
  by_cases empty : pages = 0
  · rw [if_pos empty]
    exact ⟨fun null => absurd null.symm nonzero, fun asked => absurd empty asked.1⟩
  · rw [if_neg empty]
    cases given : allocatePages pages with
    | none =>
      exact ⟨fun null => absurd null.symm nonzero, fun asked => nomatch asked.2⟩
    | some memory =>
      exact ⟨fun same => ⟨empty, congrArg some same⟩, fun asked => Option.some.inj asked.2⟩

theorem bounceBufferStart_bounced_iff (small : minalign.toNat ≤ 4096)
    (bounced : ¬ UsedDirectly minalign lowMemoryTop data len flags) :
    bounceBufferStart allocatePages minalign lowMemoryTop memory data len flags =
        some (state, started) ↔
      ∃ base, roundup len minalign ≠ 0 ∧
        allocatePages (efiSizeToPages (roundup len minalign)) = some base ∧ base ≠ 0 ∧
          state = bouncedBuffer minalign data len flags base ∧
            started = bouncedMemory memory data len flags base := by
  have either : (!addrAligned minalign (requestedBuffer minalign data len flags) ||
      !addrLower32bit lowMemoryTop (requestedBuffer minalign data len flags)) = true := by
    unfold UsedDirectly at bounced
    cases first : addrAligned minalign (requestedBuffer minalign data len flags) with
    | false => rfl
    | true =>
      cases second : addrLower32bit lowMemoryTop (requestedBuffer minalign data len flags) with
      | false => rfl
      | true => exact absurd ⟨first, second⟩ bounced
  unfold bounceBufferStart
  dsimp only
  rw [if_pos either]
  have length : (requestedBuffer minalign data len flags).lenAligned = roundup len minalign := rfl
  rw [length]
  generalize given : allocateAlignedPages32 allocatePages
    (efiSizeToPages (roundup len minalign)) minalign = base
  by_cases null : base = 0
  · rw [if_pos null]
    refine ⟨fun impossible => absurd impossible (by simp), ?_⟩
    intro ⟨other, size, pages, nonzero, _, _⟩
    have same := (allocateAlignedPages32_eq_iff small nonzero).mpr
      ⟨fun none => size ((efiSizeToPages_eq_zero_iff _).mp none), pages⟩
    exact absurd (same.symm.trans (given.trans null)) nonzero
  · rw [if_neg null]
    obtain ⟨asked, pages⟩ := (allocateAlignedPages32_eq_iff small null).mp given
    constructor
    · intro done
      obtain ⟨rfl, rfl⟩ := Prod.mk.inj (Option.some.inj done)
      exact ⟨base, fun none => asked ((efiSizeToPages_eq_zero_iff _).mpr none), pages, null,
        rfl, rfl⟩
    · intro ⟨other, _, again, _, stateEq, startedEq⟩
      obtain rfl := Option.some.inj (pages.symm.trans again)
      rw [stateEq, startedEq]
      rfl

/-- Pages that stand in lie apart from the user's buffer, and have room for its length. -/
theorem GivesPages.room {k : Nat} {base : Ulong} (power : minalign.toNat = 2 ^ k)
    (gives : GivesPages allocatePages lowMemoryTop data len) (nonzero : roundup len minalign ≠ 0)
    (pages : allocatePages (efiSizeToPages (roundup len minalign)) = some base) :
    4096 ∣ base.toNat ∧ len.toNat ≤ (roundup len minalign).toNat ∧
      base.toNat + (roundup len minalign).toNat ≤ lowMemoryTop.toNat + 1 ∧
        (base.toNat + (roundup len minalign).toNat ≤ data.toNat ∨
          data.toNat + len.toNat ≤ base.toNat) := by
  have fits := le_efiSizeToPages (roundup len minalign)
  have below := gives.below _ _ pages
  refine ⟨gives.aligned _ _ pages, le_roundup power nonzero, by omega, ?_⟩
  have apart := gives.apart _ _ pages
  omega

/-- Pages that stand in do not start where the user's buffer does. -/
theorem GivesPages.ne {k : Nat} {base : Ulong} (power : minalign.toNat = 2 ^ k)
    (gives : GivesPages allocatePages lowMemoryTop data len) (nonzero : roundup len minalign ≠ 0)
    (pages : allocatePages (efiSizeToPages (roundup len minalign)) = some base) :
    base ≠ data := by
  rintro rfl
  obtain ⟨_, _, _, apart⟩ := gives.room power nonzero pages
  have size : (roundup len minalign).toNat ≠ 0 :=
    fun none => nonzero (BitVec.eq_of_toNat_eq none)
  have length : len.toNat ≠ 0 := by
    intro none
    obtain rfl : len = 0 := BitVec.eq_of_toNat_eq none
    exact nonzero (roundup_zero power)
  omega

theorem bouncedMemory_outside {base : Ulong} {address : Nat}
    (outside : address < base.toNat ∨ base.toNat + len.toNat ≤ address) :
    bouncedMemory memory data len flags base address = memory address := by
  unfold bouncedMemory
  split
  · exact Memory.overwrite_outside _ _ _ _ _ outside
  · rfl

theorem bounceBufferStop_bounced {base : Ulong} (apart : base ≠ data) (left : Buffer) :
    bounceBufferStop (bouncedBuffer minalign data len flags base) left =
      if flags &&& genBbWrite ≠ 0 then copyMem left data base len else left :=
  if_neg apart

/-- With pages in its place, a range is as good as the pages are. -/
theorem bounces_bounced_iff {k : Nat} {base : Ulong} (power : minalign.toNat = 2 ^ k)
    (divides : line ∣ 4096)
    (gives : GivesPages allocatePages lowMemoryTop data len) (nonzero : roundup len minalign ≠ 0)
    (pages : allocatePages (efiSizeToPages (roundup len minalign)) = some base) :
    Bounces line lowMemoryTop data len flags memory (bouncedBuffer minalign data len flags base)
        (bouncedMemory memory data len flags base) ↔
      line ∣ (roundup len minalign).toNat ∧
        base.toNat + (roundup len minalign).toNat ≠ lowMemoryTop.toNat + 1 := by
  obtain ⟨aligned, room, below, apart⟩ := gives.room power nonzero pages
  have start : line ∣ base.toNat := Nat.dvd_trans divides aligned
  have stop : ∀ left, bounceBufferStop (bouncedBuffer minalign data len flags base) left =
      if flags &&& genBbWrite ≠ 0 then copyMem left data base len else left :=
    bounceBufferStop_bounced (gives.ne power nonzero pages)
  constructor
  · intro ⟨⟨_, last⟩, within, _, _, _, _, _⟩
    refine ⟨(Nat.dvd_add_right start).mp last, ?_⟩
    have length : base.toNat + (roundup len minalign).toNat ≤ lowMemoryTop.toNat := within
    omega
  · intro ⟨length, notAbove⟩
    refine ⟨⟨start, Nat.dvd_add start length⟩, ?_, room, ?_, ?_, ?_, ?_⟩
    · show base.toNat + (roundup len minalign).toNat ≤ lowMemoryTop.toNat
      omega
    · intro reads
      rw [bouncedMemory, if_pos reads]
      exact Memory.agree_drop_overwrite _ _ _ _
    · intro left _ writes
      rw [stop, if_pos writes]
      exact Memory.agree_drop_overwrite _ _ _ _
    · intro left leaves quiet address inside
      rw [stop, if_neg (not_not_intro quiet), leaves.readOnly quiet]
      exact bouncedMemory_outside (by omega)
    · intro left leaves address notUser notPages
      have kept : left address = memory address := by
        rw [leaves.outside address notPages]
        refine bouncedMemory_outside ?_
        unfold InBuffer at notPages
        have bounce : (bouncedBuffer minalign data len flags base).bounceBuffer = base := rfl
        have size : (bouncedBuffer minalign data len flags base).lenAligned =
          roundup len minalign := rfl
        rw [bounce, size] at notPages
        omega
      rw [stop]
      split
      · refine (Memory.overwrite_outside _ _ _ _ _ ?_).trans kept
        unfold InBuffer at notUser
        omega
      · exact kept

/-! ### When all goes well -/

/-- For pages as the boot services give them, all goes well exactly if the range that is handed
over, be it the user's buffer or the pages, is a proper one. -/
theorem bounceDiscipline_iff {k : Nat} (power : minalign.toNat = 2 ^ k) (small : k ≤ 12)
    (divides : line ∣ 4096) (gives : GivesPages allocatePages lowMemoryTop data len) :
    BounceDiscipline allocatePages minalign lowMemoryTop line data len flags ↔
      BouncesWell allocatePages minalign lowMemoryTop line data len flags := by
  have page : minalign.toNat ≤ 4096 := by
    rw [power]
    exact Nat.pow_le_pow_right (by omega) small
  constructor
  · intro discipline
    -- Any memory will do.
    constructor
    · intro direct
      exact (bounces_direct_iff direct.roundup_eq).mp
        (discipline (fun _ => 0) _ _ (bounceBufferStart_direct direct))
    · intro bounced nonzero base pages apart
      refine (bounces_bounced_iff power divides gives nonzero pages).mp
        (discipline (fun _ => 0) _ _ ?_)
      exact (bounceBufferStart_bounced_iff page bounced).mpr
        ⟨base, nonzero, pages, apart, rfl, rfl⟩
  · intro well memory state started start
    by_cases direct : UsedDirectly minalign lowMemoryTop data len flags
    · rw [bounceBufferStart_direct direct] at start
      obtain ⟨rfl, rfl⟩ := Prod.mk.inj (Option.some.inj start)
      exact (bounces_direct_iff direct.roundup_eq).mpr (well.direct direct)
    · obtain ⟨base, nonzero, pages, apart, rfl, rfl⟩ :=
        (bounceBufferStart_bounced_iff page direct).mp start
      exact (bounces_bounced_iff power divides gives nonzero pages).mpr
        (well.bounced direct nonzero base pages apart)

end Contract

/-- A buffer of 512 bytes that starts off the alignment is bounced, and all goes well. -/
theorem bounceDiscipline_iff_unaligned :
    BounceDiscipline (fun pages => if pages ≤ 16 then some 0x50000000 else none) 16 0x81000000 64
      0x44000008 0x200 (genBbRead ||| genBbWrite) := by
  have given : ∀ {pages base : Ulong},
      (if pages ≤ 16 then some (0x50000000 : Ulong) else none) = some base →
        pages.toNat ≤ 16 ∧ base = 0x50000000 := by
    intro pages base pagesGiven
    split at pagesGiven
    next few => exact ⟨few, (Option.some.inj pagesGiven).symm⟩
    next => cases pagesGiven
  refine (bounceDiscipline_iff (k := 4) rfl (by decide) (by decide) ⟨?_, ?_, ?_⟩).mpr ⟨?_, ?_⟩
  · intro pages base pagesGiven
    rw [(given pagesGiven).2]
    decide
  · intro pages base pagesGiven
    obtain ⟨few, rfl⟩ := given pagesGiven
    have value : (0x50000000 : Ulong).toNat = 0x50000000 := rfl
    have top : (0x81000000 : Ulong).toNat = 0x81000000 := rfl
    omega
  · intro pages base pagesGiven
    rw [(given pagesGiven).2]
    exact Or.inr (by decide)
  · intro direct
    exact absurd direct.1 (by decide)
  · intro _ _ base pagesGiven _
    rw [(given pagesGiven).2]
    decide

/-- The end of low memory is `PcdSystemMemoryBase` plus one gigabyte; a buffer of whole cache lines
around it is used directly. -/
theorem not_bounceDiscipline :
    ¬ BounceDiscipline (fun _ => none) 16 0x81000000 64 0x80ffffc0 0x80 genBbRead := by
  intro discipline
  have direct : UsedDirectly 16 0x81000000 0x80ffffc0 0x80 genBbRead := ⟨by decide, by decide⟩
  have bounces := discipline (fun _ => 0) _ _ (bounceBufferStart_direct direct)
  exact absurd ((bounces_direct_iff direct.roundup_eq).mp bounces).2.2 (by decide)

end PinePhonePkg
