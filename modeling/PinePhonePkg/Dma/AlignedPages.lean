/-
This file embeds how pages with an alignment above that of a page are obtained:
more pages are allocated than are asked for, and those in front of the aligned
range and behind it are given back. What is given back is all of the surplus, and
nothing else.
-/

import PinePhonePkg.Dma.BounceBuffer

namespace PinePhonePkg

open Library Program

/-! ### The code -/

/-- What is asked of the boot services. Pages are asked for up to an address. -/
inductive PageRequest : Type where
  | allocatePages (memoryType : U32) (pages memory : Ulong)
  | freePages (memory pages : Ulong)
deriving DecidableEq

/-- The address of the pages, if they are granted, and whether freeing goes well -/
@[reducible]
def PageRequest.Reply : PageRequest → Type
  | .allocatePages .. => Option Ulong
  | .freePages .. => Bool

/-- A program of the allocation -/
abbrev PageProgram (Result : Type) : Type := Program PageRequest PageRequest.Reply Result

/-- The bytes of pages -/
def efiPagesToSize (pages : Ulong) : Ulong := pages <<< 12

section Values

variable (pages alignment memory : Ulong)

/-- The pages that are asked for, so that some of them are aligned -/
def realPages : Ulong := pages + efiSizeToPages alignment

/-- The first address that is aligned -/
def alignedMemory : Ulong := (memory + (alignment - 1)) &&& ~~~(alignment - 1)

/-- The first value of `UnalignedPages` -/
def headPages : Ulong := efiSizeToPages (alignedMemory alignment memory - memory)

/-- Its second value -/
def tailPages : Ulong := realPages pages alignment - pages - headPages alignment memory

end Values

/-- Frees pages if there are any: whether the assertion about the status holds. -/
def freeSurplus (memory pages : Ulong) : PageProgram Bool :=
  if pages > 0 then Program.send (PageRequest.freePages memory pages) else pure true

/-- The address, with zero for `NULL`, or nothing where an assertion fails -/
def internalAllocateAlignedPages32 (lowMemoryTop : Ulong) (memoryType : U32)
    (pages alignment : Ulong) : PageProgram (Option Ulong) := do
  if alignment &&& (alignment - 1) ≠ 0 then
    return none
  if pages = 0 then
    return some 0
  if alignment > efiPageSize then
    if ¬ realPages pages alignment > pages then
      return none
    match ← Program.send
      (PageRequest.allocatePages memoryType (realPages pages alignment) lowMemoryTop) with
    | none => return some 0
    | some memory =>
      if !(← freeSurplus memory (headPages alignment memory)) then
        return none
      if !(← freeSurplus (alignedMemory alignment memory + efiPagesToSize pages)
          (tailPages pages alignment memory)) then
        return none
      return some (alignedMemory alignment memory)
  else
    match ← Program.send (PageRequest.allocatePages memoryType pages lowMemoryTop) with
    | none => return some 0
    | some memory => return some memory

/-! ### What is asked of it -/

/-- An exchange in a run -/
abbrev PageExchange : Type := Exchange PageRequest PageRequest.Reply

/-- The range that was granted -/
def PageExchange.granted : PageExchange → Option (Ulong × Ulong)
  | ⟨.allocatePages _ pages _, some memory⟩ => some (memory, pages)
  | _ => none

/-- The range that was given back -/
def PageExchange.freed : PageExchange → Option (Ulong × Ulong)
  | ⟨.freePages memory pages, _⟩ => some (memory, pages)
  | _ => none

/-- The pages that a run is granted -/
def grantedPages (trace : List PageExchange) : List (Ulong × Ulong) :=
  trace.filterMap PageExchange.granted

/-- The pages that a run gives back -/
def freedPages (trace : List PageExchange) : List (Ulong × Ulong) :=
  trace.filterMap PageExchange.freed

/-- The page of the number is in the range. -/
def InPages (range : Ulong × Ulong) (page : Nat) : Prop :=
  range.1.toNat ≤ page * 4096 ∧ page * 4096 < range.1.toNat + range.2.toNat * 4096

instance (range : Ulong × Ulong) (page : Nat) : Decidable (InPages range page) :=
  inferInstanceAs (Decidable (_ ∧ _))

/-- What the allocator may return: whole pages that the address space has -/
def WholePages (range : Ulong × Ulong) : Prop :=
  4096 ∣ range.1.toNat ∧ range.1.toNat + range.2.toNat * 4096 ≤ 2 ^ 64

/-- The range that is returned, and what is given back of the pages that were granted -/
structure GivesSurplusBack (pages alignment result : Ulong) (granted : Ulong × Ulong)
    (freed : List (Ulong × Ulong)) : Prop where
  aligned : alignment = 0 ∨ alignment.toNat ∣ result.toNat
  inside : granted.1.toNat ≤ result.toNat ∧
    result.toNat + pages.toNat * 4096 ≤ granted.1.toNat + granted.2.toNat * 4096
  whole : ∀ range ∈ freed, WholePages range ∧ 0 < range.2.toNat
  once : ∀ page, freed.countP (fun range => InPages range page) =
    if InPages granted page ∧ ¬ InPages (result, pages) page then 1 else 0

/-- All that is computed for pages at the address is computed without overflow. -/
structure ComputesExactly (pages alignment memory : Ulong) : Prop where
  real : (realPages pages alignment).toNat = pages.toNat + (efiSizeToPages alignment).toNat
  mask : (alignment - 1).toNat = alignment.toNat - 1
  raised : (memory + (alignment - 1)).toNat = memory.toNat + (alignment - 1).toNat
  front : (alignedMemory alignment memory - memory).toNat =
    (alignedMemory alignment memory).toNat - memory.toNat
  notBelow : memory.toNat ≤ (alignedMemory alignment memory).toNat
  size : (efiPagesToSize pages).toNat = pages.toNat * 4096
  last : (alignedMemory alignment memory + efiPagesToSize pages).toNat =
    (alignedMemory alignment memory).toNat + (efiPagesToSize pages).toNat
  surplus : (realPages pages alignment - pages).toNat =
    (realPages pages alignment).toNat - pages.toNat
  notMore : pages.toNat ≤ (realPages pages alignment).toNat
  rest : (tailPages pages alignment memory).toNat =
    (realPages pages alignment - pages).toNat - (headPages alignment memory).toNat
  head : (headPages alignment memory).toNat ≤ (realPages pages alignment - pages).toNat

/-! ### Sizes -/

/-- The first assertion lets powers of two through, and zero. -/
theorem alignment_passes {alignment : Ulong}
    (power : alignment = 0 ∨ ∃ k, alignment.toNat = 2 ^ k) :
    alignment &&& (alignment - 1) = 0 := by
  rcases power with rfl | ⟨k, power⟩
  · rfl
  · have positive : 0 < alignment.toNat := power ▸ Nat.two_pow_pos k
    have one : (1 : Ulong).toNat = 1 := rfl
    have less : (alignment - 1).toNat = alignment.toNat - 1 := by
      rw [BitVec.toNat_sub_of_le (by rw [BitVec.le_def]; omega), one]
    refine BitVec.eq_of_toNat_eq ?_
    rw [BitVec.toNat_and, less]
    exact (Nat.and_sub_one_eq_zero_iff_isPowerOfTwo (Nat.ne_of_gt positive)).mpr ⟨k, power⟩

/-- The second one holds exactly if the sum does not overflow. -/
theorem realPages_gt_iff {pages alignment : Ulong} (large : alignment > efiPageSize) :
    realPages pages alignment > pages ↔
      pages.toNat + (efiSizeToPages alignment).toNat < 2 ^ 64 := by
  have unit : 4096 < alignment.toNat := BitVec.lt_def.mp large
  have count := toNat_efiSizeToPages alignment
  have fits := pages.isLt
  have few := (efiSizeToPages alignment).isLt
  unfold realPages
  rw [gt_iff_lt, BitVec.lt_def, BitVec.toNat_add]
  omega

theorem toNat_efiPagesToSize {pages : Ulong} (fits : pages.toNat * 4096 < 2 ^ 64) :
    (efiPagesToSize pages).toNat = pages.toNat * 4096 := by
  unfold efiPagesToSize
  rw [BitVec.toNat_shiftLeft, Nat.shiftLeft_eq]
  exact Nat.mod_eq_of_lt fits

/-- The next multiple of a unit is less than a unit ahead, and by whole pages if the unit and the
start are whole pages. -/
theorem next_multiple {start unit : Nat} (positive : 0 < unit) (units : 4096 ∣ unit)
    (starts : 4096 ∣ start) :
    start ≤ (start + (unit - 1)) / unit * unit ∧
      (start + (unit - 1)) / unit * unit + 4096 ≤ start + unit := by
  have parts := Nat.div_add_mod (start + (unit - 1)) unit
  have less := Nat.mod_lt (start + (unit - 1)) positive
  have multiple : 4096 ∣ (start + (unit - 1)) / unit * unit := Nat.dvd_mul_left_of_dvd units _
  rw [Nat.mul_comm] at parts
  generalize (start + (unit - 1)) / unit * unit = next at *
  omega

/-- What is freed of some pages -/
def surplus (memory pages : Ulong) : List (Ulong × Ulong) :=
  if pages > 0 then [(memory, pages)] else []

theorem mem_surplus {memory pages : Ulong} {range : Ulong × Ulong}
    (member : range ∈ surplus memory pages) : range = (memory, pages) ∧ 0 < range.2.toNat := by
  unfold surplus at member
  split at member
  next positive =>
    obtain rfl := List.mem_singleton.mp member
    exact ⟨rfl, BitVec.lt_def.mp positive⟩
  next => exact absurd member List.not_mem_nil

theorem countP_surplus (memory pages : Ulong) (page : Nat) :
    (surplus memory pages).countP (fun range => InPages range page) =
      if InPages (memory, pages) page then 1 else 0 := by
  unfold surplus
  split
  next => rw [List.countP_singleton]; simp
  next none =>
    have zero : pages.toNat = 0 := by
      have notPositive := fun positive => none (BitVec.lt_def.mpr positive)
      exact Nat.eq_zero_of_not_pos notPositive
    have outside : ¬ InPages (memory, pages) page := by
      unfold InPages
      dsimp only
      omega
    rw [if_neg outside]
    rfl

/-- Two parts that are apart make up a whole. -/
theorem countP_parts {first second whole : Prop} [Decidable first] [Decidable second]
    [Decidable whole] (apart : ¬ (first ∧ second)) (parts : whole ↔ first ∨ second) :
    (if first then 1 else 0) + (if second then 1 else 0) = if whole then 1 else 0 := by
  by_cases inFirst : first
  · have notSecond : ¬ second := fun inSecond => apart ⟨inFirst, inSecond⟩
    rw [if_pos inFirst, if_neg notSecond, if_pos (parts.mpr (.inl inFirst))]
  · rw [if_neg inFirst, Nat.zero_add]
    refine if_congr ?_ rfl rfl
    rw [parts]
    exact (or_iff_right inFirst).symm

section Oversized

variable {pages alignment memory : Ulong} {k : Nat} (power : alignment.toNat = 2 ^ k)
  (large : 12 < k) (fits : pages.toNat + (efiSizeToPages alignment).toNat < 2 ^ 64)
  (some : 0 < pages.toNat) (whole : WholePages (memory, realPages pages alignment))
include power large fits some whole

/-- The numbers behind the addresses: the aligned one, and what it leaves in front -/
theorem alignedMemory_bounds :
    alignment.toNat ∣ (alignedMemory alignment memory).toNat ∧
      memory.toNat ≤ (alignedMemory alignment memory).toNat ∧
      (alignedMemory alignment memory).toNat + 4096 ≤ memory.toNat + alignment.toNat ∧
      alignment.toNat = (efiSizeToPages alignment).toNat * 4096 ∧
      (realPages pages alignment).toNat = pages.toNat + (efiSizeToPages alignment).toNat ∧
      (alignment - 1).toNat = alignment.toNat - 1 ∧
      (memory + (alignment - 1)).toNat = memory.toNat + (alignment - 1).toNat := by
  obtain ⟨multiple, room⟩ := whole
  have units : 4096 ∣ alignment.toNat := power ▸ Nat.pow_dvd_pow 2 (Nat.le_of_lt large)
  have positive : 0 < alignment.toNat := power ▸ Nat.two_pow_pos k
  have count : alignment.toNat = (efiSizeToPages alignment).toNat * 4096 := by
    rw [toNat_efiSizeToPages]
    omega
  have real : (realPages pages alignment).toNat =
      pages.toNat + (efiSizeToPages alignment).toNat := by
    unfold realPages
    rw [BitVec.toNat_add, Nat.mod_eq_of_lt fits]
  have one : (1 : Ulong).toNat = 1 := rfl
  have mask : (alignment - 1).toNat = alignment.toNat - 1 := by
    rw [BitVec.toNat_sub_of_le (by rw [BitVec.le_def]; omega), one]
  have raised : (memory + (alignment - 1)).toNat = memory.toNat + (alignment - 1).toNat := by
    rw [BitVec.toNat_add, Nat.mod_eq_of_lt]
    dsimp only at room
    omega
  have next := next_multiple positive units multiple
  have address : (alignedMemory alignment memory).toNat =
      (memory.toNat + (alignment.toNat - 1)) / alignment.toNat * alignment.toNat := by
    unfold alignedMemory
    have low : (alignment - 1).toNat = 2 ^ k - 1 := by rw [mask, power]
    rw [toNat_and_not_low _ low, raised, mask, power]
  rw [← address] at next
  exact ⟨address ▸ Nat.dvd_mul_left _ _, next.1, next.2, count, real, mask, raised⟩

/-- With the pages that are granted nothing overflows. -/
theorem computesExactly_of_wholePages : ComputesExactly pages alignment memory := by
  obtain ⟨-, notBelow, near, count, real, mask, raised⟩ :=
    alignedMemory_bounds power large fits some whole
  have room := whole.2
  dsimp only at room
  have size : (efiPagesToSize pages).toNat = pages.toNat * 4096 :=
    toNat_efiPagesToSize (by omega)
  have front : (alignedMemory alignment memory - memory).toNat =
      (alignedMemory alignment memory).toNat - memory.toNat :=
    BitVec.toNat_sub_of_le (BitVec.le_def.mpr notBelow)
  have last : (alignedMemory alignment memory + efiPagesToSize pages).toNat =
      (alignedMemory alignment memory).toNat + (efiPagesToSize pages).toNat := by
    rw [BitVec.toNat_add, Nat.mod_eq_of_lt]
    omega
  have notMore : pages.toNat ≤ (realPages pages alignment).toNat := by omega
  have surplus : (realPages pages alignment - pages).toNat =
      (realPages pages alignment).toNat - pages.toNat :=
    BitVec.toNat_sub_of_le (BitVec.le_def.mpr notMore)
  have head : (headPages alignment memory).toNat ≤ (realPages pages alignment - pages).toNat := by
    unfold headPages
    rw [toNat_efiSizeToPages, front]
    omega
  have rest : (tailPages pages alignment memory).toNat =
      (realPages pages alignment - pages).toNat - (headPages alignment memory).toNat :=
    BitVec.toNat_sub_of_le (BitVec.le_def.mpr head)
  exact { real, mask, raised, front, notBelow, size, last, surplus, notMore, rest, head }

/-- What is freed in front and behind is the surplus. -/
theorem surplus_oversized :
    GivesSurplusBack pages alignment (alignedMemory alignment memory)
      (memory, realPages pages alignment)
      (surplus memory (headPages alignment memory) ++
        surplus (alignedMemory alignment memory + efiPagesToSize pages)
          (tailPages pages alignment memory)) := by
  have exact := computesExactly_of_wholePages power large fits some whole
  obtain ⟨multiple, notBelow, near, count, real, -, -⟩ :=
    alignedMemory_bounds power large fits some whole
  obtain ⟨start, room⟩ := whole
  dsimp only at start room
  have wholeAligned : 4096 ∣ (alignedMemory alignment memory).toNat :=
    Nat.dvd_trans (power ▸ Nat.pow_dvd_pow 2 (Nat.le_of_lt large)) multiple
  have head : (headPages alignment memory).toNat * 4096 =
      (alignedMemory alignment memory).toNat - memory.toNat := by
    unfold headPages
    rw [toNat_efiSizeToPages, exact.front]
    omega
  have last := exact.last
  have tail := exact.rest
  rw [exact.size] at last
  rw [exact.surplus] at tail
  have headEnd : memory.toNat + (headPages alignment memory).toNat * 4096 =
      (alignedMemory alignment memory).toNat := by omega
  have headRoom : memory.toNat + (headPages alignment memory).toNat * 4096 ≤ 2 ^ 64 :=
    headEnd ▸ Nat.le_of_lt (alignedMemory alignment memory).isLt
  have tailStart : 4096 ∣ (alignedMemory alignment memory + efiPagesToSize pages).toNat := by
    omega
  have tailRoom : (alignedMemory alignment memory + efiPagesToSize pages).toNat +
      (tailPages pages alignment memory).toNat * 4096 ≤ 2 ^ 64 := by omega
  refine ⟨.inr multiple, ⟨notBelow, ?_⟩, fun range member => ?_, fun page => ?_⟩
  · dsimp only
    omega
  · rcases List.mem_append.mp member with inFront | behind
    · obtain ⟨rfl, positive⟩ := mem_surplus inFront
      exact ⟨⟨start, headRoom⟩, positive⟩
    · obtain ⟨rfl, positive⟩ := mem_surplus behind
      exact ⟨⟨tailStart, tailRoom⟩, positive⟩
  · rw [List.countP_append, countP_surplus, countP_surplus]
    refine countP_parts ?_ ?_
    · intro both
      unfold InPages at both
      dsimp only at both
      omega
    · unfold InPages
      dsimp only
      omega

end Oversized

/-- Up to the size of a page nothing is surplus. -/
theorem surplus_small {pages alignment memory : Ulong} (small : ¬ alignment > efiPageSize)
    (power : alignment = 0 ∨ ∃ k, alignment.toNat = 2 ^ k) (whole : WholePages (memory, pages)) :
    GivesSurplusBack pages alignment memory (memory, pages) [] := by
  have page : alignment.toNat ≤ 4096 := by
    by_contra larger
    exact small (BitVec.lt_def.mpr (Nat.lt_of_not_le larger))
  refine ⟨power.imp id ?_, ⟨Nat.le_refl _, Nat.le_refl _⟩, fun range member => ?_, fun page => ?_⟩
  · rintro ⟨k, power⟩
    have divides : 2 ^ k ∣ 2 ^ 12 := by
      refine Nat.pow_dvd_pow 2 ?_
      rw [power] at page
      exact (Nat.pow_le_pow_iff_right (by decide : 1 < 2)).mp page
    exact power ▸ Nat.dvd_trans divides whole.1
  · exact absurd member List.not_mem_nil
  · rw [if_neg (fun parts => parts.2 parts.1)]
    rfl

/-! ### Runs -/

section Runs

variable {lowMemoryTop : Ulong} {memoryType : U32} {pages alignment : Ulong}
  {trace : List PageExchange}

theorem grantedPages_append (front behind : List PageExchange) :
    grantedPages (front ++ behind) = grantedPages front ++ grantedPages behind :=
  List.filterMap_append

theorem freedPages_append (front behind : List PageExchange) :
    freedPages (front ++ behind) = freedPages front ++ freedPages behind :=
  List.filterMap_append

theorem grantedPages_grant (asked memory : Ulong) (rest : List PageExchange) :
    grantedPages (⟨.allocatePages memoryType asked lowMemoryTop, some memory⟩ :: rest) =
      (memory, asked) :: grantedPages rest := rfl

theorem freedPages_grant (asked memory : Ulong) (rest : List PageExchange) :
    freedPages (⟨.allocatePages memoryType asked lowMemoryTop, some memory⟩ :: rest) =
      freedPages rest := rfl

theorem run_freeSurplus {memory : Ulong} {well : Bool}
    (run : Program.Run (freeSurplus memory pages) trace well) :
    grantedPages trace = [] ∧ freedPages trace = surplus memory pages ∧
      (well = false → ∃ exchange ∈ trace, ∃ memory count,
        exchange = ⟨.freePages memory count, false⟩) := by
  unfold freeSurplus at run
  unfold surplus
  split at run
  next positive =>
    obtain ⟨reply, rest, rfl, ended⟩ := run_call_iff.mp run
    obtain ⟨rfl, rfl⟩ := run_pure_iff.mp ended
    rw [if_pos positive]
    refine ⟨rfl, rfl, fun failed => ⟨_, List.mem_cons_self, memory, pages, ?_⟩⟩
    rw [failed]
  next none =>
    obtain ⟨rfl, rfl⟩ := run_pure_iff.mp run
    rw [if_neg none]
    exact ⟨rfl, rfl, fun failed => nomatch failed⟩

/-- How the runs end that get past the first assertion: with no pages, with those that are asked
for, with more of them, or where an assertion fails. -/
theorem run_internalAllocateAlignedPages32 {outcome : Option Ulong}
    (passes : alignment &&& (alignment - 1) = 0)
    (run : Program.Run (internalAllocateAlignedPages32 lowMemoryTop memoryType pages alignment)
      trace outcome) :
    (grantedPages trace = [] ∧ freedPages trace = [] ∧ outcome = some 0) ∨
    (¬ alignment > efiPageSize ∧ ∃ memory, grantedPages trace = [(memory, pages)] ∧
      freedPages trace = [] ∧ outcome = some memory) ∨
    (alignment > efiPageSize ∧ pages ≠ 0 ∧ realPages pages alignment > pages ∧
      ∃ memory, grantedPages trace = [(memory, realPages pages alignment)] ∧
        freedPages trace = surplus memory (headPages alignment memory) ++
          surplus (alignedMemory alignment memory + efiPagesToSize pages)
            (tailPages pages alignment memory) ∧
        outcome = some (alignedMemory alignment memory)) ∨
    (outcome = none ∧ ((alignment > efiPageSize ∧ ¬ realPages pages alignment > pages) ∨
      ∃ exchange ∈ trace, ∃ memory count, exchange = ⟨.freePages memory count, false⟩)) := by
  unfold internalAllocateAlignedPages32 at run
  rw [if_neg (not_not_intro passes)] at run
  split at run
  next none =>
    obtain ⟨rfl, rfl⟩ := run_pure_iff.mp run
    exact .inl ⟨rfl, rfl, rfl⟩
  next nonempty =>
    split at run
    next large =>
      split at run
      next overflows =>
        obtain ⟨rfl, rfl⟩ := run_pure_iff.mp run
        exact .inr (.inr (.inr ⟨rfl, .inl ⟨large, overflows⟩⟩))
      next fits =>
        obtain ⟨reply, rest, rfl, goesOn⟩ := run_send_bind_iff.mp run
        cases reply with
        | none =>
          obtain ⟨rfl, rfl⟩ := run_pure_iff.mp goesOn
          exact .inl ⟨rfl, rfl, rfl⟩
        | some memory =>
          obtain ⟨front, well, last, rfl, first, goesOn⟩ := run_bind_iff.mp goesOn
          obtain ⟨noneThere, inFront, failsFirst⟩ := run_freeSurplus first
          cases well with
          | false =>
            obtain ⟨exchange, member, failed⟩ := failsFirst rfl
            obtain ⟨rfl, rfl⟩ := run_pure_iff.mp goesOn
            exact .inr (.inr (.inr ⟨rfl, .inr ⟨exchange, List.mem_cons_of_mem _
              (List.mem_append_left _ member), failed⟩⟩))
          | true =>
            obtain ⟨behind, well, after, rfl, second, goesOn⟩ := run_bind_iff.mp goesOn
            obtain ⟨noneHere, atEnd, failsSecond⟩ := run_freeSurplus second
            cases well with
            | false =>
              obtain ⟨exchange, member, failed⟩ := failsSecond rfl
              obtain ⟨rfl, rfl⟩ := run_pure_iff.mp goesOn
              exact .inr (.inr (.inr ⟨rfl, .inr ⟨exchange, List.mem_cons_of_mem _
                (List.mem_append_right _ (List.mem_append_left _ member)), failed⟩⟩))
            | true =>
              obtain ⟨rfl, rfl⟩ := run_pure_iff.mp goesOn
              refine .inr (.inr (.inl ⟨large, nonempty, not_not.mp fits, memory, ?_, ?_, rfl⟩))
              · rw [List.append_nil, grantedPages_grant, grantedPages_append, noneThere, noneHere]
                rfl
              · rw [List.append_nil, freedPages_grant, freedPages_append, inFront, atEnd]
    next small =>
      obtain ⟨reply, rest, rfl, goesOn⟩ := run_send_bind_iff.mp run
      cases reply with
      | none =>
        obtain ⟨rfl, rfl⟩ := run_pure_iff.mp goesOn
        exact .inl ⟨rfl, rfl, rfl⟩
      | some memory =>
        obtain ⟨rfl, rfl⟩ := run_pure_iff.mp goesOn
        exact .inr (.inl ⟨small, memory, rfl, rfl, rfl⟩)

end Runs

/-- For every alignment that the assertion lets through, whatever whole pages the allocator may
return: the range that a run returns is aligned and inside the pages that were granted, what is
given back is each other page of them, once, and nothing that is computed overflows. A run is
stopped only where the number of pages overflows, or where freeing fails. -/
theorem alignedPages_exact (lowMemoryTop : Ulong) (memoryType : U32) (pages alignment : Ulong)
    (power : alignment = 0 ∨ ∃ k, alignment.toNat = 2 ^ k) :
    (∀ trace result,
      Program.Run (internalAllocateAlignedPages32 lowMemoryTop memoryType pages alignment) trace
        (some result) →
      (∀ granted ∈ grantedPages trace, WholePages granted) →
      (grantedPages trace = [] ∧ freedPages trace = [] ∧ result = 0) ∨
        ∃ granted, grantedPages trace = [granted] ∧
          GivesSurplusBack pages alignment result granted (freedPages trace) ∧
          (alignment > efiPageSize → granted.2 = realPages pages alignment ∧
            ComputesExactly pages alignment granted.1)) ∧
    ∀ trace,
      Program.Run (internalAllocateAlignedPages32 lowMemoryTop memoryType pages alignment) trace
        none →
      2 ^ 64 ≤ pages.toNat + (efiSizeToPages alignment).toNat ∨
        ∃ exchange ∈ trace, ∃ memory count, exchange = ⟨.freePages memory count, false⟩ := by
  have passes := alignment_passes power
  refine ⟨fun trace result run whole => ?_, fun trace run => ?_⟩
  · rcases run_internalAllocateAlignedPages32 passes run with
      ⟨granted, freed, null⟩ | ⟨small, memory, granted, freed, address⟩ |
        ⟨large, nonempty, more, memory, granted, freed, address⟩ | ⟨stopped, -⟩
    · exact .inl ⟨granted, freed, Option.some.inj null⟩
    · rw [granted, List.forall_mem_singleton] at whole
      refine .inr ⟨(memory, pages), granted, ?_, fun large => absurd large small⟩
      rw [freed, Option.some.inj address]
      exact surplus_small small power whole
    · rw [granted, List.forall_mem_singleton] at whole
      have unit : 4096 < alignment.toNat := BitVec.lt_def.mp large
      obtain ⟨k, power⟩ : ∃ k, alignment.toNat = 2 ^ k := by
        rcases power with rfl | power
        · exact absurd unit (by decide)
        · exact power
      have exponent : 12 < k := by
        rw [power] at unit
        exact (Nat.pow_lt_pow_iff_right (by decide : 1 < 2)).mp unit
      have fits := (realPages_gt_iff large).mp more
      have positive : 0 < pages.toNat :=
        Nat.pos_of_ne_zero fun zero => nonempty (BitVec.eq_of_toNat_eq zero)
      refine .inr ⟨(memory, realPages pages alignment), granted, ?_, fun _ => ⟨rfl, ?_⟩⟩
      · rw [freed, Option.some.inj address]
        exact surplus_oversized power exponent fits positive whole
      · exact computesExactly_of_wholePages power exponent fits positive whole
    · exact nomatch stopped
  · rcases run_internalAllocateAlignedPages32 passes run with
      ⟨-, -, null⟩ | ⟨-, _, -, -, address⟩ | ⟨-, -, -, _, -, -, address⟩ | ⟨-, fails⟩
    · exact nomatch null
    · exact nomatch address
    · exact nomatch address
    · rcases fails with ⟨large, overflows⟩ | failed
      · refine .inl (Nat.le_of_not_lt fun fits => overflows ((realPages_gt_iff large).mpr fits))
      · exact .inr failed

/-! ### Pages of a known allocator -/

/-- An allocator that answers by a function, and frees what it is told to -/
def servePages (allocatePages : Ulong → Option Ulong) :
    (request : PageRequest) → Unit → request.Reply × Unit
  | .allocatePages _ pages _, _ => (allocatePages pages, ())
  | .freePages _ _, _ => (true, ())

@[simp]
theorem exec_freeSurplus (allocatePages : Ulong → Option Ulong) (memory pages : Ulong) :
    exec (servePages allocatePages) (freeSurplus memory pages) () = (true, ()) := by
  unfold freeSurplus
  split <;> rfl

/-- Unless an assertion stops it, the address is the one by which the buffers that stand in are
obtained. -/
theorem exec_internalAllocateAlignedPages32 (allocatePages : Ulong → Option Ulong)
    (lowMemoryTop : Ulong) (memoryType : U32) {pages alignment : Ulong}
    (power : alignment = 0 ∨ ∃ k, alignment.toNat = 2 ^ k)
    (fits : pages.toNat + (efiSizeToPages alignment).toNat < 2 ^ 64) :
    (exec (servePages allocatePages)
      (internalAllocateAlignedPages32 lowMemoryTop memoryType pages alignment) ()).1 =
        some (allocateAlignedPages32 allocatePages pages alignment) := by
  unfold internalAllocateAlignedPages32 allocateAlignedPages32
  rw [if_neg (not_not_intro (alignment_passes power))]
  by_cases empty : pages = 0
  · rw [if_pos empty, if_pos empty]
    rfl
  · rw [if_neg empty, if_neg empty]
    by_cases large : alignment > efiPageSize
    · have more := (realPages_gt_iff large).mpr fits
      rw [if_pos large, if_pos large, if_neg (not_not_intro more), exec_bind,
        exec_send]
      simp only [servePages, realPages]
      cases allocatePages (pages + efiSizeToPages alignment) with
      | none => rfl
      | some memory =>
        dsimp only
        simp only [exec_bind, exec_freeSurplus, Bool.not_true, Bool.false_eq_true,
          if_false, exec_pure]
        rfl
    · rw [if_neg large, if_neg large, exec_bind, exec_send]
      simp only [servePages]
      cases allocatePages pages with
      | none | some => rfl

/-! ### Three pages at a multiple of four -/

/-- A run for an alignment of 16 KiB, where seven pages are granted from the second of four on -/
def threePages : List PageExchange :=
  trace (servePages fun _ => some 0x41001000)
    (internalAllocateAlignedPages32 0x80000000 4 3 0x4000) ()

theorem alignedPages_exact_threePages :
    grantedPages threePages = [(0x41001000, 7)] ∧
      freedPages threePages = [(0x41001000, 3), (0x41007000, 1)] ∧
      GivesSurplusBack 3 0x4000 0x41004000 (0x41001000, 7) (freedPages threePages) := by
  have run : Program.Run (internalAllocateAlignedPages32 0x80000000 4 3 0x4000) threePages
      (some 0x41004000) :=
    run_exec (servePages fun _ => some 0x41001000) _ ()
  have granted : grantedPages threePages = [(0x41001000, 7)] := by decide
  have whole : ∀ range ∈ grantedPages threePages, WholePages range := by
    rw [granted, List.forall_mem_singleton]
    exact ⟨⟨0x41001, rfl⟩, by decide⟩
  refine ⟨granted, by decide, ?_⟩
  rcases (alignedPages_exact 0x80000000 4 3 0x4000 (.inr ⟨14, rfl⟩)).1 threePages _ run whole with
    ⟨none, -⟩ | ⟨range, same, back, -⟩
  · exact absurd (granted.symm.trans none) (List.cons_ne_nil _ _)
  · obtain rfl := List.singleton_injective (same.symm.trans granted)
    exact back

end PinePhonePkg
