/-
This file settles the secure storage: where the two copies of an item lie, and
what a read returns after any sequence of writes and reads in which block writes
fail. The item number is checked against one item too many, so the last accepted
item lies behind the secure area. A read that compares the copies returns the
data of one write as long as one of the copies was written completely; a read of
the backup does not compare, and needs the second copy to be complete.
-/

import PinePhonePkg.Library.TwoCopies
import PinePhonePkg.Card.Frame
import PinePhonePkg.Card.RoundTrip
import PinePhonePkg.Mmc.SecureArea

namespace PinePhonePkg

open Library Program

/-! ### Where the copies lie -/

/-- The functions of the secure storage go on to the card with this item and block count. -/
def Accepted (item blkcnt : U32) : Prop :=
  item ≤ maxSecureStorageMaxItem ∧ blkcnt ≤ sdmmcItemSize

instance (item blkcnt : U32) : Decidable (Accepted item blkcnt) :=
  inferInstanceAs (Decidable (_ ∧ _))

/-- The sector of a copy of an item -/
def copyStart (item : U32) (second : Bool) : U32 :=
  if second then secondCopy item else firstCopy item

theorem firstCopy_toNat {item : U32} (bounded : item ≤ maxSecureStorageMaxItem) :
    (firstCopy item).toNat = 12288 + 16 * item.toNat := by
  have small : item.toNat ≤ 32 := bounded
  have size : sdmmcItemSize * 2 = 16 := by decide
  unfold firstCopy
  rw [sdmmcSecureStorageStartAdd_eq, size]
  bv_omega

theorem secondCopy_toNat {item : U32} (bounded : item ≤ maxSecureStorageMaxItem) :
    (secondCopy item).toNat = 12296 + 16 * item.toNat := by
  have small : item.toNat ≤ 32 := bounded
  have size : sdmmcItemSize * 2 = 16 := by decide
  have half : sdmmcItemSize = 8 := by decide
  unfold secondCopy
  rw [size, half, sdmmcSecureStorageStartAdd_eq]
  bv_omega

theorem copyStart_toNat {item : U32} (bounded : item ≤ maxSecureStorageMaxItem) (second : Bool) :
    (copyStart item second).toNat = 12288 + 16 * item.toNat + if second then 8 else 0 := by
  unfold copyStart
  cases second with
  | false => exact firstCopy_toNat bounded
  | true =>
    show (secondCopy item).toNat = _
    rw [secondCopy_toNat bounded]
    show 12296 + 16 * item.toNat = 12288 + 16 * item.toNat + 8
    omega

/-- The blocks of one copy. -/
def InCopy (item : U32) (second : Bool) (blkcnt : U32) (sector : Nat) : Prop :=
  (copyStart item second).toNat ≤ sector ∧
    sector < (copyStart item second).toNat + blkcnt.toNat

/-- Only the last item that is accepted lies outside the secure area. -/
theorem copies_inSecureArea_iff {item blkcnt : U32} (accepted : Accepted item blkcnt)
    (positive : 0 < blkcnt) :
    (∀ second sector, InCopy item second blkcnt sector → InSecureArea sector) ↔ item < 32 := by
  have half : blkcnt.toNat ≤ 8 := accepted.2
  have count : 0 < blkcnt.toNat := by bv_omega
  have starts := copyStart_toNat accepted.1
  constructor
  · intro inside
    have first := inside false (copyStart item false).toNat ⟨Nat.le_refl _, by omega⟩
    have last : (copyStart item false).toNat < 12800 := first.2
    rw [starts false] at last
    simp only [Bool.false_eq_true, if_false] at last
    bv_omega
  · intro small second sector copy
    have bound : item.toNat < 32 := small
    unfold InCopy at copy
    rw [starts second] at copy
    unfold InSecureArea
    cases second <;> simp only [Bool.false_eq_true, if_false, if_true] at copy <;> omega

/-- Different copies have no block in common. -/
theorem copies_disjoint {item other blkcnt : U32} (accepted : Accepted item blkcnt)
    (otherAccepted : Accepted other blkcnt) {second otherSecond : Bool}
    (different : (item, second) ≠ (other, otherSecond)) :
    (copyStart item second).toNat + blkcnt.toNat ≤ (copyStart other otherSecond).toNat ∨
      (copyStart other otherSecond).toNat + blkcnt.toNat ≤ (copyStart item second).toNat := by
  have half : blkcnt.toNat ≤ 8 := accepted.2
  rw [copyStart_toNat accepted.1, copyStart_toNat otherAccepted.1]
  by_cases same : item = other
  · subst same
    cases second <;> cases otherSecond
    · exact absurd rfl different
    · exact Or.inl (by simp only [Bool.false_eq_true, if_false, if_true]; omega)
    · exact Or.inr (by simp only [Bool.false_eq_true, if_false, if_true]; omega)
    · exact absurd rfl different
  · have apart : item.toNat ≠ other.toNat := fun equal => same (BitVec.eq_of_toNat_eq equal)
    cases second <;> cases otherSecond <;>
      simp only [Bool.false_eq_true, if_false, if_true] <;> omega

/-! ### One copy on the card -/

/-- The bytes of the current partition from this block on. -/
def Card.bytesAt (card : Card) (start : U32) : Buffer :=
  (card.media card.access).drop (start.toNat * 512)

theorem copy_addressable (mmc : Mmc) {item blkcnt : U32} (accepted : Accepted item blkcnt)
    (second : Bool) : mmc.Addressable (copyStart item second) blkcnt := by
  have half : blkcnt.toNat ≤ 8 := accepted.2
  have small : item.toNat ≤ 32 := accepted.1
  have start := copyStart_toNat accepted.1 second
  have bound : (copyStart item second).toNat ≤ 12816 := by
    rw [start]
    cases second <;> simp only [Bool.false_eq_true, if_false, if_true] <;> omega
  unfold Mmc.Addressable
  split <;> omega

theorem small_chunksFit (mmc : Mmc) {blkcnt : U32} (half : blkcnt ≤ sdmmcItemSize) :
    mmc.ChunksFit blkcnt := by
  have bound : blkcnt.toNat ≤ 8 := half
  unfold Mmc.ChunksFit
  bv_omega

/-- A block count that comes back through a 32-bit number is the count that was asked for. -/
theorem counted_of_narrowed {count : Ulong} {blkcnt : U32} (positive : 0 < blkcnt)
    (all : count = 0 ∨ count = blkcnt.setWidth 64) (narrowed : count.setWidth 32 = blkcnt) :
    count = blkcnt.setWidth 64 := by
  rcases all with zero | counted
  · rw [zero] at narrowed
    exact absurd narrowed (by bv_omega)
  · exact counted

section Copy

variable {mmc : Mmc} {item blkcnt : U32} {world : World}

theorem exec_writeCopy_kept (matched : Matches mmc world.card) (accepted : Accepted item blkcnt)
    (second : Bool) (data : Buffer) :
    world.card.KeptOutside (copyStart item second).toNat
      ((copyStart item second).toNat + blkcnt.toNat)
      ((mmcBwrite (some mmc) (copyStart item second) blkcnt data).exec serve world).2.card :=
  exec_mmcBwrite_kept mmc _ blkcnt data world matched (copy_addressable mmc accepted second)

/-- A write of a copy that reports its block count has put the data there. -/
theorem exec_writeCopy_agree (matched : Matches mmc world.card) (accepted : Accepted item blkcnt)
    (second : Bool) (data : Buffer)
    (counted : ((mmcBwrite (some mmc) (copyStart item second) blkcnt data).exec serve
      world).1.setWidth 32 = blkcnt) :
    Memory.Agree (blkcnt.toNat * 512)
      (((mmcBwrite (some mmc) (copyStart item second) blkcnt data).exec serve
        world).2.card.bytesAt (copyStart item second)) data := by
  by_cases nothing : blkcnt = 0
  · subst nothing
    exact fun address inside => absurd inside (by simp)
  · have positive : 0 < blkcnt := by bv_omega
    have all := (always_mmcBwrite_count (some mmc) (copyStart item second) blkcnt data).result
      serve world
    obtain ⟨transfers, _, wrote⟩ := exec_mmcBwrite_card mmc _ blkcnt data world matched
      (copy_addressable mmc accepted second) (small_chunksFit mmc accepted.2) positive
      (counted_of_narrowed positive all counted)
    unfold Card.bytesAt
    rw [wrote, wrote_access, wrote_media_self]
    exact Memory.agree_drop_overwrite _ _ _ _

/-- A read of a copy that reports its block count has put the bytes of the card in the buffer. -/
theorem exec_readCopy_agree (world : World) (matched : Matches mmc world.card)
    (accepted : Accepted item blkcnt) (second : Bool) (buf : Buffer)
    (counted : ((mmcBread (some mmc) (copyStart item second) blkcnt buf).exec serve
      world).1.1.setWidth 32 = blkcnt) :
    Memory.Agree (blkcnt.toNat * 512)
      ((mmcBread (some mmc) (copyStart item second) blkcnt buf).exec serve world).1.2
      (world.card.bytesAt (copyStart item second)) := by
  by_cases nothing : blkcnt = 0
  · subst nothing
    exact fun address inside => absurd inside (by simp)
  · have positive : 0 < blkcnt := by bv_omega
    have all := (always_mmcBread_count (some mmc) (copyStart item second) blkcnt buf).result
      serve world
    have filled := exec_mmcBread_buffer mmc _ blkcnt buf world matched
      (copy_addressable mmc accepted second) (small_chunksFit mmc accepted.2) positive
      (counted_of_narrowed positive all counted)
    intro address inside
    have read := Memory.overwrite_inside buf 0 (blkcnt.toNat * 512)
      (world.card.bytesAt (copyStart item second)) address inside
    rw [Nat.zero_add] at read
    rw [filled]
    exact read

end Copy

/-! ### The functions of the secure storage -/

/-- How the two block writes of a write of this item go in this world. -/
def writeOutcome (mmc : Mmc) (blkcnt item : U32) (data : Buffer) (world : World) : Outcome :=
  let first := (mmcBwrite (some mmc) (firstCopy item) blkcnt data).exec serve world
  let second := (mmcBwrite (some mmc) (secondCopy item) blkcnt data).exec serve first.2
  if first.1.setWidth 32 ≠ blkcnt then .firstFailed
  else if second.1.setWidth 32 ≠ blkcnt then .secondFailed
  else .done

theorem writeOutcome_spec (mmc : Mmc) (blkcnt item : U32) (data : Buffer) (world : World) :
    let first := (mmcBwrite (some mmc) (firstCopy item) blkcnt data).exec serve world
    let second := (mmcBwrite (some mmc) (secondCopy item) blkcnt data).exec serve first.2
    (writeOutcome mmc blkcnt item data world ≠ .firstFailed → first.1.setWidth 32 = blkcnt) ∧
      (writeOutcome mmc blkcnt item data world = .done → second.1.setWidth 32 = blkcnt) := by
  unfold writeOutcome
  dsimp only
  split
  · exact ⟨fun wrong => absurd rfl wrong, fun wrong => absurd wrong Outcome.noConfusion⟩
  rename_i first
  split
  · exact ⟨fun _ => not_not.mp first, fun wrong => absurd wrong Outcome.noConfusion⟩
  · rename_i second
    exact ⟨fun _ => not_not.mp first, fun _ => not_not.mp second⟩

section Functions

variable {mmc : Mmc} {item blkcnt : U32}

theorem exec_sdmmcSecureStorageWrite (accepted : Accepted item blkcnt) (data : Buffer)
    (world : World) :
    (sdmmcSecureStorageWrite (some mmc) item (some data) blkcnt).exec serve world =
      let first := (mmcBwrite (some mmc) (firstCopy item) blkcnt data).exec serve world
      let second := (mmcBwrite (some mmc) (secondCopy item) blkcnt data).exec serve first.2
      match writeOutcome mmc blkcnt item data world with
      | .firstFailed => (-1, first.2)
      | .secondFailed => (-1, second.2)
      | .done => (blkcnt.toInt, second.2) := by
  unfold sdmmcSecureStorageWrite writeOutcome
  dsimp only
  rw [if_neg (BitVec.not_lt.mpr accepted.1), if_neg (BitVec.not_lt.mpr accepted.2),
    exec_bind, exec_ite]
  split
  · rfl
  · rw [exec_bind, exec_ite]
    split <;> rfl

theorem blkcnt_bytes (accepted : Accepted item blkcnt) :
    (blkcnt * 512).toNat = blkcnt.toNat * 512 := by
  have half : blkcnt.toNat ≤ 8 := accepted.2
  bv_omega

/-- The call succeeded and left these bytes in the caller's buffer. -/
def Returns (blkcnt : U32) (result : Int × Option Buffer) (bytes : Buffer) : Prop :=
  result.1 = blkcnt.toInt ∧
    ∃ out, result.2 = some out ∧ Memory.Agree (blkcnt.toNat * 512) out bytes

instance (blkcnt : U32) (result : Int × Option Buffer) (bytes : Buffer) :
    Decidable (Returns blkcnt result bytes) :=
  match result with
  | (_, none) => isFalse fun ⟨_, _, equal, _⟩ => absurd equal.symm (Option.some_ne_none _)
  | (ret, some out) =>
    decidable_of_iff (ret = blkcnt.toInt ∧ Memory.Agree (blkcnt.toNat * 512) out bytes)
      ⟨fun ⟨success, agree⟩ => ⟨success, out, rfl, agree⟩,
        fun ⟨success, _, equal, agree⟩ => ⟨success, Option.some.inj equal ▸ agree⟩⟩

theorem exec_sdmmcSecureStorageReadBackup (accepted : Accepted item blkcnt) (buf : Buffer)
    (world : World) :
    (sdmmcSecureStorageReadBackup (some mmc) item (some buf) blkcnt).exec serve world =
      let read := (mmcBread (some mmc) (secondCopy item) blkcnt buf).exec serve world
      if read.1.1.setWidth 32 ≠ blkcnt then ((-1, some read.1.2), read.2)
      else (((read.1.1.setWidth 32).toInt, some read.1.2), read.2) := by
  unfold sdmmcSecureStorageReadBackup
  dsimp only
  rw [if_neg (BitVec.not_lt.mpr accepted.1), if_neg (BitVec.not_lt.mpr accepted.2)]
  refine (exec_bind serve _ _ world).trans ?_
  rw [exec_ite]
  rfl

/-- A read of the backup returns an error or the second copy. -/
theorem readBackup_returns (accepted : Accepted item blkcnt) (buf : Buffer) (world : World)
    (matched : Matches mmc world.card) :
    let run := (sdmmcSecureStorageReadBackup (some mmc) item (some buf) blkcnt).exec serve world
    world.card.KeptOutside 0 0 run.2.card ∧
      (run.1.1 = -1 ∨ Returns blkcnt run.1 (world.card.bytesAt (secondCopy item))) := by
  have kept := exec_mmcBread_kept mmc (secondCopy item) blkcnt buf world
  rw [exec_sdmmcSecureStorageReadBackup accepted buf world]
  dsimp only
  split
  · exact ⟨kept, Or.inl rfl⟩
  · rename_i counted
    have agree := exec_readCopy_agree world matched accepted true buf (not_not.mp counted)
    exact ⟨kept, Or.inr ⟨congrArg BitVec.toInt (not_not.mp counted), _, rfl, agree⟩⟩

/-- What the second half of a read does with the buffers it got. -/
def readCopies (mmc : Mmc) (item blkcnt : U32) (buf fstBak secBak : Buffer) :
    Driver (Int × Option Buffer) := do
  let (ret, fstBak) ← mmcBread (some mmc) (firstCopy item) blkcnt fstBak
  if ret.setWidth 32 ≠ blkcnt then
    return (-1, some buf)
  let (ret, secBak) ← mmcBread (some mmc) (secondCopy item) blkcnt secBak
  if ret.setWidth 32 ≠ blkcnt then
    return (-1, some buf)
  if ¬ Memory.Agree (blkcnt * 512).toNat fstBak secBak then
    return (-1, some buf)
  return (blkcnt.toInt, some (buf.overwrite 0 (blkcnt * 512).toNat fstBak))

theorem exec_readCopies (buf fstBak secBak : Buffer) (world : World) :
    (readCopies mmc item blkcnt buf fstBak secBak).exec serve world =
      let first := (mmcBread (some mmc) (firstCopy item) blkcnt fstBak).exec serve world
      let second := (mmcBread (some mmc) (secondCopy item) blkcnt secBak).exec serve first.2
      if first.1.1.setWidth 32 ≠ blkcnt then ((-1, some buf), first.2)
      else if second.1.1.setWidth 32 ≠ blkcnt then ((-1, some buf), second.2)
      else if ¬ Memory.Agree (blkcnt * 512).toNat first.1.2 second.1.2 then
        ((-1, some buf), second.2)
      else ((blkcnt.toInt, some (buf.overwrite 0 (blkcnt * 512).toNat first.1.2)), second.2) := by
  unfold readCopies
  refine (exec_bind serve _ _ world).trans ?_
  rw [exec_ite]
  dsimp only
  split
  · rfl
  · refine (exec_bind serve _ _ _).trans ?_
    rw [exec_ite, exec_ite]
    rfl

/-- After both allocations a read goes on with whatever memory it got; without them it fails. -/
theorem exec_sdmmcSecureStorageRead (accepted : Accepted item blkcnt) (buf : Buffer)
    (world : World) :
    (sdmmcSecureStorageRead (some mmc) item (some buf) blkcnt).exec serve world =
      match world.plan.malloc world.mallocs, world.plan.malloc (world.mallocs + 1) with
      | some fstBak, some secBak =>
        (readCopies mmc item blkcnt buf fstBak secBak).exec serve
          { world with mallocs := world.mallocs + 2 }
      | some _, none => ((-1, some buf), { world with mallocs := world.mallocs + 2 })
      | none, _ => ((-1, some buf), { world with mallocs := world.mallocs + 1 }) := by
  unfold sdmmcSecureStorageRead
  dsimp only
  rw [if_neg (BitVec.not_lt.mpr accepted.1), if_neg (BitVec.not_lt.mpr accepted.2)]
  have first (size : Ulong) : (malloc size).exec serve world =
      (world.plan.malloc world.mallocs, { world with mallocs := world.mallocs + 1 }) := rfl
  have second (size : Ulong) :
      (malloc size).exec serve { world with mallocs := world.mallocs + 1 } =
        (world.plan.malloc (world.mallocs + 1), { world with mallocs := world.mallocs + 2 }) := rfl
  rw [exec_bind, first]
  cases world.plan.malloc world.mallocs with
  | none => rfl
  | some fstBak =>
    dsimp only
    rw [exec_bind, second]
    cases world.plan.malloc (world.mallocs + 1) with
    | none | some => rfl

theorem bytesAt_kept {before after : Card} (kept : before.KeptOutside 0 0 after) (start : U32)
    (count : Nat) : Memory.Agree (count * 512) (after.bytesAt start) (before.bytesAt start) :=
  kept.agree (Or.inr (Nat.zero_le _))

theorem readCopies_returns (accepted : Accepted item blkcnt) (buf fstBak secBak : Buffer)
    (world : World) (matched : Matches mmc world.card) :
    let run := (readCopies mmc item blkcnt buf fstBak secBak).exec serve world
    world.card.KeptOutside 0 0 run.2.card ∧
      (run.1.1 = -1 ∨ Returns blkcnt run.1 (world.card.bytesAt (firstCopy item)) ∧
        Memory.Agree (blkcnt.toNat * 512) (world.card.bytesAt (firstCopy item))
          (world.card.bytesAt (secondCopy item))) := by
  have kept := exec_mmcBread_kept mmc (firstCopy item) blkcnt fstBak world
  have stillMatched := kept.matches_of matched
  have keptAgain := exec_mmcBread_kept mmc (secondCopy item) blkcnt secBak
    ((mmcBread (some mmc) (copyStart item false) blkcnt fstBak).exec serve world).2
  rw [exec_readCopies]
  dsimp only
  split
  · exact ⟨kept, Or.inl rfl⟩
  rename_i firstCounted
  split
  · exact ⟨kept.trans keptAgain, Or.inl rfl⟩
  rename_i secondCounted
  rw [blkcnt_bytes accepted]
  split
  · exact ⟨kept.trans keptAgain, Or.inl rfl⟩
  rename_i equal
  have first := exec_readCopy_agree world matched accepted false fstBak (not_not.mp firstCounted)
  have second := exec_readCopy_agree _ stillMatched accepted true secBak (not_not.mp secondCounted)
  refine ⟨kept.trans keptAgain, Or.inr ⟨⟨rfl, _, rfl, fun address inside => ?_⟩, ?_⟩⟩
  · have copied := Memory.overwrite_inside buf 0 (blkcnt.toNat * 512)
      ((mmcBread (some mmc) (firstCopy item) blkcnt fstBak).exec serve world).1.2 address inside
    rw [Nat.zero_add] at copied
    exact copied.trans (first address inside)
  · exact first.symm.trans ((not_not.mp equal).trans (second.trans (bytesAt_kept kept _ _)))

/-- A read returns an error, or both copies are equal and it returns them. -/
theorem read_returns (accepted : Accepted item blkcnt) (buf : Buffer) (world : World)
    (matched : Matches mmc world.card) :
    let run := (sdmmcSecureStorageRead (some mmc) item (some buf) blkcnt).exec serve world
    world.card.KeptOutside 0 0 run.2.card ∧
      (run.1.1 = -1 ∨ Returns blkcnt run.1 (world.card.bytesAt (firstCopy item)) ∧
        Memory.Agree (blkcnt.toNat * 512) (world.card.bytesAt (firstCopy item))
          (world.card.bytesAt (secondCopy item))) := by
  rw [exec_sdmmcSecureStorageRead accepted buf world]
  dsimp only
  split
  · exact readCopies_returns accepted buf _ _ { world with mallocs := world.mallocs + 2 } matched
  · exact ⟨Card.KeptOutside.refl _ 0 0, Or.inl rfl⟩
  · exact ⟨Card.KeptOutside.refl _ 0 0, Or.inl rfl⟩

/-- When every command succeeds, a read of blocks on the card counts them all. -/
theorem counted_of_well {world : World} (well : world.Well) (start : U32) (dst : Buffer)
    (inside : mmc.Contains start blkcnt) :
    ((mmcBread (some mmc) start blkcnt dst).exec serve world).1.1.setWidth 32 = blkcnt ∧
      ((mmcBread (some mmc) start blkcnt dst).exec serve world).2.Well := by
  by_cases nothing : blkcnt = 0
  · subst nothing
    exact ⟨rfl, well⟩
  · have bound : start.toNat + blkcnt.toNat ≤ mmc.blockDev.lba.toNat := inside
    obtain ⟨counted, stillWell⟩ := exec_succeeds
      (succeeds_mmcBread mmc start blkcnt dst (by bv_omega) (by bv_omega)) well
    exact ⟨by rw [counted]; bv_omega, stillWell⟩

/-- When every command succeeds and the copies are equal, a read returns no error. -/
theorem read_succeeds (accepted : Accepted item blkcnt) (buf : Buffer) (world : World)
    (matched : Matches mmc world.card) (well : world.Well)
    (firstInside : mmc.Contains (firstCopy item) blkcnt)
    (secondInside : mmc.Contains (secondCopy item) blkcnt)
    (equal : Memory.Agree (blkcnt.toNat * 512) (world.card.bytesAt (firstCopy item))
      (world.card.bytesAt (secondCopy item))) :
    ((sdmmcSecureStorageRead (some mmc) item (some buf) blkcnt).exec serve world).1.1 =
      blkcnt.toInt := by
  obtain ⟨fstBak, fstSome⟩ := Option.isSome_iff_exists.mp (well.1.2.2 world.mallocs)
  obtain ⟨secBak, secSome⟩ := Option.isSome_iff_exists.mp (well.1.2.2 (world.mallocs + 1))
  rw [exec_sdmmcSecureStorageRead accepted buf world, fstSome, secSome]
  dsimp only
  have allocated : ({ world with mallocs := world.mallocs + 2 } : World).Well := well
  obtain ⟨firstCounted, stillWell⟩ := counted_of_well allocated (firstCopy item) fstBak firstInside
  obtain ⟨secondCounted, _⟩ := counted_of_well stillWell (secondCopy item) secBak secondInside
  have kept := exec_mmcBread_kept mmc (firstCopy item) blkcnt fstBak
    { world with mallocs := world.mallocs + 2 }
  have first := exec_readCopy_agree { world with mallocs := world.mallocs + 2 } matched accepted
    false fstBak firstCounted
  have second := exec_readCopy_agree _ (kept.matches_of matched) accepted true secBak secondCounted
  have same : Memory.Agree (blkcnt.toNat * 512) _ _ :=
    first.trans (equal.trans (second.trans (bytesAt_kept kept _ _)).symm)
  rw [exec_readCopies]
  dsimp only
  rw [if_neg (not_not.mpr firstCounted), if_neg (not_not.mpr secondCounted), blkcnt_bytes accepted]
  split
  · exact absurd same (by assumption)
  · rfl

end Functions

/-! ### Runs -/

/-- An item is written or read. -/
inductive StorageOp where
  | write (item : U32) (data : Buffer)
  | read (item : U32) (buf : Buffer)
  | readBackup (item : U32) (buf : Buffer)

/-- The item that is meant -/
def StorageOp.item : StorageOp → U32
  | .write item _ | .read item _ | .readBackup item _ => item

/-- The world, and for each item the data of its writes with how they went. -/
structure StorageState where
  world : World
  writes : U32 → List (Buffer × Outcome)

/-- The card as it is at first, with nothing written -/
def StorageState.start (card : Card) (plan : Plan) : StorageState :=
  ⟨World.start card plan, fun _ => []⟩

/-- An operation, with what it notes as written -/
def StorageState.step (mmc : Mmc) (blkcnt : U32) (state : StorageState) :
    StorageOp → StorageState
  | .write item data =>
      ⟨((sdmmcSecureStorageWrite (some mmc) item (some data) blkcnt).exec serve state.world).2,
        Function.update state.writes item
          (state.writes item ++ [(data, writeOutcome mmc blkcnt item data state.world)])⟩
  | .read item buf =>
      ⟨((sdmmcSecureStorageRead (some mmc) item (some buf) blkcnt).exec serve state.world).2,
        state.writes⟩
  | .readBackup item buf =>
      ⟨((sdmmcSecureStorageReadBackup (some mmc) item (some buf) blkcnt).exec serve
        state.world).2, state.writes⟩

/-- Operations one after the other -/
def StorageState.run (mmc : Mmc) (blkcnt : U32) (state : StorageState) (ops : List StorageOp) :
    StorageState :=
  ops.foldl (StorageState.step mmc blkcnt) state

/-- What the writes of an item say about its copies. -/
def StorageState.known (state : StorageState) (item : U32) : Known Buffer :=
  Known.ofWrites (state.writes item)

/-- The copies of every item on the card are as known. -/
structure StorageState.Sound (mmc : Mmc) (blkcnt : U32) (state : StorageState) : Prop where
  matched : Matches mmc state.world.card
  holds : ∀ item, Accepted item blkcnt →
    (state.known item).Holds (Memory.Agree (blkcnt.toNat * 512))
      (state.world.card.bytesAt (firstCopy item)) (state.world.card.bytesAt (secondCopy item))

section Runs

variable {mmc : Mmc} {blkcnt : U32} {state : StorageState}

theorem sound_start {card : Card} (matched : Matches mmc card) (plan : Plan) :
    (StorageState.start card plan).Sound mmc blkcnt :=
  ⟨matched, fun _ _ => Known.holds_nothing _ _⟩

/-- Nothing that is known changes when no block is written. -/
theorem sound_kept (sound : state.Sound mmc blkcnt) {world : World}
    (kept : state.world.card.KeptOutside 0 0 world.card) :
    StorageState.Sound mmc blkcnt ⟨world, state.writes⟩ where
  matched := kept.matches_of sound.matched
  holds item accepted := (sound.holds item accepted).kept Memory.Agree.trans
    (bytesAt_kept kept _ _) (bytesAt_kept kept _ _)

theorem bytesAt_writeCopy {before after : Card} {item other : U32} {second otherSecond : Bool}
    (accepted : Accepted item blkcnt) (otherAccepted : Accepted other blkcnt)
    (kept : before.KeptOutside (copyStart item second).toNat
      ((copyStart item second).toNat + blkcnt.toNat) after)
    (different : (other, otherSecond) ≠ (item, second)) :
    Memory.Agree (blkcnt.toNat * 512) (after.bytesAt (copyStart other otherSecond))
      (before.bytesAt (copyStart other otherSecond)) :=
  kept.agree (copies_disjoint otherAccepted accepted different)

theorem sound_recorded (sound : state.Sound mmc blkcnt) {item : U32} {data : Buffer}
    {outcome : Outcome} {world : World} (matched : Matches mmc world.card)
    (others : ∀ other, Accepted other blkcnt → other ≠ item → ∀ second,
      Memory.Agree (blkcnt.toNat * 512) (world.card.bytesAt (copyStart other second))
        (state.world.card.bytesAt (copyStart other second)))
    (own : ((state.known item).after data outcome).Holds (Memory.Agree (blkcnt.toNat * 512))
      (world.card.bytesAt (firstCopy item)) (world.card.bytesAt (secondCopy item))) :
    StorageState.Sound mmc blkcnt
      ⟨world, Function.update state.writes item (state.writes item ++ [(data, outcome)])⟩ where
  matched := matched
  holds other accepted := by
    unfold StorageState.known
    dsimp only
    by_cases same : other = item
    · subst same
      rw [Function.update_self, Known.ofWrites_append]
      exact own
    · rw [Function.update_of_ne same]
      exact (sound.holds other accepted).kept Memory.Agree.trans (others other accepted same false)
        (others other accepted same true)

/-- A write keeps what is known of every item up to date, however its block writes go. -/
theorem sound_write (sound : state.Sound mmc blkcnt) {item : U32} (accepted : Accepted item blkcnt)
    (data : Buffer) : (state.step mmc blkcnt (.write item data)).Sound mmc blkcnt := by
  have kept := exec_writeCopy_kept sound.matched accepted false data
  have stillMatched := kept.matches_of sound.matched
  have keptAgain := exec_writeCopy_kept stillMatched accepted true data
  have first := exec_writeCopy_agree sound.matched accepted false data
  have second := exec_writeCopy_agree stillMatched accepted true data
  have holds := sound.holds item accepted
  have apart (other : U32) (different : other ≠ item) (one two : Bool) :
      (other, one) ≠ (item, two) := fun same => different (congrArg Prod.fst same)
  have afterFirst (other : U32) (otherAccepted : Accepted other blkcnt) (different : other ≠ item)
      (copy : Bool) := bytesAt_writeCopy accepted otherAccepted kept
        (apart other different copy false)
  have afterBoth (other : U32) (otherAccepted : Accepted other blkcnt) (different : other ≠ item)
      (copy : Bool) := (bytesAt_writeCopy accepted otherAccepted keptAgain
        (apart other different copy true)).trans (afterFirst other otherAccepted different copy)
  -- the write of the second copy does not touch the first, nor the other way round
  have firstStays := bytesAt_writeCopy accepted accepted keptAgain
    (show (item, false) ≠ (item, true) by simp)
  have secondStays := bytesAt_writeCopy accepted accepted kept
    (show (item, true) ≠ (item, false) by simp)
  obtain ⟨firstCounted, secondCounted⟩ := writeOutcome_spec mmc blkcnt item data state.world
  have firstWritten (counted) := firstStays.trans (first counted)
  unfold StorageState.step
  dsimp only
  rw [exec_sdmmcSecureStorageWrite accepted data state.world]
  generalize writeOutcome mmc blkcnt item data state.world = outcome at firstCounted secondCounted ⊢
  cases outcome with
  | firstFailed =>
    refine sound_recorded sound stillMatched afterFirst (holds.after Memory.Agree.trans ?_ ?_ ?_)
    · exact fun wrong => absurd rfl wrong
    · exact fun wrong => absurd wrong Outcome.noConfusion
    · exact fun _ => secondStays
  | secondFailed =>
    refine sound_recorded sound (keptAgain.matches_of stillMatched) afterBoth
      (holds.after Memory.Agree.trans ?_ ?_ ?_)
    · exact fun notFailed => firstWritten (firstCounted notFailed)
    · exact fun wrong => absurd wrong Outcome.noConfusion
    · exact fun wrong => absurd wrong Outcome.noConfusion
  | done =>
    refine sound_recorded sound (keptAgain.matches_of stillMatched) afterBoth
      (holds.after Memory.Agree.trans ?_ ?_ ?_)
    · exact fun notFailed => firstWritten (firstCounted notFailed)
    · exact fun done => second (secondCounted done)
    · exact fun wrong => absurd wrong Outcome.noConfusion

theorem sound_step (sound : state.Sound mmc blkcnt) (op : StorageOp)
    (accepted : Accepted op.item blkcnt) : (state.step mmc blkcnt op).Sound mmc blkcnt := by
  cases op with
  | write item data => exact sound_write sound accepted data
  | read item buf =>
    exact sound_kept sound (read_returns accepted buf state.world sound.matched).1
  | readBackup item buf =>
    exact sound_kept sound (readBackup_returns accepted buf state.world sound.matched).1

theorem sound_run (sound : state.Sound mmc blkcnt) (ops : List StorageOp)
    (accepted : ∀ op ∈ ops, Accepted op.item blkcnt) : (state.run mmc blkcnt ops).Sound mmc blkcnt := by
  induction ops generalizing state with
  | nil => exact sound
  | cons op ops inductionHypothesis =>
    exact inductionHypothesis (sound_step sound op (accepted op List.mem_cons_self))
      fun later member => accepted later (List.mem_cons_of_mem _ member)

end Runs

/-! ### What reads return -/

/-- What the storage owes a read of this item: the data of one write, and after a write that
succeeded the data of this write, unless a command fails. A read of both copies owes it when one
of them is known, a read of the backup when the second is. -/
structure StorageState.ReadsBack (mmc : Mmc) (blkcnt : U32) (state : StorageState) (item : U32)
    (buf : Buffer) : Prop where
  whole : (state.known item).first.isSome ∨ (state.known item).second.isSome →
    ∀ result, result =
      ((sdmmcSecureStorageRead (some mmc) item (some buf) blkcnt).exec serve state.world).1 →
    result.1 = -1 ∨ ∃ data ∈ (state.writes item).map Prod.fst, Returns blkcnt result data
  wholeBackup : (state.known item).second.isSome →
    ∀ result, result =
      ((sdmmcSecureStorageReadBackup (some mmc) item (some buf) blkcnt).exec serve
        state.world).1 →
    result.1 = -1 ∨ ∃ data ∈ (state.writes item).map Prod.fst, Returns blkcnt result data
  last : ∀ before data, state.writes item = before ++ [(data, .done)] →
    ∀ result, result =
      ((sdmmcSecureStorageRead (some mmc) item (some buf) blkcnt).exec serve state.world).1 →
    (result.1 = -1 ∨ Returns blkcnt result data) ∧
      (state.world.Well → mmc.Contains (firstCopy item) blkcnt →
        mmc.Contains (secondCopy item) blkcnt → Returns blkcnt result data)

theorem Returns.of_agree {blkcnt : U32} {result : Int × Option Buffer} {bytes data : Buffer}
    (returns : Returns blkcnt result bytes)
    (agree : Memory.Agree (blkcnt.toNat * 512) bytes data) : Returns blkcnt result data := by
  obtain ⟨success, out, equal, same⟩ := returns
  exact ⟨success, out, equal, same.trans agree⟩

theorem readsBack_of_sound {mmc : Mmc} {blkcnt : U32} {state : StorageState}
    (sound : state.Sound mmc blkcnt) {item : U32} (accepted : Accepted item blkcnt)
    (buf : Buffer) : state.ReadsBack mmc blkcnt item buf where
  whole known result equal := by
    subst equal
    rcases (read_returns accepted buf state.world sound.matched).2 with failed | ⟨returns, same⟩
    · exact Or.inl failed
    · obtain ⟨data, isKnown⟩ : ∃ data,
          (state.known item).first = some data ∨ (state.known item).second = some data := by
        rcases known with known | known
        · obtain ⟨data, isKnown⟩ := Option.isSome_iff_exists.mp known
          exact ⟨data, Or.inl isKnown⟩
        · obtain ⟨data, isKnown⟩ := Option.isSome_iff_exists.mp known
          exact ⟨data, Or.inr isKnown⟩
      have holds := sound.holds item accepted
      exact Or.inr ⟨data, Known.mem_of_ofWrites _ data isKnown,
        returns.of_agree (holds.compared Memory.Agree.trans same isKnown)⟩
  wholeBackup known result equal := by
    subst equal
    rcases (readBackup_returns accepted buf state.world sound.matched).2 with failed | returns
    · exact Or.inl failed
    · obtain ⟨data, isKnown⟩ := Option.isSome_iff_exists.mp known
      exact Or.inr ⟨data, Known.mem_of_ofWrites _ data (Or.inr isKnown),
        returns.of_agree ((sound.holds item accepted).2 data isKnown)⟩
  last before data writes result equal := by
    subst equal
    have both : state.known item = ⟨some data, some data⟩ := by
      unfold StorageState.known
      rw [writes, Known.ofWrites_append]
      rfl
    have holds := sound.holds item accepted
    rw [both] at holds
    have first := holds.1 data rfl
    have second := holds.2 data rfl
    rcases (read_returns accepted buf state.world sound.matched).2 with failed | ⟨returns, _⟩
    · refine ⟨Or.inl failed, fun well firstInside secondInside => ?_⟩
      have success := read_succeeds accepted buf state.world sound.matched well firstInside
        secondInside (first.trans second.symm)
      have half : blkcnt.toNat ≤ 8 := accepted.2
      rw [failed, BitVec.toInt_eq_toNat_of_lt (by omega)] at success
      omega
    · exact ⟨Or.inr (returns.of_agree first), fun _ _ _ => returns.of_agree first⟩

/-- The copies of an accepted item lie in the secure area unless it is the last one, and never
share a block. After every run of accepted calls, whichever block writes failed in it, a read of
any item returns what the storage owes it. -/
theorem secure_storage_items (mmc : Mmc) (card : Card) (plan : Plan) (blkcnt : U32)
    (matched : Matches mmc card) :
    (∀ item, Accepted item blkcnt → 0 < blkcnt →
      ((∀ second sector, InCopy item second blkcnt sector → InSecureArea sector) ↔
        item < 32)) ∧
    (∀ item other second otherSecond, Accepted item blkcnt → Accepted other blkcnt →
      (item, second) ≠ (other, otherSecond) → ∀ sector,
        ¬ (InCopy item second blkcnt sector ∧ InCopy other otherSecond blkcnt sector)) ∧
    ∀ ops, (∀ op ∈ ops, Accepted (StorageOp.item op) blkcnt) →
      ∀ item, Accepted item blkcnt → ∀ buf,
        ((StorageState.start card plan).run mmc blkcnt ops).ReadsBack mmc blkcnt item buf := by
  refine ⟨fun item accepted positive => copies_inSecureArea_iff accepted positive, ?_, ?_⟩
  · intro item other second otherSecond accepted otherAccepted different sector both
    have apart := copies_disjoint accepted otherAccepted different
    obtain ⟨⟨after, before⟩, otherAfter, otherBefore⟩ := both
    omega
  · intro ops allAccepted item accepted buf
    exact readsBack_of_sound (sound_run (sound_start matched plan) ops allAccepted) accepted buf

/-- Three blocks, each filled with one byte. -/
def threeBlocks (first second third : U8) : Buffer :=
  fun address => if address < 512 then first else if address < 1024 then second else third

theorem secure_storage_items_securedDevice :
    ((StorageState.start (Card.blank true) .fine).run securedDevice 3
      [.write 31 (threeBlocks 1 2 3), .readBackup 31 fun _ => 0]).ReadsBack securedDevice 3 31
        fun _ => 0 :=
  (secure_storage_items securedDevice (Card.blank true) .fine 3 ⟨rfl, rfl, rfl⟩).2.2 _ (by decide)
    31 (by decide) _

/-- The fourth and the fifth block write fail after one and after two of their three blocks. -/
def tearingPlan : Plan :=
  { Plan.fine with
    transfer := fun _ _ turn =>
      if turn = 3 ∨ turn = 4 then ⟨-1, false, 0, Answer.fine.status, threeBlocks 4 2 3⟩
      else .fine }

/-- The first bytes of the three blocks are enough to tell what is returned from what was written. -/
theorem not_returns_of_first_bytes {result : Int × Option Buffer} {written : List Buffer}
    (differ : result.1 = 3 ∧ ∀ data ∈ written, ∃ address ∈ [0, 512, 1024],
      result.2.map (fun out => out address) ≠ some (data address)) :
    result.1 = 3 ∧ ∀ data ∈ written, ¬ Returns 3 result data := by
  refine ⟨differ.1, fun data member returns => ?_⟩
  obtain ⟨address, among, differs⟩ := differ.2 data member
  obtain ⟨-, out, given, agree⟩ := returns
  have inside : ∀ address ∈ [0, 512, 1024], address < (3 : U32).toNat * 512 := by decide
  rw [given] at differs
  exact differs (congrArg some (agree address (inside address among)))

/-- The last accepted item lies behind the secure area. A write that fails in its second copy
leaves a mixture that a read of the backup returns, and one more write that fails in its first
copy may leave the same mixture there, so that a read of both copies returns it. -/
theorem secure_storage_mixes :
    (Accepted 32 3 ∧ InCopy 32 false 3 12800 ∧ ¬ InSecureArea 12800) ∧
    (let state := (StorageState.start (Card.blank true) tearingPlan).run securedDevice 3
      [.write 0 (threeBlocks 1 2 3), .write 0 (threeBlocks 4 5 3), .write 0 (threeBlocks 4 2 6)]
    let result := ((sdmmcSecureStorageRead (some securedDevice) 0 (some fun _ => 0) 3).exec serve
      state.world).1
    result.1 = 3 ∧ ∀ data ∈ (state.writes 0).map Prod.fst, ¬ Returns 3 result data) ∧
    (let state := (StorageState.start (Card.blank true) tearingPlan).run securedDevice 3
      [.write 0 (threeBlocks 1 2 3), .write 0 (threeBlocks 4 5 3)]
    let result := ((sdmmcSecureStorageReadBackup (some securedDevice) 0 (some fun _ => 0) 3).exec
      serve state.world).1
    result.1 = 3 ∧ ∀ data ∈ (state.writes 0).map Prod.fst, ¬ Returns 3 result data) := by
  refine ⟨⟨by decide, by unfold InCopy; decide, by unfold InSecureArea; decide⟩, ?_, ?_⟩
  · exact not_returns_of_first_bytes (by decide +kernel)
  · exact not_returns_of_first_bytes (by decide +kernel)

end PinePhonePkg
