/-
This file models the checksum of boot images and shows for which lengths it is
one. The image is summed four words at a time by a loop that tests its unsigned
counter at the end. With fewer than four words the counter wraps, and the loop
runs over the whole address space before it stops.
-/

import Mathlib.Data.BitVec
import PinePhonePkg.Library.Words
import PinePhonePkg.Library.Checksum
import PinePhonePkg.Mmc.Types

namespace PinePhonePkg

open Library

def stampValue : U32 := 0x5F0A6C39

/-- A word of a buffer -/
def bufferWord (buffer : Buffer) (index : Nat) : U32 :=
  BitVec.ofNat 32 (Memory.word buffer (4 * index) 4)

theorem toNat_sub_four {count : U32} (enough : 4 ≤ count.toNat) :
    (count - 4).toNat = count.toNat - 4 :=
  BitVec.toNat_sub_of_le (BitVec.le_def.mpr enough)

/-! ### The loops -/

/-- The local variables `buf`, as the number of words behind it, and `sum`. -/
structure Summing : Type where
  buf : Nat
  sum : U32

namespace Summing

variable (words : Nat → U32)

/-- `sum += *buf++` -/
def add (state : Summing) : Summing := ⟨state.buf + 1, state.sum + words state.buf⟩

/-- The loop that is tested at the end, with the counter it leaves. -/
def addFours (count : U32) (state : Summing) : U32 × Summing :=
  let next := (add words)^[4] state
  if 3 < (count - 4).toNat then addFours (count - 4) next else (count - 4, next)
termination_by (count - 4).toNat
decreasing_by
  rename_i more
  rw [toNat_sub_four more]
  exact Nat.sub_lt (Nat.lt_of_lt_of_le (by decide) more) (by decide)

/-- `while( count-- > 0 )` -/
def addLeft : Nat → Summing → Summing
  | 0, state => state
  | count + 1, state => addLeft count (add words state)

end Summing

/-- Both loops of `SunxiSpriteGenerateChecksum` and of `SunxiSpriteVerifyChecksum` -/
def spriteSum (buffer : Buffer) (length : U32) : Summing :=
  let (count, state) := Summing.addFours (bufferWord buffer) (length >>> 2) ⟨0, 0⟩
  Summing.addLeft (bufferWord buffer) count.toNat state

/-- The checksum of a buffer, without the word that holds it -/
def sunxiSpriteGenerateChecksum (buffer : Buffer) (length srcSum : U32) : U32 :=
  (spriteSum buffer length).sum - srcSum + stampValue

/-- Zero if the sum is right, and -1 otherwise. -/
def sunxiSpriteVerifyChecksum (buffer : Buffer) (length srcSum : U32) : Int :=
  if (spriteSum buffer length).sum - srcSum + stampValue = srcSum then 0 else -1

/-- The part of the next word that belongs to the buffer is added as well. -/
def sunxiAddSum (buffer : Buffer) (length : U32) : U32 :=
  let state := Summing.addLeft (bufferWord buffer) (length >>> 2).toNat ⟨0, 0⟩
  match (length &&& 3).toNat with
  | 0 => state.sum
  | 1 => state.sum + (bufferWord buffer state.buf &&& 0x000000ff)
  | 2 => state.sum + (bufferWord buffer state.buf &&& 0x0000ffff)
  | _ => state.sum + (bufferWord buffer state.buf &&& 0x00ffffff)

/-! ### What the loops add -/

namespace Summing

variable (words : Nat → U32)

theorem addLeft_eq (count : Nat) (state : Summing) :
    addLeft words count state = (add words)^[count] state := by
  induction count generalizing state with
  | zero => rfl
  | succ count inductionHypothesis =>
    rw [addLeft, inductionHypothesis, Function.iterate_succ_apply]

theorem add_iterate (count : Nat) :
    (add words)^[count] ⟨0, 0⟩ = ⟨count, Checksum.total words count⟩ := by
  induction count with
  | zero => rfl
  | succ count inductionHypothesis =>
    rw [Function.iterate_succ_apply', inductionHypothesis, Checksum.total_succ]
    rfl

/-- Both loops add as many words as the counter says behind the first test, and four. -/
theorem addLeft_addFours (count : U32) (state : Summing) :
    addLeft words (addFours words count state).1.toNat (addFours words count state).2 =
      (add words)^[(count - 4).toNat + 4] state := by
  induction count, state using addFours.induct words with
  | case1 count state next more inductionHypothesis =>
    have fewer : (count - 4 - 4).toNat + 4 = (count - 4).toNat := by
      rw [toNat_sub_four more]
      exact Nat.sub_add_cancel more
    rw [addFours, if_pos more, inductionHypothesis, fewer, Function.iterate_add_apply]
  | case2 count state last =>
    rw [addFours, if_neg last, addLeft_eq, Function.iterate_add_apply]

end Summing

/-- How many words the loops read. -/
def wordsRead (length : U32) : Nat := ((length >>> 2) - 4).toNat + 4

theorem spriteSum_eq (buffer : Buffer) (length : U32) :
    spriteSum buffer length =
      ⟨wordsRead length, Checksum.total (bufferWord buffer) (wordsRead length)⟩ := by
  rw [← Summing.add_iterate]
  exact Summing.addLeft_addFours _ _ _

theorem toNat_shiftRight_two (length : U32) : (length >>> 2).toNat = length.toNat / 4 := by
  rw [BitVec.toNat_ushiftRight, Nat.shiftRight_eq_div_pow]

theorem wordsRead_eq {length : U32} (enough : 16 ≤ length.toNat) :
    wordsRead length = length.toNat / 4 := by
  have quarter := toNat_shiftRight_two length
  have fits : 4 ≤ (length >>> 2).toNat := by omega
  rw [wordsRead, toNat_sub_four fits, quarter]
  exact Nat.sub_add_cancel (by omega)

/-- With fewer than four words the loops read all words of the address space, and then those. -/
theorem wordsRead_of_short {length : U32} (short : length.toNat < 16) :
    wordsRead length = 2 ^ 32 + length.toNat / 4 := by
  have quarter := toNat_shiftRight_two length
  rw [wordsRead, BitVec.toNat_sub, quarter]
  simp
  omega

/-! ### Images -/

/-- A word of the image is replaced. -/
def setBufferWord (buffer : Buffer) (index : Nat) (value : U32) : Buffer :=
  Memory.setWord buffer (4 * index) 4 value.toNat

theorem bufferWord_setBufferWord (buffer : Buffer) (index : Nat) (value : U32) :
    bufferWord (setBufferWord buffer index value) =
      Function.update (bufferWord buffer) index value := by
  funext other
  unfold bufferWord setBufferWord
  by_cases same : other = index
  · subst same
    rw [Memory.word_setWord_toNat _ _ _ (by rfl), Function.update_self]
  · rw [Memory.word_setWord_of_disjoint buffer (by omega), Function.update_of_ne same]

/-- The image with its checksum, which is in the word `place` of its head -/
def withChecksum (image : Buffer) (length : U32) (place : Nat) : Buffer :=
  setBufferWord image place (sunxiSpriteGenerateChecksum image length (bufferWord image place))

/-- What the image's head says of the checksum, and what is computed, agree. -/
def verifies (image : Buffer) (length : U32) (place : Nat) : Prop :=
  sunxiSpriteVerifyChecksum image length (bufferWord image place) = 0

section Enough

variable {length : U32} (enough : 16 ≤ length.toNat) (image : Buffer) (place : Nat)
include enough

theorem generate_eq :
    sunxiSpriteGenerateChecksum image length (bufferWord image place) =
      Checksum.stamped stampValue (bufferWord image) (length.toNat / 4) place := by
  rw [sunxiSpriteGenerateChecksum, spriteSum_eq, wordsRead_eq enough]
  rfl

theorem verifies_iff :
    verifies image length place ↔
      Checksum.Sealed stampValue (bufferWord image) (length.toNat / 4) place := by
  unfold verifies sunxiSpriteVerifyChecksum Checksum.Sealed Checksum.stamped
  rw [spriteSum_eq, wordsRead_eq enough]
  split
  case isTrue same => exact iff_of_true rfl same
  case isFalse different => exact iff_of_false (by decide) different

end Enough

theorem sunxiAddSum_eq (buffer : Buffer) {length : U32} (whole : length.toNat % 4 = 0) :
    sunxiAddSum buffer length = Checksum.total (bufferWord buffer) (length.toNat / 4) := by
  have rest : (length &&& 3).toNat = 0 := by
    rw [BitVec.toNat_and, ← whole]
    exact Nat.and_two_pow_sub_one_eq_mod _ 2
  unfold sunxiAddSum
  rw [rest, Summing.addLeft_eq, Summing.add_iterate, toNat_shiftRight_two]
  rfl

/-! ### When it is a checksum -/

/-- What is promised of an image and a length. -/
structure ChecksumHolds (image : Buffer) (length : U32) : Prop where
  inside : 4 * (spriteSum image length).buf ≤ length.toNat
  summed : (spriteSum image length).sum =
    ∑ index ∈ Finset.range (length.toNat / 4), bufferWord image index
  /-- The word of the checksum counts as the stamp. -/
  generated : ∀ place < length.toNat / 4,
    sunxiSpriteGenerateChecksum image length (bufferWord image place) =
      ∑ index ∈ Finset.range (length.toNat / 4),
        if index = place then stampValue else bufferWord image index
  agrees : length.toNat % 4 = 0 → (spriteSum image length).sum = sunxiAddSum image length
  succeeds : ∀ place < length.toNat / 4, verifies (withChecksum image length place) length place
  /-- No other word of the image can be changed. -/
  notices : ∀ place < length.toNat / 4, ∀ other < length.toNat / 4, other ≠ place →
    ∀ value ≠ bufferWord (withChecksum image length place) other,
      ¬verifies (setBufferWord (withChecksum image length place) other value) length place

theorem checksumHolds_of_le (image : Buffer) {length : U32} (enough : 16 ≤ length.toNat) :
    ChecksumHolds image length := by
  have stored : ∀ place < length.toNat / 4,
      Checksum.Sealed stampValue (bufferWord (withChecksum image length place))
        (length.toNat / 4) place := by
    intro place before
    rw [withChecksum, bufferWord_setBufferWord, generate_eq enough]
    exact Checksum.sealed_stamped _ _ before
  constructor
  case inside =>
    rw [spriteSum_eq, wordsRead_eq enough]
    exact Nat.mul_div_le _ 4
  case summed =>
    rw [spriteSum_eq, wordsRead_eq enough]
    rfl
  case generated =>
    intro place before
    rw [generate_eq enough, Checksum.stamped_eq_total _ _ before, Checksum.total]
    refine Finset.sum_congr rfl fun index _ => ?_
    rw [Function.update_apply]
  case agrees =>
    intro whole
    rw [spriteSum_eq, wordsRead_eq enough, sunxiAddSum_eq image whole]
  case succeeds =>
    intro place before
    exact (verifies_iff enough _ _).mpr (stored place before)
  case notices =>
    intro place before other inside apart value changed
    rw [verifies_iff enough, bufferWord_setBufferWord]
    exact (stored place before).not_update inside apart changed

/-- The loops of short images read beyond them. -/
theorem not_checksumHolds_of_lt (image : Buffer) {length : U32} (short : length.toNat < 16) :
    ¬ChecksumHolds image length := by
  intro holds
  have inside := holds.inside
  rw [spriteSum_eq, wordsRead_of_short short] at inside
  simp at inside
  omega

/-- The checksum is one exactly for images of at least four words. -/
theorem checksumHolds_iff (image : Buffer) (length : U32) :
    ChecksumHolds image length ↔ 16 ≤ length.toNat :=
  ⟨fun holds => Nat.le_of_not_lt fun short => not_checksumHolds_of_lt image short holds,
    checksumHolds_of_le image⟩

/-- The three words of a short image are not all that is read. -/
theorem not_checksumHolds_twelve : ¬ChecksumHolds (fun _ => 0) 12 :=
  not_checksumHolds_of_lt _ (by decide)

end PinePhonePkg
