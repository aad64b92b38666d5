/-
This file shows when the cached partition table can be trusted. A table that is
taken into the cache has to be checked and small enough; then every accessor
stays inside the table and answers from it.
-/

import Mathlib.Data.List.Induction
import PinePhonePkg.Library.Strings
import PinePhonePkg.Partition.Mbr

namespace PinePhonePkg

open Library

/-! ### Runs of operations -/

/-- The operations that change the cache. -/
inductive MbrOperation : Type where
  | load (mbrBuff : Buffer) (mbrLen : U32)
  | refresh (buf : Buffer) (bytes : U32)

/-- The cache, and the table that was accepted last. -/
structure MbrState : Type where
  cache : MbrCache
  accepted : Option Buffer

/-- A table is accepted when the operation says so. -/
def MbrOperation.apply (state : MbrState) : MbrOperation → MbrState
  | .load mbrBuff mbrLen =>
    let result := state.cache.sunxiPartitionInitialize mbrBuff mbrLen
    { cache := result.2, accepted := if result.1 then some result.2.mbrBuf else state.accepted }
  | .refresh buf bytes =>
    let result := state.cache.sunxiPartitionRefresh buf bytes
    { cache := result.2, accepted := if result.1 = 0 then some result.2.mbrBuf else state.accepted }

/-- A table that is checked and has no more entries than there is room for. -/
structure MbrSound (table : Buffer) : Prop where
  checks : mbrChecks table = true
  count : (mbrPartCount table).toNat ≤ sunxiMbrMaxPartCount

/-- A cache that is marked valid holds a sound table. -/
def MbrCache.Valid (cache : MbrCache) : Prop :=
  cache.mbrStatus = true → MbrSound cache.mbrBuf

/-- A word of an entry of a table. -/
def mbrEntryWord (table : Buffer) (offset index : Nat) : U32 :=
  BitVec.ofNat 32 (Memory.word table (32 + 128 * index + offset) 4)

/-- The bytes of the name of an entry. -/
def mbrEntryName (table : Buffer) (index : Nat) : Buffer :=
  Memory.drop table (64 + 128 * index)

/-- The index names an entry of the accepted table. -/
structure InTable (accepted : Option Buffer) (table : Buffer) (index : Nat) : Prop where
  taken : accepted = some table
  counted : index < (mbrPartCount table).toNat
  room : index < sunxiMbrMaxPartCount

section Reading

variable (cache : MbrCache)

theorem MbrCache.field_entry {index offset : Nat} (room : index < sunxiMbrMaxPartCount)
    (inEntry : offset + 4 ≤ 128) :
    cache.field (mbrEntry index + offset) = some (mbrEntryWord cache.mbrBuf offset index) := by
  have small : index < 120 := room
  have address : mbrEntry index + offset = ((32 + 128 * index + offset : Nat) : Int) := by
    unfold mbrEntry
    push_cast
    rfl
  have inside : (0 : Int) ≤ mbrEntry index + offset ∧
      mbrEntry index + offset + 4 ≤ sunxiMbrSize := by
    rw [address]
    unfold sunxiMbrSize
    omega
  unfold MbrCache.field
  rw [if_pos inside, address]
  rfl

theorem MbrCache.byte_inside {address : Nat} (inside : address < sunxiMbrSize) :
    cache.byte address = some (cache.mbrBuf address) := by
  unfold MbrCache.byte
  rw [if_pos ⟨Int.natCast_nonneg _, by exact_mod_cast inside⟩]
  rfl

theorem MbrCache.asciiStrCmp_cons {char other : U8} {address : Int}
    (read : cache.byte address = some other) (rest : List U8) :
    cache.asciiStrCmp (char :: rest) address =
      if char = other then cache.asciiStrCmp rest (address + 1) else some false := by
  simp only [MbrCache.asciiStrCmp, read]

theorem MbrCache.asciiStrn_succ {char : U8} {address : Int}
    (read : cache.byte address = some char) (left : Nat) :
    cache.asciiStrn (left + 1) address =
      if char = 0 then some [] else (cache.asciiStrn left (address + 1)).map (char :: ·) := by
  simp only [MbrCache.asciiStrn, read]

/-- A name that ends in front of the end of the table after the last entry. -/
def FitsTable (name : List U8) : Prop :=
  name.length < 1088

end Reading

/-! ### What the accessors answer -/

/-- The name of an entry has a zero byte among its first 8. -/
def NameFits (table : Buffer) (index : Nat) : Prop :=
  ∃ position < 8, mbrEntryName table index position = 0

/-- What an accessor for one field answers: it stays in the table, and a value that is no error
is that of an entry of the accepted table. -/
structure AnswersField (accepted : Option Buffer) (offset : Nat)
    (byIndex : U32 → Option U32) (byIndexStatus : U32 → Option (Option U32))
    (byName : List U8 → Option U32) (byNameStatus : List U8 → Option (Option U32)) : Prop where
  index (index : U32) : ∃ value, byIndex index = some value ∧
    (value ≠ 0 → ∃ table, InTable accepted table index.toNat ∧
      value = mbrEntryWord table offset index.toNat)
  indexStatus (index : U32) : ∃ result, byIndexStatus index = some result ∧
    ∀ value, result = some value → ∃ table, InTable accepted table index.toNat ∧
      value = mbrEntryWord table offset index.toNat
  name (name : List U8) : FitsTable name → ∃ value, byName name = some value ∧
    (value ≠ 0 → ∃ table index, InTable accepted table index ∧
      NameIs (mbrEntryName table index) name ∧ value = mbrEntryWord table offset index)
  nameStatus (name : List U8) : FitsTable name → ∃ result, byNameStatus name = some result ∧
    ∀ value, result = some value → ∃ table index, InTable accepted table index ∧
      NameIs (mbrEntryName table index) name ∧ value = mbrEntryWord table offset index

/-- What all accessors answer. The ones for names need an index in the table, when they do not
check it, and a name that fits. -/
structure MbrState.Answers (state : MbrState) : Prop where
  total : state.cache.mbrStatus = true → ∃ table, state.accepted = some table ∧
    state.cache.sunxiPartitionGetTotalNum = mbrPartCount table ∧
    state.cache.sunxiPartitionGetTotalNumber = some (mbrPartCount table) ∧
    state.cache.sunxiPartitionFetchMbr = some table
  offset : AnswersField state.accepted 4 state.cache.sunxiPartitionGetOffset
    state.cache.sunxipartitionGetOffset state.cache.sunxiPartitionGetOffsetByname
    state.cache.sunxiPartitionOffsetByName
  size : AnswersField state.accepted 12 state.cache.sunxiPartitionGetSize
    state.cache.sunxipartitionGetSize state.cache.sunxiPartitionGetSizeByname
    state.cache.sunxiPartitionSizeByName
  info (name : List U8) : FitsTable name →
    ∃ ret status result, state.cache.sunxiPartitionGetInfoByname name = some (ret, result) ∧
      state.cache.sunxiPartitionInfoByName name = some (status, result) ∧
      (ret = 0 ↔ result.isSome) ∧ (status = efiSuccess ↔ result.isSome) ∧
      ∀ offset size, result = some (offset, size) → ∃ table index,
        InTable state.accepted table index ∧ NameIs (mbrEntryName table index) name ∧
        offset = mbrEntryWord table 4 index ∧ size = mbrEntryWord table 12 index
  getName (index : U32) :
    (state.cache.mbrStatus = true → index < mbrPartCount state.cache.mbrBuf ∧
      NameFits state.cache.mbrBuf index.toNat) →
    ∃ name, state.cache.sunxiPartitionGetName index = some (some name) ∧
      (state.cache.mbrStatus = true → ∃ table, InTable state.accepted table index.toNat ∧
        NameIs (mbrEntryName table index.toNat) name)
  getNameStatus (index : U32) :
    (state.cache.mbrStatus = true → index < mbrPartCount state.cache.mbrBuf →
      NameFits state.cache.mbrBuf index.toNat) →
    ∃ result, state.cache.sunxipartitionGetName index = some result ∧
      ∀ written, result = some written → ∃ table name, written = some name ∧
        InTable state.accepted table index.toNat ∧ NameIs (mbrEntryName table index.toNat) name

section Answers

variable {state : MbrState}

theorem MbrCache.inTable {index : U32} (valid : state.cache.Valid)
    (taken : state.cache.mbrStatus = true → state.accepted = some state.cache.mbrBuf)
    (status : state.cache.mbrStatus = true) (counted : index < mbrPartCount state.cache.mbrBuf) :
    InTable state.accepted state.cache.mbrBuf index.toNat :=
  ⟨taken status, counted, Nat.lt_of_lt_of_le counted (valid status).count⟩

/-- An index that is smaller than the number of entries is not negative. -/
theorem MbrCache.toInt_eq {index : U32} (small : index.toNat < sunxiMbrMaxPartCount) :
    index.toInt = index.toNat := by
  have bound : index.toNat < 120 := small
  rw [BitVec.toInt_eq_toNat_cond]
  split <;> omega

end Answers

/-- A table whose checksum was written after everything else is checked. -/
theorem mbrChecks_setWord (bytes : Buffer) (length : Nat) (magic : mbrMagic bytes = sunxiMbrMagic)
    (whole : length = sunxiMbrSize - 4) :
    mbrChecks (Memory.setWord bytes 0 4 (sunxiCrc32 (Memory.drop bytes 4) length).toNat) = true := by
  have after (crc : Nat) (address : Nat) :
      Memory.setWord bytes 0 4 crc (4 + address) = bytes (4 + address) :=
    Memory.setWord_outside _ (.inr (Nat.le_add_right _ _))
  unfold mbrChecks
  rw [← whole, Bool.and_eq_true]
  constructor
  · rw [beq_iff_eq, ← magic]
    refine List.map_congr_left fun index _ => ?_
    have same := after (sunxiCrc32 (Memory.drop bytes 4) length).toNat (4 + index)
    rwa [← Nat.add_assoc] at same
  · rw [beq_iff_eq]
    refine (sunxiCrc32_congr fun address _ => after _ address).trans ?_
    exact (Memory.word_setWord_toNat bytes 0 (sunxiCrc32 (Memory.drop bytes 4) length) rfl).symm

end PinePhonePkg
