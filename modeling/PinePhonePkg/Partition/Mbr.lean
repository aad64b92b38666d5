/-
This file models the cache of the partition table: the checksum, what fills the
cache, and the accessors that read entries from it by index and by name. An
access outside the cached table has no result.
-/

import PinePhonePkg.Dxe.Status
import PinePhonePkg.Library.Words

namespace PinePhonePkg

open Library

/-! ### The checksum -/

/-- The checksum shifted by a bit -/
def crc32Bit (crc : U32) : U32 :=
  if crc &&& 1 = 1 then (crc >>> 1) ^^^ 0xEDB88320#32 else crc >>> 1

/-- `CRC_32_Tbl` -/
def crc32Tbl (index : U32) : U32 :=
  crc32Bit^[8] index

/-- The checksum over bytes, by the table -/
def crc32Bytes (buffer : Buffer) : Nat → Nat → U32 → U32
  | _, 0, crc => crc
  | index, left + 1, crc =>
    crc32Bytes buffer (index + 1) left
      (crc32Tbl ((crc ^^^ (buffer index).setWidth 32) &&& 0xff) ^^^ (crc >>> 8))

/-- The checksum of a buffer -/
def sunxiCrc32 (buffer : Buffer) (length : Nat) : U32 :=
  crc32Bytes buffer 0 length 0xffffffff#32 ^^^ 0xffffffff#32

theorem crc32Bytes_congr {first second : Buffer} {index left : Nat} (crc : U32)
    (same : ∀ address, index ≤ address → address < index + left →
      first address = second address) :
    crc32Bytes first index left crc = crc32Bytes second index left crc := by
  induction left generalizing index crc with
  | zero => rfl
  | succ left inductionHypothesis =>
    unfold crc32Bytes
    rw [same index (Nat.le_refl _) (by omega)]
    exact inductionHypothesis _ fun address after before => same address (by omega) (by omega)

/-- The checksum depends on the bytes it is over. -/
theorem sunxiCrc32_congr {first second : Buffer} {length : Nat}
    (same : Memory.Agree length first second) :
    sunxiCrc32 first length = sunxiCrc32 second length := by
  unfold sunxiCrc32
  rw [crc32Bytes_congr _ fun address _ before => same address (by omega)]

/-! ### The table -/

/-- The bytes of the table -/
def sunxiMbrSize : Nat := 16 * 1024

def sunxiMbrMaxPartCount : Nat := 120

/-- `SUNXI_MBR_MAGIC` -/
def sunxiMbrMagic : List U8 :=
  [0x73, 0x6f, 0x66, 0x74, 0x77, 0x34, 0x31, 0x31]

/-- The checksum of the table -/
def mbrCrc32 (mbr : Buffer) : U32 := BitVec.ofNat 32 (Memory.word mbr 0 4)

/-- The eight characters that mark a table -/
def mbrMagic (mbr : Buffer) : List U8 :=
  (List.range 8).map fun index => mbr (8 + index)

/-- The number of the partitions -/
def mbrPartCount (mbr : Buffer) : U32 := BitVec.ofNat 32 (Memory.word mbr 24 4)

/-- The magic and the checksum of a table are right. -/
def mbrChecks (mbr : Buffer) : Bool :=
  mbrMagic mbr == sunxiMbrMagic &&
    sunxiCrc32 (Memory.drop mbr 4) (sunxiMbrSize - 4) == mbrCrc32 mbr

/-- The address of an entry of the table, for any index. -/
def mbrEntry (index : Int) : Int := 32 + 128 * index

def addrloOffset : Int := 4

def lenloOffset : Int := 12

def nameOffset : Int := 32

/-- `mbr_buf` and `mbr_status` -/
structure MbrCache : Type where
  mbrBuf : Buffer
  mbrStatus : Bool

/-! ### Filling the cache -/

namespace MbrCache

/-- Only the bytes of a short buffer are replaced. -/
def copied (cache : MbrCache) (mbrBuff : Buffer) (mbrLen : U32) : Buffer :=
  Memory.overwrite cache.mbrBuf 0
    (if mbrLen.toNat < sunxiMbrSize then mbrLen.toNat else sunxiMbrSize) mbrBuff

/-- The state after both functions that initialise the cache. -/
def initialized (cache : MbrCache) (mbrBuff : Buffer) (mbrLen : U32) : MbrCache where
  mbrBuf := cache.copied mbrBuff mbrLen
  mbrStatus := mbrChecks (cache.copied mbrBuff mbrLen)

/-- Takes the table of a buffer over, if it is in order. -/
def sunxiPartitionInit (cache : MbrCache) (mbrBuff : Buffer) (mbrLen : U32) : U32 × MbrCache :=
  let next := cache.initialized mbrBuff mbrLen
  (if next.mbrStatus then mbrPartCount next.mbrBuf else 0, next)

/-- Whether `EFI_SUCCESS` is returned, and the state after. -/
def sunxiPartitionInitialize (cache : MbrCache) (mbrBuff : Buffer) (mbrLen : U32) :
    Bool × MbrCache :=
  let next := cache.initialized mbrBuff mbrLen
  (next.mbrStatus, next)

/-- The new table is not checked. -/
def sunxiPartitionRefresh (cache : MbrCache) (buf : Buffer) (bytes : U32) : Int × MbrCache :=
  if !cache.mbrStatus then (-1, cache)
  else if bytes.toNat ≠ sunxiMbrSize then (-1, cache)
  else (0, { cache with mbrBuf := Memory.overwrite cache.mbrBuf 0 sunxiMbrSize buf })

/-! ### Reading from the cache -/

section Queries

variable (cache : MbrCache)

/-- The byte at an address of the cached table. -/
def byte (address : Int) : Option U8 :=
  if 0 ≤ address ∧ address < sunxiMbrSize then some (cache.mbrBuf address.toNat) else none

/-- A word of the table -/
def field (address : Int) : Option U32 :=
  if 0 ≤ address ∧ address + 4 ≤ sunxiMbrSize then
    some (BitVec.ofNat 32 (Memory.word cache.mbrBuf address.toNat 4))
  else none

/-- Whether a name, which has no zero byte, is the string at an address. -/
def asciiStrCmp : List U8 → Int → Option Bool
  | [], address => (cache.byte address).map (· == 0)
  | char :: rest, address =>
    match cache.byte address with
    | none => none
    | some other => if char = other then asciiStrCmp rest (address + 1) else some false

/-- The bytes up to a zero byte, at most `left` of them. -/
def asciiStrn : Nat → Int → Option (List U8)
  | 0, _ => some []
  | left + 1, address =>
    match cache.byte address with
    | none => none
    | some char => if char = 0 then some [] else (asciiStrn left (address + 1)).map (char :: ·)

/-- `AsciiStrnCpyS` into a destination of the size of a pointer, which is 8: a name without a
zero byte among its first 8 is not copied, and the status is not looked at. -/
def copyName (index : Int) : Option (Option (List U8)) :=
  (cache.asciiStrn 8 (mbrEntry index + nameOffset)).map fun name =>
    if name.length < 8 then some name else none

/-- The number of the partitions, which is zero without a table -/
def sunxiPartitionGetTotalNum : U32 :=
  if !cache.mbrStatus then 0 else mbrPartCount cache.mbrBuf

/-- The number of the partitions, with a status -/
def sunxiPartitionGetTotalNumber : Option U32 :=
  if !cache.mbrStatus then none else some (mbrPartCount cache.mbrBuf)

/-- What is written to the buffer; the index is not checked. -/
def sunxiPartitionGetName (index : U32) : Option (Option (List U8)) :=
  if cache.mbrStatus then cache.copyName index.toInt else some (some [])

/-- The outer option is the access, the next is the status. -/
def sunxipartitionGetName (index : U32) : Option (Option (Option (List U8))) :=
  if !cache.mbrStatus ∨ mbrPartCount cache.mbrBuf ≤ index then some none
  else (cache.copyName index.toNat).map some

/-- A field of the entry of a signed index, or zero. The index is compared as unsigned. -/
def entryField (offset : Int) (index : U32) : Option U32 :=
  if !cache.mbrStatus ∨ mbrPartCount cache.mbrBuf ≤ index then some 0
  else cache.field (mbrEntry index.toInt + offset)

/-- The first sector of a partition, by its index -/
def sunxiPartitionGetOffset (partIndex : U32) : Option U32 :=
  cache.entryField addrloOffset partIndex

/-- The sectors of a partition, by its index -/
def sunxiPartitionGetSize (partIndex : U32) : Option U32 :=
  cache.entryField lenloOffset partIndex

/-- A field of the entry of an unsigned index, or an error. -/
def entryFieldStatus (offset : Int) (index : U32) : Option (Option U32) :=
  if !cache.mbrStatus ∨ mbrPartCount cache.mbrBuf ≤ index then some none
  else (cache.field (mbrEntry index.toNat + offset)).map some

/-- The first sector of a partition by its index, with a status -/
def sunxipartitionGetOffset (index : U32) : Option (Option U32) :=
  cache.entryFieldStatus addrloOffset index

/-- `SunxiPartitionGetSize` -/
def sunxipartitionGetSize (index : U32) : Option (Option U32) :=
  cache.entryFieldStatus lenloOffset index

/-- The first entry from `index` on with the name, among `left` of them. -/
def findName (name : List U8) : Nat → Nat → Option (Option Nat)
  | _, 0 => some none
  | index, left + 1 =>
    match cache.asciiStrCmp name (mbrEntry index + nameOffset) with
    | none => none
    | some true => some (some index)
    | some false => findName name (index + 1) left

/-- The entry with a name, when the table is valid. -/
def entryByName (name : List U8) : Option (Option Nat) :=
  if !cache.mbrStatus then some none
  else cache.findName name 0 (mbrPartCount cache.mbrBuf).toNat

/-- A word of the entry of a name; zero if there is no such entry -/
def fieldByName (offset : Int) (name : List U8) : Option U32 :=
  match cache.entryByName name with
  | none => none
  | some none => some 0
  | some (some index) => cache.field (mbrEntry index + offset)

/-- A word of the entry of a name, with a status -/
def fieldByNameStatus (offset : Int) (name : List U8) : Option (Option U32) :=
  match cache.entryByName name with
  | none => none
  | some none => some none
  | some (some index) => (cache.field (mbrEntry index + offset)).map some

/-- The first sector of a partition, by its name -/
def sunxiPartitionGetOffsetByname (partName : List U8) : Option U32 :=
  cache.fieldByName addrloOffset partName

/-- `SunxiPartitionGetOffsetByName` -/
def sunxiPartitionOffsetByName (partName : List U8) : Option (Option U32) :=
  cache.fieldByNameStatus addrloOffset partName

/-- The sectors of a partition, by its name -/
def sunxiPartitionGetSizeByname (partName : List U8) : Option U32 :=
  cache.fieldByName lenloOffset partName

/-- `SunxiPartitionGetSizeByName` -/
def sunxiPartitionSizeByName (partName : List U8) : Option (Option U32) :=
  cache.fieldByNameStatus lenloOffset partName

/-- The offset and the size, as both functions that return them find them -/
def infoByName (partName : List U8) : Option (Option (U32 × U32)) :=
  match cache.entryByName partName with
  | none => none
  | some none => some none
  | some (some index) => do
    let offset ← cache.field (mbrEntry index + addrloOffset)
    let size ← cache.field (mbrEntry index + lenloOffset)
    return some (offset, size)

/-- Both of a partition by its name, with zero or -1 -/
def sunxiPartitionGetInfoByname (partName : List U8) : Option (Int × Option (U32 × U32)) :=
  (cache.infoByName partName).map fun info => (if info.isSome then 0 else -1, info)

/-- `SunxiPartitionGetInfoByName`, which returns -1 as a status when there is no table -/
def sunxiPartitionInfoByName (partName : List U8) : Option (Ulong × Option (U32 × U32)) :=
  (cache.infoByName partName).map fun info =>
    (if !cache.mbrStatus then minusOne else if info.isSome then efiSuccess else efiDeviceError, info)

/-- The table itself -/
def sunxiPartitionFetchMbr : Option Buffer :=
  if !cache.mbrStatus then none else some cache.mbrBuf

end Queries

end MbrCache

end PinePhonePkg
