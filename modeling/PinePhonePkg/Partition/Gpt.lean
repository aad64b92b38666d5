/-
This file models the reader of the GUID partition table: the check of a header
and its entry array, and the accessors by index and by name. An access outside
the buffer for the entries has no result.
-/

import PinePhonePkg.Library.Strings
import PinePhonePkg.Partition.Mbr

namespace PinePhonePkg

open Library

/-- The bytes that the table takes, with the protective record -/
def sunxiGptSize : Nat := 16 * 1024

/-- `EFI_PTAB_HEADER_ID` -/
def efiPtabHeaderId : Ulong := 0x5452415020494645#64

def sizeofEfiPartitionEntry : U32 := 128

/-! ### The fields of a header -/

/-- A partition table header lies at the start of a buffer. -/
def gptSignature (header : Buffer) : Ulong := BitVec.ofNat 64 (Memory.word header 0 8)

/-- The length of the header -/
def gptHeaderSize (header : Buffer) : U32 := BitVec.ofNat 32 (Memory.word header 12 4)

/-- The checksum of the header -/
def gptHeaderCrc32 (header : Buffer) : U32 := BitVec.ofNat 32 (Memory.word header 16 4)

/-- The sector of the entries -/
def gptPartitionEntryLba (header : Buffer) : Ulong := BitVec.ofNat 64 (Memory.word header 72 8)

/-- The number of the entries -/
def gptNumberOfPartitionEntries (header : Buffer) : U32 :=
  BitVec.ofNat 32 (Memory.word header 80 4)

/-- The bytes of an entry, as the header has them -/
def gptSizeOfPartitionEntry (header : Buffer) : U32 := BitVec.ofNat 32 (Memory.word header 84 4)

/-- The checksum of the entries -/
def gptPartitionEntryArrayCrc32 (header : Buffer) : U32 :=
  BitVec.ofNat 32 (Memory.word header 88 4)

/-- The header with another checksum -/
def setGptHeaderCrc32 (header : Buffer) (crc : U32) : Buffer :=
  Memory.setWord header 16 4 crc.toNat

/-- The checksum of a header, with the field for it zero. -/
def gptHeaderCheck (header : Buffer) : U32 :=
  sunxiCrc32 (setGptHeaderCrc32 header 0) (gptHeaderSize header).toNat

/-- The bytes of the entry array, as the code computes them. -/
def gptEntryBytes (header : Buffer) : U32 :=
  gptNumberOfPartitionEntries header * gptSizeOfPartitionEntry header

/-! ### Reading a table -/

/-- `gpt_buf`, `gpt_status`, `gptPartSize` and `gptPartNum` -/
structure GptState : Type where
  gptBuf : Buffer
  gptStatus : Bool
  gptPartSize : U32
  gptPartNum : U32

/-- What a block device answers to a read: whether it succeeds, and the bytes it transfers. -/
abbrev GptDisk : Type := Ulong → U32 → Bool × Buffer

/-- What the reader comes back with -/
inductive GptInitStatus : Type where
  | success
  | invalidParameter
  | deviceError
deriving DecidableEq

/-- The header passes the first check. -/
def gptHeaderPasses (header : Buffer) : Bool :=
  gptSignature header == efiPtabHeaderId && gptHeaderCrc32 header == gptHeaderCheck header &&
    !decide (gptSizeOfPartitionEntry header < sizeofEfiPartitionEntry)

/-- The header that the caller finds in its buffer afterwards: the checksum that was computed
takes the place of the one that was stored. -/
def gptHeaderAfter (header : Buffer) : Buffer :=
  setGptHeaderCrc32 (setGptHeaderCrc32 header 0) (gptHeaderCheck header)

/-- The entries are read over the old ones before they are checked. -/
def gptReadEntries (state : GptState) (disk : GptDisk) (header : Buffer) :
    GptInitStatus × GptState :=
  let answer := disk (gptPartitionEntryLba header) (gptEntryBytes header)
  let gptBuf := Memory.overwrite state.gptBuf 0 (gptEntryBytes header).toNat answer.2
  if !answer.1 then (.deviceError, { state with gptBuf := gptBuf, gptStatus := false })
  else if gptPartitionEntryArrayCrc32 header ≠
      sunxiCrc32 gptBuf (gptEntryBytes header).toNat then
    (.deviceError, { state with gptBuf := gptBuf, gptStatus := false })
  else
    (.success, {
      gptBuf := gptBuf
      gptStatus := true
      gptPartSize := gptSizeOfPartitionEntry header
      gptPartNum := gptNumberOfPartitionEntries header })

/-- `none` when the checksum runs over the end of the caller's buffer, or the transfer over the
end of the buffer for the entries. -/
def sunxiGptPartitionInitialize (state : GptState) (disk : GptDisk) (gptBuff : Buffer)
    (gptLen : U32) : Option (GptInitStatus × GptState × Buffer) :=
  if gptLen < gptHeaderSize gptBuff then none
  else if !gptHeaderPasses gptBuff then
    some (.invalidParameter, { state with gptStatus := false }, gptHeaderAfter gptBuff)
  else if sunxiGptSize < (gptEntryBytes gptBuff).toNat then none
  else some ((gptReadEntries state disk gptBuff).1, (gptReadEntries state disk gptBuff).2,
    gptHeaderAfter gptBuff)

/-! ### The accessors -/

namespace GptState

section Accessors

variable (state : GptState)

/-- A word of `gpt_buf`. -/
def word (address : Int) (count : Nat) : Option Nat :=
  if 0 ≤ address ∧ address + count ≤ sunxiGptSize then
    some (Memory.word state.gptBuf address.toNat count)
  else none

/-- The first sector of an entry -/
def startingLba (entry : Int) : Option Ulong :=
  (state.word (entry + 32) 8).map (BitVec.ofNat 64)

/-- The last sector of an entry -/
def endingLba (entry : Int) : Option Ulong :=
  (state.word (entry + 40) 8).map (BitVec.ofNat 64)

/-- The difference of the last and the first sector of an entry. -/
def entrySize (entry : Int) : Option U32 := do
  let ending ← state.endingLba entry
  let starting ← state.startingLba entry
  return (ending - starting).setWidth 32

/-- The first sector, in 32 bits -/
def entryOffset (entry : Int) : Option U32 :=
  (state.startingLba entry).map (BitVec.setWidth 32)

/-- Where the entry of an index lies; the product has 32 bits. -/
def entryAt (index : U32) : Int := (index * state.gptPartSize).toNat

/-- The number of the partitions -/
def sunxiGptPartitionGetTotalNumber : Option U32 :=
  if !state.gptStatus then none else some state.gptPartNum

/-- An accessor by index: the outer option is the access, the inner one the status. -/
def byIndex {Result : Type} (read : Int → Option Result) (index : U32) : Option (Option Result) :=
  if !state.gptStatus ∨ state.gptPartNum ≤ index then some none
  else (read (state.entryAt index)).map some

/-- The first sector of a partition, by its index -/
def sunxiGptPartitionGetOffset (index : U32) : Option (Option U32) :=
  state.byIndex state.entryOffset index

/-- The sectors of a partition, by its index -/
def sunxiGptPartitionGetSize (index : U32) : Option (Option U32) :=
  state.byIndex state.entrySize index

/-- The bytes up to a zero byte, at most `left` of them. -/
def asciiStrn : Nat → Int → Option (List U8)
  | 0, _ => some []
  | left + 1, address =>
    match state.word address 1 with
    | none => none
    | some char =>
      if char = 0 then some []
      else (asciiStrn left (address + 1)).map (BitVec.ofNat 8 char :: ·)

/-- The name of an entry, taken for bytes and copied into a destination of the size of a
pointer; `none` inside leaves the destination as it was. -/
def copyName (entry : Int) : Option (Option (List U8)) :=
  (state.asciiStrn 8 (entry + 56)).map fun name => if name.length < 8 then some name else none

/-- The name of a partition, by its index -/
def sunxiGptPartitionGetName (index : U32) : Option (Option (Option (List U8))) :=
  state.byIndex state.copyName index

/-- `tmp_data`, the low bytes of the 36 characters of a name, with the stack behind it. -/
def tmpData (entry : Int) (stack : Buffer) : Option Buffer :=
  if 0 ≤ entry + 56 ∧ entry + 128 ≤ sunxiGptSize then
    some fun index =>
      if index < 36 then state.gptBuf ((entry + 56).toNat + 2 * index) else stack (index - 36)
  else none

/-- Where the entry of a counter lies; the product is signed. -/
def entryAtCounter (counter : Nat) : Int := (BitVec.ofNat 32 counter * state.gptPartSize).toInt

end Accessors

end GptState

namespace GptState

section Accessors

variable (state : GptState)

/-- The first entry from `counter` on with the name, among `left` of them. -/
def findName (partName : List U8) (stack : Buffer) : Nat → Nat → Option (Option Int)
  | _, 0 => some none
  | counter, left + 1 =>
    match state.tmpData (state.entryAtCounter counter) stack with
    | none => none
    | some tmpData =>
      if asciiStrEq partName tmpData then some (some (state.entryAtCounter counter))
      else findName partName stack (counter + 1) left

/-- An accessor by name. The number of entries is compared as signed. -/
def byName {Result : Type} (read : Int → Option Result) (partName : List U8) (stack : Buffer) :
    Option (Option Result) :=
  if !state.gptStatus then some none
  else
    match state.findName partName stack 0 state.gptPartNum.toInt.toNat with
    | none => none
    | some none => some none
    | some (some entry) => (read entry).map some

/-- The first sector of a partition, by its name -/
def sunxiGptPartitionGetOffsetByName (partName : List U8) (stack : Buffer) :
    Option (Option U32) :=
  state.byName state.entryOffset partName stack

/-- The sectors of a partition, by its name -/
def sunxiGptPartitionGetSizeByName (partName : List U8) (stack : Buffer) :
    Option (Option U32) :=
  state.byName state.entrySize partName stack

/-- The first sector and the sectors of an entry -/
def entryInfo (entry : Int) : Option (U32 × U32) := do
  let offset ← state.entryOffset entry
  let size ← state.entrySize entry
  return (offset, size)

/-- Both of a partition, by its name -/
def sunxiGptPartitionGetInfoByName (partName : List U8) (stack : Buffer) :
    Option (Option (U32 × U32)) :=
  state.byName state.entryInfo partName stack

end Accessors

end GptState

end PinePhonePkg
