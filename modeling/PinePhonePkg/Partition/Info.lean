/-
This file embeds the two functions that describe the partitions in one string,
and settles what their caller gets. The text is built in a buffer of 256 bytes
at an offset that grows, with the size of the whole buffer as the limit of each
piece, so many entries run over its end. The copy to the caller is limited by
the size of a pointer: seven characters and a zero byte are all that ever
arrives, and one short entry of a NAND is all they have room for.
-/

import PinePhonePkg.Partition.Names

namespace PinePhonePkg

open Library

/-! ### Strings of the library -/

/-- The string in an array of this many bytes, if it ends in it -/
def asciiString (size : Nat) (memory : Buffer) : Option (List U8) :=
  if (asciiChars size memory).length < size then some (asciiChars size memory) else none

/-- The characters that `AsciiSPrint` writes; it writes a zero byte behind them. -/
def asciiSPrint (size : Nat) (text : List U8) : List U8 := text.take (size - 1)

/-- `AsciiStrCpyS` to a destination of `room` bytes that is said to have `destMax`. A source that
is not shorter than that is not copied; there is no result when the copy runs over the end. -/
def asciiStrCpySWithin (dest : Buffer) (room destMax : Nat) (source : Buffer) : Option Buffer :=
  let chars := asciiChars destMax source
  if destMax ≤ chars.length then some dest
  else if room ≤ chars.length then none
  else some (copyOut dest (some chars))

/-- The digits of a number -/
def decimalChars (number : Nat) : List U8 :=
  (Nat.toDigits 10 number).map fun digit => BitVec.ofNat 8 digit.toNat

/-- `nand` -/
def nandChars : List U8 := [0x6e, 0x61, 0x6e, 0x64]

/-- `mmcblk0p` -/
def mmcblkChars : List U8 := [0x6d, 0x6d, 0x63, 0x62, 0x6c, 0x6b, 0x30, 0x70]

/-! ### The code -/

/-- `part_name`, the device of an entry -/
def partName (storageType : U32) (index total : Nat) : List U8 :=
  if storageType = 0 then asciiSPrint 16 (nandChars ++ [BitVec.ofNat 8 (0x61 + index)])
  else if index = 0 then mmcblkChars ++ [0x32]
  else if index + 1 = total then mmcblkChars ++ [0x31]
  else asciiSPrint 16 (mmcblkChars ++ decimalChars (index + 4))

/-- `partition_sets`, `offset` and the array for a name, which keeps what it holds when no name is
copied to it -/
structure InfoText : Type where
  partitionSets : Buffer
  offset : Nat
  name : Buffer

section Info

variable (getName : U32 → Option (Option (List U8))) (storageType : U32) (total : Nat)

/-- One turn of the loop; there is no result when it leaves an array. -/
def infoEntry (index : Nat) (info : InfoText) : Option InfoText := do
  let written ← getName (BitVec.ofNat 32 index)
  let chars ← asciiString 16 (copyOut info.name written)
  let device := partName storageType index total
  let text := asciiSPrint 256 (chars ++ [0x40] ++ device ++ [0x3a])
  if 256 < info.offset + (text.length + 1) then none
  else some {
    partitionSets := Memory.overwrite info.partitionSets info.offset (text.length + 1)
      fun place => text.getD place 0
    offset := info.offset + (chars.length + device.length + 2)
    name := copyOut info.name written }

/-- Entry by entry, as long as the names are there -/
def infoEntries (index : Nat) : Nat → InfoText → Option InfoText
  | 0, info => some info
  | left + 1, info => do
    let next ← infoEntry getName storageType total index info
    infoEntries (index + 1) left next

/-- What both functions do for the entries: the caller's buffer, of `room` bytes, afterwards. The
array for a name is not initialised. -/
def deliverInfo (name : Buffer) (room : Nat) (cmdlinePartInfo : Buffer) : Option Buffer := do
  let info ← infoEntries getName storageType total 0 total
    { partitionSets := fun _ => 0, offset := 0, name := name }
  asciiStrCpySWithin cmdlinePartInfo room 8
    (Memory.overwrite info.partitionSets (info.offset - 1) 1 fun _ => 0)

end Info

/-- The number of entries is compared as signed. -/
def MbrCache.sunxiGetPartitionInfo (cache : MbrCache) (storageType : U32) (name : Buffer)
    (room : Nat) (cmdlinePartInfo : Buffer) : Option Buffer :=
  let partTotal := cache.sunxiPartitionGetTotalNum
  if partTotal.toInt ≤ 0 ∨ (sunxiMbrMaxPartCount : Int) < partTotal.toInt then some cmdlinePartInfo
  else deliverInfo cache.sunxiPartitionGetName storageType partTotal.toNat name room cmdlinePartInfo

/-- The statuses of the accessors are not looked at. -/
def GptState.sunxiGptGetPartitionInfo (state : GptState) (storageType : U32) (name : Buffer)
    (room : Nat) (cmdlinePartInfo : Buffer) : Option Buffer :=
  let partTotal := state.sunxiGptPartitionGetTotalNumber.getD 0
  if partTotal ≤ 0 ∨ 128 < partTotal then some cmdlinePartInfo
  else deliverInfo (fun index => (state.sunxiGptPartitionGetName index).map Option.join)
    storageType partTotal.toNat name room cmdlinePartInfo

/-! ### What the caller should get -/

/-- All entries in the order of the table, each with its device -/
def fullInfo (names : Nat → List U8) (storageType : U32) (total : Nat) : List U8 :=
  List.intercalate [0x3a] <| (List.range total).map fun index =>
    names index ++ [0x40] ++ partName storageType index total

/-- What the caller's buffer of `room` bytes should be like afterwards -/
structure InfoDelivered (room : Nat) (full : List U8) (before after : Buffer) : Prop where
  outside : ∀ place, room ≤ place → after place = before place
  terminated : ∃ place < room, after place = 0
  text : full.length < 256 → full.length < room → NameIs after full

namespace AcceptedTable

/-- The table was accepted, and these are the names in its entries, with a zero byte behind in an
MBR only where they have less than 16 characters. -/
def HasNames (table : AcceptedTable) (names : Nat → List U8) : Prop :=
  match table with
  | mbr cache => cache.mbrStatus = true ∧ MbrSound cache.mbrBuf ∧
    ∀ index < (mbrPartCount cache.mbrBuf).toNat,
      names index = asciiChars 16 (mbrEntryName cache.mbrBuf index)
  | gpt state => state.gptStatus = true ∧ state.table.Fits ∧
    ∀ index < state.gptPartNum.toNat, 0 ∉ names index ∧ GptNameIs state.table index (names index)

/-- The text of the partitions, for either format -/
def getPartitionInfo (table : AcceptedTable) (storageType : U32) (name : Buffer) (room : Nat)
    (cmdlinePartInfo : Buffer) : Option Buffer :=
  match table with
  | mbr cache => cache.sunxiGetPartitionInfo storageType name room cmdlinePartInfo
  | gpt state => state.sunxiGptGetPartitionInfo storageType name room cmdlinePartInfo

/-- Whatever the stack and the caller's buffer hold before, no array is left, and the caller gets
the text. -/
def DeliversInfo (table : AcceptedTable) (names : Nat → List U8) (storageType : U32)
    (room : Nat) : Prop :=
  ∀ name before, ∃ after,
    table.getPartitionInfo storageType name room before = some after ∧
      InfoDelivered room (fullInfo names storageType table.count) before after

/-- There is one entry, on a NAND, and its name has at most one character; in a GPT a longer one
passes unnoticed when there is no room for it. -/
def InfoFits (table : AcceptedTable) (names : Nat → List U8) (storageType : U32)
    (room : Nat) : Prop :=
  table.count = 1 ∧ storageType = 0 ∧
    match table with
    | mbr _ => (names 0).length ≤ 1 ∧ (names 0).length + 6 < room
    | gpt _ => min (names 0).length 1 + 6 < room ∧
      ((names 0).length + 6 < room → (names 0).length ≤ 1)

end AcceptedTable

/-! ### Devices -/

theorem decimalChars_spec :
    ∀ index < 128, 0 ∉ decimalChars (index + 4) ∧ (decimalChars (index + 4)).length ≤ 3 := by
  decide

theorem partName_spec (storageType : U32) {index : Nat} (small : index < 128) (total : Nat) :
    0 ∉ partName storageType index total ∧ 5 ≤ (partName storageType index total).length ∧
      (partName storageType index total).length ≤ 11 := by
  obtain ⟨noZero, short⟩ := decimalChars_spec index small
  have nand : (nandChars ++ [BitVec.ofNat 8 (0x61 + index)]).length = 5 := rfl
  have number : (mmcblkChars ++ decimalChars (index + 4)).length ≤ 11 := by
    rw [List.length_append]
    exact Nat.add_le_add_left short 8
  unfold partName asciiSPrint
  split
  · have letter : (0 : U8) ≠ BitVec.ofNat 8 (0x61 + index) := by
      intro zero
      have value : 0 = (0x61 + index) % 2 ^ 8 := congrArg BitVec.toNat zero
      omega
    rw [List.take_of_length_le (by omega)]
    refine ⟨fun member => ?_, by omega, by omega⟩
    rcases List.mem_append.mp member with chars | last
    · exact absurd chars (by decide)
    · exact letter (List.mem_singleton.mp last)
  split
  · decide
  split
  · decide
  · rw [List.take_of_length_le (by omega)]
    refine ⟨fun member => ?_, ?_, number⟩
    · rcases List.mem_append.mp member with chars | digits
      · exact absurd chars (by decide)
      · exact noZero digits
    · rw [List.length_append]
      exact Nat.le_add_right_of_le (show 5 ≤ 8 by decide)

/-! ### Building the text -/

/-- The buffer holds a text, and the offset is its length, for which there was room. -/
structure InfoText.Holds (info : InfoText) (text : List U8) : Prop where
  offset : info.offset = text.length
  inside : info.offset < 256
  string : NameIs info.partitionSets text
  noZero : 0 ∉ text

theorem asciiString_some {size : Nat} {memory : Buffer} {chars : List U8}
    (found : asciiString size memory = some chars) : 0 ∉ chars ∧ chars.length < size := by
  unfold asciiString at found
  split at found
  · rename_i short
    obtain rfl := Option.some.inj found
    exact ⟨asciiChars_noZero _ _, short⟩
  · cases found

theorem asciiString_of_nameIs {size : Nat} {memory : Buffer} {chars : List U8}
    (nameIs : NameIs memory chars) (noZero : 0 ∉ chars) (short : chars.length < size) :
    asciiString size memory = some chars := by
  unfold asciiString
  rw [nameIs.chars noZero, List.take_of_length_le (Nat.le_of_lt short), if_pos short]

section Building

variable {getName : U32 → Option (Option (List U8))} {storageType : U32} {total index : Nat}
  {info after : InfoText} {text : List U8}

/-- One turn of the loop puts an entry behind the text, unless it leaves an array. -/
theorem infoEntry_holds (holds : info.Holds text) (small : index < 128)
    (next : infoEntry getName storageType total index info = some after) :
    ∃ written chars, getName (BitVec.ofNat 32 index) = some written ∧
      asciiString 16 (copyOut info.name written) = some chars ∧
      after.Holds (text ++ (chars ++ [0x40] ++ partName storageType index total ++ [0x3a])) := by
  obtain ⟨deviceNoZero, -, deviceShort⟩ := partName_spec storageType small total
  unfold infoEntry at next
  obtain ⟨written, named, rest⟩ := Option.bind_eq_some_iff.mp next
  obtain ⟨chars, found, rest⟩ := Option.bind_eq_some_iff.mp rest
  obtain ⟨charsNoZero, charsShort⟩ := asciiString_some found
  refine ⟨written, chars, named, found, ?_⟩
  dsimp only at rest
  generalize partName storageType index total = device at rest deviceNoZero deviceShort ⊢
  obtain ⟨entry, isEntry⟩ : ∃ entry, entry = chars ++ [0x40] ++ device ++ [0x3a] := ⟨_, rfl⟩
  have length : entry.length = chars.length + device.length + 2 := by
    rw [isEntry]
    simp only [List.length_append, List.length_singleton]
    omega
  have entryNoZero : 0 ∉ entry := by
    rw [isEntry]
    simp only [List.mem_append, List.mem_singleton, not_or]
    exact ⟨⟨⟨charsNoZero, by decide⟩, deviceNoZero⟩, by decide⟩
  have whole : asciiSPrint 256 entry = entry := List.take_of_length_le (by omega)
  rw [← isEntry] at rest ⊢
  rw [whole, ← length] at rest
  split at rest
  · cases rest
  · rename_i room
    obtain rfl := Option.some.inj rest
    refine ⟨?_, show info.offset + entry.length < 256 by omega, ?_, ?_⟩
    · rw [List.length_append, ← holds.offset]
    · rw [holds.offset]
      exact holds.string.append entry
    · rw [List.mem_append]
      exact not_or.mpr ⟨holds.noZero, entryNoZero⟩

/-- Every entry adds seven characters or more. -/
theorem infoEntries_holds {left : Nat} (holds : info.Holds text) (small : index + left ≤ 128)
    (run : infoEntries getName storageType total index left info = some after) :
    ∃ more, after.Holds (text ++ more) ∧ 7 * left ≤ more.length := by
  induction left generalizing index info text with
  | zero =>
    obtain rfl := Option.some.inj run
    exact ⟨[], by rwa [List.append_nil], Nat.le_refl _⟩
  | succ left inductionHypothesis =>
    unfold infoEntries at run
    obtain ⟨next, entry, rest⟩ := Option.bind_eq_some_iff.mp run
    obtain ⟨written, chars, -, -, nextHolds⟩ := infoEntry_holds holds (by omega) entry
    obtain ⟨-, long, -⟩ := partName_spec storageType (show index < 128 by omega) total
    obtain ⟨more, afterHolds, length⟩ := inductionHypothesis nextHolds (by omega) rest
    rw [List.append_assoc] at afterHolds
    refine ⟨_, afterHolds, ?_⟩
    simp only [List.length_append, List.length_singleton]
    omega

/-- At the start of the buffer there is room for an entry. -/
theorem infoEntry_fits {written : Option (List U8)} {chars : List U8}
    (named : getName (BitVec.ofNat 32 index) = some written)
    (found : asciiString 16 (copyOut info.name written) = some chars)
    (start : info.offset = 0) :
    ∃ after, infoEntry getName storageType total index info = some after := by
  have short : (asciiSPrint 256
      (chars ++ [0x40] ++ partName storageType index total ++ [0x3a])).length ≤ 255 :=
    List.length_take_le 255 _
  unfold infoEntry
  rw [named, Option.bind_eq_bind, Option.bind_some, found, Option.bind_eq_bind, Option.bind_some]
  dsimp only
  rw [if_neg (by omega)]
  exact ⟨_, rfl⟩

end Building

/-! ### The copy to the caller -/

theorem asciiStrCpySWithin_eq {source : Buffer} {text : List U8} (nameIs : NameIs source text)
    (noZero : 0 ∉ text) (dest : Buffer) (room destMax : Nat) :
    asciiStrCpySWithin dest room destMax source =
      if destMax ≤ text.length then some dest
      else if room ≤ text.length then none
      else some (copyOut dest (some text)) := by
  unfold asciiStrCpySWithin
  rw [nameIs.chars noZero]
  dsimp only
  rw [List.length_take]
  by_cases long : destMax ≤ text.length
  · rw [if_pos long, if_pos (by omega)]
  · rw [if_neg long, if_neg (by omega), List.take_of_length_le (by omega),
      Nat.min_eq_right (by omega)]

/-- The caller gets the text without its last character. -/
theorem InfoText.Holds.delivered {info : InfoText} {text : List U8} {last : U8}
    (holds : info.Holds (text ++ [last])) (before : Buffer) (room : Nat) :
    asciiStrCpySWithin before room 8
        (Memory.overwrite info.partitionSets (info.offset - 1) 1 fun _ => 0) =
      if 8 ≤ text.length then some before
      else if room ≤ text.length then none
      else some (copyOut before (some text)) := by
  have offset : info.offset - 1 = text.length := by
    rw [holds.offset, List.length_append, List.length_singleton, Nat.add_sub_cancel]
  have noZero : 0 ∉ text := fun member => holds.noZero (List.mem_append_left _ member)
  rw [offset]
  exact asciiStrCpySWithin_eq holds.string.cut noZero before room 8

section Deliver

variable {getName : U32 → Option (Option (List U8))} {storageType : U32} {total room : Nat}
  {name before after : Buffer}

theorem infoText_holds_nil (name : Buffer) :
    InfoText.Holds { partitionSets := fun _ => 0, offset := 0, name := name } [] where
  offset := rfl
  inside := show 0 < 256 by decide
  string := ⟨fun _ inside => absurd inside (Nat.not_lt_zero _), rfl⟩
  noZero := List.not_mem_nil

/-- With two entries or more, nothing arrives. -/
theorem deliverInfo_many (many : 2 ≤ total) (small : total ≤ 128)
    (run : deliverInfo getName storageType total name room before = some after) :
    after = before := by
  unfold deliverInfo at run
  obtain ⟨info, entries, copy⟩ := Option.bind_eq_some_iff.mp run
  obtain ⟨text, holds, long⟩ := infoEntries_holds (infoText_holds_nil name) (by omega) entries
  rw [List.nil_append] at holds
  obtain rfl | ⟨init, last, rfl⟩ := List.eq_nil_or_concat' text
  · rw [List.length_nil] at long
    omega
  · rw [List.length_append, List.length_singleton] at long
    rw [holds.delivered, if_pos (by omega)] at copy
    exact (Option.some.inj copy).symm

/-- With one entry, its text arrives if it has at most 7 characters. -/
theorem deliverInfo_one {written : Option (List U8)} {chars : List U8}
    (named : getName 0 = some written) (found : asciiString 16 (copyOut name written) = some chars)
    (storageType : U32) (room : Nat) (before : Buffer) :
    deliverInfo getName storageType 1 name room before =
      if 8 ≤ (chars ++ [0x40] ++ partName storageType 0 1).length then some before
      else if room ≤ (chars ++ [0x40] ++ partName storageType 0 1).length then none
      else some (copyOut before (some (chars ++ [0x40] ++ partName storageType 0 1))) := by
  obtain ⟨info, entry⟩ : ∃ info, infoEntry getName storageType 1 0
      { partitionSets := fun _ => 0, offset := 0, name := name } = some info :=
    infoEntry_fits named found rfl
  obtain ⟨other, otherChars, otherNamed, otherFound, holds⟩ :=
    infoEntry_holds (infoText_holds_nil name) (by decide) entry
  obtain rfl := Option.some.inj (named.symm.trans otherNamed)
  obtain rfl := Option.some.inj (found.symm.trans otherFound)
  unfold deliverInfo infoEntries infoEntries
  rw [entry]
  exact holds.delivered before room

/-- An array with a string of 8 characters -/
def eightChars : Buffer := fun place => if place < 8 then 1 else 0

theorem asciiString_eightChars : asciiString 16 eightChars = some (List.replicate 8 1) := by
  decide

/-- What the array holds after the first name: the name if it is copied, and else the 8 characters
from before. -/
theorem asciiString_copyOut_eightChars {copied : Option (List U8)}
    (shape : ∀ chars ∈ copied, 0 ∉ chars ∧ chars.length < 16) :
    ∃ chars, asciiString 16 (copyOut eightChars copied) = some chars ∧
      (chars.length < 8 → copied = some chars) := by
  cases copied with
  | none => exact ⟨_, asciiString_eightChars, fun short => absurd short (by decide)⟩
  | some chars =>
    obtain ⟨noZero, short⟩ := shape chars rfl
    exact ⟨chars, asciiString_of_nameIs (nameIs_copyOut _ chars) noZero short, fun _ => rfl⟩

theorem fullInfo_one (names : Nat → List U8) (storageType : U32) :
    fullInfo names storageType 1 = names 0 ++ [0x40] ++ partName storageType 0 1 := by
  simp [fullInfo]

theorem not_delivered_same (full : List U8) :
    ¬ InfoDelivered room full (fun _ => 1) fun _ => 1 := by
  intro delivered
  obtain ⟨place, -, zero⟩ := delivered.terminated
  exact absurd zero (by decide)

/-- The text for one entry on a NAND -/
theorem length_nandText (chars : List U8) :
    (chars ++ [0x40] ++ partName 0 0 1).length = chars.length + 6 := by
  rw [List.length_append, List.length_append]
  rfl

/-- The text gives the name away. -/
theorem nandText_unique {text : Buffer} {first second : List U8} (firstNoZero : 0 ∉ first)
    (secondNoZero : 0 ∉ second) (isFirst : NameIs text (first ++ [0x40] ++ partName 0 0 1))
    (isSecond : NameIs text (second ++ [0x40] ++ partName 0 0 1)) : first = second := by
  have deviceNoZero : 0 ∉ [0x40] ++ partName 0 0 1 := by decide
  rw [List.append_assoc] at isFirst isSecond
  have same := isFirst.unique isSecond
    (fun zero => (List.mem_append.mp zero).elim firstNoZero deviceNoZero)
    (fun zero => (List.mem_append.mp zero).elim secondNoZero deviceNoZero)
  exact List.append_cancel_right same

/-- What the caller gets when a short name is copied to the array -/
theorem deliverInfo_short {chars : List U8} (named : getName 0 = some (some chars))
    (noZero : 0 ∉ chars) (short : chars.length ≤ 1) (fits : chars.length + 6 < room)
    (name before : Buffer) :
    deliverInfo getName 0 1 name room before =
      some (copyOut before (some (chars ++ [0x40] ++ partName 0 0 1))) := by
  have found : asciiString 16 (copyOut name (some chars)) = some chars :=
    asciiString_of_nameIs (nameIs_copyOut name chars) noZero (by omega)
  have length := length_nandText chars
  rw [deliverInfo_one named found, if_neg (by omega), if_neg (by omega)]

/-- Where the array starts with 8 characters, the caller gets nothing but the text for a short name
on a NAND. -/
theorem deliverInfo_different {copied : Option (List U8)} {before after : Buffer}
    (named : getName 0 = some copied) (shape : ∀ chars ∈ copied, 0 ∉ chars ∧ chars.length < 16)
    (positive : 0 < total) (small : total ≤ 128)
    (run : deliverInfo getName storageType total eightChars room before = some after)
    (different : after ≠ before) :
    total = 1 ∧ storageType = 0 ∧ ∃ chars, copied = some chars ∧ chars.length ≤ 1 ∧
      chars.length + 6 < room ∧
        after = copyOut before (some (chars ++ [0x40] ++ partName 0 0 1)) := by
  obtain rfl : total = 1 := by
    by_contra more
    exact different (deliverInfo_many (by omega) small run)
  obtain ⟨chars, found, isCopied⟩ := asciiString_copyOut_eightChars shape
  rw [deliverInfo_one named found] at run
  split at run
  · exact absurd (Option.some.inj run).symm different
  rename_i few
  obtain rfl : storageType = 0 := by
    by_contra card
    have device : partName storageType 0 1 = mmcblkChars ++ [0x32] := by
      unfold partName
      rw [if_neg card, if_pos rfl]
    refine few ?_
    rw [device, List.length_append]
    exact Nat.le_add_left_of_le (show 8 ≤ 9 by decide)
  rw [length_nandText] at few run
  split at run
  · cases run
  · exact ⟨rfl, rfl, chars, isCopied (by omega), by omega, by omega,
      (Option.some.inj run).symm⟩

/-- The two functions deliver what they should exactly if there is one entry, on a NAND, whose name
gets to the array, is short, and is the whole name unless that would not fit. -/
theorem deliverInfo_iff {names : Nat → List U8} {copied : Option (List U8)}
    (named : getName 0 = some copied)
    (shape : ∀ chars ∈ copied, 0 ∉ chars ∧ chars.length < 16)
    (noZero : 0 ∉ names 0) (bounded : (names 0).length < 36) (positive : 0 < total)
    (small : total ≤ 128) :
    (∀ name before, ∃ after,
        deliverInfo getName storageType total name room before = some after ∧
          InfoDelivered room (fullInfo names storageType total) before after) ↔
      total = 1 ∧ storageType = 0 ∧ ∃ chars, copied = some chars ∧ chars.length ≤ 1 ∧
        chars.length + 6 < room ∧ ((names 0).length + 6 < room → names 0 = chars) := by
  constructor
  · intro delivers
    obtain ⟨after, run, delivered⟩ := delivers eightChars fun _ => 1
    have different : after ≠ fun _ => 1 := by
      rintro rfl
      exact not_delivered_same _ delivered
    obtain ⟨rfl, rfl, chars, whole, short, inRoom, rfl⟩ :=
      deliverInfo_different named shape positive small run different
    refine ⟨rfl, rfl, chars, whole, short, inRoom, fun fits => ?_⟩
    have text := delivered.text
    rw [fullInfo_one, length_nandText] at text
    exact nandText_unique noZero (shape chars whole).1 (text (by omega) fits) (nameIs_copyOut _ _)
  · rintro ⟨rfl, rfl, chars, rfl, short, inRoom, whole⟩ name before
    obtain ⟨charsNoZero, -⟩ := shape chars rfl
    refine ⟨_, deliverInfo_short named charsNoZero short inRoom name before, ?_, ?_, ?_⟩
    · intro place beyond
      rw [copyOut_some]
      exact Memory.overwrite_outside before 0 _ _ place
        (Or.inr (by rw [length_nandText]; omega))
    · exact ⟨_, by rw [length_nandText]; exact inRoom, (nameIs_copyOut before _).2⟩
    · intro _ fits
      rw [fullInfo_one, length_nandText] at fits
      rw [fullInfo_one, whole fits]
      exact nameIs_copyOut before _

end Deliver

/-! ### Both tables -/

/-- What the accessor copies of the first name of an MBR -/
theorem MbrCache.getName_first {cache : MbrCache} (status : cache.mbrStatus = true)
    (name : List U8) (isName : name = asciiChars 16 (mbrEntryName cache.mbrBuf 0)) :
    cache.sunxiPartitionGetName 0 = some (if name.length < 8 then some name else none) := by
  have chars : asciiChars 8 (Memory.drop cache.mbrBuf (64 + 128 * 0)) = name.take 8 := by
    rw [isName]
    exact asciiChars_take (by decide) _
  have inside : (64 + 128 * 0) + 8 ≤ sunxiMbrSize := by decide
  unfold MbrCache.sunxiPartitionGetName MbrCache.copyName
  rw [if_pos status]
  show (cache.asciiStrn 8 (64 + 128 * 0 : Nat)).map _ = _
  rw [cache.asciiStrn_eq inside, chars, Option.map_some, List.length_take]
  by_cases short : name.length < 8
  · rw [if_pos short, if_pos (by omega), List.take_of_length_le (by omega)]
  · rw [if_neg short, if_neg (by omega)]

/-- What the accessor copies of the first name of a GPT -/
theorem GptState.getName_first {state : GptState} (status : state.gptStatus = true)
    (fits : state.table.Fits) (counted : 0 < state.gptPartNum) {name : List U8}
    (noZero : 0 ∉ name) (nameIs : GptNameIs state.table 0 name) :
    (state.sunxiGptPartitionGetName 0).map Option.join = some (some (name.take 1)) := by
  have copied : state.table.copiedName (0 : U32).toNat = some (name.take 1) := by
    cases name with
    | nil => exact nameIs.copiedNothing
    | cons char rest =>
      exact nameIs.copiedName fun zero => noZero (zero ▸ List.mem_cons_self)
  rw [GptState.sunxiGptPartitionGetName_eq status fits, if_pos counted, copied]
  rfl

theorem MbrCache.sunxiGetPartitionInfo_eq {cache : MbrCache} (status : cache.mbrStatus = true)
    (sound : MbrSound cache.mbrBuf) (storageType : U32) (name : Buffer) (room : Nat)
    (before : Buffer) :
    cache.sunxiGetPartitionInfo storageType name room before =
      if (mbrPartCount cache.mbrBuf).toNat = 0 then some before
      else deliverInfo cache.sunxiPartitionGetName storageType (mbrPartCount cache.mbrBuf).toNat
        name room before := by
  have most : (mbrPartCount cache.mbrBuf).toNat ≤ 120 := sound.count
  have total : cache.sunxiPartitionGetTotalNum = mbrPartCount cache.mbrBuf := by
    unfold MbrCache.sunxiPartitionGetTotalNum
    rw [status]
    rfl
  have limit : (sunxiMbrMaxPartCount : Int) = 120 := rfl
  unfold MbrCache.sunxiGetPartitionInfo
  dsimp only
  rw [total, BitVec.toInt_eq_toNat_of_lt (by omega), limit]
  by_cases none : (mbrPartCount cache.mbrBuf).toNat = 0
  · rw [if_pos none, if_pos (by omega)]
  · rw [if_neg none, if_neg (by omega)]

theorem GptState.sunxiGptGetPartitionInfo_eq {state : GptState} (status : state.gptStatus = true)
    (fits : state.table.Fits) (storageType : U32) (name : Buffer) (room : Nat)
    (before : Buffer) :
    state.sunxiGptGetPartitionInfo storageType name room before =
      if state.gptPartNum.toNat = 0 then some before
      else deliverInfo (fun index => (state.sunxiGptPartitionGetName index).map Option.join)
        storageType state.gptPartNum.toNat name room before := by
  have most : state.gptPartNum.toNat ≤ 128 := fits.num_le
  have total : state.sunxiGptPartitionGetTotalNumber = some state.gptPartNum := by
    unfold GptState.sunxiGptPartitionGetTotalNumber
    rw [status]
    rfl
  unfold GptState.sunxiGptGetPartitionInfo
  rw [total, Option.getD_some]
  dsimp only
  by_cases none : state.gptPartNum.toNat = 0
  · rw [if_pos none, if_pos (by bv_omega)]
  · rw [if_neg none, if_neg (by bv_omega)]

/-- One argument for both tables: a table without entries is left at once, and the others go
through the loop. -/
theorem AcceptedTable.deliversInfo_of_code (table : AcceptedTable) (names : Nat → List U8)
    (storageType : U32) (room : Nat) (getName : U32 → Option (Option (List U8)))
    (copied : Option (List U8)) (small : table.count ≤ 128)
    (code : ∀ name before, table.getPartitionInfo storageType name room before =
      if table.count = 0 then some before
      else deliverInfo getName storageType table.count name room before)
    (first : 0 < table.count → getName 0 = some copied ∧
      (∀ chars ∈ copied, 0 ∉ chars ∧ chars.length < 16) ∧ 0 ∉ names 0 ∧ (names 0).length < 36) :
    table.DeliversInfo names storageType room ↔
      table.count = 1 ∧ storageType = 0 ∧ ∃ chars, copied = some chars ∧ chars.length ≤ 1 ∧
        chars.length + 6 < room ∧ ((names 0).length + 6 < room → names 0 = chars) := by
  by_cases none : table.count = 0
  · refine iff_of_false (fun delivers => ?_) fun fits => absurd (none.symm.trans fits.1) (by decide)
    obtain ⟨after, run, delivered⟩ := delivers (fun _ => 0) fun _ => 1
    rw [code, if_pos none] at run
    obtain rfl := Option.some.inj run
    exact not_delivered_same _ delivered
  · have positive : 0 < table.count := Nat.pos_of_ne_zero none
    obtain ⟨named, shape, noZero, bounded⟩ := first positive
    unfold AcceptedTable.DeliversInfo
    simp only [code, if_neg none]
    exact deliverInfo_iff named shape noZero bounded positive small

theorem AcceptedTable.deliversInfo_mbr_iff {cache : MbrCache} {names : Nat → List U8}
    (hasNames : (AcceptedTable.mbr cache).HasNames names) (storageType : U32) (room : Nat) :
    (AcceptedTable.mbr cache).DeliversInfo names storageType room ↔
      (AcceptedTable.mbr cache).InfoFits names storageType room := by
  obtain ⟨status, sound, isName⟩ := hasNames
  have most : (mbrPartCount cache.mbrBuf).toNat ≤ 120 := sound.count
  refine (deliversInfo_of_code (.mbr cache) names storageType room cache.sunxiPartitionGetName
    (if (names 0).length < 8 then some (names 0) else none) (Nat.le_trans most (by decide))
    (MbrCache.sunxiGetPartitionInfo_eq status sound storageType · room ·) fun positive => ?_).trans
    (and_congr_right' (and_congr_right' ?_))
  · have first := isName 0 positive
    have noZero : 0 ∉ names 0 := first ▸ asciiChars_noZero 16 _
    have bounded : (names 0).length ≤ 16 := first ▸ asciiChars_length 16 _
    refine ⟨MbrCache.getName_first status (names 0) first, fun chars member => ?_, noZero,
      by omega⟩
    split at member
    · obtain rfl := Option.some.inj member
      exact ⟨noZero, by omega⟩
    · cases member
  · constructor
    · rintro ⟨chars, copied, short, inRoom, -⟩
      split at copied
      · obtain rfl := Option.some.inj copied
        exact ⟨short, inRoom⟩
      · cases copied
    · rintro ⟨short, inRoom⟩
      exact ⟨names 0, if_pos (by omega), short, inRoom, fun _ => rfl⟩

theorem AcceptedTable.deliversInfo_gpt_iff {state : GptState} {names : Nat → List U8}
    (hasNames : (AcceptedTable.gpt state).HasNames names) (storageType : U32) (room : Nat) :
    (AcceptedTable.gpt state).DeliversInfo names storageType room ↔
      (AcceptedTable.gpt state).InfoFits names storageType room := by
  obtain ⟨status, fits, isName⟩ := hasNames
  refine (deliversInfo_of_code (.gpt state) names storageType room _
    (some ((names 0).take 1)) fits.num_le
    (GptState.sunxiGptGetPartitionInfo_eq status fits storageType · room ·)
    fun positive => ?_).trans
    (and_congr_right' (and_congr_right' ?_))
  · obtain ⟨noZero, nameIs⟩ := isName 0 positive
    refine ⟨GptState.getName_first status fits positive noZero nameIs, fun chars member => ?_,
      noZero, nameIs.fits⟩
    obtain rfl := Option.some.inj member
    exact ⟨fun zero => noZero (List.mem_of_mem_take zero),
      Nat.lt_of_le_of_lt (List.length_take_le 1 _) (by decide)⟩
  · have length : ((names 0).take 1).length = min (names 0).length 1 := by
      rw [List.length_take, Nat.min_comm]
    constructor
    · rintro ⟨chars, copied, -, inRoom, whole⟩
      obtain rfl := Option.some.inj copied
      rw [length] at inRoom
      refine ⟨inRoom, fun fits => ?_⟩
      rw [whole fits]
      exact List.length_take_le 1 _
    · rintro ⟨inRoom, whole⟩
      refine ⟨_, rfl, List.length_take_le 1 _, by rw [length]; exact inRoom, fun fits => ?_⟩
      exact (List.take_of_length_le (whole fits)).symm

/-- The functions keep to their arrays and deliver the text exactly for a single entry with a name
of one character at most, on a NAND, and to a caller with room for it. -/
theorem AcceptedTable.deliversInfo_iff {table : AcceptedTable} {names : Nat → List U8}
    (hasNames : table.HasNames names) (storageType : U32) (room : Nat) :
    table.DeliversInfo names storageType room ↔ table.InfoFits names storageType room := by
  cases table with
  | mbr cache => exact AcceptedTable.deliversInfo_mbr_iff hasNames storageType room
  | gpt state => exact AcceptedTable.deliversInfo_gpt_iff hasNames storageType room

/-! ### Tables of some names -/

theorem namesCache_hasNames {names : List (List U8)} (fit : NamesFit names) :
    (AcceptedTable.mbr (namesCache names)).HasNames (nameAt names) := by
  obtain ⟨-, status, sound, nameIs⟩ := namesCache_named fit
  refine ⟨status, sound, fun index counted => ?_⟩
  rw [(nameIs index counted).chars (fit.nameAt index).1,
    List.take_of_length_le (fit.nameAt index).2.le]

theorem namesGpt_hasNames {names : List (List U8)} (fit : NamesFit names) :
    (AcceptedTable.gpt (namesGpt names)).HasNames (nameAt names) := by
  obtain ⟨-, status, fits, nameIs⟩ := namesGpt_named fit
  exact ⟨status, fits, fun index counted => ⟨(fit.nameAt index).1, nameIs index counted⟩⟩

/-- A single short name on a NAND, and three names on an SD card -/
theorem AcceptedTable.deliversInfo_iff_names :
    ((AcceptedTable.mbr (namesCache [[0x61]])).DeliversInfo (nameAt [[0x61]]) 0 8 ↔
        (AcceptedTable.mbr (namesCache [[0x61]])).InfoFits (nameAt [[0x61]]) 0 8) ∧
      ((AcceptedTable.gpt (namesGpt threeNames)).DeliversInfo (nameAt threeNames) 2 256 ↔
        (AcceptedTable.gpt (namesGpt threeNames)).InfoFits (nameAt threeNames) 2 256) := by
  have single : NamesFit [[0x61]] := ⟨by decide, by decide, by decide⟩
  exact ⟨AcceptedTable.deliversInfo_iff (namesCache_hasNames single) 0 8,
    AcceptedTable.deliversInfo_iff (namesGpt_hasNames threeNames_fit) 2 256⟩

/-- The text for one entry named `boot` on an SD card, `boot@mmcblk0p2`, does not arrive. -/
theorem not_deliversInfo :
    (AcceptedTable.mbr (namesCache [bootName])).HasNames (nameAt [bootName]) ∧
      ¬ (AcceptedTable.mbr (namesCache [bootName])).DeliversInfo (nameAt [bootName]) 2 256 := by
  have hasNames := namesCache_hasNames (⟨by decide, by decide, by decide⟩ : NamesFit [bootName])
  refine ⟨hasNames, fun delivers => ?_⟩
  have fits := (AcceptedTable.deliversInfo_mbr_iff hasNames 2 256).mp delivers
  exact absurd fits.2.1 (by decide)

end PinePhonePkg
