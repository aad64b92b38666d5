/-
This file settles how names, indices and entries of a table of partitions go
together, for both formats. Lookups by name and by index always agree when no
two names are the same. The accessor that hands a name out does not keep up: its
destination counts as 8 bytes, the size of a pointer, so longer names of an MBR
are not copied at all, and of the 16-bit names of a GPT only the first character
arrives.
-/

import Mathlib.Data.List.Find
import Mathlib.Data.List.GetD
import Mathlib.Data.List.Nodup
import PinePhonePkg.Partition.GptReader
import PinePhonePkg.Partition.MbrCache

namespace PinePhonePkg

open Library

/-! ### Tables with names -/

/-- The table that one of the two readers has accepted -/
inductive AcceptedTable : Type where
  | mbr (cache : MbrCache)
  | gpt (state : GptState)

/-- The name of an entry in 16-bit characters, the upper halves of which are zero. -/
structure GptNameIs (table : GptTable) (index : Nat) (name : List U8) : Prop where
  low : NameIs (fun position => table.entries (index * table.size.toNat + 56 + 2 * position)) name
  high : ∀ position ≤ name.length,
    table.entries (index * table.size.toNat + 56 + 2 * position + 1) = 0
  fits : name.length < 36

namespace AcceptedTable

/-- The number of the partitions -/
def count : AcceptedTable → Nat
  | mbr cache => (mbrPartCount cache.mbrBuf).toNat
  | gpt state => state.gptPartNum.toNat

/-- The table was accepted, its entries lie in their buffer, and these are their names. -/
def Named (table : AcceptedTable) (names : Nat → List U8) : Prop :=
  (∀ index < table.count, 0 ∉ names index) ∧
    match table with
    | mbr cache => cache.mbrStatus = true ∧ MbrSound cache.mbrBuf ∧
      ∀ index < (mbrPartCount cache.mbrBuf).toNat,
        NameIs (mbrEntryName cache.mbrBuf index) (names index)
    | gpt state => state.gptStatus = true ∧ state.table.Fits ∧
      ∀ index < state.gptPartNum.toNat, GptNameIs state.table index (names index)

end AcceptedTable

/-- An entry has a name of 1 to 15 characters, and no other entry has the same. -/
structure DistinctName (names : Nat → List U8) (count index : Nat) : Prop where
  counted : index < count
  positive : 0 < (names index).length
  short : (names index).length < 16
  alone : ∀ other < count, names other = names index → other = index

/-! ### What the accessors should do -/

/-- The caller's buffer after a name was written to it with a zero byte behind, if it was. -/
def copyOut (dest : Buffer) : Option (List U8) → Buffer
  | none => dest
  | some name => Memory.overwrite dest 0 (name.length + 1) fun place => name.getD place 0

/-- The buffer of 16 bytes holds the name then, and nothing behind it has changed. -/
def Delivers (written : Option (List U8)) (name : List U8) : Prop :=
  ∀ dest, NameIs (copyOut dest written) name ∧
    ∀ place, 16 ≤ place → copyOut dest written place = dest place

/-- The accessors of the MBR for one field, which comes out of all of them -/
structure MbrFieldAgrees (byIndex : Option U32) (byIndexStatus : Option (Option U32))
    (byName : Option U32) (byNameStatus : Option (Option U32)) (value : U32) : Prop where
  index : byIndex = some value
  indexStatus : byIndexStatus = some (some value)
  name : byName = some value
  nameStatus : byNameStatus = some (some value)

/-- What the functions by name and by index tell of a partition in an MBR fits together. -/
structure MbrNamesAgree (cache : MbrCache) (index : U32) (name : List U8) : Prop where
  getName : ∃ written, cache.sunxiPartitionGetName index = some written ∧ Delivers written name
  getNameStatus : ∃ written,
    cache.sunxipartitionGetName index = some (some written) ∧ Delivers written name
  fields : ∃ offset size,
    MbrFieldAgrees (cache.sunxiPartitionGetOffset index) (cache.sunxipartitionGetOffset index)
      (cache.sunxiPartitionGetOffsetByname name) (cache.sunxiPartitionOffsetByName name) offset ∧
    MbrFieldAgrees (cache.sunxiPartitionGetSize index) (cache.sunxipartitionGetSize index)
      (cache.sunxiPartitionGetSizeByname name) (cache.sunxiPartitionSizeByName name) size ∧
    cache.sunxiPartitionGetInfoByname name = some (0, some (offset, size)) ∧
    cache.sunxiPartitionInfoByName name = some (efiSuccess, some (offset, size))

/-- What lies on the stack behind the copy of a name does not matter. -/
structure GptNamesAgree (state : GptState) (index : U32) (name : List U8) : Prop where
  getName : ∃ written,
    state.sunxiGptPartitionGetName index = some (some written) ∧ Delivers written name
  fields : ∃ offset size,
    state.sunxiGptPartitionGetOffset index = some (some offset) ∧
    state.sunxiGptPartitionGetSize index = some (some size) ∧
    ∀ stack, state.sunxiGptPartitionGetOffsetByName name stack = some (some offset) ∧
      state.sunxiGptPartitionGetSizeByName name stack = some (some size) ∧
      state.sunxiGptPartitionGetInfoByName name stack = some (some (offset, size))

/-- The same for either format -/
def AcceptedTable.NamesAgree (table : AcceptedTable) (index : U32) (name : List U8) : Prop :=
  match table with
  | mbr cache => MbrNamesAgree cache index name
  | gpt state => GptNamesAgree state index name

/-- The name gets through the accessor. -/
def AcceptedTable.NameCopies (table : AcceptedTable) (name : List U8) : Prop :=
  match table with
  | mbr _ => name.length < 8
  | gpt _ => name.length = 1

/-! ### Names in general -/

theorem copyOut_some (dest : Buffer) (name : List U8) :
    copyOut dest (some name) =
      Memory.overwrite dest 0 (name.length + 1) fun place => name.getD place 0 :=
  rfl

theorem nameIs_copyOut (dest : Buffer) (name : List U8) :
    NameIs (copyOut dest (some name)) name := by
  have read (place : Nat) (inside : place < name.length + 1) :
      copyOut dest (some name) place = name.getD place 0 := by
    have copied := Memory.overwrite_inside dest 0 (name.length + 1)
      (fun place => name.getD place 0) place inside
    rwa [Nat.zero_add] at copied
  refine ⟨fun index inside => ?_, ?_⟩
  · rw [read index (by omega)]
    exact List.getD_eq_getElem name 0 inside
  · rw [read name.length (by omega)]
    exact List.getD_eq_default name 0 (Nat.le_refl _)

theorem delivers_some {name : List U8} (short : name.length < 16) :
    Delivers (some name) name := by
  intro dest
  refine ⟨nameIs_copyOut dest name, fun place behind => ?_⟩
  rw [copyOut_some]
  exact Memory.overwrite_outside dest 0 _ _ place (.inr (by omega))

/-- Only the name itself delivers it. -/
theorem delivers_iff {written : Option (List U8)} {name : List U8} (noZero : 0 ∉ name)
    (positive : 0 < name.length) (short : name.length < 16)
    (writtenNoZero : ∀ other ∈ written, 0 ∉ other) :
    Delivers written name ↔ written = some name := by
  constructor
  · intro delivers
    obtain ⟨nameIs, -⟩ := delivers fun _ => 0
    cases written with
    | none =>
      have unchanged : NameIs (fun _ => 0) [] :=
        ⟨fun index inside => absurd inside (Nat.not_lt_zero _), rfl⟩
      rw [nameIs.unique unchanged noZero List.not_mem_nil] at positive
      exact absurd positive (Nat.lt_irrefl 0)
    | some other =>
      have same := (nameIs_copyOut _ other).unique nameIs (writtenNoZero other rfl) noZero
      rw [same]
  · rintro rfl
    exact delivers_some short

/-- The one entry with a name is found by it. -/
theorem find_distinct {strings : Nat → Buffer} {names : Nat → List U8} {count index : Nat}
    (named : ∀ other < count, 0 ∉ names other ∧ NameIs (strings other) (names other))
    (distinct : DistinctName names count index) :
    (List.range count).find? (fun other => asciiStrEq (names index) (strings other)) =
      some index := by
  obtain ⟨noZero, nameIs⟩ := named index distinct.counted
  refine List.find?_range_eq_some.mpr ⟨(asciiStrEq_iff _ _).mpr nameIs,
    List.mem_range.mpr distinct.counted, fun earlier before => ?_⟩
  rw [Bool.not_eq_true']
  refine Bool.eq_false_iff.mpr fun same => ?_
  have counted := Nat.lt_trans before distinct.counted
  obtain ⟨earlierNoZero, earlierIs⟩ := named earlier counted
  have equal := earlierIs.unique ((asciiStrEq_iff _ _).mp same) earlierNoZero noZero
  exact absurd (distinct.alone earlier counted equal) (Nat.ne_of_lt before)

/-! ### The MBR -/

section Mbr

variable (cache : MbrCache)

/-- Inside the table the comparison is one of strings. -/
theorem MbrCache.asciiStrCmp_eq (name : List U8) {address : Nat}
    (inside : address + name.length < sunxiMbrSize) :
    cache.asciiStrCmp name address = some (asciiStrEq name (Memory.drop cache.mbrBuf address)) := by
  induction name generalizing address with
  | nil =>
    have here : address < sunxiMbrSize := inside
    unfold MbrCache.asciiStrCmp
    rw [cache.byte_inside here]
    rfl
  | cons char rest inductionHypothesis =>
    rw [List.length_cons] at inside
    have next := inductionHypothesis (show (address + 1) + rest.length < _ by omega)
    rw [cache.asciiStrCmp_cons (cache.byte_inside (by omega))]
    unfold asciiStrEq
    rw [Memory.drop_drop]
    by_cases same : char = cache.mbrBuf address
    · rw [if_pos same, show char == Memory.drop cache.mbrBuf address 0 from beq_iff_eq.mpr same,
        Bool.true_and]
      exact next
    · rw [if_neg same, show (char == Memory.drop cache.mbrBuf address 0) = false from
        beq_false_of_ne same, Bool.false_and]

/-- Inside the table the bytes in front of the zero byte are the characters of the string. -/
theorem MbrCache.asciiStrn_eq {left address : Nat} (inside : address + left ≤ sunxiMbrSize) :
    cache.asciiStrn left address = some (asciiChars left (Memory.drop cache.mbrBuf address)) := by
  induction left generalizing address with
  | zero => rfl
  | succ left inductionHypothesis =>
    have next := inductionHypothesis (show (address + 1) + left ≤ _ by omega)
    rw [cache.asciiStrn_succ (cache.byte_inside (by omega))]
    unfold asciiChars
    rw [Memory.drop_drop]
    by_cases zero : cache.mbrBuf address = 0
    · rw [if_pos zero, show Memory.drop cache.mbrBuf address 0 = 0 from zero, if_pos rfl]
    · rw [if_neg zero, if_neg (show Memory.drop cache.mbrBuf address 0 ≠ 0 from zero)]
      exact congrArg (Option.map _) next

theorem mbrEntry_nameOffset (index : Nat) :
    mbrEntry index + nameOffset = ((64 + 128 * index : Nat) : Int) := by
  unfold mbrEntry nameOffset
  push_cast
  omega

theorem MbrCache.findName_eq {name : List U8} (fits : FitsTable name) {index left : Nat}
    (room : index + left ≤ sunxiMbrMaxPartCount) :
    cache.findName name index left =
      some ((List.range' index left).find? fun other =>
        asciiStrEq name (mbrEntryName cache.mbrBuf other)) := by
  induction left generalizing index with
  | zero => rfl
  | succ left inductionHypothesis =>
    have short : name.length < 1088 := fits
    have small : index + (left + 1) ≤ 120 := room
    have next := inductionHypothesis (show (index + 1) + left ≤ _ by omega)
    have inside : (64 + 128 * index) + name.length < sunxiMbrSize := by
      unfold sunxiMbrSize
      omega
    have entry : cache.mbrBuf.drop (64 + 128 * index) = mbrEntryName cache.mbrBuf index := rfl
    unfold MbrCache.findName
    rw [mbrEntry_nameOffset, cache.asciiStrCmp_eq name inside, entry, List.range'_succ,
      List.find?_cons]
    cases asciiStrEq name (mbrEntryName cache.mbrBuf index) with
    | true => rfl
    | false => exact next

theorem MbrCache.copyName_eq {name : List U8} (noZero : 0 ∉ name) {index : Nat}
    (room : index < sunxiMbrMaxPartCount) (nameIs : NameIs (mbrEntryName cache.mbrBuf index) name) :
    cache.copyName index = some (if name.length < 8 then some name else none) := by
  have small : index < 120 := room
  have inside : (64 + 128 * index) + 8 ≤ sunxiMbrSize := by
    unfold sunxiMbrSize
    omega
  have chars : asciiChars 8 (Memory.drop cache.mbrBuf (64 + 128 * index)) = name.take 8 :=
    nameIs.chars noZero 8
  unfold MbrCache.copyName
  rw [mbrEntry_nameOffset, cache.asciiStrn_eq inside, chars, Option.map_some, List.length_take]
  by_cases short : name.length < 8
  · rw [if_pos short, if_pos (by omega), List.take_of_length_le (by omega)]
  · rw [if_neg short, if_neg (by omega)]

section Named

variable {cache} {names : Nat → List U8} {index : U32} (status : cache.mbrStatus = true)
  (sound : MbrSound cache.mbrBuf)
  (named : ∀ other < (mbrPartCount cache.mbrBuf).toNat,
    0 ∉ names other ∧ NameIs (mbrEntryName cache.mbrBuf other) (names other))
  (distinct : DistinctName names (mbrPartCount cache.mbrBuf).toNat index.toNat)

include status distinct

theorem MbrCache.accepts_index :
    ¬ ((!cache.mbrStatus) = true ∨ mbrPartCount cache.mbrBuf ≤ index) := by
  rintro (fails | beyond)
  · rw [status] at fails
    exact absurd fails (by decide)
  · exact absurd distinct.counted (Nat.not_lt.mpr beyond)

include sound named

theorem MbrCache.entryByName_eq :
    cache.entryByName (names index.toNat) = some (some index.toNat) := by
  have short := distinct.short
  have room := sound.count
  have fits : FitsTable (names index.toNat) := Nat.lt_trans short (by decide)
  have found := cache.findName_eq fits
    (show 0 + (mbrPartCount cache.mbrBuf).toNat ≤ _ by omega)
  rw [← List.range_eq_range', find_distinct named distinct] at found
  unfold MbrCache.entryByName
  rw [status]
  exact found

/-- All accessors for a field return the one of the entry. -/
theorem MbrCache.fieldAgrees {offset : Nat} (inEntry : offset + 4 ≤ 128) :
    MbrFieldAgrees (cache.entryField offset index) (cache.entryFieldStatus offset index)
      (cache.fieldByName offset (names index.toNat))
      (cache.fieldByNameStatus offset (names index.toNat))
      (mbrEntryWord cache.mbrBuf offset index.toNat) := by
  have room : index.toNat < sunxiMbrMaxPartCount := Nat.lt_of_lt_of_le distinct.counted sound.count
  have accepts := MbrCache.accepts_index status distinct
  have found := MbrCache.entryByName_eq status sound named distinct
  have field := cache.field_entry room inEntry
  constructor
  · unfold MbrCache.entryField
    rw [if_neg accepts, MbrCache.toInt_eq room, field]
  · unfold MbrCache.entryFieldStatus
    rw [if_neg accepts, field]
    rfl
  · unfold MbrCache.fieldByName
    rw [found]
    exact field
  · unfold MbrCache.fieldByNameStatus
    rw [found]
    exact congrArg (Option.map some) field

theorem MbrCache.infoByName_eq :
    cache.sunxiPartitionGetInfoByname (names index.toNat) =
        some (0, some (mbrEntryWord cache.mbrBuf 4 index.toNat,
          mbrEntryWord cache.mbrBuf 12 index.toNat)) ∧
      cache.sunxiPartitionInfoByName (names index.toNat) =
        some (efiSuccess, some (mbrEntryWord cache.mbrBuf 4 index.toNat,
          mbrEntryWord cache.mbrBuf 12 index.toNat)) := by
  have room : index.toNat < sunxiMbrMaxPartCount := Nat.lt_of_lt_of_le distinct.counted sound.count
  have offset : cache.field (mbrEntry index.toNat + addrloOffset) = _ :=
    cache.field_entry room (show 4 + 4 ≤ 128 by decide)
  have size : cache.field (mbrEntry index.toNat + lenloOffset) = _ :=
    cache.field_entry room (show 12 + 4 ≤ 128 by decide)
  unfold MbrCache.sunxiPartitionGetInfoByname MbrCache.sunxiPartitionInfoByName MbrCache.infoByName
  rw [MbrCache.entryByName_eq status sound named distinct, status]
  dsimp only
  rw [offset, size]
  exact ⟨rfl, rfl⟩

theorem MbrCache.agree_iff :
    MbrNamesAgree cache index (names index.toNat) ↔ (names index.toNat).length < 8 := by
  have room : index.toNat < sunxiMbrMaxPartCount := Nat.lt_of_lt_of_le distinct.counted sound.count
  obtain ⟨noZero, nameIs⟩ := named index.toNat distinct.counted
  have copied := cache.copyName_eq noZero room nameIs
  obtain ⟨shortOnly, isShortOnly⟩ : ∃ written, written =
      if (names index.toNat).length < 8 then some (names index.toNat) else none := ⟨_, rfl⟩
  rw [← isShortOnly] at copied
  have getName : cache.sunxiPartitionGetName index = some shortOnly := by
    unfold MbrCache.sunxiPartitionGetName
    rw [if_pos status, MbrCache.toInt_eq room, copied]
  have getNameStatus : cache.sunxipartitionGetName index = some (some shortOnly) := by
    unfold MbrCache.sunxipartitionGetName
    rw [if_neg (MbrCache.accepts_index status distinct), copied]
    rfl
  constructor
  · intro agree
    obtain ⟨written, answer, delivers⟩ := agree.getName
    obtain rfl := Option.some.inj (getName.symm.trans answer)
    by_contra long
    rw [isShortOnly, if_neg long] at delivers
    have none := (delivers_iff noZero distinct.positive distinct.short fun _ absurd => by
      cases absurd).mp delivers
    cases none
  · intro short
    have delivers := delivers_some distinct.short
    rw [isShortOnly, if_pos short] at getName getNameStatus
    exact ⟨⟨_, getName, delivers⟩, ⟨_, getNameStatus, delivers⟩,
      ⟨_, _, MbrCache.fieldAgrees status sound named distinct (show 4 + 4 ≤ 128 by decide),
        MbrCache.fieldAgrees status sound named distinct (show 12 + 4 ≤ 128 by decide),
        MbrCache.infoByName_eq status sound named distinct⟩⟩

end Named

end Mbr

/-! ### The GPT -/

/-- Read as bytes, a name in 16-bit characters ends behind its first one. -/
theorem GptNameIs.copiedName {table : GptTable} {index : Nat} {char : U8} {rest : List U8}
    (nameIs : GptNameIs table index (char :: rest)) (notZero : char ≠ 0) :
    table.copiedName index = some [char] := by
  have first : table.entries (index * table.size.toNat + 56) = char :=
      nameIs.low.1 0 (Nat.succ_pos _)
  have second : table.entries (index * table.size.toNat + 56 + 1) = 0 :=
      nameIs.high 0 (Nat.zero_le _)
  have byte (address : Nat) :
      Memory.word table.entries address 1 = (table.entries address).toNat := rfl
  have value : char.toNat ≠ 0 := fun zero => notZero (BitVec.eq_of_toNat_eq zero)
  have bytes : table.asciiStrn 8 (index * table.size.toNat + 56) = [char] := by
    unfold GptTable.asciiStrn
    rw [byte, first, if_neg value]
    unfold GptTable.asciiStrn
    rw [byte, second, if_pos (show (0 : U8).toNat = 0 from rfl), BitVec.ofNat_toNat,
      BitVec.setWidth_eq]
  unfold GptTable.copiedName
  rw [bytes]
  rfl

theorem GptNameIs.copiedNothing {table : GptTable} {index : Nat}
    (nameIs : GptNameIs table index []) : table.copiedName index = some [] := by
  have first : table.entries (index * table.size.toNat + 56) = 0 := nameIs.low.2
  have byte : Memory.word table.entries (index * table.size.toNat + 56) 1 =
      (table.entries (index * table.size.toNat + 56)).toNat := rfl
  unfold GptTable.copiedName GptTable.asciiStrn
  rw [byte, first, if_pos (show (0 : U8).toNat = 0 from rfl)]
  rfl

/-- The copy of a name ends within itself, so the stack behind it is not looked at. -/
theorem GptNameIs.name {table : GptTable} {index : Nat} {name : List U8}
    (nameIs : GptNameIs table index name) (stack : Buffer) :
    NameIs (table.name stack index) name := by
  refine nameIs.low.congr nameIs.fits fun position small => ?_
  unfold GptTable.name
  exact if_pos small

section Gpt

variable {state : GptState} {names : Nat → List U8} {index : U32}
  (status : state.gptStatus = true) (fits : state.table.Fits)
  (named : ∀ other < state.gptPartNum.toNat,
    0 ∉ names other ∧ GptNameIs state.table other (names other))
  (distinct : DistinctName names state.gptPartNum.toNat index.toNat)

include named distinct in
theorem GptTable.find_named (stack : Buffer) :
    state.table.find (names index.toNat) stack = some index.toNat :=
  find_distinct
    (fun other counted => ⟨(named other counted).1, (named other counted).2.name stack⟩) distinct

include status fits named distinct in
theorem GptState.agree_iff :
    GptNamesAgree state index (names index.toNat) ↔ (names index.toNat).length = 1 := by
  have counted : index < state.gptPartNum := distinct.counted
  have found := GptTable.find_named named distinct
  obtain ⟨noZero, nameIs⟩ := named index.toNat distinct.counted
  have positive := distinct.positive
  have short := distinct.short
  have getName := GptState.sunxiGptPartitionGetName_eq status fits index
  rw [if_pos counted] at getName
  generalize names index.toNat = name at found noZero nameIs positive short ⊢
  obtain ⟨char, rest, rfl⟩ := List.exists_cons_of_length_pos positive
  obtain ⟨charNotZero, -⟩ := not_or.mp (mt List.mem_cons.mpr noZero)
  rw [nameIs.copiedName (Ne.symm charNotZero)] at getName
  constructor
  · intro agree
    obtain ⟨written, answer, delivers⟩ := agree.getName
    obtain rfl := Option.some.inj (Option.some.inj (getName.symm.trans answer))
    have same := (delivers_iff noZero positive short fun other isChar => by
      obtain rfl := Option.some.inj isChar
      simpa using charNotZero).mp delivers
    rw [← Option.some.inj same]
    rfl
  · intro single
    obtain rfl : rest = [] := List.eq_nil_of_length_eq_zero (by simpa using single)
    refine ⟨⟨_, getName, delivers_some short⟩,
      state.table.offset index.toNat, state.table.sectors index.toNat, ?_, ?_, fun stack => ?_⟩
    · rw [GptState.sunxiGptPartitionGetOffset_eq status fits, if_pos counted]
    · rw [GptState.sunxiGptPartitionGetSize_eq status fits, if_pos counted]
    · rw [GptState.sunxiGptPartitionGetOffsetByName_eq status fits,
        GptState.sunxiGptPartitionGetSizeByName_eq status fits,
        GptState.sunxiGptPartitionGetInfoByName_eq status fits, found stack]
      exact ⟨rfl, rfl, rfl⟩

end Gpt

/-! ### Both formats -/

/-- The accessors of a table agree about an entry with a name of its own exactly if the name gets
through: in an MBR up to 7 characters, in a GPT a single one. -/
theorem AcceptedTable.namesAgree_iff {table : AcceptedTable} {names : Nat → List U8} {index : U32}
    (named : table.Named names) (distinct : DistinctName names table.count index.toNat) :
    table.NamesAgree index (names index.toNat) ↔ table.NameCopies (names index.toNat) := by
  obtain ⟨noZero, accepted⟩ := named
  cases table with
  | mbr cache =>
    obtain ⟨status, sound, strings⟩ := accepted
    exact MbrCache.agree_iff status sound
      (fun other counted => ⟨noZero other counted, strings other counted⟩) distinct
  | gpt state =>
    obtain ⟨status, fits, strings⟩ := accepted
    exact GptState.agree_iff status fits
      (fun other counted => ⟨noZero other counted, strings other counted⟩) distinct

/-! ### Tables of some names -/

/-- The name of an index, empty behind the last one -/
def nameAt (names : List (List U8)) (index : Nat) : List U8 := names.getD index []

/-- An MBR with an entry of 256 sectors for each name, and no checksum -/
def namesBytes (names : List (List U8)) : Buffer := fun address =>
  if address = 24 then BitVec.ofNat 8 names.length
  else if address < 16 then if 8 ≤ address then sunxiMbrMagic.getD (address - 8) 0 else 0
  else if 32 ≤ address then
    let offset := (address - 32) % 128
    if 32 ≤ offset then (nameAt names ((address - 32) / 128)).getD (offset - 32) 0
    else if offset = 5 then BitVec.ofNat 8 ((address - 32) / 128 + 1)
    else if offset = 13 then 1
    else 0
  else 0

/-- A table of some names with its checksum -/
def namesMbr (names : List (List U8)) : Buffer :=
  Memory.setWord (namesBytes names) 0 4
    (sunxiCrc32 (Memory.drop (namesBytes names) 4) (sunxiMbrSize - 4)).toNat

/-- The same table, accepted -/
def namesCache (names : List (List U8)) : MbrCache where
  mbrBuf := namesMbr names
  mbrStatus := true

/-- A GPT with an entry of 256 sectors for each name -/
def namesGpt (names : List (List U8)) : GptState where
  gptBuf address :=
    let offset := address % 128
    if 56 ≤ offset ∧ offset % 2 = 0 then (nameAt names (address / 128)).getD ((offset - 56) / 2) 0
    else if offset = 33 then BitVec.ofNat 8 (address / 128 + 1)
    else if offset = 41 then BitVec.ofNat 8 (address / 128 + 2)
    else 0
  gptStatus := true
  gptPartSize := 128
  gptPartNum := BitVec.ofNat 32 names.length

section Names

variable {names : List (List U8)}

theorem namesMbr_after (address : Nat) (after : 4 ≤ address) :
    namesMbr names address = namesBytes names address :=
  Memory.setWord_outside _ (.inr after)

theorem namesMbr_count (few : names.length ≤ 120) :
    (mbrPartCount (namesMbr names)).toNat = names.length := by
  have same : Memory.word (namesMbr names) 24 4 = Memory.word (namesBytes names) 24 4 :=
    Memory.word_congr fun index _ => namesMbr_after (24 + index) (by omega)
  have isCount : Memory.word (namesBytes names) 24 4 = names.length := by
    have low : (BitVec.ofNat 8 names.length).toNat = names.length :=
      (BitVec.toNat_ofNat _ _).trans (Nat.mod_eq_of_lt (by omega))
    have bytes : Memory.word (namesBytes names) 24 4 =
        (BitVec.ofNat 8 names.length).toNat + 256 * 0 := rfl
    omega
  unfold mbrPartCount
  rw [same, isCount, BitVec.toNat_ofNat]
  exact Nat.mod_eq_of_lt (by omega)

theorem namesMbr_sound (few : names.length ≤ 120) : MbrSound (namesMbr names) where
  checks := mbrChecks_setWord (namesBytes names) _ rfl rfl
  count := (namesMbr_count few).le.trans few

/-- The names have no zero byte and fit their entries. -/
structure NamesFit (names : List (List U8)) : Prop where
  few : names.length ≤ 120
  noZero : ∀ name ∈ names, 0 ∉ name
  short : ∀ name ∈ names, name.length < 16

theorem NamesFit.nameAt (fit : NamesFit names) (index : Nat) :
    0 ∉ nameAt names index ∧ (PinePhonePkg.nameAt names index).length < 16 := by
  unfold PinePhonePkg.nameAt
  cases found : names[index]? with
  | none => simp [List.getD_eq_getElem?_getD, found]
  | some name =>
    rw [List.getD_eq_getElem?_getD, found]
    exact ⟨fit.noZero name (List.mem_of_getElem? found), fit.short name (List.mem_of_getElem? found)⟩

theorem namesCache_named (fit : NamesFit names) :
    (AcceptedTable.mbr (namesCache names)).Named (nameAt names) := by
  refine ⟨fun index _ => (fit.nameAt index).1, rfl, namesMbr_sound fit.few, fun index _ => ?_⟩
  have short := (fit.nameAt index).2
  have read : ∀ place ≤ (nameAt names index).length,
      mbrEntryName (namesMbr names) index place = (nameAt names index).getD place 0 := by
    intro place inside
    show namesMbr names (64 + 128 * index + place) = _
    have isIndex : (64 + 128 * index + place - 32) / 128 = index := by omega
    have isOffset : (64 + 128 * index + place - 32) % 128 = 32 + place := by omega
    rw [namesMbr_after _ (by omega)]
    unfold namesBytes
    rw [if_neg (by omega), if_neg (by omega), if_pos (by omega), isIndex, isOffset]
    dsimp only
    rw [if_pos (by omega), Nat.add_sub_cancel_left]
  refine ⟨fun place inside => ?_, ?_⟩
  · exact (read place inside.le).trans (List.getD_eq_getElem _ 0 inside)
  · exact (read _ le_rfl).trans (List.getD_eq_default _ 0 (Nat.le_refl _))

theorem namesGpt_named (fit : NamesFit names) :
    (AcceptedTable.gpt (namesGpt names)).Named (nameAt names) := by
  have isCount : (namesGpt names).gptPartNum.toNat = names.length := by
    have few := fit.few
    exact (BitVec.toNat_ofNat _ _).trans (Nat.mod_eq_of_lt (by omega))
  have fits : (namesGpt names).table.Fits := by
    refine ⟨Nat.le_refl 128, ?_⟩
    show (namesGpt names).gptPartNum.toNat * 128 ≤ sunxiGptSize
    rw [isCount]
    exact (Nat.mul_le_mul_right 128 fit.few).trans (by decide)
  refine ⟨fun index _ => (fit.nameAt index).1, rfl, fits, fun index _ => ?_⟩
  have short := (fit.nameAt index).2
  have low : ∀ place ≤ (nameAt names index).length,
      (namesGpt names).gptBuf (index * 128 + 56 + 2 * place) =
        (nameAt names index).getD place 0 := by
    intro place inside
    have isIndex : (index * 128 + 56 + 2 * place) / 128 = index := by omega
    have isOffset : (index * 128 + 56 + 2 * place) % 128 = 56 + 2 * place := by omega
    unfold namesGpt
    dsimp only
    rw [isIndex, isOffset, if_pos ⟨by omega, by omega⟩, Nat.add_sub_cancel_left,
      Nat.mul_div_cancel_left place (by decide)]
  refine ⟨⟨fun place inside => ?_, ?_⟩, fun place inside => ?_, Nat.lt_trans short (by decide)⟩
  · exact (low place inside.le).trans (List.getD_eq_getElem _ 0 inside)
  · exact (low _ le_rfl).trans (List.getD_eq_default _ 0 (Nat.le_refl _))
  · show (namesGpt names).gptBuf (index * 128 + 56 + 2 * place + 1) = 0
    have isOffset : (index * 128 + 56 + 2 * place + 1) % 128 = 57 + 2 * place := by omega
    unfold namesGpt
    dsimp only
    rw [isOffset, if_neg (by omega), if_neg (by omega), if_neg (by omega)]

/-- A name that no other entry has -/
theorem names_distinct {index : Nat} (fit : NamesFit names) (counted : index < names.length)
    (positive : 0 < (nameAt names index).length) (unique : names.Nodup) :
    DistinctName (nameAt names) names.length index where
  counted := counted
  positive := positive
  short := (fit.nameAt index).2
  alone other otherCounted same := by
    unfold nameAt at same
    rw [List.getD_eq_getElem _ _ counted, List.getD_eq_getElem _ _ otherCounted] at same
    exact (List.Nodup.getElem_inj_iff unique).mp same

theorem count_namesCache (few : names.length ≤ 120) :
    (AcceptedTable.mbr (namesCache names)).count = names.length := namesMbr_count few

theorem count_namesGpt (few : names.length ≤ 120) :
    (AcceptedTable.gpt (namesGpt names)).count = names.length :=
  (BitVec.toNat_ofNat _ _).trans (Nat.mod_eq_of_lt (by omega))

end Names

/-- `boot` -/
def bootName : List U8 := [0x62, 0x6f, 0x6f, 0x74]

/-- `bootloader` -/
def bootloaderName : List U8 := [0x62, 0x6f, 0x6f, 0x74, 0x6c, 0x6f, 0x61, 0x64, 0x65, 0x72]

/-- Two entries of three that have names of their own -/
def threeNames : List (List U8) := [bootName, bootloaderName, [0x62]]

theorem threeNames_fit : NamesFit threeNames where
  few := by decide
  noZero := by decide
  short := by decide

theorem threeNames_distinct {index : Nat} (counted : index < 3) :
    DistinctName (nameAt threeNames) threeNames.length index := by
  refine names_distinct threeNames_fit counted ?_ (by decide)
  have all : ∀ index < 3, 0 < (nameAt threeNames index).length := by decide
  exact all index counted

/-- The second entry of an MBR, and the last one of a GPT -/
theorem AcceptedTable.namesAgree_iff_threeNames :
    ((AcceptedTable.mbr (namesCache threeNames)).NamesAgree 1 bootloaderName ↔
        (AcceptedTable.mbr (namesCache threeNames)).NameCopies bootloaderName) ∧
      ((AcceptedTable.gpt (namesGpt threeNames)).NamesAgree 2 [0x62] ↔
        (AcceptedTable.gpt (namesGpt threeNames)).NameCopies [0x62]) := by
  have mbr := count_namesCache threeNames_fit.few
  have gpt := count_namesGpt threeNames_fit.few
  constructor
  · exact @AcceptedTable.namesAgree_iff _ _ 1 (namesCache_named threeNames_fit)
      (mbr ▸ threeNames_distinct (by decide))
  · exact @AcceptedTable.namesAgree_iff _ _ 2 (namesGpt_named threeNames_fit)
      (gpt ▸ threeNames_distinct (by decide))

/-- In an MBR the name `bootloader` is not copied, and of `boot` in a GPT only the `b` is. -/
theorem not_namesAgree :
    ((AcceptedTable.mbr (namesCache threeNames)).Named (nameAt threeNames) ∧
        ¬ (AcceptedTable.mbr (namesCache threeNames)).NamesAgree 1 bootloaderName) ∧
      (AcceptedTable.gpt (namesGpt threeNames)).Named (nameAt threeNames) ∧
        ¬ (AcceptedTable.gpt (namesGpt threeNames)).NamesAgree 0 bootName := by
  have longNamed := namesCache_named threeNames_fit
  have shortNamed := namesGpt_named threeNames_fit
  have mbr : (mbrPartCount (namesCache threeNames).mbrBuf).toNat = threeNames.length :=
    count_namesCache threeNames_fit.few
  have gpt : (namesGpt threeNames).gptPartNum.toNat = threeNames.length :=
    count_namesGpt threeNames_fit.few
  have long := (@MbrCache.agree_iff _ (nameAt threeNames) 1 rfl longNamed.2.2.1
    (fun other counted => ⟨longNamed.1 other counted, longNamed.2.2.2 other counted⟩)
    (mbr ▸ threeNames_distinct (by decide))).not
  have short := (@GptState.agree_iff _ (nameAt threeNames) 0 rfl shortNamed.2.2.1
    (fun other counted => ⟨shortNamed.1 other counted, shortNamed.2.2.2 other counted⟩)
    (gpt ▸ threeNames_distinct (by decide))).not
  exact ⟨⟨longNamed, long.mpr (by decide)⟩, shortNamed, short.mpr (by decide)⟩

end PinePhonePkg
