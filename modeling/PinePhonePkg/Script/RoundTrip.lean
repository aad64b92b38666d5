/-
This file follows a patch of a script image by fetches. A patch changes the
value of one key and nothing else, and what is fetched is what was patched; but
behind a string that is shorter than its value the words of the old string stay.
-/

import PinePhonePkg.Script.Lookup

namespace PinePhonePkg

open Library

/-! ### Lengths -/

/-- The bytes of a number of words, as the code computes them. -/
theorem bytes_of_words {words : U32} (small : words.toNat < 2 ^ 29) :
    ((words <<< 2).signExtend 64).toNat = 4 * words.toNat := by
  have shifted : (words <<< 2).toNat = 4 * words.toNat := by
    rw [BitVec.toNat_shiftLeft, Nat.shiftLeft_eq]
    omega
  have positive : (words <<< 2).msb = false := by
    rw [BitVec.msb_eq_false_iff_two_mul_lt, shifted]
    omega
  rw [BitVec.signExtend_eq_setWidth_of_msb_false positive, BitVec.toNat_setWidth, shifted]
  omega

theorem wordCount_lt (image : Buffer) (subKey : Nat) : (wordCount image subKey).toNat < 2 ^ 16 := by
  unfold wordCount
  rw [BitVec.toNat_and]
  exact Nat.lt_of_le_of_lt Nat.and_le_right (by decide)

/-- A number that is not negative. -/
theorem toNat_lt_of_nonneg {number : U32} (positive : 0 ≤ number.toInt) :
    number.toNat < 2 ^ 31 := by
  by_contra negative
  rw [BitVec.toInt_eq_toNat_cond, if_neg (by omega)] at positive
  have bound := number.isLt
  omega

theorem toInt_nonneg {number : U32} (small : number.toNat < 2 ^ 31) : 0 ≤ number.toInt := by
  rw [BitVec.toInt_eq_toNat_cond, if_pos (by omega)]
  exact Int.natCast_nonneg _

/-- The smaller of two counts, of which the second is not negative. -/
theorem min_of_slt {first second : U32} (small : first.toNat < 2 ^ 31)
    (positive : 0 ≤ second.toInt) :
    (if first.slt second then first else second).toNat = min first.toNat second.toNat := by
  have below := toNat_lt_of_nonneg positive
  have firstInt : first.toInt = first.toNat := by
    rw [BitVec.toInt_eq_toNat_cond, if_pos (by omega)]
  have secondInt : second.toInt = second.toNat := by
    rw [BitVec.toInt_eq_toNat_cond, if_pos (by omega)]
  have compare : first.slt second = decide (first.toNat < second.toNat) := by
    rw [BitVec.slt_eq_decide, firstInt, secondInt]
    simp
  rw [compare]
  by_cases less : first.toNat < second.toNat
  · rw [if_pos (decide_eq_true less), Nat.min_eq_left (Nat.le_of_lt less)]
  · rw [if_neg (by simpa using less), Nat.min_eq_right (Nat.not_lt.mp less)]

/-- The types that have a value. -/
theorem patchable_cases {type : Nat} (accepted : patchable type = true) :
    type = valueTypeSingleWord ∨ type = valueTypeString ∨ type = valueTypeGpioWord := by
  unfold patchable at accepted
  split at accepted
  · exact .inl rfl
  · exact .inr (.inr rfl)
  · exact .inr (.inl rfl)
  · cases accepted

section Length

variable {image : Buffer} {subKey : Nat}

theorem valueLength_singleWord (type : valueType image subKey = valueTypeSingleWord) :
    valueLength image subKey = 4 := by
  unfold valueLength
  rw [type]
  rfl

theorem valueLength_string (type : valueType image subKey = valueTypeString) :
    valueLength image subKey = 4 * (wordCount image subKey).toNat := by
  unfold valueLength
  rw [type]
  rfl

theorem valueLength_gpioWord (type : valueType image subKey = valueTypeGpioWord) :
    valueLength image subKey = 24 := by
  unfold valueLength
  rw [type]
  rfl

end Length

/-! ### The image after a patch -/

section Patch

variable (image : Buffer) (subKey : Nat) (str : Buffer) {strSize : U32}

/-- The bytes of a value that a patch writes. -/
def patchLength (strSize : U32) : Nat :=
  match valueType image subKey with
  | valueTypeSingleWord => 4
  | valueTypeString => 4 * min (wordCount image subKey).toNat strSize.toNat
  | valueTypeGpioWord => 24
  | _ => 0

/-- The words that are patched in; those of a pin come behind its name. -/
def patchSource : Buffer :=
  if valueType image subKey = valueTypeGpioWord then Memory.drop str 32 else str

/-- Clearing no byte is no change, so that a patch is one copy. -/
theorem patchValue_eq (positive : 0 ≤ strSize.toInt) :
    patchValue image subKey str strSize =
      image.overwrite (subKeyOffset image subKey) (patchLength image subKey strSize)
        (patchSource image subKey str) := by
  have count := wordCount_lt image subKey
  have words := min_of_slt (Nat.lt_trans count (by decide)) positive
  have fewer : (if (wordCount image subKey).slt strSize then wordCount image subKey
      else strSize).toNat < 2 ^ 29 := by
    rw [words]
    omega
  unfold patchValue patchLength patchSource setMem
  dsimp only
  split
  · rename_i type
    rw [type, if_neg (by decide)]
    rfl
  · rename_i type
    rw [type, if_pos rfl, Memory.overwrite_zero]
    rfl
  · rename_i type
    rw [type, if_neg (show ¬ valueTypeString = valueTypeGpioWord by decide),
      Memory.overwrite_zero, bytes_of_words fewer, words]
    rfl
  · rename_i single gpio string
    split
    · rename_i type
      exact absurd type single
    · rename_i type
      exact absurd type string
    · rename_i type
      exact absurd type gpio
    · rw [Memory.overwrite_zero]

variable {image subKey}

theorem patchLength_singleWord (type : valueType image subKey = valueTypeSingleWord) :
    patchLength image subKey strSize = 4 := by
  unfold patchLength
  rw [type]
  rfl

theorem patchLength_string (type : valueType image subKey = valueTypeString) :
    patchLength image subKey strSize =
      4 * min (wordCount image subKey).toNat strSize.toNat := by
  unfold patchLength
  rw [type]
  rfl

theorem patchLength_gpioWord (type : valueType image subKey = valueTypeGpioWord) :
    patchLength image subKey strSize = 24 := by
  unfold patchLength
  rw [type]
  rfl

theorem patchLength_other (noValue : patchable (valueType image subKey) = false) :
    patchLength image subKey strSize = 0 := by
  unfold patchLength
  split
  · rename_i type
    rw [type] at noValue
    cases noValue
  · rename_i type
    rw [type] at noValue
    cases noValue
  · rename_i type
    rw [type] at noValue
    cases noValue
  · rfl

theorem patchSource_gpioWord (type : valueType image subKey = valueTypeGpioWord) :
    patchSource image subKey str = Memory.drop str 32 :=
  if_pos type

theorem patchSource_other (type : valueType image subKey ≠ valueTypeGpioWord) :
    patchSource image subKey str = str :=
  if_neg type

variable (image subKey)

theorem patchLength_le (strSize : U32) :
    patchLength image subKey strSize ≤ valueLength image subKey := by
  cases accepted : patchable (valueType image subKey) with
  | false =>
    rw [patchLength_other accepted]
    exact Nat.zero_le _
  | true =>
    rcases patchable_cases accepted with single | string | gpio
    · rw [patchLength_singleWord single, valueLength_singleWord single]
    · rw [patchLength_string string, valueLength_string string]
      exact Nat.mul_le_mul_left 4 (Nat.min_le_left _ _)
    · rw [patchLength_gpioWord gpio, valueLength_gpioWord gpio]

/-- A patch leaves everything but the value. -/
theorem patchValue_outside (positive : 0 ≤ strSize.toInt) {place : Nat}
    (outside : ¬ InValue image subKey place) :
    patchValue image subKey str strSize place = image place := by
  have shorter := patchLength_le image subKey strSize
  unfold InValue at outside
  rw [patchValue_eq image subKey str positive]
  exact Memory.overwrite_outside image _ _ _ place (by omega)

end Patch

/-! ### Fetching one value -/

section Fetch

variable {image : Buffer} {subKey : Nat} (subName : List U8) (value : Buffer) {count : U32}

theorem fetchValue_singleWord (type : valueType image subKey = valueTypeSingleWord) :
    fetchValue image subKey subName value count =
      (.ok, value.overwrite 0 4 (Memory.drop image (subKeyOffset image subKey))) := by
  unfold fetchValue
  rw [type]
  rfl

/-- As many words of a string are fetched as there are and as are asked for. -/
theorem fetchValue_string (type : valueType image subKey = valueTypeString)
    (positive : 0 ≤ count.toInt) :
    fetchValue image subKey subName value count =
      (.ok, value.overwrite 0 (4 * min count.toNat (wordCount image subKey).toNat)
        (Memory.drop image (subKeyOffset image subKey))) := by
  have words := wordCount_lt image subKey
  have fewer := min_of_slt (toNat_lt_of_nonneg positive)
    (toInt_nonneg (Nat.lt_trans words (by decide)))
  have small : (if count.slt (wordCount image subKey) then count
      else wordCount image subKey).toNat < 2 ^ 29 := by
    rw [fewer]
    omega
  unfold fetchValue
  rw [type]
  dsimp only [valueTypeString]
  rw [bytes_of_words small, fewer]
  rfl

/-- A pin is fetched behind its name, when there is room for both. -/
theorem fetchValue_gpioWord (type : valueType image subKey = valueTypeGpioWord) :
    fetchValue image subKey subName value count =
      if ((count <<< 2).signExtend 64).toNat < 56 then (.bufferNotEnough, value)
      else (.ok, (asciiStrCpyS value 32 subName).overwrite 32 24
        (Memory.drop image (subKeyOffset image subKey))) := by
  unfold fetchValue
  rw [type]
  rfl

theorem fetchValue_gpioWord_ok (type : valueType image subKey = valueTypeGpioWord)
    (enough : 14 ≤ count.toNat) (small : count.toNat < 2 ^ 29) :
    fetchValue image subKey subName value count =
      (.ok, (asciiStrCpyS value 32 subName).overwrite 32 24
        (Memory.drop image (subKeyOffset image subKey))) := by
  rw [fetchValue_gpioWord subName value type, bytes_of_words small, if_neg (by omega)]

theorem fetchValue_other (type : patchable (valueType image subKey) = false) :
    (fetchValue image subKey subName value count).2 = value := by
  unfold fetchValue
  split
  · rename_i single
    rw [single] at type
    cases type
  · rename_i string
    rw [string] at type
    cases type
  · rename_i gpio
    rw [gpio] at type
    cases type
  · rfl
  · rfl

/-- What is fetched depends on the type, the place and the bytes of the value. -/
theorem fetchValue_congr {other : Buffer} (type : valueType other subKey = valueType image subKey)
    (words : wordCount other subKey = wordCount image subKey)
    (offset : subKeyOffset other subKey = subKeyOffset image subKey)
    (bytes : Memory.Agree (valueLength image subKey)
      (Memory.drop other (subKeyOffset image subKey))
      (Memory.drop image (subKeyOffset image subKey)))
    (positive : 0 ≤ count.toInt) :
    fetchValue other subKey subName value count =
      fetchValue image subKey subName value count := by
  cases accepted : patchable (valueType image subKey) with
  | false =>
    unfold fetchValue
    rw [type]
    split
    · rename_i single
      rw [single] at accepted
      cases accepted
    · rename_i string
      rw [string] at accepted
      cases accepted
    · rename_i gpio
      rw [gpio] at accepted
      cases accepted
    · rfl
    · rfl
  | true =>
    rcases patchable_cases accepted with single | string | gpio
    · rw [fetchValue_singleWord subName value single,
        fetchValue_singleWord subName value (type.trans single), offset]
      rw [valueLength_singleWord single] at bytes
      rw [Memory.overwrite_congr value 0 4 bytes]
    · rw [fetchValue_string subName value string positive,
        fetchValue_string subName value (type.trans string) positive, offset, words]
      rw [valueLength_string string] at bytes
      rw [Memory.overwrite_congr value 0 _ (bytes.mono (by omega))]
    · rw [valueLength_gpioWord gpio] at bytes
      rw [fetchValue_gpioWord subName value gpio,
        fetchValue_gpioWord subName value (type.trans gpio), offset,
        Memory.overwrite_congr _ 32 _ bytes]

/-- No more than the words that are asked for are written. -/
theorem fetchValue_bounded (short : subName.length < 32) (positive : 0 < count.toInt)
    {place : Nat} (behind : 4 * count.toNat ≤ place) :
    (fetchValue image subKey subName value count).2 place = value place := by
  have nonneg : 0 ≤ count.toInt := Int.le_of_lt positive
  have one : 1 ≤ count.toNat := by
    by_contra none
    have zero : count = 0 := by bv_omega
    rw [zero] at positive
    exact absurd positive (by decide)
  cases accepted : patchable (valueType image subKey) with
  | false => rw [fetchValue_other subName value accepted]
  | true =>
    rcases patchable_cases accepted with single | string | gpio
    · rw [fetchValue_singleWord subName value single]
      exact Memory.overwrite_outside value 0 4 _ place (by omega)
    · rw [fetchValue_string subName value string nonneg]
      exact Memory.overwrite_outside value 0 _ _ place (by omega)
    · rw [fetchValue_gpioWord subName value gpio]
      split
      · rfl
      · rename_i room
        have enough : 14 ≤ count.toNat := by
          by_contra few
          rw [bytes_of_words (by omega)] at room
          omega
        have name : asciiStrCpyS value 32 subName place = value place := by
          unfold asciiStrCpyS
          rw [if_pos short]
          exact Memory.overwrite_outside value 0 _ _ place (by omega)
        exact (Memory.overwrite_outside _ 32 24 _ place (by omega)).trans name

end Fetch

/-! ### Fetching after a patch -/

/-- The parser of an image. -/
def scriptParser (image : Buffer) : ScriptParser where
  scriptModBuf := some image
  scriptMainKeyCount := scriptWord image 0

/-- The key that a fetch finds. -/
def fetchedKey (image : Buffer) (mainName subName : List U8) : Option Nat :=
  findMainKey image (fetchName subName) (fun _ => true) (fetchName mainName) 0
    (sectionCount image)

/-- The key that a patch finds. -/
def patchedKey (image : Buffer) (mainName subName mainStack subStack : List U8) : Option Nat :=
  findMainKey image (patchName subName subStack) patchable (patchName mainName mainStack) 0
    (sectionCount image)

/-- A string cut to the words of a value, with zero words behind it. -/
def patchedString (str : Buffer) (strSize words : U32) : Buffer := fun place =>
  if place < 4 * min words.toNat strSize.toNat then str place else 0

/-- What should be fetched after a patch: what was patched under its names, and under others what
was fetched before; and never more words than are asked for. -/
structure ScriptReadsPatched (image : Buffer) (mainName subName : List U8) (subKey : Nat)
    (str : Buffer) (strSize : U32) (after : ScriptParser) : Prop where
  string : valueType image subKey = valueTypeString → ∀ (value : Buffer) (count : U32),
    0 < count.toInt → (after.scriptParserFetch mainName subName value count).2 =
      some (value.overwrite 0 (4 * min count.toNat (wordCount image subKey).toNat)
        (patchedString str strSize (wordCount image subKey)))
  singleWord : valueType image subKey = valueTypeSingleWord → ∀ (value : Buffer) (count : U32),
    0 < count.toInt → (after.scriptParserFetch mainName subName value count).2 =
      some (value.overwrite 0 4 str)
  gpioWord : valueType image subKey = valueTypeGpioWord → ∀ (value : Buffer) (count : U32),
    14 ≤ count.toNat → count.toNat < 2 ^ 29 → ∃ fetched,
      after.scriptParserFetch mainName subName value count = (.ok, some fetched) ∧
        Memory.Agree 24 (Memory.drop fetched 32) (Memory.drop str 32)
  others : ∀ otherMain otherSub : List U8, 0 ∉ otherMain → 0 ∉ otherSub →
    fetchedKey image otherMain otherSub ≠ some subKey → ∀ (value : Buffer) (count : U32),
      0 < count.toInt → after.scriptParserFetch otherMain otherSub value count =
        (scriptParser image).scriptParserFetch otherMain otherSub value count
  bounded : ∀ (otherMain otherSub : List U8) (value : Buffer) (count : U32), 0 < count.toInt →
    ∃ fetched, (after.scriptParserFetch otherMain otherSub value count).2 = some fetched ∧
      ∀ place, 4 * count.toNat ≤ place → fetched place = value place

theorem fetchName_short (name : List U8) : (fetchName name).length < 32 := by
  unfold fetchName
  split
  · rw [List.length_take]
    omega
  · rename_i short
    have long := testStrLength_long name
    omega

/-- A fetch never writes more than is asked for. -/
theorem scriptParserFetch_bounded (parser : ScriptParser) (mainName subName : List U8)
    (value : Buffer) (count : U32) (positive : 0 < count.toInt) :
    ∃ fetched, (parser.scriptParserFetch mainName subName value count).2 = some fetched ∧
      ∀ place, 4 * count.toNat ≤ place → fetched place = value place := by
  unfold ScriptParser.scriptParserFetch
  split
  · exact ⟨value, rfl, fun _ _ => rfl⟩
  · dsimp only
    split
    · exact ⟨value, rfl, fun _ _ => rfl⟩
    · split
      · exact ⟨value, rfl, fun _ _ => rfl⟩
      · exact ⟨_, rfl, fun place behind =>
          fetchValue_bounded _ value (fetchName_short subName) positive behind⟩

section After

variable {image other : Buffer}

/-- A fetch from an image whose tables are those of another. -/
theorem scriptParserFetch_eq (wellFormed : ScriptWellFormed image)
    (same : SameTables image other) (sections : 0 < (scriptWord image 0).toInt)
    {mainName subName : List U8} (mainNoZero : 0 ∉ mainName) (subNoZero : 0 ∉ subName)
    (value : Buffer) (count : U32) :
    ScriptParser.scriptParserFetch ⟨some other, scriptWord image 0⟩ mainName subName value count =
      match fetchedKey image mainName subName with
      | none => (.keyNotFind, some value)
      | some subKey => ((fetchValue other subKey (fetchName subName) value count).1,
          some (fetchValue other subKey (fetchName subName) value count).2) := by
  have search := findMainKey_congr wellFormed same (fetchName_noZero mainNoZero)
    (fetchName_noZero subNoZero) (fun _ => true)
    (show 0 + sectionCount image ≤ sectionCount image by omega)
  unfold ScriptParser.scriptParserFetch fetchedKey
  dsimp only
  rw [if_neg (by omega), ← search]
  rfl

end After

section Patched

variable {image : Buffer} {mainName subName mainStack subStack : List U8} {subKey : Nat}

/-- What a patch that finds a key does. -/
theorem scriptParserPatch_eq (str : Buffer) (strSize : U32) :
    (scriptParser image).scriptParserPatch mainName subName mainStack subStack str strSize =
      match patchedKey image mainName subName mainStack subStack with
      | none => (.keyNotFind, scriptParser image)
      | some subKey => (.ok, ⟨some (patchValue image subKey str strSize), scriptWord image 0⟩) :=
  rfl

/-- The key that is patched is one that a fetch with the same names reaches, unless the fetch
stops at one with a type that has no value. -/
structure PatchedKey (image : Buffer) (mainName subName : List U8) (subKey : Nat) : Prop where
  isKey : IsSubKey image subKey
  type : patchable (valueType image subKey) = true
  sections : 0 < (scriptWord image 0).toInt
  fetched : ∃ first, fetchedKey image mainName subName = some first ∧
    (first = subKey ∨ patchable (valueType image first) = false)

theorem patchedKey_some (wellFormed : ScriptWellFormed image) (mainNoZero : 0 ∉ mainName)
    (subNoZero : 0 ∉ subName) (mainStackNoZero : 0 ∉ mainStack) (subStackNoZero : 0 ∉ subStack)
    (found : patchedKey image mainName subName mainStack subStack = some subKey) :
    PatchedKey image mainName subName subKey := by
  obtain ⟨⟨isKey, subIs, type⟩, section_, counted, mainIs⟩ :=
    findMainKey_some (show 0 + sectionCount image ≤ sectionCount image by omega) found
  have mainShort := mainIs.length_lt (patchName_noZero mainNoZero mainStackNoZero)
    (wellFormed.mainNames section_ counted)
  have subShort := subIs.length_lt (patchName_noZero subNoZero subStackNoZero)
    (wellFormed.subNames subKey isKey)
  unfold patchedKey at found
  rw [patchName_eq mainShort, patchName_eq subShort] at found
  obtain ⟨noKey, sameKey⟩ := findMainKey_first image (fetchName mainName) (fetchName subName)
    patchable 0 (sectionCount image)
  refine ⟨isKey, type, ?_, ?_⟩
  · unfold sectionCount at counted
    omega
  · cases fetched : fetchedKey image mainName subName with
    | none =>
      rw [noKey fetched] at found
      cases found
    | some first =>
      refine ⟨first, rfl, ?_⟩
      cases accepted : patchable (valueType image first) with
      | false => exact .inr rfl
      | true =>
        have same := (sameKey first fetched accepted).symm.trans found
        exact .inl (Option.some.inj same)

variable (str : Buffer) {strSize : U32}

theorem patchValue_sameTables (wellFormed : ScriptWellFormed image)
    (isKey : IsSubKey image subKey) (positive : 0 ≤ strSize.toInt) :
    SameTables image (patchValue image subKey str strSize) := by
  intro place inTable
  exact patchValue_outside image subKey str positive fun inValue =>
    wellFormed.tables subKey isKey place inValue inTable

/-- The values of other keys stay. -/
theorem patchValue_others (wellFormed : ScriptWellFormed image)
    (isKey : IsSubKey image subKey) (positive : 0 ≤ strSize.toInt) {other : Nat}
    (otherIsKey : IsSubKey image other) (different : other ≠ subKey) :
    Memory.Agree (valueLength image other)
      (Memory.drop (patchValue image subKey str strSize) (subKeyOffset image other))
      (Memory.drop image (subKeyOffset image other)) := by
  intro place inside
  refine patchValue_outside image subKey str positive fun inValue => ?_
  exact wellFormed.values other subKey otherIsKey isKey different _
    ⟨Nat.le_add_right _ _, by omega⟩ inValue

/-- The bytes of a value after a patch. -/
theorem patchValue_inside (positive : 0 ≤ strSize.toInt) (place : Nat) :
    Memory.drop (patchValue image subKey str strSize) (subKeyOffset image subKey) place =
      if place < patchLength image subKey strSize then patchSource image subKey str place
      else image (subKeyOffset image subKey + place) := by
  rw [patchValue_eq image subKey str positive]
  unfold Memory.drop
  split
  · rename_i inside
    exact Memory.overwrite_inside image _ _ _ place inside
  · rename_i behind
    exact Memory.overwrite_outside image _ _ _ _ (by omega)

/-- The old words behind a string that is patched in are zero. -/
def StringClean (image : Buffer) (subKey : Nat) (strSize : U32) : Prop :=
  valueType image subKey = valueTypeString → ∀ place, 4 * strSize.toNat ≤ place →
    place < 4 * (wordCount image subKey).toNat → image (subKeyOffset image subKey + place) = 0

/-- A string is as it should be when nothing is left of the old one. -/
theorem patchedString_iff (type : valueType image subKey = valueTypeString)
    (positive : 0 ≤ strSize.toInt) :
    Memory.Agree (4 * (wordCount image subKey).toNat)
        (Memory.drop (patchValue image subKey str strSize) (subKeyOffset image subKey))
        (patchedString str strSize (wordCount image subKey)) ↔
      StringClean image subKey strSize := by
  have notGpio : valueType image subKey ≠ valueTypeGpioWord := by
    rw [type]
    decide
  have byte (place : Nat) :
      Memory.drop (patchValue image subKey str strSize) (subKeyOffset image subKey) place =
        if place < 4 * min (wordCount image subKey).toNat strSize.toNat then str place
        else image (subKeyOffset image subKey + place) := by
    rw [patchValue_inside str positive, patchLength_string type, patchSource_other str notGpio]
  constructor
  · intro agree _ place behind inside
    have same := agree place inside
    unfold patchedString at same
    rw [byte, if_neg (by omega), if_neg (by omega)] at same
    exact same
  · intro clean place inside
    unfold patchedString
    rw [byte]
    split
    · rfl
    · exact clean type place (by omega) inside

end Patched

/-! ### The round trip -/

section RoundTrip

variable {image : Buffer} {mainName subName : List U8} {subKey : Nat} (str : Buffer)
  {strSize : U32} (wellFormed : ScriptWellFormed image) (mainNoZero : 0 ∉ mainName)
  (subNoZero : 0 ∉ subName) (positive : 0 ≤ strSize.toInt)
  (patched : PatchedKey image mainName subName subKey)
include wellFormed mainNoZero subNoZero positive patched

/-- A fetch under the names of the patch, from the image after it. -/
theorem fetch_patched {first : Nat} (found : fetchedKey image mainName subName = some first)
    (value : Buffer) (count : U32) :
    ScriptParser.scriptParserFetch
        ⟨some (patchValue image subKey str strSize), scriptWord image 0⟩ mainName subName
        value count =
      ((fetchValue (patchValue image subKey str strSize) first (fetchName subName) value count).1,
        some (fetchValue (patchValue image subKey str strSize) first (fetchName subName) value
          count).2) := by
  have same := patchValue_sameTables str wellFormed patched.isKey positive
  rw [scriptParserFetch_eq wellFormed same patched.sections mainNoZero subNoZero, found]

/-- A fetch that stops at a key without a value writes nothing. -/
theorem fetch_passed {first : Nat} (found : fetchedKey image mainName subName = some first)
    (noValue : patchable (valueType image first) = false) (value : Buffer) (count : U32) :
    (ScriptParser.scriptParserFetch
        ⟨some (patchValue image subKey str strSize), scriptWord image 0⟩ mainName subName
        value count).2 = some value := by
  have same := patchValue_sameTables str wellFormed patched.isKey positive
  have isKey := (findMainKey_some (Nat.le_of_eq (Nat.zero_add _)) found).1.1
  rw [fetch_patched str wellFormed mainNoZero subNoZero positive patched found]
  exact congrArg some (fetchValue_other _ value (by rw [same.valueType isKey]; exact noValue))

/-- When what is patched is fetched, the same key is found by both, or there is nothing to
fetch. -/
theorem reads_sameKey
    (reads : ScriptReadsPatched image mainName subName subKey str strSize
      ⟨some (patchValue image subKey str strSize), scriptWord image 0⟩) :
    fetchedKey image mainName subName = some subKey ∨
      valueType image subKey = valueTypeString ∧ (wordCount image subKey).toNat = 0 := by
  obtain ⟨first, found, rfl | noValue⟩ := patched.fetched
  · exact .inl found
  right
  have passed (value : Buffer) (count : U32) :=
    fetch_passed str wellFormed mainNoZero subNoZero positive patched found noValue value count
  have next (byte : U8) : byte ≠ byte + 1 := by bv_omega
  rcases patchable_cases patched.type with single | string | gpio
  · have fetched := reads.singleWord single (fun _ => str 0 + 1) 1 (by decide)
    rw [passed] at fetched
    exact absurd (congrFun (Option.some.inj fetched) 0).symm (next (str 0))
  · refine ⟨string, ?_⟩
    by_contra notEmpty
    have fetched := reads.string string
      (fun _ => patchedString str strSize (wordCount image subKey) 0 + 1) 1 (by decide)
    have one : (1 : U32).toNat = 1 := rfl
    have first_byte := Memory.overwrite_inside
      (fun _ => patchedString str strSize (wordCount image subKey) 0 + 1) 0
      (4 * min (1 : U32).toNat (wordCount image subKey).toNat)
      (patchedString str strSize (wordCount image subKey)) 0 (by omega)
    rw [passed] at fetched
    have same := congrFun (Option.some.inj fetched) (0 + 0)
    rw [first_byte] at same
    exact absurd same.symm (next _)
  · obtain ⟨fetched, done, agree⟩ := reads.gpioWord gpio (fun _ => str (32 + 0) + 1) 14
      (by decide) (by decide)
    have same := passed (fun _ => str (32 + 0) + 1) 14
    rw [done] at same
    have value : fetched = fun _ => str (32 + 0) + 1 := Option.some.inj same
    have byte := agree 0 (by decide)
    rw [value] at byte
    exact absurd byte.symm (next _)

/-- When what is patched is fetched, nothing is left of a longer string. -/
theorem reads_clean
    (reads : ScriptReadsPatched image mainName subName subKey str strSize
      ⟨some (patchValue image subKey str strSize), scriptWord image 0⟩) :
    StringClean image subKey strSize := by
  intro string
  have same := patchValue_sameTables str wellFormed patched.isKey positive
  have words := wordCount_lt image subKey
  rcases reads_sameKey str wellFormed mainNoZero subNoZero positive patched reads with
    found | ⟨-, empty⟩
  · by_cases empty : (wordCount image subKey).toNat = 0
    · intro place _ inside
      omega
    have count : 0 < (wordCount image subKey).toInt := by
      rw [BitVec.toInt_eq_toNat_cond, if_pos (by omega)]
      omega
    have type := (same.valueType patched.isKey).trans string
    have fetched := reads.string string (fun _ => 0) (wordCount image subKey) count
    rw [fetch_patched str wellFormed mainNoZero subNoZero positive patched found,
      fetchValue_string _ _ type (Int.le_of_lt count), same.wordCount patched.isKey,
      same.subKeyOffset patched.isKey, Nat.min_self] at fetched
    dsimp only at fetched
    refine (patchedString_iff str string positive).mp (fun place inside => ?_) string
    have bytes := congrFun (Option.some.inj fetched) (0 + place)
    rwa [Memory.overwrite_inside _ 0 _ _ place inside,
      Memory.overwrite_inside _ 0 _ _ place inside] at bytes
  · intro place _ inside
    omega

/-- Nothing that is left of a longer string is enough for the fetches. -/
theorem reads_of_clean
    (sameKey : fetchedKey image mainName subName = some subKey ∨
      valueType image subKey = valueTypeString ∧ (wordCount image subKey).toNat = 0)
    (clean : StringClean image subKey strSize) :
    ScriptReadsPatched image mainName subName subKey str strSize
      ⟨some (patchValue image subKey str strSize), scriptWord image 0⟩ := by
  have same := patchValue_sameTables str wellFormed patched.isKey positive
  have words := same.wordCount patched.isKey
  have offset := same.subKeyOffset patched.isKey
  have type := same.valueType patched.isKey
  -- With a value that is not empty, both find the same key.
  have found (notEmpty : ¬(valueType image subKey = valueTypeString ∧
      (wordCount image subKey).toNat = 0)) : fetchedKey image mainName subName = some subKey :=
    sameKey.resolve_right notEmpty
  refine ⟨fun string value count counted => ?_, fun single value count counted => ?_,
    fun gpio value count enough small => ?_, fun otherMain otherSub otherMainNoZero
    otherSubNoZero different value count counted => ?_, fun _ _ value count counted =>
    scriptParserFetch_bounded _ _ _ value count counted⟩
  · by_cases empty : (wordCount image subKey).toNat = 0
    · rw [empty, Nat.min_zero, Nat.mul_zero, Memory.overwrite_zero]
      obtain ⟨first, fetched, rfl | noValue⟩ := patched.fetched
      · rw [fetch_patched str wellFormed mainNoZero subNoZero positive patched fetched,
          fetchValue_string _ _ (type.trans string) (Int.le_of_lt counted), words, empty,
          Nat.min_zero, Nat.mul_zero, Memory.overwrite_zero]
      · exact fetch_passed str wellFormed mainNoZero subNoZero positive patched fetched noValue
          value count
    · rw [fetch_patched str wellFormed mainNoZero subNoZero positive patched
          (found fun both => empty both.2),
        fetchValue_string _ _ (type.trans string) (Int.le_of_lt counted), words, offset]
      have agree := (patchedString_iff str string positive).mpr clean
      exact congrArg some (Memory.overwrite_congr value 0 _ (agree.mono (by omega)))
  · have notString : ¬(valueType image subKey = valueTypeString ∧
        (wordCount image subKey).toNat = 0) := by
      rw [single]
      exact fun both => absurd both.1 (by decide)
    have notGpio : valueType image subKey ≠ valueTypeGpioWord := by
      rw [single]
      decide
    rw [fetch_patched str wellFormed mainNoZero subNoZero positive patched (found notString),
      fetchValue_singleWord _ _ (type.trans single), offset]
    refine congrArg some (Memory.overwrite_congr value 0 4 fun place inside => ?_)
    rw [patchValue_inside str positive, patchLength_singleWord single,
      patchSource_other str notGpio, if_pos inside]
  · have notString : ¬(valueType image subKey = valueTypeString ∧
        (wordCount image subKey).toNat = 0) := by
      rw [gpio]
      exact fun both => absurd both.1 (by decide)
    rw [fetch_patched str wellFormed mainNoZero subNoZero positive patched (found notString),
      fetchValue_gpioWord_ok _ _ (type.trans gpio) enough small, offset]
    refine ⟨_, rfl, fun place inside => ?_⟩
    refine (Memory.overwrite_inside _ 32 24 _ place inside).trans ?_
    rw [patchValue_inside str positive, patchLength_gpioWord gpio,
      patchSource_gpioWord str gpio, if_pos inside]
  · have before : SameTables image image := fun _ _ => rfl
    have left := scriptParserFetch_eq wellFormed same patched.sections otherMainNoZero
      otherSubNoZero value count
    have right := scriptParserFetch_eq wellFormed before patched.sections otherMainNoZero
      otherSubNoZero value count
    refine left.trans (Eq.trans ?_ right.symm)
    cases fetched : fetchedKey image otherMain otherSub with
    | none => rfl
    | some other =>
      have otherIsKey := (findMainKey_some (Nat.le_of_eq (Nat.zero_add _)) fetched).1.1
      have apart : other ≠ subKey := by
        rintro rfl
        exact different fetched
      dsimp only
      rw [fetchValue_congr (fetchName otherSub) value (same.valueType otherIsKey)
        (same.wordCount otherIsKey) (same.subKeyOffset otherIsKey)
        (patchValue_others str wellFormed patched.isKey positive otherIsKey apart)
        (Int.le_of_lt counted)]

end RoundTrip

/-- After a patch that succeeds, what was patched is fetched, and everything else as before, if
and only if a fetch with the same names does not stop at a key of another type in front, and the
old words behind a shorter string are zero. -/
theorem scriptPatch_reads_iff (image : Buffer) (mainName subName mainStack subStack : List U8)
    (str : Buffer) (strSize : U32) (after : ScriptParser) (wellFormed : ScriptWellFormed image)
    (mainNoZero : 0 ∉ mainName) (subNoZero : 0 ∉ subName) (mainStackNoZero : 0 ∉ mainStack)
    (subStackNoZero : 0 ∉ subStack) (positive : 0 ≤ strSize.toInt)
    (success : (scriptParser image).scriptParserPatch mainName subName mainStack subStack str
      strSize = (.ok, after)) :
    ∃ subKey, patchedKey image mainName subName mainStack subStack = some subKey ∧
      (ScriptReadsPatched image mainName subName subKey str strSize after ↔
        (fetchedKey image mainName subName = some subKey ∨
          valueType image subKey = valueTypeString ∧ (wordCount image subKey).toNat = 0) ∧
        StringClean image subKey strSize) := by
  rw [scriptParserPatch_eq] at success
  cases found : patchedKey image mainName subName mainStack subStack with
  | none =>
    rw [found] at success
    cases success
  | some subKey =>
    rw [found] at success
    obtain rfl : _ = after := congrArg Prod.snd success
    have patched := patchedKey_some wellFormed mainNoZero subNoZero mainStackNoZero
      subStackNoZero found
    refine ⟨subKey, rfl, fun reads => ⟨?_, ?_⟩, fun rules => ?_⟩
    · exact reads_sameKey str wellFormed mainNoZero subNoZero positive patched reads
    · exact reads_clean str wellFormed mainNoZero subNoZero positive patched reads
    · exact reads_of_clean str wellFormed mainNoZero subNoZero positive patched rules.1 rules.2

/-! ### An image of one key -/

section OneKey

variable {image : Buffer} (sections : sectionCount image = 1)
  (keys : mainKeyLenth image (mainKeyAt 0) = 1) (first : subKeyAt image (mainKeyAt 0) 0 = 56)
include sections keys first

theorem oneKey_subKey {subKey : Nat} (isKey : IsSubKey image subKey) : subKey = 56 := by
  obtain ⟨index, counted, place, inside, rfl⟩ := isKey
  rw [sections] at counted
  obtain rfl : index = 0 := by omega
  rw [keys] at inside
  obtain rfl : place = 0 := by omega
  exact first

/-- With its names ended and its value behind the tables, an image of one key is well formed. -/
theorem oneKey_wellFormed
    (mainName : ∃ length < 32, Memory.drop image (mainKeyAt 0) length = 0)
    (subName : ∃ length < 32, Memory.drop image 56 length = 0)
    (behind : 96 ≤ subKeyOffset image 56) : ScriptWellFormed image where
  mainNames index counted := by
    rw [sections] at counted
    obtain rfl : index = 0 := by omega
    exact mainName
  subNames subKey isKey := by
    obtain rfl := oneKey_subKey sections keys first isKey
    exact subName
  tables subKey isKey place inValue inTable := by
    obtain rfl := oneKey_subKey sections keys first isKey
    have reached := inValue.1
    have head : mainKeyAt (sectionCount image) = 56 := by rw [sections]; rfl
    rcases inTable with inHead | ⟨other, otherIsKey, from_key, inside⟩
    · rw [head] at inHead
      omega
    · obtain rfl := oneKey_subKey sections keys first otherIsKey
      omega
  values subKey other isKey otherIsKey different := by
    exact absurd ((oneKey_subKey sections keys first isKey).trans
      (oneKey_subKey sections keys first otherIsKey).symm) different

end OneKey

/-- The section a with the key b, which has a string of two words. -/
def sampleScript : Buffer :=
  let image := Memory.setWord (fun _ => 0) 0 4 1
  let image := Memory.setWord image 16 1 97
  let image := Memory.setWord image 48 4 1
  let image := Memory.setWord image 52 4 14
  let image := Memory.setWord image 56 1 98
  let image := Memory.setWord image 88 4 24
  let image := Memory.setWord image 92 4 0x20002
  Memory.setWord image 96 8 0x4242424241414141

theorem sampleScript_wellFormed : ScriptWellFormed sampleScript :=
  oneKey_wellFormed (by decide +kernel) (by decide +kernel) (by decide +kernel)
    ⟨1, by decide, by decide +kernel⟩ ⟨1, by decide, by decide +kernel⟩ (by decide +kernel)

theorem sampleScript_found : patchedKey sampleScript [97] [98] [] [] = some 56 := by decide +kernel

theorem scriptPatch_reads_iff_sample : ∃ subKey after,
    ScriptReadsPatched sampleScript [97] [98] subKey (fun _ => 88) 2 after := by
  obtain ⟨subKey, found, rules⟩ := scriptPatch_reads_iff sampleScript [97] [98] [] []
    (fun _ => 88) 2 ⟨some (patchValue sampleScript 56 (fun _ => 88) 2), scriptWord sampleScript 0⟩
    sampleScript_wellFormed (by decide) (by decide) (by decide) (by decide) (by decide)
    (by rw [scriptParserPatch_eq, sampleScript_found])
  obtain rfl : 56 = subKey := Option.some.inj (sampleScript_found.symm.trans found)
  refine ⟨56, _, rules.mpr ⟨.inl (by decide +kernel), fun _ place behind inside => ?_⟩⟩
  have words : (wordCount sampleScript 56).toNat = 2 := by decide +kernel
  have two : (2 : U32).toNat = 2 := rfl
  omega

/-- One word is patched in where the old string had two: the second one stays. -/
theorem scriptPatch_not_reads :
    ¬ ∀ image (mainName subName mainStack subStack : List U8) (str : Buffer) (strSize : U32) after,
      ScriptWellFormed image → 0 ∉ mainName → 0 ∉ subName → 0 ∉ mainStack → 0 ∉ subStack →
      0 ≤ strSize.toInt →
      (scriptParser image).scriptParserPatch mainName subName mainStack subStack str strSize =
        (.ok, after) →
      ∀ subKey, patchedKey image mainName subName mainStack subStack = some subKey →
        ScriptReadsPatched image mainName subName subKey str strSize after := by
  intro claim
  have noZero : (0 : U8) ∉ ([97] : List U8) ∧ (0 : U8) ∉ ([98] : List U8) ∧
      (0 : U8) ∉ ([] : List U8) := by decide
  have positive : 0 ≤ (1 : U32).toInt := by decide
  have patched := patchedKey_some sampleScript_wellFormed noZero.1 noZero.2.1 noZero.2.2 noZero.2.2
    sampleScript_found
  have reads := claim sampleScript [97] [98] [] [] (fun _ => 88) 1 _ sampleScript_wellFormed
    noZero.1 noZero.2.1 noZero.2.2 noZero.2.2 positive
    (by rw [scriptParserPatch_eq, sampleScript_found]) 56 sampleScript_found
  have clean := reads_clean _ sampleScript_wellFormed noZero.1 noZero.2.1 positive patched reads
  have left := clean (by decide +kernel) 4 (by decide) (by decide +kernel)
  exact absurd left (by decide +kernel)

end PinePhonePkg
