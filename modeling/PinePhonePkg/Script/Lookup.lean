/-
This file shows what the search for a key depends on. A change of values leaves
the tables and so the search as it was, and a key that is found for a patch is
the first with its names unless the first has a type that is passed over.
-/

import PinePhonePkg.Script.Parser
import Mathlib.Tactic.Ring

namespace PinePhonePkg

open Library

/-! ### Names -/

theorem testStrLengthFrom_eq (length : Nat) (str : List U8) (small : length ≤ 32) :
    testStrLengthFrom length str =
      if length + str.length ≤ 32 then length + str.length + 1 else 32 := by
  induction str generalizing length with
  | nil =>
    unfold testStrLengthFrom
    rw [List.length_nil, if_pos (by omega)]
  | cons char rest inductionHypothesis =>
    unfold testStrLengthFrom
    rw [List.length_cons]
    by_cases long : 32 < length + 1
    · rw [if_pos long, if_neg (by omega)]
    · rw [if_neg long, inductionHypothesis (length + 1) (by omega)]
      split
      · rw [if_pos (by omega)]
        omega
      · rw [if_neg (by omega)]

/-- A name is long from 31 characters on. -/
theorem testStrLength_long (name : List U8) : 31 < testStrLength name ↔ 31 ≤ name.length := by
  unfold testStrLength
  rw [testStrLengthFrom_eq 0 name (by decide)]
  split <;> omega

theorem fetchName_noZero {name : List U8} (noZero : 0 ∉ name) : 0 ∉ fetchName name := by
  unfold fetchName
  split
  · exact fun member => noZero (List.mem_of_mem_take member)
  · exact noZero

theorem patchName_noZero {name stack : List U8} (noZero : 0 ∉ name) (stackNoZero : 0 ∉ stack) :
    0 ∉ patchName name stack := by
  unfold patchName
  split
  · intro member
    rcases List.mem_append.mp member with copied | behind
    · exact noZero (List.mem_of_mem_take copied)
    · exact stackNoZero behind
  · exact noZero

/-- A name that can be in the image is patched as it is fetched. -/
theorem patchName_eq {name stack : List U8} (short : (patchName name stack).length < 32) :
    patchName name stack = fetchName name := by
  unfold patchName fetchName at *
  split
  · rename_i long
    rw [if_pos long] at short
    have whole := (testStrLength_long name).mp long
    rw [List.length_append, List.length_take, Nat.min_eq_left whole] at short
    rw [List.eq_nil_of_length_eq_zero (show stack.length = 0 by omega), List.append_nil]
  · rfl

/-! ### The parts of an image -/

section Image

variable (image : Buffer)

/-- The number of sections in the head of an image. -/
def sectionCount : Nat := (scriptWord image 0).toInt.toNat

/-- A key of one of the sections. -/
def IsSubKey (subKey : Nat) : Prop :=
  ∃ index < sectionCount image, ∃ place < mainKeyLenth image (mainKeyAt index),
    subKey = subKeyAt image (mainKeyAt index) place

/-- The bytes of a value that are fetched or patched. -/
def valueLength (subKey : Nat) : Nat :=
  match valueType image subKey with
  | valueTypeSingleWord => 4
  | valueTypeString => 4 * (wordCount image subKey).toNat
  | valueTypeGpioWord => 24
  | _ => 0

/-- The place is in the tables of keys that a search reads. -/
def InTables (place : Nat) : Prop :=
  place < mainKeyAt (sectionCount image) ∨
    ∃ subKey, IsSubKey image subKey ∧ subKey ≤ place ∧ place < subKey + 40

/-- The place is in the value of a key. -/
def InValue (subKey place : Nat) : Prop :=
  subKeyOffset image subKey ≤ place ∧ place < subKeyOffset image subKey + valueLength image subKey

/-- The names in the tables end with a zero byte, and the tables and the values are apart. -/
structure ScriptWellFormed : Prop where
  mainNames : ∀ index < sectionCount image, ∃ length < 32,
    Memory.drop image (mainKeyAt index) length = 0
  subNames : ∀ subKey, IsSubKey image subKey → ∃ length < 32, Memory.drop image subKey length = 0
  tables : ∀ subKey, IsSubKey image subKey → ∀ place, InValue image subKey place →
    ¬ InTables image place
  values : ∀ subKey other, IsSubKey image subKey → IsSubKey image other → subKey ≠ other →
    ∀ place, InValue image subKey place → ¬ InValue image other place

end Image

/-! ### The search in images with the same tables -/

section Tables

variable {image other : Buffer}

/-- The images have the same tables. -/
def SameTables (image other : Buffer) : Prop := ∀ place, InTables image place →
  other place = image place

theorem SameTables.word (same : SameTables image other) {address : Nat}
    (inside : ∀ index < 4, InTables image (address + index)) :
    scriptWord other address = scriptWord image address :=
  congrArg (BitVec.ofNat 32) (Memory.word_congr fun index small => same _ (inside index small))

theorem SameTables.subKey (same : SameTables image other) {subKey : Nat}
    (isKey : IsSubKey image subKey) :
    Memory.Agree 40 (Memory.drop other subKey) (Memory.drop image subKey) :=
  fun place small => same _ (.inr ⟨subKey, isKey, by omega, by omega⟩)

theorem SameTables.subKeyWord (same : SameTables image other) {subKey place : Nat}
    (isKey : IsSubKey image subKey) (inside : place + 4 ≤ 40) :
    scriptWord other (subKey + place) = scriptWord image (subKey + place) :=
  same.word fun index small => .inr ⟨subKey, isKey, by omega, by omega⟩

theorem SameTables.mainKey (same : SameTables image other) {index : Nat}
    (counted : index < sectionCount image) :
    Memory.Agree 40 (Memory.drop other (mainKeyAt index)) (Memory.drop image (mainKeyAt index)) := by
  refine fun place small => same _ (.inl ?_)
  unfold mainKeyAt
  omega

theorem SameTables.mainKeyWord (same : SameTables image other) {index place : Nat}
    (counted : index < sectionCount image) (inside : place + 4 ≤ 40) :
    scriptWord other (mainKeyAt index + place) = scriptWord image (mainKeyAt index + place) := by
  refine same.word fun next small => .inl ?_
  unfold mainKeyAt
  omega

theorem SameTables.valueType (same : SameTables image other) {subKey : Nat}
    (isKey : IsSubKey image subKey) : valueType other subKey = valueType image subKey := by
  unfold PinePhonePkg.valueType subKeyPattern
  rw [same.subKeyWord isKey (by decide)]

theorem SameTables.wordCount (same : SameTables image other) {subKey : Nat}
    (isKey : IsSubKey image subKey) : wordCount other subKey = wordCount image subKey := by
  unfold PinePhonePkg.wordCount subKeyPattern
  rw [same.subKeyWord isKey (by decide)]

theorem SameTables.subKeyOffset (same : SameTables image other) {subKey : Nat}
    (isKey : IsSubKey image subKey) : subKeyOffset other subKey = subKeyOffset image subKey := by
  unfold PinePhonePkg.subKeyOffset
  rw [same.subKeyWord isKey (by decide)]

theorem SameTables.subKeyAt (same : SameTables image other) {index : Nat}
    (counted : index < sectionCount image) (place : Nat) :
    subKeyAt other (mainKeyAt index) place = subKeyAt image (mainKeyAt index) place := by
  unfold PinePhonePkg.subKeyAt mainKeyOffset
  rw [same.mainKeyWord counted (by decide)]

theorem SameTables.mainKeyLenth (same : SameTables image other) {index : Nat}
    (counted : index < sectionCount image) :
    mainKeyLenth other (mainKeyAt index) = mainKeyLenth image (mainKeyAt index) := by
  unfold PinePhonePkg.mainKeyLenth
  rw [same.mainKeyWord counted (by decide)]

variable (wellFormed : ScriptWellFormed image) (same : SameTables image other)
  {mainName subName : List U8} (mainNoZero : 0 ∉ mainName) (subNoZero : 0 ∉ subName)
  (accepts : Nat → Bool)
include wellFormed same subNoZero

theorem findSubKey_congr {section_ index left : Nat} (counted : section_ < sectionCount image)
    (room : index + left ≤ mainKeyLenth image (mainKeyAt section_)) :
    findSubKey other subName accepts (mainKeyAt section_) index left =
      findSubKey image subName accepts (mainKeyAt section_) index left := by
  induction left generalizing index with
  | zero => rfl
  | succ left inductionHypothesis =>
    have isKey : IsSubKey image (subKeyAt image (mainKeyAt section_) index) :=
      ⟨section_, counted, index, by omega, rfl⟩
    have name : asciiStrEq subName
        (Memory.drop other (subKeyAt image (mainKeyAt section_) index)) =
        asciiStrEq subName (Memory.drop image (subKeyAt image (mainKeyAt section_) index)) :=
      asciiStrEq_congr subNoZero ((same.subKey isKey).mono (by decide))
        (wellFormed.subNames _ isKey)
    unfold findSubKey
    rw [same.subKeyAt counted, name, same.valueType isKey, inductionHypothesis (by omega)]

include mainNoZero

theorem findMainKey_congr {index left : Nat} (room : index + left ≤ sectionCount image) :
    findMainKey other subName accepts mainName index left =
      findMainKey image subName accepts mainName index left := by
  induction left generalizing index with
  | zero => rfl
  | succ left inductionHypothesis =>
    have counted : index < sectionCount image := by omega
    have name : asciiStrEq mainName (Memory.drop other (mainKeyAt index)) =
        asciiStrEq mainName (Memory.drop image (mainKeyAt index)) :=
      asciiStrEq_congr mainNoZero ((same.mainKey counted).mono (by decide))
        (wellFormed.mainNames index counted)
    unfold findMainKey
    rw [name, same.mainKeyLenth counted,
      findSubKey_congr wellFormed same subNoZero accepts counted (by omega),
      inductionHypothesis (by omega)]

end Tables

/-! ### The key that is found -/

section Found

variable {image : Buffer} {mainName subName : List U8} {accepts : Nat → Bool}

theorem findSubKey_some {section_ index left subKey : Nat}
    (counted : section_ < sectionCount image)
    (room : index + left ≤ mainKeyLenth image (mainKeyAt section_))
    (found : findSubKey image subName accepts (mainKeyAt section_) index left = some subKey) :
    IsSubKey image subKey ∧ NameIs (Memory.drop image subKey) subName ∧
      accepts (valueType image subKey) = true := by
  induction left generalizing index with
  | zero => cases found
  | succ left inductionHypothesis =>
    unfold findSubKey at found
    split at found
    · rename_i here
      obtain ⟨name, type⟩ := Bool.and_eq_true_iff.mp here
      cases found
      exact ⟨⟨section_, counted, index, by omega, rfl⟩, (asciiStrEq_iff _ _).mp name, type⟩
    · exact inductionHypothesis (by omega) found

/-- What is known of a key that is found, and of its section. -/
theorem findMainKey_some {index left subKey : Nat} (room : index + left ≤ sectionCount image)
    (found : findMainKey image subName accepts mainName index left = some subKey) :
    (IsSubKey image subKey ∧ NameIs (Memory.drop image subKey) subName ∧
      accepts (valueType image subKey) = true) ∧
      ∃ section_ < sectionCount image, NameIs (Memory.drop image (mainKeyAt section_)) mainName := by
  induction left generalizing index with
  | zero => cases found
  | succ left inductionHypothesis =>
    unfold findMainKey at found
    split at found
    · rename_i name
      have counted : index < sectionCount image := by omega
      split at found
      · rename_i key inSection
        cases found
        exact ⟨findSubKey_some counted (by omega) inSection,
          index, counted, (asciiStrEq_iff _ _).mp name⟩
      · exact inductionHypothesis (by omega) found
    · exact inductionHypothesis (by omega) found

end Found

section First

variable (image : Buffer) (mainName subName : List U8) (accepts : Nat → Bool)

/-- With any type accepted the search finds no less, and finds the same when the type of what it
finds is accepted. -/
theorem findSubKey_first (mainKey index left : Nat) :
    (findSubKey image subName (fun _ => true) mainKey index left = none →
      findSubKey image subName accepts mainKey index left = none) ∧
    ∀ subKey, findSubKey image subName (fun _ => true) mainKey index left = some subKey →
      accepts (valueType image subKey) = true →
      findSubKey image subName accepts mainKey index left = some subKey := by
  induction left generalizing index with
  | zero => exact ⟨fun _ => rfl, nofun⟩
  | succ left inductionHypothesis =>
    unfold findSubKey
    cases name : asciiStrEq subName (Memory.drop image (subKeyAt image mainKey index)) with
    | true =>
      refine ⟨nofun, fun subKey found type => ?_⟩
      cases found
      rw [type]
      rfl
    | false => exact inductionHypothesis (index + 1)

theorem findMainKey_first (index left : Nat) :
    (findMainKey image subName (fun _ => true) mainName index left = none →
      findMainKey image subName accepts mainName index left = none) ∧
    ∀ subKey, findMainKey image subName (fun _ => true) mainName index left = some subKey →
      accepts (valueType image subKey) = true →
      findMainKey image subName accepts mainName index left = some subKey := by
  induction left generalizing index with
  | zero => exact ⟨fun _ => rfl, nofun⟩
  | succ left inductionHypothesis =>
    obtain ⟨noKey, sameKey⟩ := findSubKey_first image subName accepts (mainKeyAt index) 0
      (mainKeyLenth image (mainKeyAt index))
    unfold findMainKey
    cases name : asciiStrEq mainName (Memory.drop image (mainKeyAt index)) with
    | false => exact inductionHypothesis (index + 1)
    | true =>
      rw [if_pos rfl, if_pos rfl]
      cases inSection : findSubKey image subName (fun _ => true) (mainKeyAt index) 0
          (mainKeyLenth image (mainKeyAt index)) with
      | none =>
        rw [noKey inSection]
        exact inductionHypothesis (index + 1)
      | some key =>
        refine ⟨nofun, fun subKey found type => ?_⟩
        cases found
        rw [sameKey key inSection type]

end First

end PinePhonePkg
