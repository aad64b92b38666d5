/-
This file models how the pins of a section are read from a script image. One
function counts the entries with a pin in all sections of a name; another one
copies those of the first section of the name into an array.
-/

import PinePhonePkg.Script.PowerTable

namespace PinePhonePkg

open Library

/-! ### Counting and copying -/

section Loops

variable (image : Buffer)

/-- The inner loop: the entries of a section that are pins are counted on. -/
def countSection (mainKey : Nat) (gpioCount : U32) : U32 :=
  (List.range (mainKeyLenth image mainKey)).foldl
    (fun gpioCount place =>
      if valueType image (subKeyAt image mainKey place) = valueTypeGpioWord then gpioCount + 1
      else gpioCount)
    gpioCount

/-- The outer loop goes on behind a section of the name. -/
def countSections (mainName : List U8) (sections : Nat) : U32 :=
  (List.range sections).foldl
    (fun gpioCount index =>
      if asciiStrEq mainName (Memory.drop image (mainKeyAt index)) then
        countSection image (mainKeyAt index) gpioCount
      else gpioCount)
    0

/-- One entry of the array: the name of the key, and its value behind it -/
def copyPin (subKey index : Nat) (gpioCfg : Buffer) : Buffer :=
  gpioCfg.overwrite (index * sizeofScriptGpioSet) sizeofScriptGpioSet
    ((asciiStrCpySFrom (Memory.drop gpioCfg (index * sizeofScriptGpioSet)) 32
      (Memory.drop image subKey)).overwrite 32 (sizeofScriptGpioSet - 32)
        (Memory.drop image (subKeyOffset image subKey)))

/-- The loop over the keys of a section, from `place` on with `left` keys to go. It ends early when
the array is full. -/
def copyPins (mainKey : Nat) (gpioCount : U32) : Nat → Nat → Nat → Buffer → Buffer
  | 0, _, _, gpioCfg => gpioCfg
  | left + 1, place, userIndex, gpioCfg =>
    if valueType image (subKeyAt image mainKey place) = valueTypeGpioWord then
      if gpioCount.toInt ≤ userIndex + 1 then
        copyPin image (subKeyAt image mainKey place) userIndex gpioCfg
      else
        copyPins mainKey gpioCount left (place + 1) (userIndex + 1)
          (copyPin image (subKeyAt image mainKey place) userIndex gpioCfg)
    else copyPins mainKey gpioCount left (place + 1) userIndex gpioCfg

end Loops

namespace ScriptParser

variable (parser : ScriptParser)

/-- `script_parser_mainkey_get_gpio_count`: a status that is negative, or the number -/
def scriptParserMainkeyGetGpioCount : Option (List U8) → Except ScriptStatus U32
  | none => .error (if parser.scriptModBuf.isNone then .emptyBuffer else .keynameNull)
  | some mainName =>
    match parser.scriptModBuf with
    | none => .error .emptyBuffer
    | some image => .ok (countSections image (fetchName mainName) parser.sections)

/-- `script_parser_mainkey_get_gpio_cfg`. The array should be cleared first, but the length and the
value are the wrong way round. -/
def scriptParserMainkeyGetGpioCfg (mainName : Option (List U8)) (gpioCfg : Buffer)
    (gpioCount : U32) : ScriptStatus × Buffer :=
  match parser.scriptModBuf, mainName with
  | none, _ => (.emptyBuffer, gpioCfg)
  | some _, none => (.keynameNull, gpioCfg)
  | some image, some mainName =>
    let gpioCfg := setMem gpioCfg 0 0 (sizeofScriptGpioSet * gpioCount.toNat)
    match findSection image (fetchName mainName) 0 parser.sections with
    | none => (.keyNotFind, gpioCfg)
    | some index =>
      (.ok, copyPins image (mainKeyAt index) gpioCount (mainKeyLenth image (mainKeyAt index)) 0 0
        gpioCfg)

end ScriptParser

/-! ### The entries -/

section Entries

variable (image : Buffer)

/-- The keys of a section that are pins -/
def gpioEntries (mainKey : Nat) : List Nat :=
  ((List.range (mainKeyLenth image mainKey)).map (subKeyAt image mainKey)).filter
    fun subKey => valueType image subKey = valueTypeGpioWord

/-- The keys that are pins of a section that has the name -/
def namedEntries (mainName : List U8) (index : Nat) : List Nat :=
  if asciiStrEq mainName (Memory.drop image (mainKeyAt index)) then
    gpioEntries image (mainKeyAt index)
  else []

/-- The pins of the first section of the name, and those of all later ones -/
def splitEntries (mainName : List U8) (index left : Nat) : List Nat × List Nat :=
  match findSection image mainName index left with
  | some first =>
    (gpioEntries image (mainKeyAt first),
      (List.range' (first + 1) (index + left - (first + 1))).flatMap (namedEntries image mainName))
  | none => ([], [])

/-- The entries of the first section of the name -/
def firstEntries (mainName : List U8) : List Nat :=
  (splitEntries image mainName 0 (sectionCount image)).1

/-- The entries of later sections of the name -/
def laterEntries (mainName : List U8) : List Nat :=
  (splitEntries image mainName 0 (sectionCount image)).2

variable {image}

theorem foldl_count {Item : Type} (isOne : Item → Bool) (list : List Item) (start : U32) :
    list.foldl (fun count item => if isOne item then count + 1 else count) start =
      start + BitVec.ofNat 32 (list.countP isOne) := by
  induction list generalizing start with
  | nil => exact (BitVec.add_zero start).symm
  | cons item rest inductionHypothesis =>
    rw [List.foldl_cons, inductionHypothesis]
    by_cases one : isOne item
    · rw [if_pos one, List.countP_cons_of_pos one, BitVec.ofNat_add, BitVec.add_assoc,
        BitVec.add_comm (1 : U32)]
      rfl
    · rw [if_neg one, List.countP_cons_of_neg one]

theorem countSection_eq (mainKey : Nat) (gpioCount : U32) :
    countSection image mainKey gpioCount =
      gpioCount + BitVec.ofNat 32 (gpioEntries image mainKey).length := by
  have counted := foldl_count
    (fun place => decide (valueType image (subKeyAt image mainKey place) = valueTypeGpioWord))
    (List.range (mainKeyLenth image mainKey)) gpioCount
  unfold gpioEntries
  rw [← List.countP_eq_length_filter, List.countP_map]
  simp only [decide_eq_true_eq] at counted
  exact counted

theorem countSections_eq (mainName : List U8) (sections : Nat) :
    countSections image mainName sections =
      BitVec.ofNat 32 ((List.range sections).flatMap (namedEntries image mainName)).length := by
  have all : ∀ (list : List Nat) (start : U32),
      list.foldl (fun gpioCount index =>
        if asciiStrEq mainName (Memory.drop image (mainKeyAt index)) then
          countSection image (mainKeyAt index) gpioCount
        else gpioCount) start =
      start + BitVec.ofNat 32 (list.flatMap (namedEntries image mainName)).length := by
    intro list
    induction list with
    | nil => exact fun start => (BitVec.add_zero start).symm
    | cons index rest inductionHypothesis =>
      intro start
      rw [List.foldl_cons, inductionHypothesis, List.flatMap_cons, List.length_append,
        BitVec.ofNat_add, ← BitVec.add_assoc]
      unfold namedEntries
      split
      · rw [countSection_eq]
      · rw [List.length_nil]
        exact congrArg (· + _) (BitVec.add_zero start).symm
  exact (all _ 0).trans (BitVec.zero_add _)

/-- All pins of the name are those of the first section and the later ones. -/
theorem flatMap_namedEntries (mainName : List U8) (index left : Nat) :
    (List.range' index left).flatMap (namedEntries image mainName) =
      (splitEntries image mainName index left).1 ++ (splitEntries image mainName index left).2 := by
  induction left generalizing index with
  | zero => rfl
  | succ left inductionHypothesis =>
    rw [List.range'_succ, List.flatMap_cons]
    by_cases here : asciiStrEq mainName (Memory.drop image (mainKeyAt index)) = true
    · have found : findSection image mainName index (left + 1) = some index := if_pos here
      have rest : index + (left + 1) - (index + 1) = left := by omega
      unfold splitEntries
      rw [found]
      dsimp only
      rw [rest]
      exact congrArg (· ++ _) (if_pos here)
    · have next : findSection image mainName index (left + 1) =
          findSection image mainName (index + 1) left := if_neg here
      have rest : index + (left + 1) = index + 1 + left := by omega
      have none : namedEntries image mainName index = [] := if_neg here
      rw [none, List.nil_append, inductionHypothesis]
      unfold splitEntries
      rw [next, rest]

theorem countSections_split (mainName : List U8) :
    countSections image mainName (sectionCount image) =
      BitVec.ofNat 32 ((firstEntries image mainName).length +
        (laterEntries image mainName).length) := by
  rw [countSections_eq, List.range_eq_range', flatMap_namedEntries, List.length_append]
  rfl

end Entries

/-! ### The array -/

section Array

variable (image : Buffer)

/-- Entries are copied to places in a row. -/
def copyEntries : List Nat → Nat → Buffer → Buffer
  | [], _, gpioCfg => gpioCfg
  | subKey :: rest, index, gpioCfg =>
    copyEntries rest (index + 1) (copyPin image subKey index gpioCfg)

/-- An element of the array has the name and the settings of an entry. -/
structure HoldsEntry (subKey : Nat) (element : Buffer) : Prop where
  name : ∀ text : List U8, 0 ∉ text → text.length < 32 → NameIs (Memory.drop image subKey) text →
    NameIs element text
  settings : Memory.Agree (sizeofScriptGpioSet - 32) (Memory.drop element 32)
    (Memory.drop image (subKeyOffset image subKey))

variable {image} {gpioCfg : Buffer}

/-- The loop copies the entries until the array is full. -/
theorem copyPins_eq (mainKey : Nat) {gpioCount : U32} (left place : Nat) {userIndex count : Nat}
    (counts : gpioCount.toInt = count) (room : userIndex < count) :
    copyPins image mainKey gpioCount left place userIndex gpioCfg =
      copyEntries image ((((List.range' place left).map (subKeyAt image mainKey)).filter
        fun subKey => valueType image subKey = valueTypeGpioWord).take (count - userIndex))
        userIndex gpioCfg := by
  induction left generalizing place userIndex gpioCfg with
  | zero =>
    have none : List.take (count - userIndex) ([] : List Nat) = [] := List.take_nil
    exact (congrArg (copyEntries image · userIndex gpioCfg) none).symm
  | succ left inductionHypothesis =>
    unfold copyPins
    rw [List.range'_succ, List.map_cons]
    by_cases isPin : valueType image (subKeyAt image mainKey place) = valueTypeGpioWord
    · rw [if_pos isPin, List.filter_cons_of_pos (by simpa using isPin)]
      by_cases full : count ≤ userIndex + 1
      · have one : count - userIndex = 1 := by omega
        rw [if_pos (by omega), one, List.take_succ_cons, List.take_zero]
        rfl
      · have more : count - userIndex = count - (userIndex + 1) + 1 := by omega
        rw [if_neg (by omega), more, List.take_succ_cons,
          inductionHypothesis (place + 1) (by omega)]
        rfl
    · rw [if_neg isPin, List.filter_cons_of_neg (by simpa using isPin),
        inductionHypothesis (place + 1) room]

theorem copyPin_outside {subKey index place : Nat}
    (outside : place < index * sizeofScriptGpioSet ∨ (index + 1) * sizeofScriptGpioSet ≤ place) :
    copyPin image subKey index gpioCfg place = gpioCfg place := by
  refine Memory.overwrite_outside _ _ _ _ _ ?_
  rwa [Nat.succ_mul] at outside

/-- Nothing is written in front of the first of the places or behind the last. -/
theorem copyEntries_outside (list : List Nat) {index place : Nat}
    (outside : place < index * sizeofScriptGpioSet ∨
      (index + list.length) * sizeofScriptGpioSet ≤ place) :
    copyEntries image list index gpioCfg place = gpioCfg place := by
  induction list generalizing index gpioCfg with
  | nil => rfl
  | cons subKey rest inductionHypothesis =>
    unfold sizeofScriptGpioSet at *
    rw [List.length_cons] at outside
    refine (inductionHypothesis ?_).trans (copyPin_outside ?_)
    · omega
    · unfold sizeofScriptGpioSet
      omega

theorem HoldsEntry.congr {subKey : Nat} {first second : Buffer} (holds : HoldsEntry image subKey first)
    (agree : Memory.Agree sizeofScriptGpioSet second first) : HoldsEntry image subKey second := by
  refine ⟨fun text noZero short nameIs => ?_, fun offset inside => ?_⟩
  · have inElement : 32 ≤ sizeofScriptGpioSet := by decide
    exact (holds.name text noZero short nameIs).congr short (agree.mono inElement)
  · unfold sizeofScriptGpioSet at *
    exact (agree (32 + offset) (by omega)).trans (holds.settings offset inside)

theorem holdsEntry_copyPin (subKey index : Nat) :
    HoldsEntry image subKey
      (Memory.drop (copyPin image subKey index gpioCfg) (index * sizeofScriptGpioSet)) := by
  refine HoldsEntry.congr ⟨fun text noZero short nameIs => ?_, ?_⟩
    (Memory.agree_drop_overwrite _ _ _ _)
  · have copied := nameIs_asciiStrCpySFrom
      (Memory.drop gpioCfg (index * sizeofScriptGpioSet)) nameIs noZero short
    refine copied.congr short fun place inside => ?_
    exact Memory.overwrite_outside _ _ _ _ _ (.inl inside)
  · exact Memory.agree_drop_overwrite _ _ _ _

/-- Each of the places holds its entry. -/
theorem holdsEntry_copyEntries (list : List Nat) (index place : Nat) {subKey : Nat}
    (found : list[place]? = some subKey) :
    HoldsEntry image subKey (Memory.drop (copyEntries image list index gpioCfg)
      ((index + place) * sizeofScriptGpioSet)) := by
  induction list generalizing index place gpioCfg with
  | nil => exact absurd found (by simp)
  | cons head rest inductionHypothesis =>
    cases place with
    | zero =>
      obtain rfl : head = subKey := Option.some.inj found
      have copied : HoldsEntry image head
          (Memory.drop (copyPin image head index gpioCfg) (index * sizeofScriptGpioSet)) :=
        holdsEntry_copyPin head index
      refine copied.congr fun offset inside => ?_
      refine copyEntries_outside rest (.inl ?_)
      unfold sizeofScriptGpioSet at *
      omega
    | succ place =>
      have behind : index + (place + 1) = index + 1 + place := by omega
      rw [behind]
      exact inductionHypothesis (index + 1) place found

end Array

end PinePhonePkg
