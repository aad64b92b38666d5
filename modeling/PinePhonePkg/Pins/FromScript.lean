/-
This file models the requests of the pins of a section of the script image. The
pins are read into an array, which lies in allocated memory or on the stack and is
not cleared, and the array is passed on to the setup of the pins.

It proves when the setup gets the pins of the first section of the name and no
others, and the array is written inside. Then the registers come to be those of
the pins set one after the other: `gpioRequestEx_regs` and `gpioRequestSimple_regs`.
-/

import Mathlib.Data.List.Nodup
import Mathlib.Data.List.Perm.Subperm
import PinePhonePkg.Pins.EarlyRun
import PinePhonePkg.Script.PinEntries

namespace PinePhonePkg

open Library

/-! ### The array -/

/-- An element of an array of `user_gpio_set_t` -/
def pinAt (gpioList : Buffer) (index : Nat) : UserGpioSet :=
  let element := Memory.drop gpioList (index * sizeofScriptGpioSet)
  { gpioName := element
    port := scriptWord element 32
    portNum := scriptWord element 36
    mulSel := scriptWord element 40
    pull := scriptWord element 44
    drvLevel := scriptWord element 48
    data := scriptWord element 52 }

/-- The pins of an array -/
def pinArray (gpioList : Buffer) (gpioCount : Nat) : List UserGpioSet :=
  (List.range gpioCount).map (pinAt gpioList)

/-- The array afterwards, and what is passed on -/
structure PinSetup : Type where
  gpioList : Buffer
  passed : Option (List UserGpioSet)

/-- `sizeof(system_gpio_set_t)` -/
def sizeofSystemGpioSet : Nat := 72

namespace ScriptParser

variable (parser : ScriptParser)

/-- The pins of `gpio_request_ex`. The array is what `AllocatePool` gives, if it gives something;
one pin is fetched into an element on the stack. -/
def gpioRequestExPins (allocates : Bool) (gpioList oneGpio : Buffer)
    (mainName subName : Option (List U8)) : PinSetup :=
  match subName with
  | none =>
    match parser.scriptParserMainkeyGetGpioCount mainName with
    | .error _ => ⟨gpioList, none⟩
    | .ok gpioCount =>
      if gpioCount.toInt ≤ 0 ∨ !allocates then ⟨gpioList, none⟩
      else
        match parser.scriptParserMainkeyGetGpioCfg mainName gpioList gpioCount with
        | (.ok, gpioList) => ⟨gpioList, some (pinArray gpioList gpioCount.toNat)⟩
        | (_, gpioList) => ⟨gpioList, none⟩
  | some subName =>
    match parser.scriptParserFetch mainName subName (some oneGpio) 14 with
    | (.ok, some oneGpio) => ⟨oneGpio, some (pinArray oneGpio 1)⟩
    | (_, value) => ⟨value.getD oneGpio, none⟩

/-- The array of `gpio_request_simple` -/
def simpleCount : Nat := 32

/-- The pins of `gpio_request_simple`; half of the array on the stack is cleared. -/
def gpioRequestSimplePins (gpioList : Buffer) (mainName subName : Option (List U8)) : PinSetup :=
  match subName with
  | none =>
    match parser.scriptParserMainkeyGetGpioCount mainName with
    | .error _ => ⟨gpioList, none⟩
    | .ok gpioCount =>
      if gpioCount.toInt ≤ 0 then ⟨gpioList, none⟩
      else
        match parser.scriptParserMainkeyGetGpioCfg mainName
          (setMem gpioList 0 (16 * sizeofScriptGpioSet) 0) gpioCount with
        | (.ok, gpioList) => ⟨gpioList, some (pinArray gpioList gpioCount.toNat)⟩
        | (_, gpioList) => ⟨gpioList, none⟩
  | some subName =>
    match parser.scriptParserFetch mainName subName (some gpioList) 14 with
    | (.ok, some gpioList) => ⟨gpioList, some (pinArray gpioList 1)⟩
    | (_, value) => ⟨value.getD gpioList, none⟩

end ScriptParser

/-- `gpio_request_ex` -/
def gpioRequestEx (bases : GpioBases) (parser : ScriptParser) (allocates : Bool)
    (gpioList oneGpio : Buffer) (mainName subName : Option (List U8))
    (allocated : Option (Nat → SystemGpioSet)) (regs : GpioRegisters) :
    Option GpioRecord × GpioRegisters :=
  match (parser.gpioRequestExPins allocates gpioList oneGpio mainName subName).passed with
  | some list => gpioRequest bases allocated list regs
  | none => (none, regs)

/-- `gpio_request_simple` -/
def gpioRequestSimple (bases : GpioBases) (parser : ScriptParser) (gpioList : Buffer)
    (mainName subName : Option (List U8)) (regs : GpioRegisters) : Int × GpioRegisters :=
  match (parser.gpioRequestSimplePins gpioList mainName subName).passed with
  | some list => gpioRequestEarly bases 1 list regs
  | none => (if subName.isSome then 0 else -1, regs)

/-! ### What is to be passed on -/

section Right

variable (image : Buffer)

/-- A pin has the name and the settings of an entry. -/
structure IsEntry (subKey : Nat) (pin : UserGpioSet) : Prop where
  gpioName : ∀ text : List U8, 0 ∉ text → NameIs (Memory.drop image subKey) text →
    NameIs pin.gpioName text
  port : pin.port = scriptWord image (subKeyOffset image subKey)
  portNum : pin.portNum = scriptWord image (subKeyOffset image subKey + 4)
  mulSel : pin.mulSel = scriptWord image (subKeyOffset image subKey + 8)
  pull : pin.pull = scriptWord image (subKeyOffset image subKey + 12)
  drvLevel : pin.drvLevel = scriptWord image (subKeyOffset image subKey + 16)
  data : pin.data = scriptWord image (subKeyOffset image subKey + 20)

/-- Nothing behind the array is written, and what is passed on are the pins of the first section of
the name, or nothing if it has none. -/
def PinSetup.Right (mainName : List U8) (room : Nat) (before : Buffer) (setup : PinSetup) : Prop :=
  (∀ place, room ≤ place → setup.gpioList place = before place) ∧
  match setup.passed with
  | none => firstEntries image (fetchName mainName) = []
  | some list => List.Forall₂ (IsEntry image) (firstEntries image (fetchName mainName)) list

/-- Both requests are right, whatever was in their arrays before. -/
def PinsOfFirstSection (mainName : List U8) : Prop :=
  ∀ before oneGpio : Buffer,
    ((scriptParser image).gpioRequestExPins true before oneGpio (some mainName) none).Right image
      mainName
      (sizeofSystemGpioSet * (countSections image (fetchName mainName) (sectionCount image)).toNat)
      before ∧
    ((scriptParser image).gpioRequestSimplePins before (some mainName) none).Right image mainName
      (ScriptParser.simpleCount * sizeofScriptGpioSet) before

/-- Each section has its own keys, in a memory whose addresses have a sign. -/
structure KeysApart : Prop where
  inside : ∀ subKey, IsSubKey image subKey → subKey + 40 ≤ 2 ^ 31
  apart : ∀ index < sectionCount image, ∀ other < sectionCount image, index ≠ other →
    ∀ place < mainKeyLenth image (mainKeyAt index),
      ∀ place' < mainKeyLenth image (mainKeyAt other),
        subKeyAt image (mainKeyAt index) place ≠ subKeyAt image (mainKeyAt other) place'

end Right

/-! ### The number of entries -/

section Number

variable {image : Buffer} {mainName : List U8}

theorem isSubKey_gpioEntries {index subKey : Nat} (counted : index < sectionCount image)
    (member : subKey ∈ gpioEntries image (mainKeyAt index)) : IsSubKey image subKey := by
  obtain ⟨place, inside, rfl⟩ := List.mem_map.mp (List.mem_filter.mp member).1
  exact ⟨index, counted, place, List.mem_range.mp inside, rfl⟩

theorem mem_namedEntries {index subKey : Nat} (member : subKey ∈ namedEntries image mainName index) :
    subKey ∈ gpioEntries image (mainKeyAt index) := by
  unfold namedEntries at member
  split at member
  · exact member
  · exact absurd member List.not_mem_nil

theorem gpioEntries_nodup (mainKey : Nat) : (gpioEntries image mainKey).Nodup := by
  refine List.Nodup.filter _ (List.Nodup.map ?_ List.nodup_range)
  intro first second same
  unfold subKeyAt at same
  omega

/-- The pins of all sections are less than a number with a sign can count. -/
theorem entries_lt (keysApart : KeysApart image) :
    (firstEntries image mainName).length + (laterEntries image mainName).length < 2 ^ 31 := by
  have all : (List.range' 0 (sectionCount image)).flatMap (namedEntries image mainName) = _ ++ _ :=
    flatMap_namedEntries mainName 0 (sectionCount image)
  rw [← List.range_eq_range'] at all
  have distinct : ((List.range (sectionCount image)).flatMap
      (namedEntries image mainName)).Nodup := by
    refine List.nodup_flatMap.mpr ⟨fun index _ => ?_, ?_⟩
    · unfold namedEntries
      split
      · exact gpioEntries_nodup _
      · exact List.nodup_nil
    · refine List.Pairwise.imp_of_mem ?_ List.nodup_range
      intro index other counted counted' different subKey member member'
      obtain ⟨place, inside, rfl⟩ :=
        List.mem_map.mp (List.mem_filter.mp (mem_namedEntries member)).1
      obtain ⟨place', inside', same⟩ :=
        List.mem_map.mp (List.mem_filter.mp (mem_namedEntries member')).1
      exact keysApart.apart index (List.mem_range.mp counted) other (List.mem_range.mp counted')
        different place (List.mem_range.mp inside) place' (List.mem_range.mp inside') same.symm
  have below : (List.range (sectionCount image)).flatMap (namedEntries image mainName) ⊆
      List.range (2 ^ 31 - 39) := by
    intro subKey member
    obtain ⟨index, counted, named⟩ := List.mem_flatMap.mp member
    have isKey := isSubKey_gpioEntries (List.mem_range.mp counted) (mem_namedEntries named)
    have inside := keysApart.inside subKey isKey
    exact List.mem_range.mpr (by omega)
  have few := (distinct.subperm below).length_le
  rw [all, List.length_append, List.length_range] at few
  unfold firstEntries laterEntries
  omega

end Number

/-! ### What is passed on -/

section Passed

variable {image : Buffer} {mainName : List U8}

/-- The entries of the first section are keys of the image. -/
theorem isSubKey_firstEntries {subKey : Nat} (member : subKey ∈ firstEntries image mainName) :
    IsSubKey image subKey := by
  have all : subKey ∈ (List.range' 0 (sectionCount image)).flatMap (namedEntries image mainName) := by
    rw [flatMap_namedEntries]
    exact List.mem_append_left _ member
  obtain ⟨index, counted, named⟩ := List.mem_flatMap.mp all
  rw [← List.range_eq_range'] at counted
  exact isSubKey_gpioEntries (List.mem_range.mp counted) (mem_namedEntries named)

theorem scriptWord_congr {first second : Buffer} {length address : Nat}
    (agree : Memory.Agree length first second) (inside : address + 4 ≤ length) :
    scriptWord first address = scriptWord second address :=
  congrArg (BitVec.ofNat 32) (agree.word inside)

theorem scriptWord_drop (memory : Buffer) (offset address : Nat) :
    scriptWord (Memory.drop memory offset) address = scriptWord memory (offset + address) :=
  congrArg (BitVec.ofNat 32) (Memory.word_drop memory offset address 4)

/-- An element that has an entry is a pin with its name and settings. -/
theorem isEntry_pinAt {subKey index : Nat} {gpioList : Buffer} (wellFormed : ScriptWellFormed image)
    (isKey : IsSubKey image subKey)
    (holds : HoldsEntry image subKey (Memory.drop gpioList (index * sizeofScriptGpioSet))) :
    IsEntry image subKey (pinAt gpioList index) := by
  have word : ∀ offset, offset + 4 ≤ 24 →
      scriptWord (Memory.drop gpioList (index * sizeofScriptGpioSet)) (32 + offset) =
        scriptWord image (subKeyOffset image subKey + offset) := by
    intro offset inside
    rw [← scriptWord_drop, ← scriptWord_drop image]
    exact scriptWord_congr holds.settings inside
  have first := word 0 (by omega)
  rw [Nat.add_zero, Nat.add_zero] at first
  refine ⟨fun text noZero nameIs => ?_, first, word 4 (by omega), word 8 (by omega),
    word 12 (by omega), word 16 (by omega), word 20 (by omega)⟩
  exact holds.name text noZero (nameIs.length_lt noZero (wellFormed.subNames subKey isKey)) nameIs

/-- With room for all entries, the array has those of the first section, and nothing behind them is
written. -/
theorem scriptParserMainkeyGetGpioCfg_eq {gpioCount : U32} {count : Nat} (gpioList : Buffer)
    (counts : gpioCount.toInt = count) (some : 0 < count)
    (isCount : count = (firstEntries image (fetchName mainName)).length +
      (laterEntries image (fetchName mainName)).length) :
    (scriptParser image).scriptParserMainkeyGetGpioCfg (.some mainName) gpioList gpioCount =
      (.ok, copyEntries image (firstEntries image (fetchName mainName)) 0 gpioList) := by
  have cleared : setMem gpioList 0 0 (sizeofScriptGpioSet * gpioCount.toNat) = gpioList :=
    Memory.overwrite_zero _ _ _
  unfold firstEntries laterEntries splitEntries at isCount
  unfold ScriptParser.scriptParserMainkeyGetGpioCfg firstEntries splitEntries
  dsimp only [scriptParser]
  have sections : ({ scriptModBuf := Option.some image, scriptMainKeyCount := scriptWord image 0 } :
      ScriptParser).sections = sectionCount image := rfl
  rw [cleared, sections]
  cases found : findSection image (fetchName mainName) 0 (sectionCount image) with
  | none =>
    rw [found] at isCount
    exact absurd isCount (by simpa using Nat.ne_of_gt some)
  | some first =>
    rw [found] at isCount
    dsimp only at isCount ⊢
    rw [copyPins_eq (mainKeyAt first) _ 0 counts some, ← List.range_eq_range', Nat.sub_zero]
    have all : (gpioEntries image (mainKeyAt first)).take count =
        gpioEntries image (mainKeyAt first) := List.take_of_length_le (by omega)
    exact congrArg (fun list => (ScriptStatus.ok, copyEntries image list 0 gpioList)) all

/-- The elements that were copied are the entries of the first section. -/
theorem forall₂_copyEntries (wellFormed : ScriptWellFormed image) (gpioList : Buffer) :
    List.Forall₂ (IsEntry image) (firstEntries image mainName)
      (pinArray (copyEntries image (firstEntries image mainName) 0 gpioList)
        (firstEntries image mainName).length) := by
  have each : ∀ index (inside : index < (firstEntries image mainName).length),
      IsEntry image (firstEntries image mainName)[index]
        (pinAt (copyEntries image (firstEntries image mainName) 0 gpioList) index) := by
    intro index inside
    have holds : HoldsEntry image (firstEntries image mainName)[index]
        (Memory.drop (copyEntries image (firstEntries image mainName) 0 gpioList)
          ((0 + index) * sizeofScriptGpioSet)) :=
      holdsEntry_copyEntries _ 0 index (List.getElem?_eq_getElem inside)
    rw [Nat.zero_add] at holds
    exact isEntry_pinAt wellFormed (isSubKey_firstEntries (List.getElem_mem inside)) holds
  unfold pinArray
  refine List.forall₂_iff_get.mpr ⟨by simp, fun index inside inside' => ?_⟩
  rw [List.get_eq_getElem, List.get_eq_getElem, List.getElem_map, List.getElem_range]
  exact each index inside

/-- More elements than the entries of the first section are not those. -/
theorem later_of_forall₂ {gpioList : Buffer} {later : Nat}
    (passed : List.Forall₂ (IsEntry image) (firstEntries image mainName)
      (pinArray gpioList ((firstEntries image mainName).length + later))) : later = 0 := by
  have length := passed.length_eq
  unfold pinArray at length
  rw [List.length_map, List.length_range] at length
  omega

/-- What is read behind an array that is written inside was there before. -/
theorem port_of_inside {before gpioList : Buffer} {elements count : Nat}
    (inside : ∀ place, elements * sizeofScriptGpioSet ≤ place → gpioList place = before place)
    (passed : List.Forall₂ (IsEntry image) (firstEntries image mainName)
      (pinArray gpioList count))
    (beyond : elements < (firstEntries image mainName).length) :
    scriptWord before (elements * sizeofScriptGpioSet + 32) =
      scriptWord image (subKeyOffset image (firstEntries image mainName)[elements]) := by
  obtain ⟨length, each⟩ := List.forall₂_iff_get.mp passed
  have port := (each elements beyond (length ▸ beyond)).port
  unfold pinArray at port
  rw [List.get_eq_getElem, List.get_eq_getElem, List.getElem_map, List.getElem_range] at port
  rw [← port]
  unfold pinAt
  dsimp only
  rw [scriptWord_drop]
  exact congrArg (BitVec.ofNat 32) (Memory.word_congr fun index _ => (inside _ (by omega)).symm)

end Passed

/-! ### Both requests -/

section Requests

variable (image : Buffer) (mainName : List U8)

/-- What a request gets from the script, with room for all that are counted -/
theorem gpioCount_eq (keysApart : KeysApart image) :
    (countSections image (fetchName mainName) (sectionCount image)).toInt =
      ((firstEntries image (fetchName mainName)).length +
        (laterEntries image (fetchName mainName)).length : Nat) ∧
    (countSections image (fetchName mainName) (sectionCount image)).toNat =
      (firstEntries image (fetchName mainName)).length +
        (laterEntries image (fetchName mainName)).length := by
  have few : (firstEntries image (fetchName mainName)).length +
      (laterEntries image (fetchName mainName)).length < 2 ^ 31 := entries_lt keysApart
  have number : (countSections image (fetchName mainName) (sectionCount image)).toNat =
      (firstEntries image (fetchName mainName)).length +
        (laterEntries image (fetchName mainName)).length := by
    rw [countSections_split, BitVec.toNat_ofNat]
    exact Nat.mod_eq_of_lt (by omega)
  exact ⟨(BitVec.toInt_eq_toNat_of_lt (by omega)).trans (congrArg Nat.cast number), number⟩

theorem gpioCount_ok : (scriptParser image).scriptParserMainkeyGetGpioCount (some mainName) =
    .ok (countSections image (fetchName mainName) (sectionCount image)) := rfl

/-- Without an entry in any section nothing is done. -/
theorem pins_of_no_entry (keysApart : KeysApart image) (before oneGpio : Buffer)
    (none : (firstEntries image (fetchName mainName)).length +
      (laterEntries image (fetchName mainName)).length = 0) :
    (scriptParser image).gpioRequestExPins true before oneGpio (some mainName) .none =
        ⟨before, .none⟩ ∧
      (scriptParser image).gpioRequestSimplePins before (some mainName) .none =
        ⟨before, .none⟩ := by
  have count := (gpioCount_eq image mainName keysApart).1
  rw [none] at count
  have empty : (countSections image (fetchName mainName) (sectionCount image)).toInt ≤ 0 :=
    Int.le_of_eq count
  unfold ScriptParser.gpioRequestExPins ScriptParser.gpioRequestSimplePins
  dsimp only
  rw [gpioCount_ok]
  exact ⟨if_pos (.inl empty), if_pos empty⟩

theorem pins_of_entries (keysApart : KeysApart image) (before oneGpio : Buffer)
    (some : 0 < (firstEntries image (fetchName mainName)).length +
      (laterEntries image (fetchName mainName)).length) :
    (scriptParser image).gpioRequestExPins true before oneGpio (.some mainName) none =
        ⟨copyEntries image (firstEntries image (fetchName mainName)) 0 before,
          .some (pinArray (copyEntries image (firstEntries image (fetchName mainName)) 0 before)
            ((firstEntries image (fetchName mainName)).length +
              (laterEntries image (fetchName mainName)).length))⟩ ∧
      (scriptParser image).gpioRequestSimplePins before (.some mainName) none =
        ⟨copyEntries image (firstEntries image (fetchName mainName)) 0
            (setMem before 0 (16 * sizeofScriptGpioSet) 0),
          .some (pinArray (copyEntries image (firstEntries image (fetchName mainName)) 0
              (setMem before 0 (16 * sizeofScriptGpioSet) 0))
            ((firstEntries image (fetchName mainName)).length +
              (laterEntries image (fetchName mainName)).length))⟩ := by
  obtain ⟨count, number⟩ := gpioCount_eq image mainName keysApart
  have positive : ¬ (countSections image (fetchName mainName) (sectionCount image)).toInt ≤ 0 := by
    omega
  have copied := fun gpioList => scriptParserMainkeyGetGpioCfg_eq gpioList count some rfl
  refine ⟨?_, ?_⟩
  · unfold ScriptParser.gpioRequestExPins
    dsimp only
    rw [gpioCount_ok]
    dsimp only
    rw [if_neg (not_or.mpr ⟨positive, by simp⟩), copied]
    dsimp only
    rw [number]
  · unfold ScriptParser.gpioRequestSimplePins
    dsimp only
    rw [gpioCount_ok]
    dsimp only
    rw [if_neg positive, copied]
    dsimp only
    rw [number]

/-- Both requests pass on the pins of the first section of the name and write their arrays inside
exactly if no later section of the name has a pin and the first has at most 32. -/
theorem pinsOfFirstSection_iff (wellFormed : ScriptWellFormed image)
    (keysApart : KeysApart image) :
    PinsOfFirstSection image mainName ↔
      laterEntries image (fetchName mainName) = [] ∧
        (firstEntries image (fetchName mainName)).length ≤ ScriptParser.simpleCount := by
  by_cases none : (firstEntries image (fetchName mainName)).length +
      (laterEntries image (fetchName mainName)).length = 0
  · have noFirst := List.eq_nil_of_length_eq_zero (Nat.eq_zero_of_add_eq_zero_right none)
    have noLater := List.eq_nil_of_length_eq_zero (Nat.eq_zero_of_add_eq_zero_left none)
    refine ⟨fun _ => ⟨noLater, by rw [noFirst]; decide⟩, fun _ before oneGpio => ?_⟩
    obtain ⟨ex, simple⟩ := pins_of_no_entry image mainName keysApart before oneGpio none
    rw [ex, simple]
    exact ⟨⟨fun _ _ => rfl, noFirst⟩, fun _ _ => rfl, noFirst⟩
  have entries := fun before oneGpio =>
    pins_of_entries image mainName keysApart before oneGpio (Nat.pos_of_ne_zero none)
  constructor
  · intro right
    have noLater : (laterEntries image (fetchName mainName)).length = 0 := by
      have ex := (right (fun _ => 0) fun _ => 0).1
      rw [(entries _ _).1] at ex
      exact later_of_forall₂ ex.2
    refine ⟨List.eq_nil_of_length_eq_zero noLater, ?_⟩
    by_contra beyond
    have port := fun before => by
      have simple := (right before before).2
      rw [(entries before before).2] at simple
      exact port_of_inside simple.1 simple.2 (Nat.lt_of_not_le beyond)
    have same := (port fun _ => 0).trans (port fun _ => 1).symm
    revert same
    decide
  · rintro ⟨noLater, fits⟩ before oneGpio
    have passed : ∀ gpioList, List.Forall₂ (IsEntry image) (firstEntries image (fetchName mainName))
        (pinArray (copyEntries image (firstEntries image (fetchName mainName)) 0 gpioList)
          (firstEntries image (fetchName mainName)).length) :=
      fun gpioList => forall₂_copyEntries wellFormed gpioList
    rw [(entries before oneGpio).1, (entries before oneGpio).2, noLater, List.length_nil,
      Nat.add_zero]
    refine ⟨⟨fun place outside => ?_, passed _⟩, fun place outside => ?_, passed _⟩
    · refine copyEntries_outside _ (.inr ?_)
      rw [(gpioCount_eq image mainName keysApart).2] at outside
      unfold sizeofSystemGpioSet at outside
      unfold sizeofScriptGpioSet
      omega
    · unfold ScriptParser.simpleCount sizeofScriptGpioSet at *
      refine (copyEntries_outside _ (.inr ?_)).trans (Memory.overwrite_outside _ _ _ _ _ (.inr ?_))
      · unfold sizeofScriptGpioSet
        omega
      · omega

end Requests

/-- Where the requests are right, the registers come to be those that the pins of the first section
leave one after the other. -/
theorem gpioRequestEx_regs {image : Buffer} {mainName : List U8}
    (right : PinsOfFirstSection image mainName) (bases : GpioBases) (gpioList oneGpio : Buffer)
    (behind : Nat → SystemGpioSet) (regs : GpioRegisters) :
    ∃ list, List.Forall₂ (IsEntry image) (firstEntries image (fetchName mainName)) list ∧
      (PinsMapped bases list →
        (gpioRequestEx bases (scriptParser image) true gpioList oneGpio (some mainName) none
          (some behind) regs).2 = list.foldl (setPin bases) regs) := by
  have setup := (right gpioList oneGpio).1.2
  unfold gpioRequestEx
  cases passed : ((scriptParser image).gpioRequestExPins true gpioList oneGpio (some mainName)
      none).passed with
  | none =>
    rw [passed] at setup
    exact ⟨[], setup ▸ List.Forall₂.nil, fun _ => rfl⟩
  | some list =>
    rw [passed] at setup
    exact ⟨list, setup, gpioRequest_regs behind regs⟩

theorem gpioRequestSimple_regs {image : Buffer} {mainName : List U8}
    (right : PinsOfFirstSection image mainName) (bases : GpioBases) (gpioList : Buffer)
    (regs : GpioRegisters) :
    ∃ list, List.Forall₂ (IsEntry image) (firstEntries image (fetchName mainName)) list ∧
      (PinsMapped bases list → (∀ pin ∈ list, pin.port ≠ 0) →
        FieldWrite.Harmless (earlySettings bases list) regs →
        (gpioRequestSimple bases (scriptParser image) gpioList (some mainName) none regs).2 =
          list.foldl (setPin bases) regs) := by
  have setup := (right gpioList gpioList).2.2
  unfold gpioRequestSimple
  cases passed : ((scriptParser image).gpioRequestSimplePins gpioList (some mainName)
      none).passed with
  | none =>
    rw [passed] at setup
    exact ⟨[], setup ▸ List.Forall₂.nil, fun _ _ _ => rfl⟩
  | some list =>
    rw [passed] at setup
    refine ⟨list, setup, fun mapped isPin harmless => ?_⟩
    rw [← setOwn_earlySettings list isPin]
    exact (regs_gpioRequestEarly mapped isPin regs).trans
      ((FieldWrite.setAll_eq_setOwn_iff _ _).mpr harmless)

/-! ### Two sections -/

/-- The sections a and a, each with the pin b; the second one counts if there are two. -/
def pinScript (sections : Nat) : Buffer :=
  let image := Memory.setWord (fun _ => 0) 0 4 sections
  let image := Memory.setWord image 16 1 97
  let image := Memory.setWord image 48 4 1
  let image := Memory.setWord image 52 4 24
  let image := Memory.setWord image 56 1 97
  let image := Memory.setWord image 88 4 1
  let image := Memory.setWord image 92 4 34
  let image := Memory.setWord image 96 1 98
  let image := Memory.setWord image 128 4 44
  let image := Memory.setWord image 132 4 0x40006
  let image := Memory.setWord image 136 1 98
  let image := Memory.setWord image 168 4 50
  let image := Memory.setWord image 172 4 0x40006
  let image := Memory.setWord image 176 4 2
  let image := Memory.setWord image 180 4 8
  let image := Memory.setWord image 200 4 2
  Memory.setWord image 204 4 9

section TwoKeys

variable {image : Buffer} (sections : sectionCount image ≤ 2)
  (keys : ∀ index < 2, mainKeyLenth image (mainKeyAt index) = 1 ∧
    subKeyAt image (mainKeyAt index) 0 = 96 + 40 * index)
include sections keys

theorem twoKeys_subKey {subKey : Nat} (isKey : IsSubKey image subKey) :
    subKey = 96 ∨ subKey = 136 := by
  obtain ⟨index, counted, place, inside, rfl⟩ := isKey
  obtain ⟨length, address⟩ := keys index (by omega)
  obtain rfl : place = 0 := by omega
  rw [address]
  omega

theorem twoKeys_apart : KeysApart image := by
  refine ⟨fun subKey isKey => ?_, fun index counted other counted' different place inside place'
    inside' => ?_⟩
  · have places := twoKeys_subKey sections keys isKey
    omega
  · obtain ⟨length, address⟩ := keys index (by omega)
    obtain ⟨length', address'⟩ := keys other (by omega)
    obtain rfl : place = 0 := by omega
    obtain rfl : place' = 0 := by omega
    rw [address, address']
    omega

theorem twoKeys_wellFormed
    (mainNames : ∀ index < 2, Memory.drop image (mainKeyAt index) 1 = 0)
    (subNames : Memory.drop image 96 1 = 0 ∧ Memory.drop image 136 1 = 0)
    (values : subKeyOffset image 96 = 176 ∧ valueLength image 96 = 24 ∧
      subKeyOffset image 136 = 200) : ScriptWellFormed image where
  mainNames index counted := ⟨1, by decide, mainNames index (by omega)⟩
  subNames subKey isKey := by
    rcases twoKeys_subKey sections keys isKey with rfl | rfl
    · exact ⟨1, by decide, subNames.1⟩
    · exact ⟨1, by decide, subNames.2⟩
  tables subKey isKey place inValue inTable := by
    have reached : 176 ≤ place := by
      have behind := inValue.1
      rcases twoKeys_subKey sections keys isKey with rfl | rfl <;> omega
    rcases inTable with inHead | ⟨other, otherIsKey, from_key, inside⟩
    · unfold mainKeyAt at inHead
      omega
    · rcases twoKeys_subKey sections keys otherIsKey with rfl | rfl <;> omega
  values subKey other isKey otherIsKey different place inValue inOther := by
    unfold InValue at inValue inOther
    rcases twoKeys_subKey sections keys isKey with rfl | rfl <;>
      rcases twoKeys_subKey sections keys otherIsKey with rfl | rfl <;> omega

end TwoKeys

theorem pinScript_wellFormed {count : Nat} (few : count = 1 ∨ count = 2) :
    ScriptWellFormed (pinScript count) ∧ KeysApart (pinScript count) := by
  have sections : sectionCount (pinScript count) ≤ 2 := by
    rcases few with rfl | rfl <;> decide +kernel
  have keys : ∀ index < 2, mainKeyLenth (pinScript count) (mainKeyAt index) = 1 ∧
      subKeyAt (pinScript count) (mainKeyAt index) 0 = 96 + 40 * index := by
    rcases few with rfl | rfl <;> decide +kernel
  refine ⟨twoKeys_wellFormed sections keys ?_ ?_ ?_, twoKeys_apart sections keys⟩ <;>
    rcases few with rfl | rfl <;> decide +kernel

theorem pinsOfFirstSection_iff_oneSection : PinsOfFirstSection (pinScript 1) [97] :=
  (pinsOfFirstSection_iff (pinScript 1) [97] (pinScript_wellFormed (.inl rfl)).1
    (pinScript_wellFormed (.inl rfl)).2).mpr ⟨by decide +kernel, by decide +kernel⟩

/-- With both sections, an element is passed on that was never written. -/
theorem not_pinsOfFirstSection :
    ¬ ∀ image mainName, ScriptWellFormed image → KeysApart image →
      PinsOfFirstSection image mainName := by
  intro claim
  have both : ScriptWellFormed (pinScript 2) ∧ KeysApart (pinScript 2) :=
    pinScript_wellFormed (.inr rfl)
  obtain ⟨wellFormed, keysApart⟩ := both
  have ex := (claim _ [97] wellFormed keysApart (fun _ => 0) fun _ => 0).1
  have later : (laterEntries (pinScript 2) (fetchName [97])).length = 1 := by decide +kernel
  rw [(pins_of_entries (pinScript 2) [97] keysApart (fun _ => 0) (fun _ => 0) (by omega)).1] at ex
  have none := later_of_forall₂ ex.2
  omega

end PinePhonePkg
