/-
This file follows the table of power supplies in a script image: the cursor
that goes through the keys of a section, and the loop that sets each supply to
the value of its key. A name that does not fit the size of a pointer is left
out by the cursor, and the supply is then looked for under no name at all.
-/

import PinePhonePkg.Script.Agreement

namespace PinePhonePkg

open Library

/-! ### The cursor -/

/-- The first section with the name. -/
def findSection (image : Buffer) (mainName : List U8) : Nat → Nat → Option Nat
  | _, 0 => none
  | index, left + 1 =>
    if asciiStrEq mainName (Memory.drop image (mainKeyAt index)) then some index
    else findSection image mainName (index + 1) left

/-- `script_parser_fetch_subkey_start`: the address of the section in 32 bits, for an image that
lies at `base`. What is on the stack comes behind the copy of a long name. -/
def ScriptParser.scriptParserFetchSubkeyStart (parser : ScriptParser) (base : Nat)
    (mainName : Option (List U8)) (stack : List U8) : U32 :=
  match parser.scriptModBuf with
  | none => 0
  | some image =>
    if parser.scriptMainKeyCount.toInt ≤ 0 then 0
    else
      match mainName with
      | none => 0
      | some mainName =>
        match findSection image (patchName mainName stack) 0 parser.sections with
        | none => 0
        | some index => BitVec.ofNat 32 (base + mainKeyAt index)

/-- The first key from `index` on whose value is a word or a string. -/
def findValueKey (image : Buffer) (mainKey : Nat) : Nat → Nat → Option Nat
  | _, 0 => none
  | index, left + 1 =>
    match valueType image (subKeyAt image mainKey index) with
    | valueTypeSingleWord => some index
    | valueTypeString => some index
    | _ => findValueKey image mainKey (index + 1) left

/-- `sizeof(sub_name)`, the size of a pointer -/
def sizeofSubName : Nat := 8

/-- `size_of_value`, of a pointer in words -/
def sizeOfValue : Nat := 2

/-- edk2's `AsciiStrCpyS` from a string in memory -/
def asciiStrCpySFrom (memory : Buffer) (destMax : Nat) (source : Buffer) : Buffer :=
  asciiStrCpyS memory destMax (asciiChars destMax source)

/-- `script_parser_fetch_subkey_next`: the status, and the name, the value and the cursor
afterwards. The -1 of a handle that is zero is the status of an empty buffer. -/
def scriptParserFetchSubkeyNext (image : Buffer) (base : Nat) (hd : U32) (subName value : Buffer)
    (index : Nat) : ScriptStatus × Buffer × Buffer × Nat :=
  if hd = 0 then (.emptyBuffer, subName, value, index)
  else
    let mainKey := hd.toNat - base
    match findValueKey image mainKey index (mainKeyLenth image mainKey - index) with
    | none => (.keyNotFind, subName, value, index)
    | some place =>
      let subKey := subKeyAt image mainKey place
      let source := Memory.drop image (subKeyOffset image subKey)
      (.ok, asciiStrCpySFrom subName sizeofSubName (Memory.drop image subKey),
        if valueType image subKey = valueTypeSingleWord then value.overwrite 0 4 source
        else asciiStrCpySFrom value sizeOfValue source, place + 1)

/-! ### The loop over the table -/

/-- A call of `Axp81XSetSupplyStatusByName` -/
structure SupplyByName : Type where
  voltageName : List U8
  voltage : Ulong
  onOff : Ulong
deriving DecidableEq

/-- What calls the supplies by name, and looks at the status only to report it. -/
abbrev SupplyCaller (Result : Type) : Type := Program SupplyByName (fun _ => Ulong) Result

/-- What the caller is told -/
inductive PowerTableStatus : Type where
  | success
  | loadError
deriving DecidableEq

/-- "power_sply" -/
def powerSply : List U8 := [0x70, 0x6f, 0x77, 0x65, 0x72, 0x5f, 0x73, 0x70, 0x6c, 0x79]

/-- `PowerVoltage` and `OnOff` for a value that was fetched -/
def voltageAndState (powerVoltage : U32) : U32 × Ulong :=
  if (10000 : U32).slt powerVoltage then (powerVoltage.srem 10000, 1) else (powerVoltage, 0)

/-- The call for a value, with the name in its buffer of 16 characters. -/
def supplyCall (powerName : Buffer) (powerVoltage : U32) : SupplyByName :=
  ⟨asciiChars 16 powerName, (voltageAndState powerVoltage).1.signExtend 64,
    (voltageAndState powerVoltage).2⟩

/-- The loop of `AxpPowerSupplySetOutPut`; without a result the turns did not suffice. -/
def axpPowerSupplyLoop (image : Buffer) (base : Nat) (powerSupplyHd : U32) :
    Nat → Buffer → Nat → SupplyCaller (Option PowerTableStatus)
  | 0, _, _ => pure none
  | turns + 1, powerVoltage, powerIndex =>
    let next := scriptParserFetchSubkeyNext image base powerSupplyHd (fun _ => 0) powerVoltage
      powerIndex
    if next.1 = .ok then do
      let _ ← Program.send (supplyCall next.2.1 (scriptWord next.2.2.1 0))
      axpPowerSupplyLoop image base powerSupplyHd turns
        (Memory.setWord next.2.2.1 0 4 (voltageAndState (scriptWord next.2.2.1 0)).1.toNat)
        next.2.2.2
    else pure (some .success)

/-- Sets the supplies that the section names, one after the other. -/
def axpPowerSupplySetOutPut (parser : ScriptParser) (base : Nat) (stack : List U8)
    (powerVoltage : Buffer) (turns : Nat) : SupplyCaller (Option PowerTableStatus) :=
  let powerSupplyHd := parser.scriptParserFetchSubkeyStart base (some powerSply) stack
  match parser.scriptModBuf with
  | none => pure (some .loadError)
  | some image =>
    if powerSupplyHd = 0 then pure (some .loadError)
    else axpPowerSupplyLoop image base powerSupplyHd turns powerVoltage 0

/-! ### One turn -/

section Entry

variable (image : Buffer) (mainKey : Nat)

/-- The call that an entry asks for: its whole name, its voltage and whether it is on. -/
def entryCall (place : Nat) : SupplyByName :=
  let subKey := subKeyAt image mainKey place
  let value := (scriptWord image (subKeyOffset image subKey)).toInt
  let name := asciiChars 32 (Memory.drop image subKey)
  if 10000 < value then ⟨name, BitVec.ofInt 64 (value % 10000), 1⟩
  else ⟨name, BitVec.ofInt 64 value, 0⟩

/-- A key with one word and a name of 1 to 15 characters. -/
structure SupplyEntry (place : Nat) : Prop where
  type : valueType image (subKeyAt image mainKey place) = valueTypeSingleWord
  name : ∃ name : List U8, 0 ∉ name ∧ NameIs (Memory.drop image (subKeyAt image mainKey place)) name ∧
    1 ≤ name.length ∧ name.length ≤ 15

/-- The name of an entry is shorter than a pointer. -/
def ShortName (place : Nat) : Prop :=
  (asciiChars 32 (Memory.drop image (subKeyAt image mainKey place))).length < sizeofSubName

/-- A name that fits is copied whole. -/
theorem nameIs_asciiStrCpySFrom (memory : Buffer) {destMax : Nat} {source : Buffer}
    {name : List U8} (nameIs : NameIs source name) (noZero : 0 ∉ name)
    (short : name.length < destMax) : NameIs (asciiStrCpySFrom memory destMax source) name := by
  unfold asciiStrCpySFrom asciiStrCpyS
  rw [nameIs.chars noZero, List.take_of_length_le (Nat.le_of_lt short), if_pos short]
  refine ⟨fun index inside => ?_, ?_⟩
  · have byte := Memory.overwrite_inside memory 0 (name.length + 1)
      (fun index => name.getD index 0) index (by omega)
    rw [Nat.zero_add] at byte
    simpa [inside] using byte
  · have byte := Memory.overwrite_inside memory 0 (name.length + 1)
      (fun index => name.getD index 0) name.length (Nat.lt_succ_self _)
    rw [Nat.zero_add] at byte
    simpa using byte

/-- The name that is passed on is the whole one or none. -/
theorem chars_copied {source : Buffer} {name : List U8} (nameIs : NameIs source name)
    (noZero : 0 ∉ name) :
    asciiChars 16 (asciiStrCpySFrom (fun _ => 0) sizeofSubName source) =
      if name.length < sizeofSubName then name else [] := by
  have empty : NameIs (fun _ => (0 : U8)) [] := ⟨nofun, rfl⟩
  by_cases short : name.length < sizeofSubName
  · have copied := nameIs_asciiStrCpySFrom (fun _ => 0) nameIs noZero short
    rw [if_pos short, copied.chars noZero]
    unfold sizeofSubName at short
    exact List.take_of_length_le (by omega)
  · unfold asciiStrCpySFrom asciiStrCpyS
    rw [nameIs.chars noZero, List.length_take, if_neg (by omega), if_neg short]
    exact empty.chars List.not_mem_nil 16

/-- The voltage and the state are those that the value stands for. -/
theorem voltageAndState_eq (value : U32) :
    ((voltageAndState value).1.signExtend 64, (voltageAndState value).2) =
      if 10000 < value.toInt then (BitVec.ofInt 64 (value.toInt % 10000), (1 : Ulong))
      else (BitVec.ofInt 64 value.toInt, 0) := by
  have limit : (10000 : U32).toInt = 10000 := by decide
  unfold voltageAndState
  rw [BitVec.slt_eq_decide, limit]
  by_cases high : 10000 < value.toInt
  · have remainder : (value.srem 10000).toInt = value.toInt % 10000 := by
      rw [BitVec.toInt_srem, limit, Int.tmod_eq_emod_of_nonneg (by omega)]
    rw [if_pos (decide_eq_true high), if_pos high, ← remainder]
    rfl
  · rw [if_neg (by rw [decide_eq_true_eq]; exact high), if_neg high]
    rfl

instance (place : Nat) : Decidable (ShortName image mainKey place) :=
  inferInstanceAs (Decidable (_ < _))

/-- The call that an entry gets: what it asks for, with its name if that is short. -/
def passedCall (place : Nat) : SupplyByName :=
  { entryCall image mainKey place with
    voltageName :=
      if ShortName image mainKey place then (entryCall image mainKey place).voltageName else [] }

theorem entryCall_voltageName (place : Nat) : (entryCall image mainKey place).voltageName =
    asciiChars 32 (Memory.drop image (subKeyAt image mainKey place)) := by
  unfold entryCall
  dsimp only
  split <;> rfl

theorem passedCall_eq_iff {place : Nat} (entry : SupplyEntry image mainKey place) :
    passedCall image mainKey place = entryCall image mainKey place ↔
      ShortName image mainKey place := by
  obtain ⟨name, noZero, nameIs, named, fits⟩ := entry.name
  have whole : (entryCall image mainKey place).voltageName = name := by
    rw [entryCall_voltageName, nameIs.chars noZero, List.take_of_length_le (by omega)]
  unfold passedCall
  constructor
  · intro same
    by_contra long
    have none := congrArg SupplyByName.voltageName same
    rw [if_neg long, whole] at none
    obtain rfl : [] = name := none
    exact absurd named (by decide)
  · intro short
    rw [if_pos short]

/-- One turn makes the call that the entry gets. -/
theorem supplyCall_eq {place : Nat} (entry : SupplyEntry image mainKey place) (value : Buffer) :
    supplyCall (asciiStrCpySFrom (fun _ => 0) sizeofSubName
        (Memory.drop image (subKeyAt image mainKey place)))
      (scriptWord (value.overwrite 0 4
        (Memory.drop image (subKeyOffset image (subKeyAt image mainKey place)))) 0) =
      passedCall image mainKey place := by
  obtain ⟨name, noZero, nameIs, -, fits⟩ := entry.name
  have whole : asciiChars 32 (Memory.drop image (subKeyAt image mainKey place)) = name :=
    (nameIs.chars noZero 32).trans (List.take_of_length_le (by omega))
  have parts := voltageAndState_eq
    (scriptWord image (subKeyOffset image (subKeyAt image mainKey place)))
  have short : ShortName image mainKey place ↔ name.length < sizeofSubName := by
    unfold ShortName
    rw [whole]
  unfold supplyCall passedCall
  rw [scriptWord_copied, chars_copied nameIs noZero, entryCall_voltageName, whole,
    if_congr short rfl rfl]
  unfold entryCall
  split at parts
  · rename_i high
    obtain ⟨voltage, state⟩ := Prod.mk.inj parts
    rw [voltage, state]
    simp only [high, if_true]
  · rename_i low
    obtain ⟨voltage, state⟩ := Prod.mk.inj parts
    rw [voltage, state]
    simp only [low, if_false]

/-! ### The cursor at an entry and behind the last -/

variable {image mainKey}

theorem findValueKey_entry {index left : Nat} (entry : SupplyEntry image mainKey index) :
    findValueKey image mainKey index (left + 1) = some index := by
  unfold findValueKey
  rw [entry.type]
  rfl

section Cursor

variable {base : Nat} {hd : U32} (isSection : hd.toNat = base + mainKey) (noNull : hd ≠ 0)
include isSection noNull

theorem next_entry {index : Nat} (inside : index < mainKeyLenth image mainKey)
    (entry : SupplyEntry image mainKey index) (subName value : Buffer) :
    scriptParserFetchSubkeyNext image base hd subName value index =
      (.ok, asciiStrCpySFrom subName sizeofSubName
          (Memory.drop image (subKeyAt image mainKey index)),
        value.overwrite 0 4
          (Memory.drop image (subKeyOffset image (subKeyAt image mainKey index))), index + 1) := by
  have more : mainKeyLenth image mainKey - index =
      mainKeyLenth image mainKey - index - 1 + 1 := by omega
  unfold scriptParserFetchSubkeyNext
  rw [if_neg noNull, isSection, Nat.add_sub_cancel_left]
  dsimp only
  rw [more, findValueKey_entry entry]
  dsimp only
  rw [if_pos entry.type]

theorem next_end {index : Nat} (behind : mainKeyLenth image mainKey ≤ index)
    (subName value : Buffer) :
    scriptParserFetchSubkeyNext image base hd subName value index =
      (.keyNotFind, subName, value, index) := by
  unfold scriptParserFetchSubkeyNext
  rw [if_neg noNull, isSection, Nat.add_sub_cancel_left]
  dsimp only
  rw [Nat.sub_eq_zero_of_le behind]
  rfl

/-! ### The loop -/

variable {State : Type} (serve : SupplyByName → State → Ulong × State)

/-- From an index on the loop makes the calls of the entries left, and then it ends. -/
theorem axpPowerSupplyLoop_run (turns index : Nat)
    (enough : mainKeyLenth image mainKey - index < turns)
    (entries : ∀ place < mainKeyLenth image mainKey, SupplyEntry image mainKey place)
    (value : Buffer) (state : State) :
    (Program.exec serve (axpPowerSupplyLoop image base hd turns value index) state).1 =
        some .success ∧
      (Program.trace serve (axpPowerSupplyLoop image base hd turns value index) state).map
          Exchange.request =
        (List.range' index (mainKeyLenth image mainKey - index)).map
          (passedCall image mainKey) := by
  induction turns generalizing index value state with
  | zero => exact absurd enough (Nat.not_lt_zero _)
  | succ turns inductionHypothesis =>
    unfold axpPowerSupplyLoop
    by_cases inside : index < mainKeyLenth image mainKey
    · have more : mainKeyLenth image mainKey - index =
          mainKeyLenth image mainKey - (index + 1) + 1 := by omega
      rw [next_entry isSection noNull inside (entries index inside)]
      simp only [if_true, Program.exec_bind, Program.trace_bind, List.map_append]
      rw [supplyCall_eq image mainKey (entries index inside), more, List.range'_succ,
        List.map_cons]
      obtain ⟨ends, calls⟩ := inductionHypothesis (index + 1) (by omega)
        (Memory.setWord (value.overwrite 0 4
            (Memory.drop image (subKeyOffset image (subKeyAt image mainKey index)))) 0 4
          (voltageAndState (scriptWord (value.overwrite 0 4
            (Memory.drop image (subKeyOffset image (subKeyAt image mainKey index)))) 0)).1.toNat)
        (serve (passedCall image mainKey index) state).2
      exact ⟨ends, congrArg (List.cons _) calls⟩
    · rw [next_end isSection noNull (by omega), Nat.sub_eq_zero_of_le (by omega)]
      exact ⟨rfl, rfl⟩

end Cursor

end Entry

/-! ### The whole table -/

theorem findSection_first {image : Buffer} {mainName : List U8} {found index left : Nat}
    (reached : index ≤ found) (room : found < index + left)
    (named : SectionIs image mainName found)
    (earlier : ∀ other < found, ¬ SectionIs image mainName other) :
    findSection image mainName index left = some found := by
  induction left generalizing index with
  | zero => omega
  | succ left inductionHypothesis =>
    unfold findSection
    by_cases here : index = found
    · subst here
      rw [if_pos ((asciiStrEq_iff _ _).mpr named)]
    · rw [if_neg fun same => earlier index (by omega) ((asciiStrEq_iff _ _).mp same)]
      exact inductionHypothesis (by omega) (by omega)

/-- The end of the memory of the board, `PcdSystemMemoryBase` and `PcdSystemMemorySize` -/
def systemMemoryEnd : Nat := 0x41000000 + 0x3df80000

section Table

variable (image : Buffer) (base : Nat) (stack : List U8) (powerVoltage : Buffer) {mainKey : Nat}

/-- The handle is the address of the section, which fits 32 bits on the board. -/
theorem powerSupplyHd_eq {index : Nat} (first : FirstNamed image powerSply index)
    (inMemory : base + mainKeyAt index < systemMemoryEnd) :
    ((scriptParser image).scriptParserFetchSubkeyStart base (some powerSply) stack).toNat =
      base + mainKeyAt index := by
  have whole : patchName powerSply stack = powerSply := by
    unfold patchName
    rw [if_neg (by decide)]
  have counted : 0 < sectionCount image := Nat.zero_lt_of_lt first.1
  have sections : ¬ (scriptWord image 0).toInt ≤ 0 := by
    unfold sectionCount at counted
    omega
  have room : index < 0 + sectionCount image := by rw [Nat.zero_add]; exact first.1
  have found : findSection image powerSply 0 (sectionCount image) = some index :=
    findSection_first (Nat.zero_le _) room first.2.1 first.2.2
  unfold sectionCount at found
  unfold systemMemoryEnd at inMemory
  unfold ScriptParser.scriptParserFetchSubkeyStart ScriptParser.sections scriptParser
  dsimp only
  rw [if_neg sections, whole, found]
  exact Nat.mod_eq_of_lt (by omega)

variable {State : Type} (serve : SupplyByName → State → Ulong × State) (state : State)

/-- The loop over the table ends, and the calls were those that the entries ask for. -/
def SuppliesApplied (index : Nat) : Prop :=
  ∃ enough, ∀ turns, enough ≤ turns →
    let program := axpPowerSupplySetOutPut (scriptParser image) base stack powerVoltage turns
    (Program.exec serve program state).1 = some .success ∧
      (Program.trace serve program state).map Exchange.request =
        (List.range (mainKeyLenth image (mainKeyAt index))).map (entryCall image (mainKeyAt index))

/-- It ends in any case, after the calls that the entries get. -/
theorem axpPowerSupplySetOutPut_run {index : Nat} (turns : Nat)
    (first : FirstNamed image powerSply index)
    (inMemory : base + mainKeyAt index < systemMemoryEnd)
    (entries : ∀ place < mainKeyLenth image (mainKeyAt index),
      SupplyEntry image (mainKeyAt index) place)
    (enough : mainKeyLenth image (mainKeyAt index) < turns) :
    let program := axpPowerSupplySetOutPut (scriptParser image) base stack powerVoltage turns
    (Program.exec serve program state).1 = some .success ∧
      (Program.trace serve program state).map Exchange.request =
        (List.range (mainKeyLenth image (mainKeyAt index))).map
          (passedCall image (mainKeyAt index)) := by
  have isSection := powerSupplyHd_eq image base stack first inMemory
  have noNull : (scriptParser image).scriptParserFetchSubkeyStart base (some powerSply) stack ≠ 0 := by
    intro null
    rw [null] at isSection
    have head : 16 ≤ mainKeyAt index := Nat.le_add_right _ _
    exact absurd isSection (by rw [show (0 : U32).toNat = 0 from rfl]; omega)
  have run := axpPowerSupplyLoop_run isSection noNull serve turns 0
    (by omega) entries powerVoltage state
  rw [Nat.sub_zero, ← List.range_eq_range'] at run
  unfold axpPowerSupplySetOutPut
  dsimp only
  rw [show (scriptParser image).scriptModBuf = some image from rfl]
  dsimp only
  rw [if_neg noNull]
  exact run

/-- The table is applied as it stands exactly if each name in it is shorter than a pointer. -/
theorem supplies_applied_iff {index : Nat} (first : FirstNamed image powerSply index)
    (inMemory : base + mainKeyAt index < systemMemoryEnd)
    (entries : ∀ place < mainKeyLenth image (mainKeyAt index),
      SupplyEntry image (mainKeyAt index) place) :
    SuppliesApplied image base stack powerVoltage serve state index ↔
      ∀ place < mainKeyLenth image (mainKeyAt index), ShortName image (mainKeyAt index) place := by
  have run := fun turns enough => axpPowerSupplySetOutPut_run image base stack powerVoltage serve
    state turns first inMemory entries enough
  constructor
  · rintro ⟨enough, applied⟩ place inside
    have calls := (applied (enough + mainKeyLenth image (mainKeyAt index) + 1) (by omega)).2
    rw [(run (enough + mainKeyLenth image (mainKeyAt index) + 1) (by omega)).2,
      List.map_inj_left] at calls
    exact (passedCall_eq_iff image _ (entries place inside)).mp
      (calls place (List.mem_range.mpr inside))
  · intro short
    refine ⟨mainKeyLenth image (mainKeyAt index) + 1, fun turns enough => ?_⟩
    obtain ⟨ends, calls⟩ := run turns (by omega)
    refine ⟨ends, calls.trans (List.map_inj_left.mpr fun place member => ?_)⟩
    have inside := List.mem_range.mp member
    exact (passedCall_eq_iff image _ (entries place inside)).mpr (short place inside)

end Table

/-! ### Tables of one and two supplies -/

/-- An image with one supply, which is on at 3.3 V. -/
def supplyScript (name : List U8) : Buffer :=
  let image := Memory.setWord (fun _ => 0) 0 4 1
  let image := Memory.overwrite image 16 powerSply.length fun index => powerSply.getD index 0
  let image := Memory.setWord image 48 4 1
  let image := Memory.setWord image 52 4 14
  let image := Memory.overwrite image 56 name.length fun index => name.getD index 0
  let image := Memory.setWord image 88 4 24
  let image := Memory.setWord image 92 4 0x10001
  Memory.setWord image 96 4 13300

/-- "dcdc1" -/
def dcdc1Name : List U8 := [0x64, 0x63, 0x64, 0x63, 0x31]

/-- "aldo2" -/
def aldo2Name : List U8 := [0x61, 0x6c, 0x64, 0x6f, 0x32]

/-- "gpio0ldo" -/
def gpio0ldoName : List U8 := [0x67, 0x70, 0x69, 0x6f, 0x30, 0x6c, 0x64, 0x6f]

/-- An image with two supplies, dcdc1 on at 3.3 V and aldo2 off at 1.8 V -/
def twoSuppliesScript : Buffer :=
  let image := Memory.setWord (fun _ => 0) 0 4 1
  let image := Memory.overwrite image 16 powerSply.length fun index => powerSply.getD index 0
  let image := Memory.setWord image 48 4 2
  let image := Memory.setWord image 52 4 14
  let image := Memory.overwrite image 56 dcdc1Name.length fun index => dcdc1Name.getD index 0
  let image := Memory.setWord image 88 4 34
  let image := Memory.setWord image 92 4 0x10001
  let image := Memory.overwrite image 96 aldo2Name.length fun index => aldo2Name.getD index 0
  let image := Memory.setWord image 128 4 35
  let image := Memory.setWord image 132 4 0x10001
  let image := Memory.setWord image 136 4 13300
  Memory.setWord image 140 4 1800

section Samples

variable {image : Buffer}

theorem firstNamed_of_single (counted : sectionCount image = 1)
    (named : asciiStrEq powerSply (Memory.drop image (mainKeyAt 0)) = true) :
    FirstNamed image powerSply 0 :=
  ⟨by omega, (asciiStrEq_iff _ _).mp named, fun earlier before => by omega⟩

theorem supplyEntry_of_name {place : Nat} {name : List U8} (noZero : 0 ∉ name)
    (named : 1 ≤ name.length) (fits : name.length ≤ 15)
    (type : valueType image (subKeyAt image (mainKeyAt 0) place) = valueTypeSingleWord)
    (same : asciiStrEq name (Memory.drop image (subKeyAt image (mainKeyAt 0) place)) = true) :
    SupplyEntry image (mainKeyAt 0) place :=
  ⟨type, name, noZero, (asciiStrEq_iff _ _).mp same, named, fits⟩

end Samples

/-- The supplies dcdc1 and aldo2 are set to what the table says, in this order. -/
theorem supplies_applied_iff_twoSupplies :
    SuppliesApplied twoSuppliesScript 0x42000000 [] (fun _ => 0)
      (fun _ state => ((0 : Ulong), state)) () 0 := by
  have length : mainKeyLenth twoSuppliesScript (mainKeyAt 0) = 2 := by decide +kernel
  refine (supplies_applied_iff twoSuppliesScript 0x42000000 [] (fun _ => 0)
    (fun _ state => ((0 : Ulong), state)) ()
    (firstNamed_of_single (by decide +kernel) (by decide +kernel)) (by decide)
    fun place inside => ?_).mpr fun place inside => ?_
  · rw [length] at inside
    obtain rfl | rfl : place = 0 ∨ place = 1 := by omega
    · exact @supplyEntry_of_name _ _ dcdc1Name (by decide) (by decide) (by decide)
        (by decide +kernel) (by decide +kernel)
    · exact @supplyEntry_of_name _ _ aldo2Name (by decide) (by decide) (by decide)
        (by decide +kernel) (by decide +kernel)
  · rw [length] at inside
    obtain rfl | rfl : place = 0 ∨ place = 1 := by omega
    · decide +kernel
    · decide +kernel

/-- The supply gpio0ldo is called for under no name. -/
theorem supplies_not_applied :
    ¬ ∀ image base stack powerVoltage (index : Nat), ScriptWellFormed image →
      FirstNamed image powerSply index →
      base + mainKeyAt index < systemMemoryEnd →
      (∀ place < mainKeyLenth image (mainKeyAt index),
        SupplyEntry image (mainKeyAt index) place) →
      SuppliesApplied image base stack powerVoltage (fun _ (state : Unit) => ((0 : Ulong), state))
        () index := by
  intro claim
  have length : mainKeyLenth (supplyScript gpio0ldoName) (mainKeyAt 0) = 1 := by decide +kernel
  have first : FirstNamed (supplyScript gpio0ldoName) powerSply 0 :=
    firstNamed_of_single (by decide +kernel) (by decide +kernel)
  have entries : ∀ place < mainKeyLenth (supplyScript gpio0ldoName) (mainKeyAt 0),
      SupplyEntry (supplyScript gpio0ldoName) (mainKeyAt 0) place := by
    intro place inside
    obtain rfl : place = 0 := by omega
    exact @supplyEntry_of_name _ _ gpio0ldoName (by decide) (by decide) (by decide)
      (by decide +kernel) (by decide +kernel)
  have wellFormed : ScriptWellFormed (supplyScript gpio0ldoName) :=
    oneKey_wellFormed (by decide +kernel) length (by decide +kernel)
      ⟨10, by decide, by decide +kernel⟩ ⟨8, by decide, by decide +kernel⟩ (by decide +kernel)
  obtain ⟨enough, applied⟩ := claim _ 0x42000000 [] (fun _ => 0) 0 wellFormed first (by decide)
    entries
  have calls := (applied (enough + 2) (by omega)).2
  rw [(axpPowerSupplySetOutPut_run _ 0x42000000 [] (fun _ => 0) _ () (enough + 2) first
    (by decide) entries (by omega)).2, length] at calls
  exact absurd calls (by decide +kernel)

end PinePhonePkg
