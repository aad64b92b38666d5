/-
This file models the script image, a table of sections with keys and their
values, and the functions that fetch the value of a key and patch it. Addresses
count from the start of the image.
-/

import PinePhonePkg.Library.Strings
import PinePhonePkg.Library.Words
import PinePhonePkg.Mmc.Types

namespace PinePhonePkg

open Library

/-! ### The image -/

/-- The statuses of the parser -/
inductive ScriptStatus : Type where
  | ok
  | emptyBuffer
  | keynameNull
  | dataValueNull
  | keyNotFind
  | bufferNotEnough
deriving DecidableEq

/-- `script_parser_value_type_t` -/
@[match_pattern] abbrev valueTypeSingleWord : Nat := 1

/-- The types of values -/
@[match_pattern] abbrev valueTypeString : Nat := 2
@[match_pattern] abbrev valueTypeMultiWord : Nat := 3
@[match_pattern] abbrev valueTypeGpioWord : Nat := 4
@[match_pattern] abbrev valueTypeDataEmpty : Nat := 5

/-- `script_mod_buf` and `script_main_key_count` -/
structure ScriptParser : Type where
  scriptModBuf : Option Buffer
  scriptMainKeyCount : U32

/-- A word of the image -/
def scriptWord (image : Buffer) (address : Nat) : U32 :=
  BitVec.ofNat 32 (Memory.word image address 4)

/-- An offset counts words; the shift has 32 bits with a sign. -/
def scriptAddress (offset : U32) : Nat := ((offset <<< 2).signExtend 64).toNat

section Image

variable (image : Buffer)

/-- `script_main_key_t`, behind the head of the image -/
def mainKeyAt (index : Nat) : Nat := 16 + index * 40

/-- `lenth`, which has a sign. -/
def mainKeyLenth (mainKey : Nat) : Nat := (scriptWord image (mainKey + 32)).toInt.toNat

/-- Where the keys of a section are -/
def mainKeyOffset (mainKey : Nat) : Nat := scriptAddress (scriptWord image (mainKey + 36))

/-- `script_sub_key_t` -/
def subKeyAt (mainKey index : Nat) : Nat := mainKeyOffset image mainKey + index * 40

/-- Where the value of a key is -/
def subKeyOffset (subKey : Nat) : Nat := scriptAddress (scriptWord image (subKey + 32))

/-- The type and the length of a value -/
def subKeyPattern (subKey : Nat) : U32 := scriptWord image (subKey + 36)

/-- The type of a value. -/
def valueType (subKey : Nat) : Nat := (subKeyPattern image subKey >>> 16 &&& 0xffff).toNat

/-- The words of a value. -/
def wordCount (subKey : Nat) : U32 := subKeyPattern image subKey &&& 0xffff

end Image

/-! ### Names -/

/-- The loop of `_test_str_length`, after `length` characters. -/
def testStrLengthFrom : Nat → List U8 → Nat
  | length, [] => length + 1
  | length, _ :: rest => if 32 < length + 1 then 32 else testStrLengthFrom (length + 1) rest

/-- `_test_str_length` -/
def testStrLength (str : List U8) : Nat := testStrLengthFrom 0 str

/-- The name that is fetched: the copy of a long one is terminated. -/
def fetchName (name : List U8) : List U8 :=
  if 31 < testStrLength name then name.take 31 else name

/-- The name that is patched: the buffer for a long one is not cleared, since the length and the
value that it is set to are the wrong way round, so what is on the stack comes behind the copy. -/
def patchName (name stack : List U8) : List U8 :=
  if 31 < testStrLength name then name.take 31 ++ stack else name

/-! ### Searching a key -/

section Search

variable (image : Buffer) (subName : List U8) (accepts : Nat → Bool)

/-- The first key from `index` on with the name and a type that is accepted. -/
def findSubKey (mainKey : Nat) : Nat → Nat → Option Nat
  | _, 0 => none
  | index, left + 1 =>
    if asciiStrEq subName (Memory.drop image (subKeyAt image mainKey index)) &&
        accepts (valueType image (subKeyAt image mainKey index)) then
      some (subKeyAt image mainKey index)
    else findSubKey mainKey (index + 1) left

/-- A section that has the name but not the key is passed over. -/
def findMainKey (mainName : List U8) : Nat → Nat → Option Nat
  | _, 0 => none
  | index, left + 1 =>
    if asciiStrEq mainName (Memory.drop image (mainKeyAt index)) then
      match findSubKey image subName accepts (mainKeyAt index) 0
          (mainKeyLenth image (mainKeyAt index)) with
      | some subKey => some subKey
      | none => findMainKey mainName (index + 1) left
    else findMainKey mainName (index + 1) left

end Search

/-! ### Fetching and patching -/

/-- edk2's `SetMem`, which takes the length before the value. -/
def setMem (memory : Buffer) (address length value : Nat) : Buffer :=
  memory.overwrite address length fun _ => BitVec.ofNat 8 value

/-- edk2's `AsciiStrCpyS` -/
def asciiStrCpyS (memory : Buffer) (destMax : Nat) (source : List U8) : Buffer :=
  if source.length < destMax then
    memory.overwrite 0 (source.length + 1) fun index => source.getD index 0
  else memory

/-- `sizeof(script_gpio_set_t)` -/
def sizeofScriptGpioSet : Nat := 56

/-- The value of a key is copied; the name of a pin is that of the key. -/
def fetchValue (image : Buffer) (subKey : Nat) (subName : List U8) (value : Buffer)
    (count : U32) : ScriptStatus × Buffer :=
  match valueType image subKey with
  | valueTypeSingleWord =>
    (.ok, value.overwrite 0 4 (Memory.drop image (subKeyOffset image subKey)))
  | valueTypeString =>
    let words := if count.slt (wordCount image subKey) then count else wordCount image subKey
    (.ok, value.overwrite 0 ((words <<< 2).signExtend 64).toNat
      (Memory.drop image (subKeyOffset image subKey)))
  | valueTypeGpioWord =>
    if ((count <<< 2).signExtend 64).toNat < sizeofScriptGpioSet then (.bufferNotEnough, value)
    else (.ok, (asciiStrCpyS value 32 subName).overwrite 32 (sizeofScriptGpioSet - 32)
      (Memory.drop image (subKeyOffset image subKey)))
  | valueTypeDataEmpty => (.dataValueNull, value)
  | _ => (.ok, value)

/-- The types of the values that can be patched. -/
def patchable : Nat → Bool
  | valueTypeSingleWord => true
  | valueTypeGpioWord => true
  | valueTypeString => true
  | _ => false

/-- The value of a key is replaced. The old value should be cleared first, but the length and
the value are the wrong way round here too. -/
def patchValue (image : Buffer) (subKey : Nat) (str : Buffer) (strSize : U32) : Buffer :=
  let offset := subKeyOffset image subKey
  match valueType image subKey with
  | valueTypeSingleWord => image.overwrite offset 4 str
  | valueTypeGpioWord => (setMem image offset 0 24).overwrite offset 24 (Memory.drop str 32)
  | valueTypeString =>
    let words := if (wordCount image subKey).slt strSize then wordCount image subKey else strSize
    (setMem image offset 0 ((wordCount image subKey <<< 2).signExtend 64).toNat).overwrite offset
      ((words <<< 2).signExtend 64).toNat str
  | _ => image

namespace ScriptParser

variable (parser : ScriptParser)

/-- `script_parser_init` -/
def scriptParserInit : Option Buffer → ScriptStatus × ScriptParser
  | some scriptBuf => (.ok, ⟨some scriptBuf, scriptWord scriptBuf 0⟩)
  | none => (.emptyBuffer, parser)

/-- The number of sections that the loops go through. -/
def sections : Nat := parser.scriptMainKeyCount.toInt.toNat

/-- `script_parser_fetch`: the status, and the value afterwards. -/
def scriptParserFetch (mainName subName : Option (List U8)) (value : Option Buffer)
    (count : U32) : ScriptStatus × Option Buffer :=
  match parser.scriptModBuf with
  | none => (.emptyBuffer, value)
  | some image =>
    if parser.scriptMainKeyCount.toInt ≤ 0 then (.emptyBuffer, value)
    else
      match mainName, subName, value with
      | some mainName, some subName, some buffer =>
        match findMainKey image (fetchName subName) (fun _ => true) (fetchName mainName) 0
            parser.sections with
        | none => (.keyNotFind, value)
        | some subKey =>
          let result := fetchValue image subKey (fetchName subName) buffer count
          (result.1, some result.2)
      | some _, some _, none => (.dataValueNull, value)
      | _, _, _ => (.keynameNull, value)

/-- `script_parser_patch`, with what is on the stack behind the copies of long names. -/
def scriptParserPatch (mainName subName : Option (List U8)) (mainStack subStack : List U8)
    (str : Option Buffer) (strSize : U32) : ScriptStatus × ScriptParser :=
  match parser.scriptModBuf with
  | none => (.emptyBuffer, parser)
  | some image =>
    match mainName, subName, str with
    | some mainName, some subName, some str =>
      match findMainKey image (patchName subName subStack) patchable
          (patchName mainName mainStack) 0 parser.sections with
      | none => (.keyNotFind, parser)
      | some subKey =>
        (.ok, { parser with scriptModBuf := some (patchValue image subKey str strSize) })
    | some _, some _, none => (.dataValueNull, parser)
    | _, _, _ => (.keynameNull, parser)

end ScriptParser

end PinePhonePkg
