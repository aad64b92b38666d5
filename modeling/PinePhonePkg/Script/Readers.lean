/-
This file models the other readers of a script image: the two that search the
image itself, and the fetch that tells the type of the value as well.
-/

import PinePhonePkg.Script.RoundTrip

namespace PinePhonePkg

open Library

/-! ### Reading the image itself -/

section Image

variable (image : Buffer) (mainName subName : List U8)

/-- The loop of `sw_cfg_get_subkey`, with the turns that are left. It goes on to the next section
only past one of another name; a section that has the name and not the key is searched again. -/
def swFindMainKey : Nat → Nat → Option Nat
  | _, 0 => none
  | index, left + 1 =>
    if asciiStrEq mainName (Memory.drop image (mainKeyAt index)) then
      match findSubKey image subName (fun _ => true) (mainKeyAt index) 0
          (mainKeyLenth image (mainKeyAt index)) with
      | some subKey => some subKey
      | none => swFindMainKey index left
    else swFindMainKey (index + 1) left

/-- The place of a key, by its section and its name -/
def swCfgGetSubkey : Option Nat :=
  swFindMainKey image mainName subName 0 (sectionCount image)

/-- A key that is missing and one of another type both give -1. -/
def swCfgGetInt : U32 :=
  match swCfgGetSubkey image mainName subName with
  | none => -1
  | some subKey =>
    if valueType image subKey = valueTypeSingleWord then scriptWord image (subKeyOffset image subKey)
    else -1

/-- The buffer that is returned. The words of the value are taken for bytes. -/
def swCfgGetStr (buf : Buffer) : Option Buffer :=
  match swCfgGetSubkey image mainName subName with
  | none => none
  | some subKey =>
    if valueType image subKey = valueTypeString then
      some (buf.overwrite 0 (wordCount image subKey).toNat
        (Memory.drop image (subKeyOffset image subKey)))
    else none

end Image

/-! ### Fetching with the type -/

/-- The value of a key is copied, and its type is set. -/
def fetchValueEx (image : Buffer) (subKey : Nat) (subName : List U8) (value : Buffer) (type : Nat)
    (count : U32) : ScriptStatus × Buffer × Nat :=
  match valueType image subKey with
  | valueTypeSingleWord =>
    (.ok, value.overwrite 0 4 (Memory.drop image (subKeyOffset image subKey)), valueTypeSingleWord)
  | valueTypeString =>
    let words := if count.slt (wordCount image subKey) then count else wordCount image subKey
    (.ok, value.overwrite 0 ((words <<< 2).signExtend 64).toNat
      (Memory.drop image (subKeyOffset image subKey)), valueTypeString)
  | valueTypeMultiWord => (.ok, value, valueTypeMultiWord)
  | valueTypeGpioWord =>
    if ((count <<< 2).signExtend 64).toNat < sizeofScriptGpioSet then
      (.bufferNotEnough, value, type)
    else (.ok, (asciiStrCpyS value 32 subName).overwrite 32 (sizeofScriptGpioSet - 32)
      (Memory.drop image (subKeyOffset image subKey)), valueTypeGpioWord)
  | _ => (.ok, value, type)

/-- `script_parser_fetch_ex`: the status, and the value and the type afterwards. -/
def ScriptParser.scriptParserFetchEx (parser : ScriptParser) (mainName subName : Option (List U8))
    (value : Option Buffer) (type : Nat) (count : U32) : ScriptStatus × Option Buffer × Nat :=
  match parser.scriptModBuf with
  | none => (.emptyBuffer, value, type)
  | some image =>
    if parser.scriptMainKeyCount.toInt ≤ 0 then (.emptyBuffer, value, type)
    else
      match mainName, subName, value with
      | some mainName, some subName, some buffer =>
        match findMainKey image (fetchName subName) (fun _ => true) (fetchName mainName) 0
            parser.sections with
        | none => (.keyNotFind, value, type)
        | some subKey =>
          let result := fetchValueEx image subKey (fetchName subName) buffer type count
          (result.1, some result.2.1, result.2.2)
      | some _, some _, none => (.dataValueNull, value, type)
      | _, _, _ => (.keynameNull, value, type)

end PinePhonePkg
