/-
This file models how a supply is found by its index or by its name. Functions of
the driver that return an int cut a status to 32 bits.
-/

import PinePhonePkg.Power.Supply

namespace PinePhonePkg

open Library

/-! ### Integers of the driver -/

/-- A word as an int -/
def toInt32 (word : Ulong) : Int := (word.setWidth 32).toInt

/-- A status that a function returns as an int, and its caller as a status again. -/
def throughInt (status : Ulong) : Ulong := (status.setWidth 32).signExtend 64

/-! ### By number -/

/-- Sets the DCDC supply of a number. -/
def axp81XSetDcdcOutput (spplyIndex volValue onoff : Int) : Pmu Ulong :=
  match spplyIndex with
  | 1 => axp81XSetDcdc1 volValue onoff
  | 2 => axp81XSetDcdc2 volValue onoff
  | 3 => axp81XSetDcdc3 volValue onoff
  | 4 => axp81XSetDcdc4 volValue onoff
  | 5 => axp81XSetDcdc5 volValue onoff
  | 6 => axp81XSetDcdc6 volValue onoff
  | _ => pure efiUnsupported

/-- Sets the ALDO supply of a number. -/
def axp81XSetAldoOutput (spplyIndex volValue onoff : Int) : Pmu Ulong :=
  match spplyIndex with
  | 1 => axp81XSetAldo1 volValue onoff
  | 2 => axp81XSetAldo2 volValue onoff
  | 3 => axp81XSetAldo3 volValue onoff
  | _ => pure efiUnsupported

/-- Sets the DLDO supply of a number. -/
def axp81XSetDldoOutput (spplyIndex volValue onoff : Int) : Pmu Ulong :=
  match spplyIndex with
  | 1 => axp81XSetDldo1 volValue onoff
  | 2 => axp81XSetDldo2 volValue onoff
  | 3 => axp81XSetDldo3 volValue onoff
  | 4 => axp81XSetDldo4 volValue onoff
  | _ => pure efiUnsupported

/-- Sets the ELDO supply of a number. -/
def axp81XSetEldoOutput (spplyIndex volValue onoff : Int) : Pmu Ulong :=
  match spplyIndex with
  | 1 => axp81XSetEldo1 volValue onoff
  | 2 => axp81XSetEldo2 volValue onoff
  | 3 => axp81XSetEldo3 volValue onoff
  | _ => pure efiUnsupported

/-- Sets the FLDO supply of a number; the status goes through an `INT32`. -/
def axp81XSetFldoOutput (spplyIndex volValue onoff : Int) : Pmu Ulong :=
  throughInt <$>
    match spplyIndex with
    | 1 => axp81XSetFldo1 volValue onoff
    | 2 => axp81XSetFldo2 volValue onoff
    | _ => pure minusOne

/-- Sets the supply at the pin of a number. -/
def axp81XSetGpioldoOutput (spplyIndex volValue onoff : Int) : Pmu Ulong :=
  throughInt <$>
    match spplyIndex with
    | 0 => axp81XSetGpio0ldo volValue onoff
    | 1 => axp81XSetGpio1ldo volValue onoff
    | _ => pure minusOne

/-- Sets the level of the pin of a number. -/
def axp81XSetGpioOutput (spplyIndex level : Int) : Pmu Ulong :=
  throughInt <$>
    match spplyIndex with
    | 0 => axp81XSetGpio0 level
    | 1 => axp81XSetGpio1 level
    | _ => pure minusOne

/-- The numbers of the supplies that belong to no group -/
@[match_pattern] abbrev pmuSupplyDc5ldo : Int := 0x00080001
@[match_pattern] abbrev pmuSupplyDc1sw : Int := 0x00080002
@[match_pattern] abbrev pmuSupplyVbusen : Int := 0x00080003

/-- Switches one of the others, which have no voltage to set. -/
def axp81XSetMiscOutput (spplyIndex _volValue onoff : Int) : Pmu Ulong :=
  match spplyIndex with
  | pmuSupplyDc5ldo => axp81XSetDc5ldo onoff
  | pmuSupplyDc1sw => axp81XSetDc1sw onoff
  | pmuSupplyVbusen => axp81XSetVbusen onoff
  | _ => pure efiUnsupported

/-- The types of supplies in an index -/
@[match_pattern] abbrev pmuSupplyDcdcType : Int := 0x00010000
@[match_pattern] abbrev pmuSupplyAldoType : Int := 0x00020000
@[match_pattern] abbrev pmuSupplyDldoType : Int := 0x00050000
@[match_pattern] abbrev pmuSupplyEldoType : Int := 0x00060000
@[match_pattern] abbrev pmuSupplyGpioldoType : Int := 0x00070000
@[match_pattern] abbrev pmuSupplyMiscType : Int := 0x00080000
@[match_pattern] abbrev pmuSupplyGpioType : Int := 0x00090000

/-- Sets the supply of an index, by its type. -/
def axp81XSetSupplyStatus (voltageIndex voltage onOff : Ulong) : Pmu Ulong :=
  let supplyType := toInt32 (voltageIndex &&& 0xffff0000)
  let spplyIndex := toInt32 (voltageIndex &&& 0x0000ffff)
  match supplyType with
  | pmuSupplyDcdcType => axp81XSetDcdcOutput spplyIndex (toInt32 voltage) (toInt32 onOff)
  | pmuSupplyAldoType => axp81XSetAldoOutput spplyIndex (toInt32 voltage) (toInt32 onOff)
  | pmuSupplyEldoType => axp81XSetEldoOutput spplyIndex (toInt32 voltage) (toInt32 onOff)
  | pmuSupplyDldoType => axp81XSetDldoOutput spplyIndex (toInt32 voltage) (toInt32 onOff)
  | pmuSupplyGpioldoType => axp81XSetGpioldoOutput spplyIndex (toInt32 voltage) (toInt32 onOff)
  | pmuSupplyMiscType =>
    axp81XSetMiscOutput (toInt32 voltageIndex) (toInt32 voltage) (toInt32 onOff)
  | pmuSupplyGpioType => axp81XSetGpioOutput spplyIndex (toInt32 onOff)
  | _ => pure efiUnsupported

/-! ### By name -/

/-- edk2's `AsciiStrDecimalToUintn` behind the blanks and zeros at the start -/
def decimalFrom (value : Nat) : List U8 → Ulong
  | [] => BitVec.ofNat 64 value
  | char :: rest =>
    if 0x30 ≤ char ∧ char ≤ 0x39 then
      if (2 ^ 64 - 1 - (char.toNat - 0x30)) / 10 < value then BitVec.allOnes 64
      else decimalFrom (value * 10 + (char.toNat - 0x30)) rest
    else BitVec.ofNat 64 value

/-- The decimal number at the start of a string, after blanks and zeros -/
def asciiStrDecimalToUintn (string : List U8) : Ulong :=
  decimalFrom 0 ((string.dropWhile fun char => char = 0x20 ∨ char = 0x09).dropWhile (· = 0x30))

/-- "dcdc" -/
def dcdcPrefix : List U8 := [0x64, 0x63, 0x64, 0x63]
/-- "aldo" -/
def aldoPrefix : List U8 := [0x61, 0x6c, 0x64, 0x6f]
/-- "eldo" -/
def eldoPrefix : List U8 := [0x65, 0x6c, 0x64, 0x6f]
/-- "fldo" -/
def fldoPrefix : List U8 := [0x66, 0x6c, 0x64, 0x6f]
/-- "dldo" -/
def dldoPrefix : List U8 := [0x64, 0x6c, 0x64, 0x6f]
/-- "gpio" -/
def gpioPrefix : List U8 := [0x67, 0x70, 0x69, 0x6f]
/-- "dc5ldo" -/
def dc5ldoPrefix : List U8 := [0x64, 0x63, 0x35, 0x6c, 0x64, 0x6f]
/-- "dc1sw" -/
def dc1swPrefix : List U8 := [0x64, 0x63, 0x31, 0x73, 0x77]
/-- "power" -/
def powerPrefix : List U8 := [0x70, 0x6f, 0x77, 0x65, 0x72]

/-- The number that follows the first characters of a name. -/
def numberBehind (name : List U8) (length : Nat) : Int :=
  toInt32 (asciiStrDecimalToUintn (name.drop length))

/-- `Axp81XSetSupplyStatusByName`; a comparison of the first characters is one with a prefix. -/
def axp81XSetSupplyStatusByName (voltageName : List U8) (voltage onOff : Ulong) : Pmu Ulong :=
  if dcdcPrefix.isPrefixOf voltageName then
    axp81XSetDcdcOutput (numberBehind voltageName 4) (toInt32 voltage) (toInt32 onOff)
  else if aldoPrefix.isPrefixOf voltageName then
    axp81XSetAldoOutput (numberBehind voltageName 4) (toInt32 voltage) (toInt32 onOff)
  else if eldoPrefix.isPrefixOf voltageName then
    axp81XSetEldoOutput (numberBehind voltageName 4) (toInt32 voltage) (toInt32 onOff)
  else if fldoPrefix.isPrefixOf voltageName then
    axp81XSetFldoOutput (numberBehind voltageName 4) (toInt32 voltage) (toInt32 onOff)
  else if dldoPrefix.isPrefixOf voltageName then
    axp81XSetDldoOutput (numberBehind voltageName 4) (toInt32 voltage) (toInt32 onOff)
  else if gpioPrefix.isPrefixOf voltageName then
    axp81XSetGpioldoOutput (numberBehind voltageName 4) (toInt32 voltage) (toInt32 onOff)
  else if dc5ldoPrefix.isPrefixOf voltageName then axp81XSetDc5ldo (toInt32 onOff)
  else if dc1swPrefix.isPrefixOf voltageName then axp81XSetDc1sw (toInt32 onOff)
  else if powerPrefix.isPrefixOf voltageName then
    axp81XSetGpioOutput (numberBehind voltageName 5) (toInt32 onOff)
  else pure efiUnsupported

/-! ### Probing by name -/

/-- `Axp81XProbeSupplyStatus`, which leaves both values as they were. -/
def axp81XProbeSupplyStatus (_voltageIndex voltage onOff : Ulong) : Pmu (Ulong × Ulong × Ulong) :=
  pure (efiUnsupported, voltage, onOff)

/-- Probes the DCDC supply of a number. -/
def axp81XProbeDcdcOutput (spplyIndex : Int) : Pmu Ulong :=
  match spplyIndex with
  | 1 => axp81XProbeDcdc1
  | 2 => axp81XProbeDcdc2
  | 3 => axp81XProbeDcdc3
  | 4 => axp81XProbeDcdc4
  | 5 => axp81XProbeDcdc5
  | 6 => axp81XProbeDcdc6
  | _ => pure efiUnsupported

/-- Probes the ALDO supply of a number. -/
def axp81XProbeAldoOutput (spplyIndex : Int) : Pmu Ulong :=
  match spplyIndex with
  | 1 => axp81XProbeAldo1
  | 2 => axp81XProbeAldo2
  | 3 => axp81XProbeAldo3
  | _ => pure efiUnsupported

/-- Probes the DLDO supply of a number; the status goes through an `INT32`. -/
def axp81XProbeDldoOutput (spplyIndex : Int) : Pmu Ulong :=
  throughInt <$>
    match spplyIndex with
    | 1 => axp81XProbeDldo1
    | 2 => axp81XProbeDldo2
    | 3 => axp81XProbeDldo3
    | 4 => axp81XProbeDldo4
    | _ => pure minusOne

/-- Probes the ELDO supply of a number. -/
def axp81XProbeEldoOutput (spplyIndex : Int) : Pmu Ulong :=
  throughInt <$>
    match spplyIndex with
    | 1 => axp81XProbeEldo1
    | 2 => axp81XProbeEldo2
    | 3 => axp81XProbeEldo3
    | _ => pure minusOne

/-- Probes the FLDO supply of a number. -/
def axp81XProbeFldoOutput (spplyIndex : Int) : Pmu Ulong :=
  throughInt <$>
    match spplyIndex with
    | 1 => axp81XProbeFldo1
    | 2 => axp81XProbeFldo2
    | _ => pure minusOne

/-- Probes the supply at the pin of a number. -/
def axp81XProbeGpioldoOutput (spplyIndex : Int) : Pmu Ulong :=
  throughInt <$>
    match spplyIndex with
    | 0 => axp81XProbeGpio0ldo
    | 1 => axp81XProbeGpio1ldo
    | _ => pure minusOne

/-- Probes the level of the pin of a number. -/
def axp81XProbeGpioOutput (spplyIndex : Int) : Pmu Ulong :=
  throughInt <$>
    match spplyIndex with
    | 0 => axp81XProbeGpio0
    | 1 => axp81XProbeGpio1
    | _ => pure minusOne

/-- The status of `Axp81XProbeSupplyStatusByName`, which goes through `ret`. -/
def probedStatus (volName : List U8) : Pmu Ulong :=
  let spplyIndex : Int := 1 + (volName.getD 4 0).toNat - 0x31
  if dcdcPrefix.isPrefixOf volName then throughInt <$> axp81XProbeDcdcOutput spplyIndex
  else if aldoPrefix.isPrefixOf volName then throughInt <$> axp81XProbeAldoOutput spplyIndex
  else if dldoPrefix.isPrefixOf volName then throughInt <$> axp81XProbeDldoOutput spplyIndex
  else if eldoPrefix.isPrefixOf volName then throughInt <$> axp81XProbeEldoOutput spplyIndex
  else if fldoPrefix.isPrefixOf volName then axp81XProbeFldoOutput spplyIndex
  else if gpioPrefix.isPrefixOf volName then throughInt <$> axp81XProbeGpioldoOutput spplyIndex
  else if powerPrefix.isPrefixOf volName then axp81XProbeGpioOutput (numberBehind volName 5)
  else pure (throughInt efiSuccess)

/-- `Axp81XProbeSupplyStatusByName`: the status and `*Vol`, which is 0 in any case. -/
def axp81XProbeSupplyStatusByName (volName : List U8) : Pmu (Ulong × Ulong) := do
  let status ← probedStatus volName
  return (status, 0)

end PinePhonePkg
