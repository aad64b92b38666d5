/-
This file models the operations of the power chip other than its supplies: the
charger, the battery, the key and the interrupts. What a caller gets through a
pointer is returned beside the status, as it was before when the operation fails.
-/

import PinePhonePkg.Power.SupplyStatus

namespace PinePhonePkg

open Library

/-! ### Registers -/

def axpStatus : U8 := 0x00

def modeChgstatus : U8 := 0x01

def axpVersion : U8 := 0x03

def dataBuffer11 : U8 := 0x0f

def voffSet : U8 := 0x31

def offCtl : U8 := 0x32

def charge1 : U8 := 0x33

def inten1 : U8 := 0x40

def intsts1 : U8 := 0x48

def intsts5 : U8 := 0x4c

def batAvervolH8 : U8 := 0x50

def batAvervolL4 : U8 := 0x51

def adcEn : U8 := 0x82

def fuelGaugeCtl : U8 := 0xB8

def batPercenCal : U8 := 0xB9

/-! ### Five registers at a time -/

/-- Reads registers one after the other. -/
def readEach (addr : U8) : Nat → Pmu (Ulong × List U8)
  | 0 => pure (efiSuccess, [])
  | count + 1 =>
    readOr addr (efiDeviceError, []) fun value => do
      let (status, rest) ← readEach (addr + 1) count
      return (status, value :: rest)

/-- Writes registers one after the other. -/
def writeEach (addr : U8) : List U8 → Pmu Ulong
  | [] => pure efiSuccess
  | value :: rest => writeOr addr value efiDeviceError (writeEach (addr + 1) rest)

/-- `__Axp81XSetIntEnable` -/
def rawAxp81XSetIntEnable (intEnable : List U8) : Pmu Ulong := writeEach inten1 intEnable

/-- `__Axp81XProbeIntEnable` -/
def rawAxp81XProbeIntEnable : Pmu (Ulong × List U8) := readEach inten1 5

/-- `__Axp81XProbeIntPending` -/
def rawAxp81XProbeIntPending : Pmu (Ulong × List U8) := do
  let (status, intStatus) ← readEach intsts1 5
  if status ≠ 0 then
    return (status, intStatus)
  let status ← writeEach intsts1 [0xff, 0xff, 0xff, 0xff, 0xff]
  return (status, intStatus)

/-- Tells whether the chip is an AXP81X, and clears its interrupts. -/
def axp81XProbe : Pmu Ulong :=
  readOr axpVersion efiDeviceError fun pmuType =>
    if pmuType &&& 0xCF = 0x41 then do
      let status ← rawAxp81XSetIntEnable [0, 0, 0, 0, 0]
      if status ≠ 0 then
        return status
      let (status, _) ← rawAxp81XProbeIntPending
      return status
    else pure efiDeviceError

/-! ### Interrupts -/

def axpIntMaskAcRemove : Ulong := 0x01

def axpIntMaskAcInsert : Ulong := 0x02

def axpIntMaskVbusRemove : Ulong := 0x04

def axpIntMaskVbusInsert : Ulong := 0x08

def axpIntMaskChargeDone : Ulong := 0x10

def axpIntMaskLongKeyPress : Ulong := 0x20

def axpIntMaskShortKeyPress : Ulong := 0x40

/-- A line of the functions that report or change the interrupts: `1 << place` of a byte -/
structure IntLine : Type where
  flag : Ulong
  index : Nat
  place : Nat
deriving DecidableEq

/-- The lines of each of the functions -/
def intLines : List IntLine :=
  [⟨axpIntMaskAcRemove, 0, 5⟩, ⟨axpIntMaskAcInsert, 0, 6⟩, ⟨axpIntMaskVbusRemove, 0, 2⟩,
    ⟨axpIntMaskVbusInsert, 0, 3⟩, ⟨axpIntMaskChargeDone, 1, 2⟩, ⟨axpIntMaskLongKeyPress, 4, 3⟩,
    ⟨axpIntMaskShortKeyPress, 4, 4⟩]

/-- `if (IntValue[index] &= 1 << place) *IntMask |= flag;` where the test changes the byte. -/
def IntLine.report (state : List U8 × Ulong) (line : IntLine) : List U8 × Ulong :=
  let value := state.1.getD line.index 0 &&& BitVec.twoPow 8 line.place
  (state.1.set line.index value, if value ≠ 0 then state.2 ||| line.flag else state.2)

/-- The mask with the pending interrupts of all lines -/
def reportInts (intValue : List U8) (intMask : Ulong) : Ulong :=
  (intLines.foldl IntLine.report (intValue, intMask)).2

/-- The status and `*IntMask`, which is set to 0 first. -/
def axp81XProbeIntPending : Pmu (Ulong × Ulong) := do
  let (status, intValue) ← rawAxp81XProbeIntPending
  if status ≠ 0 then
    return (status, 0)
  return (efiSuccess, reportInts intValue 0)

/-- The status and `*IntMask`, to which bits are added. -/
def axp81XProbeIntEnable (intMask : Ulong) : Pmu (Ulong × Ulong) := do
  let (status, intEnable) ← rawAxp81XProbeIntEnable
  if status ≠ 0 then
    return (status, intMask)
  return (efiSuccess, reportInts intEnable intMask)

/-- `if (IntMask & flag) IntEnable[index] |= 1 << place;` -/
def IntLine.enable (intMask : Ulong) (intEnable : List U8) (line : IntLine) : List U8 :=
  if intMask &&& line.flag ≠ 0 then
    intEnable.set line.index (intEnable.getD line.index 0 ||| BitVec.twoPow 8 line.place)
  else intEnable

/-- `if (IntMask & flag) IntEnable[index] &= ~1 << place;` where the complement is that of 1. -/
def IntLine.disable (intMask : Ulong) (intEnable : List U8) (line : IntLine) : List U8 :=
  if intMask &&& line.flag ≠ 0 then
    intEnable.set line.index (intEnable.getD line.index 0 &&& (~~~(1 : U8)) <<< line.place)
  else intEnable

/-- The registers with the interrupts of a mask enabled -/
def enableInts (intMask : Ulong) (intEnable : List U8) : List U8 :=
  intLines.foldl (IntLine.enable intMask) intEnable

/-- The registers with the interrupts of a mask disabled -/
def disableInts (intMask : Ulong) (intEnable : List U8) : List U8 :=
  intLines.foldl (IntLine.disable intMask) intEnable

/-- Enables the interrupts of a mask. -/
def axp81XSetIntEnable (intMask : Ulong) : Pmu Ulong := do
  let (status, intEnable) ← rawAxp81XProbeIntEnable
  if status ≠ 0 then
    return status
  rawAxp81XSetIntEnable (enableInts intMask intEnable)

/-- Disables the interrupts of a mask. -/
def axp81XSetIntDisable (intMask : Ulong) : Pmu Ulong := do
  let (status, intEnable) ← rawAxp81XProbeIntEnable
  if status ≠ 0 then
    return status
  rawAxp81XSetIntEnable (disableInts intMask intEnable)

/-! ### Battery, buses and key -/

/-- Reads the charge of the battery. -/
def axp81XProbeBatteryRatio (ratio : Ulong) : Pmu (Ulong × Ulong) :=
  readOr batPercenCal (efiDeviceError, ratio) fun regValue =>
    pure (efiSuccess, (regValue &&& 0x7f).setWidth 64)

def axpPowerVbusExist : Ulong := 1

def axpPowerAcBusExist : Ulong := 2

/-- Reads which power sources there are. -/
def axp81XProbePowerBusExistance : Pmu (Ulong × Ulong) :=
  readOr axpStatus (efiDeviceError, 0) fun regValue =>
    let status : Ulong := if regValue &&& 0x10 ≠ 0 then 0 ||| axpPowerVbusExist else 0
    pure (efiSuccess, if regValue &&& 0x40 ≠ 0 then status ||| axpPowerAcBusExist else status)

/-- A battery that is not detected is an error, as one that cannot be read. -/
def axp81XProbeBatteryExistance : Pmu (Ulong × Ulong) :=
  readOr modeChgstatus (efiDeviceError, 0) fun regValue =>
    if regValue &&& 0x10 ≠ 0 then pure (efiSuccess, (regValue &&& 0x20).setWidth 64)
    else pure (efiDeviceError, 0)

/-- Reads the voltage of the battery, in millivolts. -/
def axp81XProbeBatteryVoltage (voltage : Ulong) : Pmu (Ulong × Ulong) :=
  readOr batAvervolH8 (efiDeviceError, voltage) fun regValueH =>
    readOr batAvervolL4 (efiDeviceError, voltage) fun regValueL =>
      let value : Ulong := (regValueH.setWidth 64 <<< 4) ||| regValueL.setWidth 64
      pure (efiSuccess, value * 11 / 10)

/-- Reads which presses of the key are pending, and takes them back. -/
def axp81XProbePowerKey (pressed : Ulong) : Pmu (Ulong × Ulong) :=
  readOr intsts5 (efiDeviceError, pressed) fun regValue =>
    let regValue := regValue &&& 0x03 <<< 3
    let found : Pmu (Ulong × Ulong) := pure (efiSuccess, (regValue >>> 3 &&& 3).setWidth 64)
    if regValue ≠ 0 then writeOr intsts5 regValue (efiDeviceError, pressed) found else found

/-- Reads the mode that was set before the start. -/
def axp81XProbePreSysMode (status : Ulong) : Pmu (Ulong × Ulong) :=
  readOr dataBuffer11 (efiDeviceError, status) fun regValue =>
    pure (efiSuccess, regValue.setWidth 64)

/-- Sets the mode for the next start. -/
def axp81XSetNextSysMode (status : Ulong) : Pmu Ulong :=
  writeOr dataBuffer11 (status.setWidth 8) efiDeviceError (pure efiSuccess)

/-- Reads why the chip was switched on. -/
def axp81XProbeThisPowerOnCause (status : Ulong) : Pmu (Ulong × Ulong) :=
  readOr axpStatus (efiDeviceError, status) fun regValue =>
    pure (efiSuccess, (regValue &&& 0x01).setWidth 64)

/-! ### Changing one register -/

/-- Reads a register, changes it and writes it back. -/
def changeOr (addr : U8) (change : U8 → U8) (next : Pmu Ulong) : Pmu Ulong :=
  readOr addr efiDeviceError fun regValue => writeOr addr (change regValue) efiDeviceError next

/-- Switches the charger, and the measurements on. -/
def axp81XSetChargerOnOff (onOff : Ulong) : Pmu Ulong :=
  changeOr adcEn (· ||| 0xC0) <|
    changeOr charge1
      (fun regValue => if onOff ≠ 0 then regValue ||| 0x80 else regValue &&& ~~~0x80)
      (pure efiSuccess)

/-- Switches the chip off. -/
def axp81XSetPowerOff : Pmu Ulong := changeOr offCtl (· ||| 1 <<< 7) (pure efiSuccess)

/-- Sets the voltage below which the chip switches off; by default that of the stage. -/
def axp81XSetPowerOnoffVoltage (voltage stage : Ulong) : Pmu Ulong :=
  let voltage : Ulong := if voltage = 0 then if stage = 0 then 3300 else 2900 else voltage
  changeOr voffSet
    (fun regValue =>
      let regValue := regValue &&& 0xf8
      if 2600 ≤ voltage ∧ voltage ≤ 3300 then regValue ||| ((voltage - 2600) / 100).setWidth 8
      else if voltage ≤ 2600 then regValue ||| 0x00
      else regValue ||| 0x07)
    (pure efiSuccess)

/-- Sets the current of the charger, from 200 to 2800 mA. -/
def axp81XSetChargeCurrent (current : Ulong) : Pmu Ulong :=
  changeOr charge1
    (fun regValue =>
      let current : Ulong :=
        if current > 2800 then 2800 else if current < 200 then 200 else current
      (regValue &&& ~~~0x0f) ||| ((current / 200 - 1) &&& 0x0f).setWidth 8)
    (pure efiSuccess)

/-- Reads the current of the charger. -/
def axp81XProbeChargeCurrent (current : Ulong) : Pmu (Ulong × Ulong) :=
  readOr charge1 (efiDeviceError, current) fun regValue =>
    pure (efiSuccess, ((regValue &&& 0x0f).setWidth 64 + 1) * 200)

/-- Limits the current from USB; zero stands for no limit. -/
def axp81XSetVbusCurrentLimit (current : Ulong) : Pmu Ulong :=
  changeOr vbusSet
    (fun regValue =>
      let regValue := regValue &&& 0xfC
      if current = 0 then regValue ||| 0x03
      else if current ≤ 500 then regValue ||| 0x01
      else regValue ||| 0)
    (pure efiSuccess)

/-- Reads the limit of the current from USB. -/
def axp81XProbeVbusCurrentLimit (current : Ulong) : Pmu (Ulong × Ulong) :=
  readOr vbusSet (efiDeviceError, current) fun regValue =>
    let regValue := regValue &&& 0x3
    pure (efiSuccess, if regValue = 0 then 900 else if regValue = 1 then 500 else 0)

/-- Limits the voltage from USB; zero stands for no limit. -/
def axp81XSetVbusVoltagelimit (voltage : Ulong) : Pmu Ulong :=
  changeOr vbusSet
    (fun regValue =>
      let regValue := regValue &&& ~~~((7 : U8) <<< 3)
      if voltage = 0 then regValue &&& ~~~((1 : U8) <<< 6)
      else
        let voltage : Ulong :=
          if voltage < 4000 then 4000 else if voltage > 4700 then 4700 else voltage
        regValue ||| (((voltage - 4000) / 100) <<< 3).setWidth 8)
    (pure efiSuccess)

/-- Switches the coulomb counter. -/
def axp81XSetCoulombmeterOnOff (onOff : Ulong) : Pmu Ulong :=
  changeOr fuelGaugeCtl
    (fun regValue => if onOff = 0 then regValue &&& ~~~((1 : U8) <<< 7) else regValue ||| 1 <<< 7)
    (pure efiSuccess)

end PinePhonePkg
