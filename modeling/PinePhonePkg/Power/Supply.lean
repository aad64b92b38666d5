/-
This file models how the supplies of the power chip are set and probed: each has
a register for its voltage and a bit, or the function of a pin, for its state.
-/

import PinePhonePkg.Power.Bus

namespace PinePhonePkg

open Library

/-! ### Registers -/

def outputCtl1 : U8 := 0x10

def outputCtl2 : U8 := 0x12

def aldoCtl : U8 := 0x13

/-- The registers of the voltages, from that of DLDO1 to that of ALDO3 -/
def dldo1Vol : U8 := 0x15
def dldo2Vol : U8 := 0x16
def dldo3Vol : U8 := 0x17
def dldo4Vol : U8 := 0x18
def eldo1Vol : U8 := 0x19
def eldo2Vol : U8 := 0x1A
def eldo3Vol : U8 := 0x1B
def fldo1Vol : U8 := 0x1C
def fldo2Vol : U8 := 0x1D
def dc1OutVol : U8 := 0x20
def dc2OutVol : U8 := 0x21
def dc3OutVol : U8 := 0x22
def dc4OutVol : U8 := 0x23
def dc5OutVol : U8 := 0x24
def dc6OutVol : U8 := 0x25
def aldo1OutVol : U8 := 0x28
def aldo2OutVol : U8 := 0x29
def aldo3OutVol : U8 := 0x2A

def vbusSet : U8 := 0x30

/-- What the first pin does, and the voltage of it; the second pin is alike. -/
def gpio0Ctl : U8 := 0x90
def gpio0Vol : U8 := 0x91
def gpio1Ctl : U8 := 0x92
def gpio1Vol : U8 := 0x93

/-! ### Setting a supply -/

/-- The part of a register that a function of the driver sets: what it keeps, and what it sets when
the supply is switched off and on. -/
structure StateField : Type where
  register : U8
  keep : U8
  off : U8
  on : U8

/-- The field of one bit -/
def bitField (register : U8) (place : Nat) : StateField :=
  ⟨register, ~~~BitVec.twoPow 8 place, 0, BitVec.twoPow 8 place⟩

/-- The register with the supply switched -/
def StateField.set (field : StateField) (on : Bool) (value : U8) : U8 :=
  (value &&& field.keep) ||| if on then field.on else field.off

/-- A voltage register with the range of the supply and the code of a voltage. -/
structure VoltageField : Type where
  register : U8
  keep : U8
  low : Int
  high : Int
  code : Int → Int

/-- The voltage within the range of the supply -/
def VoltageField.clamp (field : VoltageField) (setVol : Int) : Int :=
  if setVol < field.low then field.low
  else if setVol > field.high then field.high
  else setVol

/-- The register with the voltage set -/
def VoltageField.set (field : VoltageField) (setVol : Int) (value : U8) : U8 :=
  (value &&& field.keep) ||| BitVec.ofInt 8 (field.code (field.clamp setVol))

/-- A supply as its function sets it, with the errors that the function returns. -/
structure SupplySetter : Type where
  voltage : VoltageField
  state : StateField
  voltageError : Ulong
  stateReadError : Ulong
  stateWriteError : Ulong

/-- The second half of a set function -/
def SupplySetter.onOff (supply : SupplySetter) (onoff : Int) : Pmu Ulong :=
  if onoff < 0 then pure efiSuccess
  else
    readOr supply.state.register supply.stateReadError fun regValue =>
      writeOr supply.state.register (supply.state.set (onoff ≠ 0) regValue) supply.stateWriteError
        (pure efiSuccess)

/-- The set functions of all supplies with a voltage -/
def setSupply (supply : SupplySetter) (setVol onoff : Int) : Pmu Ulong :=
  if setVol > 0 then
    readOr supply.voltage.register supply.voltageError fun regValue =>
      writeOr supply.voltage.register (supply.voltage.set setVol regValue) supply.voltageError
        (supply.onOff onoff)
  else supply.onOff onoff

/-- Steps of one size -/
def oneSlope (low step : Int) (setVol : Int) : Int := (setVol - low) / step

/-- Steps of one size up to the knee and of another size from there on -/
def twoSlopes (low step knee kneeCode coarse : Int) (setVol : Int) : Int :=
  if setVol > knee then kneeCode + (setVol - knee) / coarse else (setVol - low) / step

/-- 1.6 V to 3.4 V in steps of 100 mV -/
def dcdc1 : SupplySetter :=
  ⟨⟨dc1OutVol, 0xE0, 1600, 3400, oneSlope 1600 100⟩, bitField outputCtl1 0,
    efiDeviceError, efiDeviceError, efiDeviceError⟩

/-- 0.5 V to 1.2 V in steps of 10 mV, and to 1.3 V in steps of 20 mV -/
def dcdc2 : SupplySetter :=
  ⟨⟨dc2OutVol, ~~~0x7f, 500, 1300, twoSlopes 500 10 1200 70 20⟩, bitField outputCtl1 1,
    minusOne, minusOne, minusOne⟩

/-- The same as `dcdc2`, at registers of its own -/
def dcdc3 : SupplySetter :=
  ⟨⟨dc3OutVol, ~~~0x7f, 500, 1300, twoSlopes 500 10 1200 70 20⟩, bitField outputCtl1 2,
    minusOne, minusOne, minusOne⟩

/-- The same as `dcdc2`, at registers of its own -/
def dcdc4 : SupplySetter :=
  ⟨⟨dc4OutVol, ~~~0x7f, 500, 1300, twoSlopes 500 10 1200 70 20⟩, bitField outputCtl1 3,
    minusOne, minusOne, minusOne⟩

/-- 0.8 V to 1.12 V in steps of 10 mV, and to 1.84 V in steps of 20 mV -/
def dcdc5 : SupplySetter :=
  ⟨⟨dc5OutVol, ~~~0x7f, 800, 1840, twoSlopes 800 10 1120 32 20⟩, bitField outputCtl1 4,
    minusOne, minusOne, minusOne⟩

/-- 0.6 V to 1.1 V in steps of 10 mV, and to 1.52 V in steps of 20 mV -/
def dcdc6 : SupplySetter :=
  ⟨⟨dc6OutVol, ~~~0x7f, 600, 1520, twoSlopes 600 10 1100 50 20⟩, bitField outputCtl1 5,
    minusOne, minusOne, minusOne⟩

/-- 0.7 V to 3.3 V in steps of 100 mV -/
def aldo1 : SupplySetter :=
  ⟨⟨aldo1OutVol, 0xE0, 700, 3300, oneSlope 700 100⟩, bitField aldoCtl 5,
    efiDeviceError, efiDeviceError, efiDeviceError⟩

/-- The same as `aldo1`, at registers of its own -/
def aldo2 : SupplySetter :=
  ⟨⟨aldo2OutVol, 0xE0, 700, 3300, oneSlope 700 100⟩, bitField aldoCtl 6,
    efiDeviceError, efiDeviceError, efiDeviceError⟩

/-- The same as `aldo1`, at registers and with statuses of its own -/
def aldo3 : SupplySetter :=
  ⟨⟨aldo3OutVol, 0xE0, 700, 3300, oneSlope 700 100⟩, bitField aldoCtl 7,
    efiDeviceError, minusOne, minusOne⟩

/-- 0.7 V to 3.3 V in steps of 100 mV -/
def dldo1 : SupplySetter :=
  ⟨⟨dldo1Vol, 0xE0, 700, 3300, oneSlope 700 100⟩, bitField outputCtl2 3,
    minusOne, minusOne, minusOne⟩

/-- 0.7 V to 3.4 V in steps of 100 mV, and to 4.2 V in steps of 200 mV -/
def dldo2 : SupplySetter :=
  ⟨⟨dldo2Vol, 0xE0, 700, 4200, twoSlopes 700 100 3400 27 200⟩, bitField outputCtl2 4,
    minusOne, minusOne, minusOne⟩

/-- The same as `dldo1`, at registers and with statuses of its own -/
def dldo3 : SupplySetter :=
  ⟨⟨dldo3Vol, 0xE0, 700, 3300, oneSlope 700 100⟩, bitField outputCtl2 5,
    minusOne, minusOne, efiDeviceError⟩

/-- The same as `dldo1`, at registers of its own -/
def dldo4 : SupplySetter :=
  ⟨⟨dldo4Vol, 0xE0, 700, 3300, oneSlope 700 100⟩, bitField outputCtl2 6,
    minusOne, minusOne, minusOne⟩

/-- 0.7 V to 1.9 V in steps of 50 mV -/
def eldo1 : SupplySetter :=
  ⟨⟨eldo1Vol, 0xE0, 700, 1900, oneSlope 700 50⟩, bitField outputCtl2 0,
    minusOne, minusOne, minusOne⟩

/-- The same as `eldo1`, at registers of its own -/
def eldo2 : SupplySetter :=
  ⟨⟨eldo2Vol, 0xE0, 700, 1900, oneSlope 700 50⟩, bitField outputCtl2 1,
    minusOne, minusOne, minusOne⟩

/-- The same as `eldo1`, at registers of its own -/
def eldo3 : SupplySetter :=
  ⟨⟨eldo3Vol, 0xE0, 700, 1900, oneSlope 700 50⟩, bitField outputCtl2 2,
    minusOne, minusOne, minusOne⟩

/-- 0.7 V to 1.45 V in steps of 50 mV -/
def fldo1 : SupplySetter :=
  ⟨⟨fldo1Vol, 0xF0, 700, 1450, oneSlope 700 50⟩, bitField aldoCtl 2,
    minusOne, minusOne, minusOne⟩

/-- The same as `fldo1`, at registers and with statuses of its own -/
def fldo2 : SupplySetter :=
  ⟨⟨fldo2Vol, 0xF0, 700, 1450, oneSlope 700 50⟩, bitField aldoCtl 3,
    minusOne, minusOne, efiDeviceError⟩

/-- The pin is a regulator (3) or floats (4). -/
def gpio0ldo : SupplySetter :=
  ⟨⟨gpio0Vol, 0xE0, 700, 3300, oneSlope 700 100⟩, ⟨gpio0Ctl, ~~~7, 4, 3⟩,
    minusOne, minusOne, minusOne⟩

/-- The supply at the second pin -/
def gpio1ldo : SupplySetter :=
  ⟨⟨gpio1Vol, 0xE0, 700, 3300, oneSlope 700 100⟩, ⟨gpio1Ctl, ~~~7, 4, 3⟩,
    minusOne, minusOne, minusOne⟩

/-- The setters of the supplies, each with its registers, range and statuses -/
def axp81XSetDcdc1 : Int → Int → Pmu Ulong := setSupply dcdc1
def axp81XSetDcdc2 : Int → Int → Pmu Ulong := setSupply dcdc2
def axp81XSetDcdc3 : Int → Int → Pmu Ulong := setSupply dcdc3
def axp81XSetDcdc4 : Int → Int → Pmu Ulong := setSupply dcdc4
def axp81XSetDcdc5 : Int → Int → Pmu Ulong := setSupply dcdc5
def axp81XSetDcdc6 : Int → Int → Pmu Ulong := setSupply dcdc6
def axp81XSetAldo1 : Int → Int → Pmu Ulong := setSupply aldo1
def axp81XSetAldo2 : Int → Int → Pmu Ulong := setSupply aldo2
def axp81XSetAldo3 : Int → Int → Pmu Ulong := setSupply aldo3
def axp81XSetDldo1 : Int → Int → Pmu Ulong := setSupply dldo1
def axp81XSetDldo2 : Int → Int → Pmu Ulong := setSupply dldo2
def axp81XSetDldo3 : Int → Int → Pmu Ulong := setSupply dldo3
def axp81XSetDldo4 : Int → Int → Pmu Ulong := setSupply dldo4
def axp81XSetEldo1 : Int → Int → Pmu Ulong := setSupply eldo1
def axp81XSetEldo2 : Int → Int → Pmu Ulong := setSupply eldo2
def axp81XSetEldo3 : Int → Int → Pmu Ulong := setSupply eldo3
def axp81XSetFldo1 : Int → Int → Pmu Ulong := setSupply fldo1
def axp81XSetFldo2 : Int → Int → Pmu Ulong := setSupply fldo2
def axp81XSetGpio0ldo : Int → Int → Pmu Ulong := setSupply gpio0ldo
def axp81XSetGpio1ldo : Int → Int → Pmu Ulong := setSupply gpio1ldo

/-- A supply that has only a state is set whatever the sign of `onoff`. -/
def setSwitch (field : StateField) (error : Ulong) (onoff : Int) : Pmu Ulong :=
  readOr field.register error fun regValue =>
    writeOr field.register (field.set (onoff ≠ 0) regValue) error (pure efiSuccess)

/-- The switch of DCDC1 -/
def dc1sw : StateField := bitField outputCtl2 7

/-- The state of dc5ldo has the bit that dcdc1 has. -/
def dc5ldo : StateField := bitField outputCtl1 0

/-- Switches DC1SW. -/
def axp81XSetDc1sw : Int → Pmu Ulong := setSwitch dc1sw efiDeviceError

/-- Switches DC5LDO. -/
def axp81XSetDc5ldo : Int → Pmu Ulong := setSwitch dc5ldo efiDeviceError

/-- A pin is driven low or high; any other level is passed over. -/
def setLevel (field : StateField) (level : Int) : Pmu Ulong :=
  if level < 0 ∨ level > 1 then pure efiSuccess else setSwitch field minusOne level

/-- The level of the first pin -/
def gpio0 : StateField := ⟨gpio0Ctl, ~~~7, 0, 1⟩

/-- The level of the second pin -/
def gpio1 : StateField := ⟨gpio1Ctl, ~~~7, 0, 1⟩

/-- The level of the pin that lets the chip feed USB -/
def vbusen : StateField := bitField vbusSet 2

/-- Sets the level of the first pin. -/
def axp81XSetGpio0 : Int → Pmu Ulong := setLevel gpio0

/-- Sets the level of the second pin. -/
def axp81XSetGpio1 : Int → Pmu Ulong := setLevel gpio1

/-- Sets the level of the pin for USB. -/
def axp81XSetVbusen : Int → Pmu Ulong := setLevel vbusen

/-! ### Probing a supply -/

/-- A supply as its function probes it. -/
structure SupplyProber : Type where
  stateRegister : U8
  stateMask : U8
  voltageRegister : U8
  voltageMask : U8
  voltage : Int → Int
  error : Ulong

/-- The second half of a probe function -/
def SupplyProber.readVoltage (supply : SupplyProber) : Pmu Ulong :=
  readOr supply.voltageRegister supply.error fun regValue =>
    pure (BitVec.ofInt 64 (supply.voltage (regValue &&& supply.voltageMask).toNat))

/-- The probe functions of the supplies with a voltage and an enable bit -/
def probeSupply (supply : SupplyProber) : Pmu Ulong :=
  readOr supply.stateRegister supply.error fun regValue =>
    if regValue &&& supply.stateMask = 0 then pure 0 else supply.readVoltage

/-- The voltage of a code, where the steps have one size -/
def oneSlopeVoltage (low step : Int) (regValue : Int) : Int := low + step * regValue

/-- The voltage of a code, where the steps are coarser above the knee -/
def twoSlopesVoltage (low step knee kneeCode coarse : Int) (regValue : Int) : Int :=
  if regValue > kneeCode then knee + coarse * (regValue - kneeCode) else low + step * regValue

/-- The probes read the bit of the switch and the field of the voltage, those of each supply. -/
def dcdc1Prober : SupplyProber :=
  ⟨outputCtl1, 1 <<< 0, dc1OutVol, 0x1f, oneSlopeVoltage 1600 100, efiDeviceError⟩

def dcdc2Prober : SupplyProber :=
  ⟨outputCtl1, 1 <<< 1, dc2OutVol, 0x7f, twoSlopesVoltage 500 10 1200 70 20, minusOne⟩

def dcdc3Prober : SupplyProber :=
  ⟨outputCtl1, 1 <<< 2, dc3OutVol, 0x7f, twoSlopesVoltage 500 10 1200 70 20, minusOne⟩

def dcdc4Prober : SupplyProber :=
  ⟨outputCtl1, 1 <<< 3, dc4OutVol, 0x7f, twoSlopesVoltage 500 10 1200 70 20, minusOne⟩

def dcdc5Prober : SupplyProber :=
  ⟨outputCtl1, 1 <<< 4, dc5OutVol, 0x7f, twoSlopesVoltage 800 10 1120 32 20, minusOne⟩

/-- The mask is that of bits 0 and 2, and not that of bit 5. -/
def dcdc6Prober : SupplyProber :=
  ⟨outputCtl1, 5 <<< 0, dc6OutVol, 0x7f, twoSlopesVoltage 600 10 1100 50 20, minusOne⟩

def aldo1Prober : SupplyProber :=
  ⟨aldoCtl, 1 <<< 5, aldo1OutVol, 0x1f, oneSlopeVoltage 700 100, minusOne⟩

def aldo2Prober : SupplyProber :=
  ⟨aldoCtl, 1 <<< 6, aldo2OutVol, 0x1f, oneSlopeVoltage 700 100, minusOne⟩

def aldo3Prober : SupplyProber :=
  ⟨aldoCtl, 1 <<< 7, aldo3OutVol, 0x1f, oneSlopeVoltage 700 100, minusOne⟩

def dldo1Prober : SupplyProber :=
  ⟨outputCtl2, 1 <<< 3, dldo1Vol, 0x1f, oneSlopeVoltage 700 100, minusOne⟩

def dldo2Prober : SupplyProber :=
  ⟨outputCtl2, 1 <<< 4, dldo2Vol, 0x1f, twoSlopesVoltage 700 100 3400 27 200, minusOne⟩

def dldo3Prober : SupplyProber :=
  ⟨outputCtl2, 1 <<< 5, dldo3Vol, 0x1f, oneSlopeVoltage 700 100, minusOne⟩

def dldo4Prober : SupplyProber :=
  ⟨outputCtl2, 1 <<< 6, dldo4Vol, 0x1f, oneSlopeVoltage 700 100, minusOne⟩

def eldo1Prober : SupplyProber :=
  ⟨outputCtl2, 1 <<< 0, eldo1Vol, 0x1f, oneSlopeVoltage 700 50, minusOne⟩

def eldo2Prober : SupplyProber :=
  ⟨outputCtl2, 1 <<< 1, eldo2Vol, 0x1f, oneSlopeVoltage 700 50, minusOne⟩

def eldo3Prober : SupplyProber :=
  ⟨outputCtl2, 1 <<< 2, eldo3Vol, 0x1f, oneSlopeVoltage 700 50, minusOne⟩

def fldo1Prober : SupplyProber :=
  ⟨aldoCtl, 1 <<< 2, fldo1Vol, 0x0f, oneSlopeVoltage 700 50, minusOne⟩

def fldo2Prober : SupplyProber :=
  ⟨aldoCtl, 1 <<< 3, fldo2Vol, 0x0f, oneSlopeVoltage 700 50, minusOne⟩

/-- The probers of the regulators at the pins, of which only the voltage is read. -/
def gpio0ldoProber : SupplyProber :=
  ⟨gpio0Ctl, 0, gpio0Vol, 0x1f, oneSlopeVoltage 700 100, minusOne⟩

/-- The second pin has no bit that the probe tests. -/
def gpio1ldoProber : SupplyProber :=
  ⟨gpio1Ctl, 0, gpio1Vol, 0x1f, oneSlopeVoltage 700 100, minusOne⟩

/-- The probes of the supplies, in the order of the setters -/
def axp81XProbeDcdc1 : Pmu Ulong := probeSupply dcdc1Prober
def axp81XProbeDcdc2 : Pmu Ulong := probeSupply dcdc2Prober
def axp81XProbeDcdc3 : Pmu Ulong := probeSupply dcdc3Prober
def axp81XProbeDcdc4 : Pmu Ulong := probeSupply dcdc4Prober
def axp81XProbeDcdc5 : Pmu Ulong := probeSupply dcdc5Prober
def axp81XProbeDcdc6 : Pmu Ulong := probeSupply dcdc6Prober
def axp81XProbeAldo1 : Pmu Ulong := probeSupply aldo1Prober
def axp81XProbeAldo2 : Pmu Ulong := probeSupply aldo2Prober
def axp81XProbeAldo3 : Pmu Ulong := probeSupply aldo3Prober
def axp81XProbeDldo1 : Pmu Ulong := probeSupply dldo1Prober
def axp81XProbeDldo2 : Pmu Ulong := probeSupply dldo2Prober
def axp81XProbeDldo3 : Pmu Ulong := probeSupply dldo3Prober
def axp81XProbeDldo4 : Pmu Ulong := probeSupply dldo4Prober
def axp81XProbeEldo1 : Pmu Ulong := probeSupply eldo1Prober
def axp81XProbeEldo2 : Pmu Ulong := probeSupply eldo2Prober
def axp81XProbeEldo3 : Pmu Ulong := probeSupply eldo3Prober
def axp81XProbeFldo1 : Pmu Ulong := probeSupply fldo1Prober
def axp81XProbeFldo2 : Pmu Ulong := probeSupply fldo2Prober
def axp81XProbeGpio0ldo : Pmu Ulong := gpio0ldoProber.readVoltage
def axp81XProbeGpio1ldo : Pmu Ulong := gpio1ldoProber.readVoltage

/-- A pin that is not an output gives -1. -/
def probeLevel (register : U8) : Pmu Ulong :=
  readOr register minusOne fun regValue =>
    let regValue := regValue &&& 7
    if regValue = 0 ∨ regValue = 1 then pure (regValue.setWidth 64) else pure minusOne

/-- Reads the level of the first pin. -/
def axp81XProbeGpio0 : Pmu Ulong := probeLevel gpio0Ctl

/-- Reads the level of the second pin. -/
def axp81XProbeGpio1 : Pmu Ulong := probeLevel gpio1Ctl

end PinePhonePkg
