/-
This file embeds the change of the bus mode of an eMMC. A change is two register
writes, first HS_TIMING and then BUS_WIDTH, each of them a CMD6 whose own error
is not looked at, and the fields of the descriptor follow each write.
-/

import PinePhonePkg.Mmc.Command

namespace PinePhonePkg

open Library

/-! ### The timing -/

def extCsdCardType : Nat := 196

def extCsdCardTypeHs26 : U8 := 0x1

def extCsdCardTypeHs : U8 := 0x3

def extCsdCardTypeDdr52 : U8 := 0xC

def extCsdCardTypeHs200 : U8 := 0x30

def extCsdCardTypeHs400 : U8 := 0xC0

def extCsdTimingBc : U8 := 0

def extCsdTimingHs : U8 := 1

def extCsdTimingHs200 : U8 := 2

def extCsdTimingHs400 : U8 := 3

/-- What tells one switch of the timing from another: the speed mode, the capability of the host
and the types of card it needs, the value of HS_TIMING, and the capability the card gets. -/
structure TimingSwitch where
  spdMode : U32
  hostCap : U32
  cardTypes : U8
  timing : U8
  cardCap : U32

/-- What the four switches of the timing do: unless the mode is set already, the host and the card
have to have it; then the card is switched and the mode kept. -/
def switchTiming (mmc : Mmc) (change : TimingSwitch) : Driver (Int × Mmc) := do
  if mmc.speedMode = change.spdMode then
    return (0, mmc)
  if mmc.cfg.hostCaps &&& change.hostCap = 0 then
    return (-1, mmc)
  let (err, extCsd) ← mmcSendExtCsd
  if err ≠ 0 then
    return (err, mmc)
  if extCsd extCsdCardType &&& change.cardTypes = 0 then
    return (-1, mmc)
  let err ← mmcSwitch mmc extCsdHsTiming change.timing
  if err ≠ 0 then
    return (err, mmc)
  return (0, { mmc with speedMode := change.spdMode, cardCaps := mmc.cardCaps ||| change.cardCap })

/-- To the default speed -/
def toDs : TimingSwitch :=
  ⟨ds26Sdr12, mmcModeHs, extCsdCardTypeHs26, extCsdTimingBc, mmcModeHs⟩

/-- The capability of the host is looked up by the number of the speed mode. -/
def toHs : TimingSwitch :=
  ⟨hssdr52Sdr25, hssdr52Sdr25, extCsdCardTypeHs ||| extCsdCardTypeDdr52, extCsdTimingHs,
    mmcModeHs52Mhz⟩

/-- To HS200 -/
def toHs200 : TimingSwitch :=
  ⟨hs200Sdr104, mmcModeHs200, extCsdCardTypeHs200, extCsdTimingHs200, mmcModeHs200⟩

/-- To HS400 -/
def toHs400 : TimingSwitch :=
  ⟨hs400, mmcModeHs400, extCsdCardTypeHs400, extCsdTimingHs400, mmcModeHs400⟩

/-- Switches to the default speed. -/
def mmcMmcSwitchToDs (mmc : Mmc) : Driver (Int × Mmc) := switchTiming mmc toDs

/-- Switches to high speed. -/
def mmcMmcSwitchToHs (mmc : Mmc) : Driver (Int × Mmc) := switchTiming mmc toHs

/-- Switches to HS200. -/
def mmcMmcSwitchToHs200 (mmc : Mmc) : Driver (Int × Mmc) := switchTiming mmc toHs200

/-- Switches to HS400. -/
def mmcMmcSwitchToHs400 (mmc : Mmc) : Driver (Int × Mmc) := switchTiming mmc toHs400

/-- Switches to a speed mode, of which DDR52 is not one. -/
def mmcMmcSwitchSpeedMode (mmc : Mmc) (spdMode : U32) : Driver (Int × Mmc) :=
  if spdMode = ds26Sdr12 then mmcMmcSwitchToDs mmc
  else if spdMode = hssdr52Sdr25 then mmcMmcSwitchToHs mmc
  else if spdMode = hs200Sdr104 then mmcMmcSwitchToHs200 mmc
  else if spdMode = hs400 then mmcMmcSwitchToHs400 mmc
  else pure (-1, mmc)

/-! ### The width -/

def extCsdBusWidth1 : U8 := 0

def extCsdBusWidth4 : U8 := 1

def extCsdBusWidth8 : U8 := 2

def extCsdBusDdr4 : U8 := 5

def extCsdBusDdr8 : U8 := 6

/-- Zero if the speed mode goes with the number of lines -/
def mmcCheckBuswidth (mmc : Mmc) (emmcHsDdr : Bool) (busWidth : U32) : Int :=
  if busWidth = 1 then
    if emmcHsDdr ∧ ¬ mmc.isSd ∧ mmc.speedMode = hssdr52Sdr25 ∨
        ¬ mmc.isSd ∧ mmc.speedMode = hsddr52Ddr50 ∨
        ¬ mmc.isSd ∧ mmc.speedMode = hs200Sdr104 ∨
        ¬ mmc.isSd ∧ mmc.speedMode = hs400 then -1
    else 0
  else if busWidth = 4 then
    if mmc.cfg.hostCaps &&& mmcMode4Bit = 0 then -1 else 0
  else if busWidth = 8 then
    if mmc.cfg.hostCaps &&& mmcMode8Bit = 0 ∨ mmc.isSd then -1 else 0
  else -1

/-- The value `mmc_mmc_switch_bus_width` sets BUS_WIDTH to. -/
def busWidthValue (spdMode width : U32) : U8 :=
  if width = 1 then extCsdBusWidth1
  else if spdMode = hsddr52Ddr50 then
    if width = 4 then extCsdBusDdr4 else if width = 8 then extCsdBusDdr8 else 0
  else if width = 4 then extCsdBusWidth4
  else if width = 8 then extCsdBusWidth8
  else extCsdBusWidth1

/-- Keeps the number of lines and tells the host. -/
def mmcSetBusWidth (mmc : Mmc) (width : U32) : Driver Mmc := do
  let mmc := { mmc with busWidth := width }
  mmcSetIos mmc
  return mmc

/-- The card has the width of HS400 before it gets to HS400. -/
def mmcMmcSwitchBusWidth (mmc : Mmc) (spdMode width : U32) : Driver (Int × Mmc) := do
  if spdMode = hs400 then
    return (0, mmc)
  if mmcCheckBuswidth mmc (spdMode = hsddr52Ddr50) width ≠ 0 then
    return (-1, mmc)
  let err ← mmcSwitch mmc extCsdBusWidth (busWidthValue spdMode width)
  if err ≠ 0 then
    return (err, mmc)
  let mmc ← mmcSetBusWidth
    (if spdMode = hsddr52Ddr50 then { mmc with speedMode := hsddr52Ddr50 } else mmc) width
  return (0, mmc)

/-! ### The mode -/

/-- The timing of a speed mode is that of the mode itself, but for the DDR mode at 52 MHz. -/
def tmpSpdMd (spdMode : U32) : U32 :=
  if spdMode = hsddr52Ddr50 then hssdr52Sdr25 else spdMode

/-- Switches the speed mode, and then the number of lines. -/
def mmcMmcSwitchBusMode (mmc : Mmc) (spdMode width : U32) : Driver (Int × Mmc) := do
  if mmc.isSd then
    return (0, mmc)
  let (err, mmc) ← mmcMmcSwitchSpeedMode mmc (tmpSpdMd spdMode)
  if err ≠ 0 then
    return (err, mmc)
  let (err, mmc) ← mmcMmcSwitchBusWidth mmc spdMode width
  if err ≠ 0 then
    return (err, mmc)
  if spdMode = hsddr52Ddr50 then
    return (err, { mmc with
      speedMode := hsddr52Ddr50, cardCaps := mmc.cardCaps ||| mmcModeDdr52Mhz })
  return (err, mmc)

end PinePhonePkg
