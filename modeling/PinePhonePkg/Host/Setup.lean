/-
This file models how the host driver sets its controller up: the clocks, the
delays of the timing modes, the width of the bus and the mode of double data rate.
-/

import PinePhonePkg.Host.Registers

namespace PinePhonePkg

open Library

/-! ### Delays -/

def maxClkFreqNum : Nat := 8

/-- Starts a calibration. -/
def sdxcStartCal : U32 := bit 15

/-- The calibration is done. -/
def sdxcCalDone : U32 := bit 14

def sdxcCalDly : U32 := 0x3f00

/-- The delay is in use. -/
def sdxcEnableDly : U32 := bit 7

def sdxcCfgDly : U32 := 0x3f

/-- The delay that was tuned, or the default one -/
def chosenDelay (tuned default : Nat → U8) (index : Nat) : U8 :=
  if tuned index ≠ 0xff then tuned index else default index

/-- The place of a speed mode and a frequency in the tables -/
def delayIndex (spdMd freq : U32) : Nat := spdMd.toNat * maxClkFreqNum + freq.toNat

/-- Sets the phase of the output. -/
def writeOdly (odly : U8) : HostProgram Unit := do
  let rval := (← readl .drvDl) &&& ~~~((3 : U32) <<< 16)
  let phase : U32 := odly.setWidth 32 &&& 1
  writel (rval ||| (phase <<< 16 ||| phase <<< 17)) .drvDl

/-- A delay of the delay chain -/
def writeDelay (delay : U8) (reg : HostReg) : HostProgram Unit := do
  let rval := (← readl reg) &&& ~~~sdxcCfgDly
  writel (rval ||| (delay.setWidth 32 &&& sdxcCfgDly ||| sdxcEnableDly)) reg

/-- Sets the delays for the speed mode and the frequency, those that were tuned or else the default
ones. -/
def mmcConfigDelay (host : SunxiMmcHost) : HostProgram SunxiMmcHost :=
  if host.timingMode = sunxiMmcTimingMode1 then do
    let tm1 := host.tm1
    let index := delayIndex tm1.curSpdMd tm1.curFreq
    let odly := chosenDelay tm1.odly tm1.defOdly index
    let sdly := chosenDelay tm1.sdly tm1.defSdly index
    writeOdly odly
    let rval := (← readl .ntsr) &&& ~~~((3 : U32) <<< 4)
    writel (rval ||| (sdly.setWidth 32 &&& 3) <<< 4) .ntsr
    return { host with tm1 := { tm1 with curOdly := odly, curSdly := sdly } }
  else if host.timingMode = sunxiMmcTimingMode3 then do
    let tm3 := host.tm3
    let index := delayIndex tm3.curSpdMd tm3.curFreq
    let odly := chosenDelay tm3.odly tm3.defOdly index
    let sdly := chosenDelay tm3.sdly tm3.defSdly index
    writeOdly odly
    writeDelay sdly .sampDl
    return { host with tm3 := { tm3 with curOdly := odly, curSdly := sdly } }
  else if host.timingMode = sunxiMmcTimingMode4 then do
    let tm4 := host.tm4
    -- the command line of HS400 uses the sample delay of HS200
    let spdMd := if tm4.curSpdMd = hs400 then hs200Sdr104 else tm4.curSpdMd
    let sdly := chosenDelay tm4.sdly tm4.defSdly (delayIndex spdMd tm4.curFreq)
    let odly := chosenDelay tm4.odly tm4.defOdly (delayIndex tm4.curSpdMd tm4.curFreq)
    let tm4 := { tm4 with curOdly := odly, curSdly := sdly }
    writeOdly odly
    writeDelay sdly .sampDl
    if tm4.curSpdMd = hs400 then
      let dsdly := chosenDelay tm4.dsdly tm4.defDsdly tm4.curFreq.toNat
      writeDelay dsdly .dsDl
      return { host with tm4 := { tm4 with curDsdly := dsdly } }
    return { host with tm4 := tm4 }
  else pure host

/-! ### Clocks -/

/-- The frequency of the PLL, in MHz -/
def sunxiClockGetPll6 : HostProgram U32 := do
  let regVal ← readl .pllPeriph0
  let factorN := (regVal >>> 8 &&& 0x1f) + 1
  let factorK := (regVal >>> 4 &&& 0x03) + 1
  return 24 * factorN * factorK / 2

/-- The divider as a power of 2 and a factor -/
def mclkDivider (div : U32) : U32 × U32 :=
  if div > 128 then (0, 1)
  else if div > 64 then (3, div >>> 3)
  else if div > 32 then (2, div >>> 2)
  else if div > 16 then (1, div >>> 1)
  else (0, div)

/-- Sets the module clock by a source and two dividers. -/
def mmcSetMclk (clkHz : U32) : HostProgram Int := do
  let (src, sclkHz) ←
    if clkHz ≤ 4000000 then pure ((0 : U32), (24000000 : U32))
    else do
      let pll6 ← sunxiClockGetPll6
      pure (1, pll6 * 2 * 1000000)
  let div := (2 * sclkHz + clkHz) / (2 * clkHz)
  let (n, m) := mclkDivider (if div = 0 then 1 else div)
  writel (src <<< 24 ||| n <<< 16 ||| (m - 1)) .mclkbase
  return 0

/-- Computes the module clock from the register. -/
def mmcGetMclk : HostProgram U32 := do
  let rval ← readl .mclkbase
  let m := rval &&& 0xf
  let n := rval >>> 16 &&& 0x3
  let src := rval >>> 24 &&& 0x3
  let sclkHz ←
    if src = 0 then pure 24000000
    else if src = 1 then do
      let pll6 ← sunxiClockGetPll6
      pure (pll6 * 2 * 1000000)
    else pure 0
  return sclkHz / ((1 : U32) <<< n) / (m + 1)

/-- The host has one of the three timing modes. -/
def HasTimingMode (host : SunxiMmcHost) : Prop :=
  host.timingMode = sunxiMmcTimingMode1 ∨ host.timingMode = sunxiMmcTimingMode3 ∨
    host.timingMode = sunxiMmcTimingMode4

instance (host : SunxiMmcHost) : Decidable (HasTimingMode host) :=
  inferInstanceAs (Decidable (_ ∨ _))

/-- The module clock is to be four times that of the card, and not twice. -/
def HostCard.quarter (mmc : HostCard) (mode : U32) : Bool :=
  mmc.speedMode = hsddr52Ddr50 ∧
    (mode = sunxiMmcTimingMode1 ∨ mode = sunxiMmcTimingMode3 ∨
      mode = sunxiMmcTimingMode4 ∧ mmc.busWidth = 8)

/-- CLK_400K and so on -/
def freqId (clk : U32) : U32 :=
  if clk ≤ 400000 then 0
  else if clk ≤ 26000000 then 1
  else if clk ≤ 52000000 then 2
  else if clk ≤ 100000000 then 3
  else if clk ≤ 150000000 then 4
  else if clk ≤ 200000000 then 5
  else 1

/-- The current mode and frequency, in the structure of the timing mode -/
def SunxiMmcHost.setCurrent (host : SunxiMmcHost) (clk : U32) : SunxiMmcHost :=
  let set (timing : TimingMode) : TimingMode :=
    { timing with curSpdMd := host.mmc.speedMode, curFreq := freqId clk }
  if host.timingMode = sunxiMmcTimingMode1 then { host with tm1 := set host.tm1 }
  else if host.timingMode = sunxiMmcTimingMode3 then { host with tm3 := set host.tm3 }
  else if host.timingMode = sunxiMmcTimingMode4 then { host with tm4 := set host.tm4 }
  else host

/-- Sets the module clock, the divider and the delays for a clock of the card. -/
def mmcConfigClockModex (host : SunxiMmcHost) (clk : U32) : HostProgram (Int × SunxiMmcHost) := do
  let mode := host.timingMode
  let quarter := host.mmc.quarter mode
  writel 0 .mclkbase
  if mode = sunxiMmcTimingMode1 then
    writel ((← readl .ntsr) ||| bit 31) .ntsr
  else writel 0 .ntsr
  -- timing mode 3 keeps the module clock that was set before
  let modClk :=
    if mode = sunxiMmcTimingMode1 ∨ mode = sunxiMmcTimingMode4 then
      if quarter then clk * 4 else clk * 2
    else host.modClk
  let _ ← mmcSetMclk modClk
  let clock ←
    if HasTimingMode host then do
      let mclk ← mmcGetMclk
      pure (if quarter then mclk / 4 else mclk / 2)
    else pure host.mmc.clock
  let host : SunxiMmcHost :=
    { host with modClk := modClk, clock := clock, mmc := { host.mmc with clock := clock } }
  writel ((← readl .mclkbase) ||| bit 31) .mclkbase
  let rval := (← readl .clkcr) &&& ~~~0xff
  writel (if quarter then rval ||| 1 else rval) .clkcr
  if (← mmcUpdateClk) ≠ 0 then
    return (-1, host)
  let host ← mmcConfigDelay (host.setCurrent clk)
  return (0, host)

/-- The status of the clock and the delays is not looked at. -/
def mmcConfigClock (host : SunxiMmcHost) (clk : U32) : HostProgram (Int × SunxiMmcHost) := do
  writel ((← readl .clkcr) &&& ~~~bit 16) .clkcr
  if (← mmcUpdateClk) ≠ 0 then
    return (-1, host)
  if HasTimingMode host then
    let (_, host) ← mmcConfigClockModex host clk
    writel ((← readl .clkcr) ||| bit 16) .clkcr
    if (← mmcUpdateClk) ≠ 0 then
      return (-1, host)
    return (0, host)
  return (-1, host)

/-! ### Modes -/

/-- Switches double data rate. -/
def mmcDdrModeOnoff (on : Bool) : HostProgram Unit := do
  let rval := (← readl .gctrl) &&& ~~~bit 10
  writel (if on then rval ||| bit 10 else rval) .gctrl

/-- Switches HS400, on the controller that has it. -/
def mmcHs400ModeOnoff (host : SunxiMmcHost) (on : Bool) : HostProgram Unit :=
  if host.mmcNo ≠ 2 then pure ()
  else do
    let rval := (← readl .dsbd) &&& ~~~bit 31
    writel (if on then rval ||| bit 31 else rval) .dsbd

/-- Switches both for the speed mode of the card. -/
def mmcSetDdrMode (host : SunxiMmcHost) : HostProgram Unit := do
  mmcDdrModeOnoff (host.mmc.speedMode = hsddr52Ddr50)
  mmcHs400ModeOnoff host (host.mmc.speedMode = hs400)

/-! ### Calibration -/

/-- `while (!(readl(reg) & SDXC_CalDone));` -/
def awaitCalibrated (reg : HostReg) : Nat → HostProgram (Option Unit)
  | 0 => pure none
  | turns + 1 => do
    if (← readl reg) &&& sdxcCalDone = 0 then awaitCalibrated reg turns else return some ()

/-- Starts a calibration and waits for the end of it. -/
def calibrate (reg : HostReg) (turns : Nat) : HostProgram (Option Unit) := do
  writel 0xa0 reg
  writel 0 reg
  writel sdxcStartCal reg
  awaitCalibrated reg turns

/-- The picoseconds of a unit of a delay chain, or nothing if the calibration has failed. -/
def calibratedUnit (reg : HostReg) : HostProgram (Option U32) := do
  let result := ((← readl reg) &&& sdxcCalDly) >>> 8
  return if result ≠ 0 then some (5000 / result) else none

/-- The units of the delay chains, as far as they were calibrated -/
def SunxiMmcHost.setUnits (host : SunxiMmcHost) (sdly dsdly : Option U32) : SunxiMmcHost :=
  let host :=
    match sdly with
    | some picoseconds =>
      { host with
        tm3 := { host.tm3 with sdlyUnitPs := picoseconds, dlyCalibrateDone := 1 }
        tm4 := { host.tm4 with sdlyUnitPs := picoseconds } }
    | none => host
  match dsdly with
  | some picoseconds =>
    { host with tm4 := { host.tm4 with dsdlyUnitPs := picoseconds, dlyCalibrateDone := 1 } }
  | none => host

/-- Measures the delay of a step. -/
def mmcCalibrateDelayUnit (turns : Nat) (host : SunxiMmcHost) :
    HostProgram (Option (Int × SunxiMmcHost)) := do
  writel ((← readl .clkcr) &&& ~~~bit 16) .clkcr
  if (← mmcUpdateClk) ≠ 0 then
    return some (-1, host)
  if ¬HasTimingMode host then
    return some (-1, host)
  let (_, host) ← mmcConfigClockModex host 100000000
  match ← calibrate .sampDl turns with
  | none => return none
  | some () =>
    match ← if host.mmcNo = 2 ∨ host.mmcNo = 3 then calibrate .dsDl turns else pure (some ()) with
    | none => return none
    | some () =>
      let sdly ← calibratedUnit .sampDl
      let dsdly ← if host.mmcNo = 2 then calibratedUnit .dsDl else pure none
      return some (0, host.setUnits sdly dsdly)

/-! ### The operations -/

/-- Resets the controller and sets it up. -/
def SunxiMmcHost.mmcCoreInit (host : SunxiMmcHost) (turns : Nat) :
    HostProgram (Option (Int × SunxiMmcHost)) := do
  writel 7 .gctrl
  match ← awaitClear .gctrl 7 turns with
  | none => return none
  | some () =>
    writel 1 .hwrst
    writel 0 .hwrst
    writel 1 .hwrst
    writel 0xffffffff .timeout
    writel (512 <<< 16 ||| bit 2 ||| bit 0) .thldc
    writel 3 .csdc
    writel 0xdeb .dbgc
    match ← mmcCalibrateDelayUnit turns host with
    | none => return none
    | some (_, host) => return some (0, host)

/-- `mmc_set_ios`, for what the core has set before -/
def SunxiMmcHost.mmcSetIos (host : SunxiMmcHost) : HostProgram SunxiMmcHost := do
  let (error, host) ←
    if host.mmc.clock ≠ 0 then mmcConfigClock host host.mmc.clock else pure (0, host)
  if error ≠ 0 then
    return { host with fatalErr := 1 }
  writel (if host.mmc.busWidth = 8 then 2 else if host.mmc.busWidth = 4 then 1 else 0) .width
  mmcSetDdrMode host
  return host

/-- The calls that set the controller up; before `mmc_set_ios` the core sets the fields of the
card. -/
inductive SetupCall : Type where
  | mmcCoreInit
  | mmcSetIos (mmc : HostCard)
  | mmcConfigDelay

/-- What a call runs -/
def SunxiMmcHost.setUpCall (host : SunxiMmcHost) (turns : Nat) :
    SetupCall → HostProgram (Option SunxiMmcHost)
  | .mmcCoreInit => do return (← host.mmcCoreInit turns).map Prod.snd
  | .mmcSetIos mmc => do return some (← { host with mmc := mmc }.mmcSetIos)
  | .mmcConfigDelay => do return some (← PinePhonePkg.mmcConfigDelay host)

/-- The calls in order; there is no host when one of them does not end. -/
def SunxiMmcHost.setUp (host : SunxiMmcHost) (turns : Nat) :
    List SetupCall → HostProgram (Option SunxiMmcHost)
  | [] => pure (some host)
  | call :: calls => do
    match ← host.setUpCall turns call with
    | none => return none
    | some host => host.setUp turns calls

end PinePhonePkg
