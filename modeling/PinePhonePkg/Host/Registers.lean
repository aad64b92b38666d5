/-
This file models how the host driver reaches its controller and the clock unit:
by reading and writing registers, which the driver does in programs, and the data
of the driver that its functions pass on. Waits of a fixed time are left out, and
so is what is printed.
-/

import PinePhonePkg.Mmc.Types

namespace PinePhonePkg

open Library

/-! ### Registers -/

/-- `1 << place` -/
def bit (place : Nat) : U32 := BitVec.twoPow 32 place

/-- The registers of `struct mmc_reg_v4p1` and of the clock unit that the driver uses -/
inductive HostReg : Type where
  | gctrl
  | clkcr
  | timeout
  | width
  | blksz
  | bytecnt
  | cmd
  | arg
  | resp0
  | resp1
  | resp2
  | resp3
  | imask
  | rint
  | status
  | ftrglevel
  | bbcr
  | dbgc
  | csdc
  | ntsr
  | hwrst
  | dmac
  | dlba
  | idst
  | idie
  | thldc
  | dsbd
  | drvDl
  | sampDl
  | dsDl
  | database
  | mclkbase
  | hclkbase
  | hclkrst
  | pllPeriph0
deriving DecidableEq

/-- `struct mmc_des_v4p1`, without what is always 0 -/
structure MmcDes : Type where
  dic : Bool
  lastDes : Bool
  firstDes : Bool
  desChain : Bool
  endOfRing : Bool
  own : Bool
  dataBuf1Sz : BitVec 16
  bufAddrPtr1 : U32
  bufAddrPtr2 : U32
deriving DecidableEq

/-- What the driver asks of its surroundings: the registers, words of the buffer of a read, and
the descriptors of a transfer. -/
inductive HostRequest : Type where
  | readl (reg : HostReg)
  | writel (value : U32) (reg : HostReg)
  | storeWord (index : Nat) (value : U32)
  | setDes (index : Nat) (des : MmcDes)
deriving DecidableEq

/-- What comes back; only a read has a reply. -/
@[reducible]
def HostRequest.Reply : HostRequest → Type
  | .readl _ => U32
  | _ => Unit

/-- A program against the controller -/
abbrev HostProgram (Result : Type) : Type := Program HostRequest HostRequest.Reply Result

/-- Reads a register. -/
def readl (reg : HostReg) : HostProgram U32 := Program.send (HostRequest.readl reg)

/-- Writes a register. -/
def writel (value : U32) (reg : HostReg) : HostProgram Unit :=
  Program.send (HostRequest.writel value reg)

/-- Reads a register and writes it back changed. -/
def modifyReg (change : U32 → U32) (reg : HostReg) : HostProgram Unit := do
  writel (change (← readl reg)) reg

/-- `while (readl(reg) & mask);` with the number of reads after which it is given up as endless -/
def awaitClear (reg : HostReg) (mask : U32) : Nat → HostProgram (Option Unit)
  | 0 => pure none
  | turns + 1 => do
    if (← readl reg) &&& mask ≠ 0 then awaitClear reg mask turns else return some ()

/-! ### Data of the driver -/

/-- The numbers of the timing modes -/
def sunxiMmcTimingMode1 : U32 := 1
def sunxiMmcTimingMode3 : U32 := 3
def sunxiMmcTimingMode4 : U32 := 4

/-- The fields of the structures of the timing modes; those of the data strobe are used in timing
mode 4 only. -/
structure TimingMode : Type where
  curSpdMd : U32
  curFreq : U32
  odly : Nat → U8
  sdly : Nat → U8
  dsdly : Nat → U8
  defOdly : Nat → U8
  defSdly : Nat → U8
  defDsdly : Nat → U8
  sdlyUnitPs : U32
  dsdlyUnitPs : U32
  dlyCalibrateDone : U8
  curOdly : U8
  curSdly : U8
  curDsdly : U8

/-- The fields of `struct mmc` that the host driver uses -/
structure HostCard : Type where
  speedMode : U32
  busWidth : U32
  clock : U32
  doTuning : U32

/-- `struct sunxi_mmc_host`; `pdes` is the address of the descriptors. -/
structure SunxiMmcHost : Type where
  mmcNo : Nat
  fatalErr : U32
  clock : U32
  modClk : U32
  pdes : Ulong
  timingMode : U32
  tm1 : TimingMode
  tm3 : TimingMode
  tm4 : TimingMode
  rawIntBak : U32
  mmc : HostCard

/-! ### The clock of the card -/

/-- The reads of the command register in `mmc_update_clk`: whether the update was over in time. -/
def awaitUpdate : Nat → HostProgram Bool
  | 0 => pure false
  | timeout + 1 => do
    if (← readl .cmd) &&& bit 31 ≠ 0 then awaitUpdate timeout else return true

/-- Asks the controller to take the clock over. -/
def startUpdate : HostProgram Unit := do
  modifyReg (· ||| bit 31) .clkcr
  writel (bit 31 ||| bit 21 ||| bit 13) .cmd

/-- What is done when the update was over in time -/
def finishUpdate : HostProgram Int := do
  modifyReg (· &&& ~~~bit 31) .clkcr
  writel (← readl .rint) .rint
  return 0

/-- Has the clock taken over, within a thousand reads. -/
def mmcUpdateClk : HostProgram Int := do
  startUpdate
  if ← awaitUpdate 1000 then finishUpdate else return -1

/-- The gates and the reset of the bus, and the gate of the module clock; the second result is
`mod_clk`. -/
def mmcClkIoOnoff (host : SunxiMmcHost) (onoff resetClk : Bool) : HostProgram (Int × U32) := do
  let bus := bit (8 + host.mmcNo)
  if onoff then
    modifyReg (· ||| bus) .hclkrst
    modifyReg (· ||| bus) .hclkbase
    modifyReg (· ||| bit 31) .mclkbase
  else
    modifyReg (· &&& ~~~bit 31) .mclkbase
    modifyReg (· &&& ~~~bus) .hclkbase
    modifyReg (· &&& ~~~bus) .hclkrst
  if resetClk then
    modifyReg (· &&& ~~~0x7fffffff) .mclkbase
    return (0, 24000000)
  return (0, host.modClk)

end PinePhonePkg
