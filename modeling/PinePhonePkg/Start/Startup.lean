/-
This file embeds `mmc_startup`: the card is identified and selected, CSD and
EXT_CSD are taken apart into the fields of the descriptor, the speed is raised,
and the bus is widened. The source is one long function; its parts stand here as
functions of their own, in the order of the source, each of which may end the
start-up with an error.

The stack of `mmc_startup` holds two things that the source does not set before
it uses them, the buffer for EXT_CSD and the command record. What they hold at
first is an argument.
-/

import PinePhonePkg.Library.Words
import PinePhonePkg.Mmc.BusMode
import PinePhonePkg.Start.Types

namespace PinePhonePkg

open Library

/-! ### The environment of the functions in use -/

/-- `mmc_set_ios` -/
def StartMmc.setIos (mmc : StartMmc) : StartDriver Unit :=
  inUse (mmcSetIos mmc.described)

/-- Has the host look for the phase. -/
def StartMmc.updatePhase (mmc : StartMmc) : StartDriver Int :=
  inUse (mmcUpdatePhase mmc.described)

/-- Waits until the card is ready. -/
def StartMmc.sendStatus (mmc : StartMmc) (timeout : U32) : StartDriver Int :=
  inUse (mmcSendStatus mmc.described timeout)

/-- Writes a byte of the extended register. -/
def StartMmc.switch (mmc : StartMmc) (index value : U8) : StartDriver Int :=
  inUse (mmcSwitch mmc.described index value)

/-- `mmc_set_clock` -/
def mmcSetClock (mmc : StartMmc) (clock : U32) : StartDriver StartMmc := do
  let clock := if clock > mmc.cfg.fMax then mmc.cfg.fMax else clock
  let clock := if clock < mmc.cfg.fMin then mmc.cfg.fMin else clock
  let mmc := { mmc with clock := clock }
  mmc.setIos
  return mmc

/-- `mmc_set_bus_width` -/
def StartMmc.setBusWidth (mmc : StartMmc) (width : U32) : StartDriver StartMmc := do
  let mmc := { mmc with busWidth := width }
  mmc.setIos
  return mmc

/-! ### Identification and address -/

@[match_pattern] abbrev mmcCmdAllSendCid : Nat := 2

@[match_pattern] abbrev sdCmdSendRelativeAddr : Nat := 3

@[match_pattern] abbrev mmcCmdSetDsr : Nat := 4

@[match_pattern] abbrev mmcCmdSelectCard : Nat := 7

@[match_pattern] abbrev mmcCmdSendCsd : Nat := 9

/-- What `mmc_startup` finds on its stack -/
structure StartStack where
  cmd : MmcCmd
  extCsd : Buffer

/-- CMD2, in the command that is used again and again -/
def allSendCidCmd (cmd : MmcCmd) : MmcCmd :=
  { cmd with cmdidx := mmcCmdAllSendCid, respType := mmcRspR2, cmdarg := 0, flags := some 0 }

/-- CMD3 -/
def sendRelativeAddrCmd (mmc : StartMmc) (cmd : MmcCmd) : MmcCmd :=
  { cmd with
    cmdidx := sdCmdSendRelativeAddr
    cmdarg := mmc.rca.setWidth 32 <<< 16
    respType := mmcRspR6
    flags := some 0 }

/-- A card tells its CID; an SD card then tells its address and an MMC card is given one. -/
def identifyCard (cmd : MmcCmd) (mmc : StartMmc) : StartDriver (Int × MmcCmd × StartMmc) := do
  let cmd := allSendCidCmd cmd
  let reply ← startCmd cmd none
  if reply.error ≠ 0 then
    return (reply.error, cmd, mmc)
  let mmc := { mmc with cid := reply.response }
  let cmd := sendRelativeAddrCmd mmc cmd
  let reply ← startCmd cmd none
  if reply.error ≠ 0 then
    return (reply.error, cmd, mmc)
  if mmc.isSd then
    return (0, cmd, { mmc with
      rca := (getElem reply.response 0 zero_lt_words >>> 16 &&& 0xffff).setWidth 16 })
  return (0, cmd, mmc)

/-! ### CSD -/

/-- CMD9 -/
def sendCsdCmd (mmc : StartMmc) (cmd : MmcCmd) : MmcCmd :=
  { cmd with
    cmdidx := mmcCmdSendCsd
    respType := mmcRspR2
    cmdarg := mmc.rca.setWidth 32 <<< 16
    flags := some 0 }

/-- The version of an MMC by its register -/
def csdVersion (response : Vector U32 4) : U32 :=
  match (getElem response 0 zero_lt_words >>> 26 &&& 0xf).toNat with
  | 0 => mmcVersion12
  | 1 => mmcVersion14
  | 2 => mmcVersion22
  | 3 => mmcVersion3
  | 4 => mmcVersion4
  | _ => mmcVersion12

/-- The four frequency bases; the field of CSD that selects one has three bits. -/
def fbase : Nat → Option U32
  | 0 => some 10000
  | 1 => some 100000
  | 2 => some 1000000
  | 3 => some 10000000
  | _ => none

/-- The factors of the transfer speed, in tenths -/
def multipliers : List U32 := [0, 10, 12, 13, 15, 20, 25, 30, 35, 40, 45, 50, 55, 60, 70, 80]

/-- Behind the end of the table is any word. -/
def readFbase (index : Nat) : StartDriver U32 :=
  match fbase index with
  | some freq => pure freq
  | none => inUse (ask .unsetWord)

/-- The factor of the transfer speed -/
def tranMult (response : Vector U32 4) : U32 :=
  multipliers.getD (getElem response 0 zero_lt_words >>> 3 &&& 0xf).toNat 0

/-- The length of a block that is read -/
def csdReadBlLen (csd : Vector U32 4) : U32 :=
  (1 : U32) <<< (csd[1] >>> 16 &&& 0xf).toNat

/-- The length of a block that is written -/
def csdWriteBlLen (csd : Vector U32 4) : U32 :=
  (1 : U32) <<< (getElem csd 3 three_lt_words >>> 22 &&& 0xf).toNat

/-- The field of the size of the card -/
def csdCsize (highCapacity : Bool) (csd : Vector U32 4) : Ulong :=
  if highCapacity then
    ((csd[1] &&& 0x3f) <<< 16 ||| (csd[2] &&& 0xffff0000) >>> 16).setWidth 64
  else
    ((csd[1] &&& 0x3ff) <<< 2 ||| (csd[2] &&& 0xc0000000) >>> 30).setWidth 64

/-- The exponent that goes with it -/
def csdCmult (highCapacity : Bool) (csd : Vector U32 4) : Ulong :=
  if highCapacity then 8
  else ((csd[2] &&& 0x00038000) >>> 15).setWidth 64

/-- `capacity_user` as CSD gives it -/
def csdCapacity (highCapacity : Bool) (csd : Vector U32 4) : Ulong :=
  (csdCsize highCapacity csd + 1) <<< (csdCmult highCapacity csd + 2) *
    (csdReadBlLen csd).setWidth 64

/-- A length of at most 512 bytes -/
def atMostMaxBlockLen (length : U32) : U32 :=
  if length > mmcMaxBlockLen then mmcMaxBlockLen else length

/-- The fields that follow from CSD -/
def StartMmc.decodeCsd (mmc : StartMmc) (freq : U32) (response : Vector U32 4) : StartMmc :=
  let version := if mmc.version = mmcVersionUnknown then csdVersion response else mmc.version
  let mmc := { mmc with csd := response, version := version }
  let readBlLen := csdReadBlLen response
  let writeBlLen := if mmc.isSd then readBlLen else csdWriteBlLen response
  { mmc with
    tranSpeed := freq * tranMult response
    dsrImp := response[1] >>> 12 &&& 0x1
    capacityUser := csdCapacity mmc.highCapacity response
    capacityBoot := 0
    capacityRpmb := 0
    capacityGp := fun _ => 0
    readBlLen := atMostMaxBlockLen readBlLen
    writeBlLen := atMostMaxBlockLen writeBlLen }

/-- The status is waited for whether CSD was sent or not, and is not looked at. -/
def readCsd (cmd : MmcCmd) (mmc : StartMmc) : StartDriver (Int × MmcCmd × StartMmc) := do
  let cmd := sendCsdCmd mmc cmd
  let reply ← startCmd cmd none
  let _ ← mmc.sendStatus 1000
  if reply.error ≠ 0 then
    return (reply.error, cmd, mmc)
  let freq ← readFbase (getElem reply.response 0 zero_lt_words &&& 0x7).toNat
  return (0, cmd, mmc.decodeCsd freq reply.response)

/-! ### Selection -/

/-- The flags stay as they are in the record. -/
def setDsrCmd (mmc : StartMmc) (cmd : MmcCmd) : MmcCmd :=
  { cmd with
    cmdidx := mmcCmdSetDsr
    cmdarg := (mmc.dsr &&& 0xffff) <<< 16
    respType := mmcRspNone }

/-- A failure is only printed. -/
def setDsr (cmd : MmcCmd) (mmc : StartMmc) : StartDriver MmcCmd := do
  if mmc.dsrImp ≠ 0 ∧ mmc.dsr ≠ 0xffffffff then
    let cmd := setDsrCmd mmc cmd
    let _ ← startCmd cmd none
    return cmd
  else return cmd

/-- CMD7 -/
def selectCardCmd (mmc : StartMmc) (cmd : MmcCmd) : MmcCmd :=
  { cmd with
    cmdidx := mmcCmdSelectCard
    respType := mmcRspR1b
    cmdarg := mmc.rca.setWidth 32 <<< 16
    flags := some 0 }

/-- Sets the drivers of the lines if there are any to set, and selects the card. -/
def selectCard (cmd : MmcCmd) (mmc : StartMmc) : StartDriver (Int × StartMmc) := do
  let cmd ← setDsr cmd mmc
  let reply ← startCmd (selectCardCmd mmc cmd) none
  if reply.error ≠ 0 then
    return (reply.error, mmc)
  let mmc ← mmcSetClock mmc 25000000
  return (0, { mmc with eraseGrpSize := 1, partConfig := mmcpartNoavailable })

/-- Everything in front of EXT_CSD -/
def reachTransferMode (cmd : MmcCmd) (mmc : StartMmc) : StartDriver (Int × StartMmc) := do
  let (err, cmd, mmc) ← identifyCard cmd mmc
  if err ≠ 0 then
    return (err, mmc)
  let (err, cmd, mmc) ← readCsd cmd mmc
  if err ≠ 0 then
    return (err, mmc)
  selectCard cmd mmc

/-! ### EXT_CSD -/

def extCsdSecureRemoalType : Nat := 16

def extCsdGpSizeMult : Nat := 143

def extCsdPartitionsAttribute : Nat := 156

def extCsdPartitioningSupport : Nat := 160

def extCsdRpmbMult : Nat := 168

def extCsdBootBusWidth : Nat := 177

def extCsdSecCnt : Nat := 212

def extCsdHcWpGrpSize : Nat := 221

def extCsdHcEraseGrpSize : Nat := 224

def extCsdBootMult : Nat := 226

def extCsdSecFeatureSupport : Nat := 231

def extCsdPreEolInfo : Nat := 267

def extCsdDeviceLifeTimeEstTypA : Nat := 268

def extCsdDeviceLifeTimeEstTypB : Nat := 269

def extCsdVendorHealthReport : Nat := 270

def partSupport : U8 := 0x1

def partEnhAttrib : U8 := 0x1f

/-- `*(u32*)(ext_csd+EXT_CSD_SEC_CNT)` -/
def secCnt (extCsd : Buffer) : U32 :=
  BitVec.ofNat 32 (Memory.word extCsd extCsdSecCnt 4)

/-- The number of sectors counts from revision 2 on, and if it is more than 2 GiB. -/
def StartMmc.takeSecCnt (mmc : StartMmc) (err : Int) (extCsd : Buffer) : StartMmc :=
  let capacity : Ulong := (secCnt extCsd).setWidth 64 * mmcMaxBlockLen.setWidth 64
  if err = 0 ∧ extCsd extCsdRev ≥ 2 ∧ capacity >>> 20 > 2 * 1024 then
    { mmc with capacityUser := capacity }
  else mmc

/-- The version by the revision of the register; a revision that is not known leaves it. -/
def extCsdVersion (version : U32) (rev : U8) : U32 :=
  match rev.toNat with
  | 0 => mmcVersion4
  | 1 => mmcVersion41
  | 2 => mmcVersion42
  | 3 => mmcVersion43
  | 5 => mmcVersion441
  | 6 => mmcVersion45
  | 7 => mmcVersion50
  | 8 => mmcVersion51
  | _ => if rev > 8 then mmcVersionNewVer else version

/-- The size of the erase groups without the extended register -/
def StartMmc.defEraseGrpSize (mmc : StartMmc) : U32 :=
  ((mmc.csd[2] &&& 0x00007c00) >>> 10 + 1) * ((mmc.csd[2] &&& 0x000003e0) >>> 5 + 1)

/-- The large size of the erase groups, in blocks -/
def StartMmc.hcEraseGprSize (mmc : StartMmc) (extCsd : Buffer) : U32 :=
  (extCsd extCsdHcEraseGrpSize).setWidth 32 * mmcMaxBlockLen * 1024 / mmc.writeBlLen

/-- The timeout that goes with the large size -/
def hcEraseTimeout (extCsd : Buffer) : U32 :=
  300 * (extCsd extCsdEraseTimeoutMult).setWidth 32

/-- Keeps the size of the erase groups: the large one if it is in use and complete. -/
def StartMmc.takeEraseGrpSize (mmc : StartMmc) (extCsd : Buffer) : StartMmc :=
  { mmc with
    eraseGrpSize :=
      if extCsd extCsdEraseGroupDef ≠ 0 ∧ mmc.hcEraseGprSize extCsd ≠ 0 ∧
          hcEraseTimeout extCsd ≠ 0 then mmc.hcEraseGprSize extCsd
      else mmc.defEraseGrpSize }

/-- The device is partitioned with the enhanced attribute. -/
def isPartitioned (extCsd : Buffer) : Bool :=
  extCsd extCsdPartitioningSupport &&& partSupport ≠ 0 ∧
    extCsd extCsdPartitionsAttribute &&& partEnhAttrib ≠ 0

/-- A multiple of 128 KiB -/
def multCapacity (mult : U8) : Ulong :=
  (mult.setWidth 32 * 128 * 1024 : U32).setWidth 64

/-- The size of a general purpose partition, in write protect groups and then in bytes -/
def gpCapacity (extCsd : Buffer) (index : Fin 4) : Ulong :=
  let idx := extCsdGpSizeMult + index.val * 3
  ((extCsd (idx + 2)).setWidth 64 <<< 16 + (extCsd (idx + 1)).setWidth 64 <<< 8 +
      (extCsd idx).setWidth 64) *
    (extCsd extCsdHcEraseGrpSize).setWidth 64 * (extCsd extCsdHcWpGrpSize).setWidth 64

/-- `store the partition info of emmc` -/
def StartMmc.takePartitions (mmc : StartMmc) (extCsd : Buffer) : StartMmc :=
  if extCsd extCsdPartitioningSupport &&& partSupport ≠ 0 ∨ extCsd extCsdBootMult ≠ 0 then
    let boots : Bool := multCapacity (extCsd extCsdBootMult) ≠ 0
    { mmc with
      partConfig := extCsd extCsdPartConf.toNat
      capacityBoot := multCapacity (extCsd extCsdBootMult)
      capacityRpmb := multCapacity (extCsd extCsdRpmbMult)
      bootSupport := if boots then 1 else mmc.bootSupport
      bootBusCond := if boots then extCsd extCsdBootBusWidth else mmc.bootBusCond
      capacityGp := gpCapacity extCsd }
  else mmc

/-- What is only copied -/
def StartMmc.takeFeatures (mmc : StartMmc) (extCsd : Buffer) : StartMmc :=
  { mmc with
    secureFeature := extCsd extCsdSecFeatureSupport
    secureRemovalType := extCsd extCsdSecureRemoalType
    preEolInfo := extCsd extCsdPreEolInfo
    devLifeTimeTypea := extCsd extCsdDeviceLifeTimeEstTypA
    devLifeTimeTypeb := extCsd extCsdDeviceLifeTimeEstTypB
    vendorHealthReport := fun index => extCsd (extCsdVendorHealthReport + index) }

/-- EXT_CSD is used whether it could be read or not, but for the number of sectors. -/
def useExtCsd (err : Int) (extCsd : Buffer) (mmc : StartMmc) : StartDriver (Int × StartMmc) := do
  let mmc := mmc.takeSecCnt err extCsd
  let mmc := { mmc with version := extCsdVersion mmc.version (extCsd extCsdRev) }
  let updated ← inUse (mmcMmcUpdateTimeout mmc.described)
  let mmc := (mmc.withTimeouts updated).takeEraseGrpSize extCsd
  if isPartitioned extCsd then
    let err ← mmc.switch (BitVec.ofNat 8 extCsdEraseGroupDef) 1
    if err ≠ 0 then
      return (err, mmc)
    let mmc := { mmc with eraseGrpSize := mmc.hcEraseGprSize extCsd }
    return (0, (mmc.takePartitions extCsd).takeFeatures extCsd)
  return (0, (mmc.takePartitions extCsd).takeFeatures extCsd)

/-- What the buffer holds after the command that reads EXT_CSD into it -/
def heldExtCsd (stack : StartStack) (reply : StartCmdReply) : Buffer :=
  if reply.error = 0 then reply.dest else stack.extCsd

/-- Only an eMMC has EXT_CSD. -/
def StartMmc.hasExtCsd (mmc : StartMmc) : Bool :=
  !mmc.isSd && mmc.version ≥ mmcVersion4

/-- Reads the extended register of a card that has one, and keeps what is used of it. -/
def readExtCsd (stack : StartStack) (mmc : StartMmc) : StartDriver (Int × StartMmc) := do
  if mmc.hasExtCsd then
    let reply ← startCmd sendExtCsdCmd (some sendExtCsdData)
    useExtCsd reply.error (heldExtCsd stack reply) mmc
  else return (0, mmc)

/-- The capacity that `mmc_set_capacity` selects by the number of the partition -/
def StartMmc.partCapacity (mmc : StartMmc) (partNum : U8) : Option Ulong :=
  match partNum.toNat with
  | 0 => some mmc.capacityUser
  | 1 => some mmc.capacityBoot
  | 2 => some mmc.capacityBoot
  | 3 => some mmc.capacityRpmb
  | 4 => some (mmc.capacityGp 0)
  | 5 => some (mmc.capacityGp 1)
  | 6 => some (mmc.capacityGp 2)
  | 7 => some (mmc.capacityGp 3)
  | _ => none

/-- Keeps the capacity of a partition, in bytes and in sectors. -/
def mmcSetCapacity (mmc : StartMmc) (partNum : U8) : Int × StartMmc :=
  match mmc.partCapacity partNum with
  | some capacity =>
    let lba := (capacity >>> 9).setWidth 32
    (0, { mmc with capacity := capacity, blockDev := { mmc.blockDev with lba := lba }, lba := lba })
  | none => (-1, mmc)

/-! ### The speed of an eMMC -/

/-- The byte of the timing, as a place in the register -/
def extCsdTimingHsByte : Nat := extCsdHsTiming.toNat

/-- The modes the card has no type for are taken from the host. -/
def hostCapsFor (hostCaps : U32) (cardtype : U8) : U32 :=
  let caps :=
    if cardtype &&& extCsdCardTypeHs400 = 0 then hostCaps &&& ~~~mmcModeHs400 else hostCaps
  let caps := if cardtype &&& extCsdCardTypeHs200 = 0 then caps &&& ~~~mmcModeHs200 else caps
  if cardtype &&& extCsdCardTypeDdr52 = 0 then caps &&& ~~~mmcModeDdr52Mhz else caps

/-- Another set of modes that the host has -/
def StartMmc.withHostCaps (mmc : StartMmc) (hostCaps : U32) : StartMmc :=
  { mmc with cfg := { mmc.cfg with hostCaps := hostCaps } }

/-- `do { err = mmc_switch(..); if (!err) break; } while (retry--);` -/
def retrySwitch (mmc : StartMmc) (index value : U8) : Nat → StartDriver Int
  | 0 => mmc.switch index value
  | retry + 1 => do
    let err ← mmc.switch index value
    if err = 0 then
      return 0
    retrySwitch mmc index value retry

/-- Switches an MMC to high speed where it can, and keeps the modes it has. -/
def mmcChangeFreq (mmc : StartMmc) : StartDriver (Int × StartMmc) := do
  let mmc := { mmc with cardCaps := 0 }
  if mmc.version < mmcVersion4 then
    return (0, mmc)
  let mmc := { mmc with cardCaps := mmcMode4Bit ||| mmcMode8Bit }
  let (err, extCsd) ← inUse mmcSendExtCsd
  if err ≠ 0 then
    return (err, mmc)
  let cardtype := extCsd extCsdCardType
  let mmc := mmc.withHostCaps (hostCapsFor mmc.cfg.hostCaps cardtype)
  let err ← retrySwitch mmc extCsdHsTiming extCsdTimingHs 5
  if err ≠ 0 then
    return (err, mmc)
  let err ← mmc.updatePhase
  if err ≠ 0 then
    return (err, mmc)
  let (err, extCsd) ← inUse mmcSendExtCsd
  if err ≠ 0 then
    return (err, mmc)
  if extCsd extCsdTimingHsByte = 0 then
    return (0, mmc)
  if cardtype &&& extCsdCardTypeHs ≠ 0 then
    return (0, { mmc with
      speedMode := hssdr52Sdr25
      cardCaps := mmc.cardCaps ||| mmcModeHs52Mhz ||| mmcModeHs })
  return (0, { mmc with speedMode := ds26Sdr12, cardCaps := mmc.cardCaps ||| mmcModeHs })

/-! ### The speed of an SD card -/

@[match_pattern] abbrev mmcCmdAppCmd : Nat := 55

@[match_pattern] abbrev sdCmdAppSendScr : Nat := 51

@[match_pattern] abbrev sdCmdSwitchFunc : Nat := 6

@[match_pattern] abbrev sdCmdAppSetBusWidth : Nat := 6

def sdData4Bit : U32 := 0x00040000

def sdHighspeedBusy : U32 := 0x00020000

def sdHighspeedSupported : U32 := 0x00020000

def sdSwitchCheck : U32 := 0

def sdSwitchSwitch : U32 := 1

/-- `__be32_to_cpu` of a word of a buffer -/
def beWord (buffer : Buffer) (index : Nat) : U32 :=
  buffer (4 * index) ++ buffer (4 * index + 1) ++ buffer (4 * index + 2) ++ buffer (4 * index + 3)

/-- CMD55 -/
def appCmd (rca : BitVec 16) : MmcCmd :=
  ⟨mmcCmdAppCmd, mmcRspR1, rca.setWidth 32 <<< 16, some 0⟩

/-- ACMD51 -/
def appSendScrCmd : MmcCmd :=
  ⟨sdCmdAppSendScr, mmcRspR1, 0, some 0⟩

/-- Room for the eight bytes of the register -/
def appSendScrData : MmcData :=
  ⟨fun _ => 0, mmcDataRead, 1, 8⟩

/-- SCR is asked for again up to three times. -/
def readScr : Nat → StartDriver StartCmdReply
  | 0 => startCmd appSendScrCmd (some appSendScrData)
  | timeout + 1 => do
    let reply ← startCmd appSendScrCmd (some appSendScrData)
    if reply.error = 0 then
      return reply
    readScr timeout

/-- The version of an SD card by its register; others count as version 1. -/
def scrVersion (scr : U32) : U32 :=
  match (scr >>> 24 &&& 0xf).toNat with
  | 0 => sdVersion10
  | 1 => sdVersion110
  | 2 => if scr >>> 15 &&& 0x1 ≠ 0 then sdVersion3 else sdVersion2
  | _ => sdVersion10

/-- `sd_switch` of function group `group` to `value` -/
def switchFuncCmd (mode group value : U32) : MmcCmd :=
  ⟨sdCmdSwitchFunc, mmcRspR1,
    (mode <<< 31 ||| 0xffffff) &&& ~~~((0xf : U32) <<< (group * 4)) ||| value <<< (group * 4), some 0⟩

/-- Room for the 64 bytes of the status -/
def switchFuncData : MmcData :=
  ⟨fun _ => 0, mmcDataRead, 1, 64⟩

/-- Checks or switches a function of an SD card. -/
def sdSwitch (mode group value : U32) : StartDriver StartCmdReply :=
  startCmd (switchFuncCmd mode group value) (some switchFuncData)

/-- `while (timeout--)`, of which the last turn counts as not busy -/
def checkHighSpeed : Nat → StartDriver StartCmdReply
  | 0 => sdSwitch sdSwitchCheck 0 1
  | timeout + 1 => do
    let reply ← sdSwitch sdSwitchCheck 0 1
    if reply.error ≠ 0 ∨ beWord reply.dest 7 &&& sdHighspeedBusy = 0 then
      return reply
    checkHighSpeed timeout

/-- What the host cannot do with an SD card -/
def sdHostCaps (hostCaps : U32) : U32 :=
  hostCaps &&& ~~~mmcModeHs400 &&& ~~~mmcModeHs200 &&& ~~~mmcModeDdr52Mhz &&& ~~~mmcMode8Bit

/-- The second half of `sd_change_freq`, for a card that knows CMD6 -/
def sdRaiseSpeed (mmc : StartMmc) : StartDriver (Int × StartMmc) := do
  let check ← checkHighSpeed 3
  if check.error ≠ 0 then
    return (check.error, mmc)
  if beWord check.dest 3 &&& sdHighspeedSupported = 0 then
    return (0, mmc)
  if mmc.cfg.hostCaps &&& mmcModeHs52Mhz = 0 ∨ mmc.cfg.hostCaps &&& mmcModeHs = 0 then
    return (0, mmc)
  let change ← sdSwitch sdSwitchSwitch 0 1
  if change.error ≠ 0 then
    return (change.error, mmc)
  mmc.setIos
  let err ← mmc.updatePhase
  if err ≠ 0 then
    return (err, mmc)
  let mmc :=
    if beWord change.dest 4 &&& 0x0f000000 = 0x01000000 then
      { mmc with cardCaps := mmc.cardCaps ||| mmcModeHs, speedMode := hssdr52Sdr25 }
    else mmc
  return (0, mmc.withHostCaps (sdHostCaps mmc.cfg.hostCaps))

/-- Switches an SD card to high speed where it can. -/
def sdChangeFreq (mmc : StartMmc) : StartDriver (Int × StartMmc) := do
  let mmc := { mmc with cardCaps := 0 }
  let reply ← startCmd (appCmd mmc.rca) none
  if reply.error ≠ 0 then
    return (reply.error, mmc)
  let reply ← readScr 3
  if reply.error ≠ 0 then
    return (reply.error, mmc)
  let scr := beWord reply.dest 0
  let mmc := { mmc with
    scr := #v[scr, beWord reply.dest 1]
    version := scrVersion scr
    cardCaps := if scr &&& sdData4Bit ≠ 0 then mmcMode4Bit else 0 }
  if mmc.version = sdVersion10 then
    return (0, mmc)
  sdRaiseSpeed mmc

/-! ### The width of the bus -/

/-- ACMD6, for four lines -/
def appSetBusWidthCmd : MmcCmd :=
  ⟨sdCmdAppSetBusWidth, mmcRspR1, 2, some 0⟩

/-- Sets an SD card and the host to four lines, if the card has them. -/
def widenSdBus (mmc : StartMmc) : StartDriver (Int × StartMmc) := do
  if mmc.cardCaps &&& mmcMode4Bit = 0 then
    return (0, mmc)
  let reply ← startCmd (appCmd mmc.rca) none
  if reply.error ≠ 0 then
    return (reply.error, mmc)
  let reply ← startCmd appSetBusWidthCmd none
  if reply.error ≠ 0 then
    return (reply.error, mmc)
  let mmc ← mmc.setBusWidth 4
  return (0, mmc)

/-- One width with the value of BUS_WIDTH for it -/
def switchBus (mmc : StartMmc) (width : U32) (ddr sdr : U8) : StartDriver (Int × StartMmc) := do
  let value := if mmc.cardCaps &&& mmcModeDdr52Mhz ≠ 0 then ddr else sdr
  let err ← mmc.switch extCsdBusWidth value
  if err ≠ 0 then
    return (err, mmc)
  let mmc ← mmc.setBusWidth width
  return (0, mmc)

/-- Sets an MMC and the host to as many lines as there are. -/
def widenMmcBus (mmc : StartMmc) : StartDriver (Int × StartMmc) :=
  if mmc.cardCaps &&& mmcMode8Bit ≠ 0 then switchBus mmc 8 extCsdBusDdr8 extCsdBusWidth8
  else if mmc.cardCaps &&& mmcMode4Bit ≠ 0 then switchBus mmc 4 extCsdBusDdr4 extCsdBusWidth4
  else pure (0, mmc)

/-- Keeps the speed that the modes allow. -/
def StartMmc.takeTranSpeed (mmc : StartMmc) : StartMmc :=
  if mmc.isSd then
    { mmc with
      tranSpeed := if mmc.cardCaps &&& mmcModeHs ≠ 0 then 50000000 else 25000000 }
  else if mmc.cardCaps &&& mmcModeDdr52Mhz ≠ 0 then
    { mmc with ioMode := mmcModeDdr52Mhz, tranSpeed := 52000000 }
  else if mmc.cardCaps &&& mmcModeHs ≠ 0 then
    { mmc with
      tranSpeed := if mmc.cardCaps &&& mmcModeHs52Mhz ≠ 0 then 52000000 else 26000000 }
  else { mmc with tranSpeed := 26000000 }

/-! ### The whole -/

/-- Switches a card to high speed. -/
def changeFreq (mmc : StartMmc) : StartDriver (Int × StartMmc) :=
  if mmc.isSd then sdChangeFreq mmc else mmcChangeFreq mmc

/-- Sets a card to more lines. -/
def widenBus (mmc : StartMmc) : StartDriver (Int × StartMmc) :=
  if mmc.isSd then widenSdBus mmc else widenMmcBus mmc

/-- Everything behind the capacity -/
def raiseSpeed (mmc : StartMmc) : StartDriver (Int × StartMmc) := do
  let (err, mmc) ← changeFreq mmc
  if err ≠ 0 then
    return (err, mmc)
  let err ← mmc.updatePhase
  if err ≠ 0 then
    return (err, mmc)
  let mmc := { mmc with cardCaps := mmc.cardCaps &&& mmc.cfg.hostCaps }
  let (err, mmc) ← widenBus mmc
  if err ≠ 0 then
    return (err, mmc)
  let mmc := mmc.takeTranSpeed
  let mmc ← mmcSetClock mmc mmc.tranSpeed
  return (0, { mmc with
    blockDev := ⟨(mmc.capacity >>> 9).setWidth 32, mmc.readBlLen.setWidth 64⟩
    clockAfterInit := mmc.clock })

/-- Brings a card from its identification to the transfers: address, register, capacity, speed and
lines. -/
def mmcStartup (stack : StartStack) (mmc : StartMmc) : StartDriver (Int × StartMmc) := do
  let (err, mmc) ← reachTransferMode stack.cmd mmc
  if err ≠ 0 then
    return (err, mmc)
  let (err, mmc) ← readExtCsd stack mmc
  if err ≠ 0 then
    return (err, mmc)
  let (err, mmc) := mmcSetCapacity mmc mmc.partNum
  if err ≠ 0 then
    return (err, mmc)
  raiseSpeed mmc

end PinePhonePkg
