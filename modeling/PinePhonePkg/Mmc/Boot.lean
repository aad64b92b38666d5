/-
This file embeds the hardware partitions of an eMMC and the boot image that is
kept in them: the writes to the partition and boot configuration registers,
which are read back before the descriptor takes them over, and the writing and
reading of the boot image in the user area and in a boot partition.
-/

import PinePhonePkg.Mmc.Block

namespace PinePhonePkg

open Library

/-! ### Registers that are read back -/

/-- The field of the boot mode -/
def mmcSwitchBootModeMask : U8 := 0x3 <<< 3

/-- The bit that keeps the bus conditions after the boot -/
def mmcSwitchBootRstBusCondMask : U8 := 0x1 <<< 2

def mmcSwitchBootBusWidthMask : U8 := 0x3

def mmcSwitchBootSdrNormal : U32 := 0x0

def mmcSwitchBootRstBusCond : U32 := 0x0

def mmcSwitchBootBusSdrx4Ddrx4 : U32 := 0x1

/-- The field of the partition that is booted from -/
def mmcSwitchPartBootPartMask : U8 := 0x7 <<< 3

/-- The bit of the acknowledgement of the boot -/
def mmcSwitchPartBootAckMask : U8 := 0x1 <<< 6

def mmcSwitchPartBootPartNone : U32 := 0x0

def mmcSwitchPartBootPart1 : U32 := 0x1

def mmcSwitchPartBootAckEnb : U32 := 0x1

/-- The common body of the three functions below: the descriptor becomes `updated` once EXT_CSD
shows the value that was written. Their callers have found the device, so it is not missing. -/
def mmcSwitchChecked (mmc : Mmc) (index value : U8) (updated : Mmc) : Driver (Int × Mmc) := do
  let ret ← mmcSwitch mmc index value
  if ret ≠ 0 then
    return (-1, mmc)
  let (ret, extCsd) ← mmcSendExtCsd
  if ret ≠ 0 then
    return (-1, mmc)
  if value ≠ extCsd index.toNat then
    return (-1, mmc)
  return (ret, updated)

/-- The bus conditions with the three fields replaced -/
def Mmc.bootBusCondFor (mmc : Mmc) (bootMode rstBusCond busWidth : U32) : U8 :=
  (mmc.bootBusCond &&& ~~~mmcSwitchBootModeMask &&& ~~~mmcSwitchBootRstBusCondMask &&&
      ~~~mmcSwitchBootBusWidthMask) |||
    ((bootMode <<< 3).setWidth 8 &&& mmcSwitchBootModeMask) |||
    ((rstBusCond <<< 2).setWidth 8 &&& mmcSwitchBootRstBusCondMask) |||
    (busWidth.setWidth 8 &&& mmcSwitchBootBusWidthMask)

/-- Switches the bus conditions of the boot. -/
def mmcSwitchBootBusCond (mmc : Mmc) (bootMode rstBusCond busWidth : U32) :
    Driver (Int × Mmc) :=
  let bootBusCond := mmc.bootBusCondFor bootMode rstBusCond busWidth
  mmcSwitchChecked mmc extCsdBootBusCond bootBusCond { mmc with bootBusCond := bootBusCond }

/-- The configuration with another partition to boot from -/
def Mmc.bootPartConfig (mmc : Mmc) (bootAck bootPart : U32) : U8 :=
  (mmc.partConfig &&& ~~~mmcSwitchPartBootPartMask &&& ~~~mmcSwitchPartBootAckMask) |||
    ((bootPart <<< 3).setWidth 8 &&& mmcSwitchPartBootPartMask) ||| (bootAck <<< 6).setWidth 8

/-- Switches the partition that is booted from. -/
def mmcSwitchBootPart (mmc : Mmc) (bootAck bootPart : U32) : Driver (Int × Mmc) :=
  let partConfig := mmc.bootPartConfig bootAck bootPart
  mmcSwitchChecked mmc extCsdPartConf partConfig { mmc with partConfig := partConfig }

/-- The configuration with another partition to access -/
def Mmc.accessConfig (mmc : Mmc) (partNum : U32) : U8 :=
  (mmc.partConfig &&& ~~~partAccessMask) ||| (partNum.setWidth 8 &&& partAccessMask)

/-- Switches the partition that is accessed. -/
def mmcSwitchPart (mmc : Mmc) (partNum : U32) : Driver (Int × Mmc) :=
  let partConfig := mmc.accessConfig partNum
  mmcSwitchChecked mmc extCsdPartConf partConfig { mmc with partConfig := partConfig }

/-! ### Writing the boot image -/

/-- Writes the boot image and reads it back; the blocks count if they come back the same. -/
def mmcDoBurnBoot (mmc : Mmc) (start blkcnt : U32) (src : Buffer) : Driver Ulong := do
  let size := blkcnt * mmc.writeBlLen
  match ← malloc (size.setWidth 64) with
  | none => return 0
  | some dst =>
    let blocksDo ← mmcBwrite (some mmc) start blkcnt src
    if blocksDo ≠ blkcnt.setWidth 64 then
      return 0
    let (rblk, dst) ← mmcBread (some mmc) start blkcnt dst
    if rblk < blkcnt.setWidth 64 ∨ ¬ Memory.Agree size.toNat src dst then
      return 0
    return blocksDo

/-- The boot image has its own copy in a boot partition. -/
def Mmc.usesBootPart (mmc : Mmc) : Bool :=
  mmc.cfg.platformCaps.drvBurnBootPos &&& drvParaBurnEmmcBootPart != 0 && mmc.bootSupport != 0

/-- The boot image has a copy in the user area. -/
def Mmc.usesUserPart (mmc : Mmc) : Bool :=
  mmc.cfg.platformCaps.drvBurnBootPos &&& drvParaNotBurnUserPart == 0

/-- Where the image starts in a boot partition. -/
def bootPartStart (devNum : Int) : U32 :=
  if devNum = 3 then 1 else 0

/-- The part of `mmc_burn_boot` before its label: the error and the blocks written, or nothing
when the function returns from it. -/
def burnBootPart (mmc : Mmc) (devNum : Int) (blkcnt : U32) (src : Buffer) :
    Driver (Option (Int × U32) × Mmc) := do
  let (err, mmc) ← mmcSwitchBootBusCond mmc mmcSwitchBootSdrNormal mmcSwitchBootRstBusCond
    mmcSwitchBootBusSdrx4Ddrx4
  if err ≠ 0 then
    return (some (err, 0), mmc)
  let (err, mmc) ← mmcSwitchBootPart mmc mmcSwitchPartBootAckEnb mmcSwitchPartBootPart1
  if err ≠ 0 then
    return (some (err, 0), mmc)
  let (err, mmc) ← mmcSwitchPart mmc mmcSwitchPartBootPart1
  if err ≠ 0 then
    return (some (err, 0), mmc)
  let blocksDoBoot ← mmcDoBurnBoot mmc (bootPartStart devNum) blkcnt src
  let (err, mmc) ← mmcSwitchPart mmc 0
  if err ≠ 0 then
    return (none, mmc)
  return (some (err, blocksDoBoot.setWidth 32), mmc)

/-- The part at the label; its own error is only printed. -/
def disableBootMode (mmc : Mmc) (err : Int) : Driver Mmc := do
  if (err ≠ 0 ∨ mmc.cfg.platformCaps.drvBurnBootPos &&& drvParaBurnEmmcBootPart = 0) ∧
      mmc.bootSupport ≠ 0 then
    let (_, mmc) ← mmcSwitchBootPart mmc 0 mmcSwitchPartBootPartNone
    return mmc
  return mmc

/-- Writes the boot image to the boot partition and to the user area, as the platform asks. -/
def mmcBurnBoot (mmc : Mmc) (devNum : Int) (start blkcnt : U32) (src : Buffer) :
    Driver (Ulong × Mmc) := do
  let (state, mmc) ←
    if mmc.usesBootPart then burnBootPart mmc devNum blkcnt src else pure (some (0, 0), mmc)
  match state with
  | none => return (0, mmc)
  | some (err, blocksDoBoot) =>
    let mmc ← disableBootMode mmc err
    let blocksDoUser ←
      if mmc.usesUserPart then mmcDoBurnBoot mmc start blkcnt src else pure 0
    return (if blocksDoUser.setWidth 32 = blkcnt ∨ blocksDoBoot = blkcnt then
      blkcnt.setWidth 64 else 0, mmc)

/-! ### Reading the boot image -/

/-- The copy in the boot partition is read into the buffer of the copy in the user area. -/
def getBootPart (mmc : Mmc) (devNum : Int) (blkcnt blocksDo : U32) (dst : Buffer) :
    Driver (Ulong × Buffer × Mmc) := do
  if mmc.usesBootPart then
    let (err, mmc) ← mmcSwitchPart mmc mmcSwitchPartBootPart1
    if err ≠ 0 then
      return (blocksDo.setWidth 64, dst, mmc)
    let (blocksDo, dst) ← mmcBread (some mmc) (bootPartStart devNum) blkcnt dst
    -- a failing switch back is only printed
    let (_, mmc) ← mmcSwitchPart mmc 0
    return ((blocksDo.setWidth 32).setWidth 64, dst, mmc)
  return (blocksDo.setWidth 64, dst, mmc)

/-- Reads the boot image from the user area, or else from the boot partition. -/
def mmcGetBoot (mmc : Mmc) (devNum : Int) (start blkcnt : U32) (dst : Buffer) :
    Driver (Ulong × Buffer × Mmc) := do
  if mmc.usesUserPart then
    let (blocksDo, dst) ← mmcBread (some mmc) start blkcnt dst
    let blocksDo : U32 := blocksDo.setWidth 32
    if blocksDo ≠ blkcnt then
      getBootPart mmc devNum blkcnt blocksDo dst
    else
      return (blocksDo.setWidth 64, dst, mmc)
  else
    getBootPart mmc devNum blkcnt 0 dst

end PinePhonePkg
