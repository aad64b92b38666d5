/-
This file models how the host driver sends a command: the transfer of its data by
the processor or by descriptors, the waits for the command, the data and the card,
and what the driver does with the controller when any of these fails.
-/

import PinePhonePkg.Host.Registers
import PinePhonePkg.Mmc.Command
import PinePhonePkg.Library.Words

namespace PinePhonePkg

open Library

/-! ### Commands and data -/

/-- There is a response. -/
def mmcRspPresent : U32 := bit 0

/-- The response has 136 bits. -/
def mmcRsp136 : U32 := bit 1

/-- The response has a checksum. -/
def mmcRspCrc : U32 := bit 2

/-- The card may be busy. -/
def mmcRspBusy : U32 := bit 3

def mmcCmdManual : U32 := 1

/-- `struct mmc_cmd` -/
structure HostCmd : Type where
  cmdidx : U32
  respType : U32
  cmdarg : U32
  response : Vector U32 4
  flags : U32

/-- `struct mmc_data`, with the address of its buffer and what is there -/
structure HostData : Type where
  address : Ulong
  src : Buffer
  flags : U32
  blocks : U32
  blocksize : U32

namespace HostData

variable (data : HostData)

/-- The card sends data. -/
def reads : Bool := data.flags &&& mmcDataRead != 0

/-- The card is sent data. -/
def writes : Bool := data.flags &&& mmcDataWrite != 0

/-- The number of bytes, in 32 bits -/
def bytes : U32 := data.blocksize * data.blocks

end HostData

/-- The transfer is not ended by the controller. -/
def HostCmd.manual (cmd : HostCmd) : Bool := cmd.flags &&& mmcCmdManual != 0

/-! ### Transfer by the processor -/

/-- `while (--timeout && (readl(&reg->status) & mask));` -/
def awaitFifo (mask : U32) : Nat → HostProgram Bool
  | 0 => pure false
  | timeout + 1 => do
    if (← readl .status) &&& mask ≠ 0 then awaitFifo mask timeout else return true

/-- Reads words from the queue. -/
def readWords (index : Nat) : Nat → HostProgram Int
  | 0 => pure 0
  | count + 1 => do
    if ← awaitFifo (bit 2) 999 then
      let value ← readl .database
      Program.send (HostRequest.storeWord index value)
      readWords (index + 1) count
    else return -1

/-- Writes words to the queue. -/
def writeWords (src : Buffer) (index : Nat) : Nat → HostProgram Int
  | 0 => pure 0
  | count + 1 => do
    if ← awaitFifo (bit 3) 999 then
      writel (BitVec.ofNat 32 (Memory.word src (4 * index) 4)) .database
      writeWords src (index + 1) count
    else return -1

/-- Moves the data word by word. -/
def mmcTransDataByCpu (data : HostData) : HostProgram Int :=
  if data.reads then readWords 0 (data.bytes >>> 2).toNat
  else writeWords data.src 0 (data.bytes >>> 2).toNat

/-! ### Transfer by descriptors -/

def sdxcDesNumShift : Nat := 12

def sdxcDesBufferMaxLen : U32 := 4096

/-- The descriptor of a fragment, of which there are `count` -/
def fragment (pdes address : Ulong) (count remain index : U32) : MmcDes where
  dic := index ≠ count - 1
  lastDes := index = count - 1
  firstDes := index = 0
  desChain := true
  endOfRing := index = count - 1
  own := true
  dataBuf1Sz :=
    if count > 1 ∧ index ≠ count - 1 then sdxcDesBufferMaxLen.setWidth 16 else remain.setWidth 16
  bufAddrPtr1 := (address + (index * sdxcDesBufferMaxLen).setWidth 64).setWidth 32
  bufAddrPtr2 :=
    if index = count - 1 then 0 else (pdes + 16 * (index.setWidth 64 + 1)).setWidth 32

/-- Fills in the descriptors one after the other. -/
def setFragments (pdes address : Ulong) (count remain : U32) : List Nat → HostProgram Unit
  | [] => pure ()
  | index :: rest => do
    Program.send (HostRequest.setDes index
      (fragment pdes address count remain (BitVec.ofNat 32 index)))
    setFragments pdes address count remain rest

/-- The transfer is prepared; it goes on while the command does. -/
def mmcTransDataByDma (turns : Nat) (host : SunxiMmcHost) (data : HostData) :
    HostProgram (Option Int) := do
  let remain := data.bytes &&& (sdxcDesBufferMaxLen - 1)
  let whole := data.bytes >>> sdxcDesNumShift
  let buffFragNum := if remain ≠ 0 then whole + 1 else whole
  let remain := if remain ≠ 0 then remain else sdxcDesBufferMaxLen
  setFragments host.pdes data.address buffFragNum remain (List.range buffFragNum.toNat)
  let rval ← readl .gctrl
  writel (rval ||| bit 5 ||| bit 2) .gctrl
  writel (bit 0) .dmac
  match ← awaitClear .dmac 1 turns with
  | none => return none
  | some () =>
    writel (bit 1 ||| bit 7) .dmac
    let rval := (← readl .idie) &&& ~~~3
    writel (if data.writes then rval ||| bit 0 else rval ||| bit 1) .idie
    writel (host.pdes.setWidth 32) .dlba
    writel (if host.mmcNo = 2 then 3 <<< 28 ||| 15 <<< 16 ||| 240 else 2 <<< 28 ||| 7 <<< 16 ||| 248)
      .ftrglevel
    return some 0

/-! ### Waiting -/

def sdxcIntErrBit : U32 := 0xbfc2

/-- The error of a status, or that of a timeout -/
def errorOf (status : U32) : U32 :=
  if status &&& sdxcIntErrBit = 0 then 0xffffffff else status &&& sdxcIntErrBit

/-- Waits for the card not to be busy: the error, which is 0 if it ends in time. -/
def awaitIdle : Nat → HostProgram U32
  | 0 => do
    let _ ← readl .status
    return 0xffffffff
  | timeout + 1 => do
    if (← readl .status) &&& bit 9 ≠ 0 then awaitIdle timeout else return 0

/-- Waits for the command to be done. -/
def awaitCommand : Nat → HostProgram U32
  | 0 => return errorOf (← readl .rint)
  | timeout + 1 => do
    let status ← readl .rint
    if status &&& sdxcIntErrBit ≠ 0 then return errorOf status
    if status &&& bit 2 ≠ 0 then return 0
    awaitCommand timeout

/-- Waits for the data; when the sample point is tuned, a read is given up earlier. -/
def awaitData (usedma giveUp : Bool) (flag : U32) : Nat → HostProgram U32
  | 0 => return errorOf (← readl .rint)
  | timeout + 1 => do
    let status ← readl .rint
    if status &&& sdxcIntErrBit ≠ 0 then return errorOf status
    if timeout = 0xff0000 ∧ giveUp then return 0xffffffff
    if status &&& flag ≠ 0 then
      if usedma then
        if (← readl .idst) &&& 3 ≠ 0 then return 0
        awaitData usedma giveUp flag timeout
      else return 0
    else awaitData usedma giveUp flag timeout

/-! ### The attempt -/

/-- Where the attempt ends: the values of the locals, and the response -/
structure Attempt : Type where
  error : U32
  usedma : Bool
  bytecnt : U32
  response : Vector U32 4

/-- The value of the command register -/
def HostCmd.cmdval (cmd : HostCmd) (data : Option HostData) : U32 :=
  let cmdval := bit 31
  let cmdval := if cmd.cmdidx = 0 then cmdval ||| bit 15 else cmdval
  let cmdval := if cmd.respType &&& mmcRspPresent ≠ 0 then cmdval ||| bit 6 else cmdval
  let cmdval := if cmd.respType &&& mmcRsp136 ≠ 0 then cmdval ||| bit 7 else cmdval
  let cmdval := if cmd.respType &&& mmcRspCrc ≠ 0 then cmdval ||| bit 8 else cmdval
  match data with
  | some data =>
    let cmdval := cmdval ||| (bit 9 ||| bit 13)
    let cmdval := if data.writes then cmdval ||| bit 10 else cmdval
    if data.blocks > 1 ∧ ¬cmd.manual then cmdval ||| bit 12 else cmdval
  | none =>
    if cmd.cmdidx = 12 ∧ cmd.manual then (cmdval ||| bit 14) &&& ~~~bit 13 else cmdval

/-- An erase or the start of a sanitize may take long. -/
def HostCmd.isErase (cmd : HostCmd) : Bool :=
  cmd.cmdidx = 38 ∨ cmd.cmdidx = 6 ∧ cmd.cmdarg >>> 16 &&& 0xff = extCsdSanitizeStart.setWidth 32

/-- The wait for the data: with descriptors it lasts by the number of bytes, if that is longer. -/
def awaitTransfer (mmc : HostCard) (cmd : HostCmd) (usedma : Bool) (bytecnt : U32) :
    Option HostData → HostProgram U32
  | none => pure 0
  | some data =>
    let timeout : U32 := if usedma then 50 * bytecnt / 25 else 0xffffff
    let timeout := if timeout.slt 0xffffff then 0xffffff else timeout
    awaitData usedma (mmc.doTuning ≠ 0 ∧ data.reads)
      (if data.blocks > 1 ∧ ¬cmd.manual then bit 14 else bit 3) timeout.toNat

/-- Waits for a card that may be busy, and longer for an erase. -/
def awaitBusy (cmd : HostCmd) : HostProgram U32 :=
  if cmd.respType &&& mmcRspBusy ≠ 0 then
    awaitIdle (if cmd.isErase then 0x1fffffff else 500 * 1000)
  else pure 0

/-- Reads the response, one word or four. -/
def readResponse (cmd : HostCmd) : HostProgram (Vector U32 4) :=
  if cmd.respType &&& mmcRsp136 ≠ 0 then do
    let first ← readl .resp3
    let second ← readl .resp2
    let third ← readl .resp1
    let fourth ← readl .resp0
    return #v[first, second, third, fourth]
  else do
    return cmd.response.set 0 (← readl .resp0)

/-- The waits behind the command, and the response -/
def finishCommand (mmc : HostCard) (cmd : HostCmd) (data : Option HostData) (usedma : Bool)
    (bytecnt : U32) : HostProgram Attempt := do
  let error ← awaitCommand 1000
  if error ≠ 0 then
    return ⟨error, usedma, bytecnt, cmd.response⟩
  let error ← awaitTransfer mmc cmd usedma bytecnt data
  if error ≠ 0 then
    return ⟨error, usedma, bytecnt, cmd.response⟩
  let error ← awaitBusy cmd
  if error ≠ 0 then
    return ⟨error, usedma, bytecnt, cmd.response⟩
  return ⟨0, usedma, bytecnt, ← readResponse cmd⟩

/-- Sends a command with data: by descriptors before, or by the processor afterwards. -/
def transData (turns : Nat) (host : SunxiMmcHost) (cmd : HostCmd) (data : HostData) :
    HostProgram (Option Int) :=
  if data.bytes > 64 then do
    writel ((← readl .gctrl) &&& ~~~bit 31) .gctrl
    match ← mmcTransDataByDma turns host data with
    | none => return none
    | some ret =>
      writel (cmd.cmdval (some data) ||| cmd.cmdidx) .cmd
      return some ret
  else do
    writel ((← readl .gctrl) ||| bit 31) .gctrl
    writel (cmd.cmdval (some data) ||| cmd.cmdidx) .cmd
    return some (← mmcTransDataByCpu data)

/-- Sends a command without data, or one with data and its data. -/
def startCommand (turns : Nat) (host : SunxiMmcHost) (cmd : HostCmd) :
    Option HostData → HostProgram (Option Attempt)
  | none => do
    writel cmd.cmdarg .arg
    writel (cmd.cmdval none ||| cmd.cmdidx) .cmd
    return some (← finishCommand host.mmc cmd none false 0)
  | some data => do
    if data.address &&& 3 ≠ 0 then
      return some ⟨0xffffffff, false, 0, cmd.response⟩
    writel data.blocksize .blksz
    writel (data.blocks * data.blocksize) .bytecnt
    writel cmd.cmdarg .arg
    let usedma : Bool := data.bytes > 64
    match ← transData turns host cmd data with
    | none => return none
    | some ret =>
      if ret ≠ 0 then
        return some ⟨errorOf (← readl .rint), usedma, data.bytes, cmd.response⟩
      return some (← finishCommand host.mmc cmd (some data) usedma data.bytes)

/-! ### The end of a command -/

/-- The registers that are saved and restored, in order -/
def savedRegs : List HostReg :=
  [.gctrl, .clkcr, .timeout, .width, .imask, .ftrglevel, .dbgc, .csdc, .ntsr, .hwrst, .dmac, .idie,
    .thldc, .dsbd, .drvDl, .sampDl, .dsDl]

/-- `reg_bak`, in the order of the saved registers -/
def mmcSaveRegs : List HostReg → HostProgram (List U32)
  | [] => pure []
  | reg :: rest => do
    let value ← readl reg
    return value :: (← mmcSaveRegs rest)

/-- The debug register is restored to a value of its own, if it was not 0. -/
def restoreReg (value : U32) (reg : HostReg) : HostProgram Unit :=
  if reg ≠ .dbgc then writel value reg else if value ≠ 0 then writel 0xdeb reg else pure ()

/-- Writes the registers back that were saved. -/
def mmcRestoreRegs : List HostReg → List U32 → HostProgram Unit
  | reg :: regs, value :: values => do
    restoreReg value reg
    mmcRestoreRegs regs values
  | _, _ => pure ()

/-- What the card still sends while a sample point is tuned is read and dropped. -/
def drainData : Nat → HostProgram Unit
  | 0 => do
    if (← readl .bbcr) < 512 then
      let _ ← readl .database
  | timeout + 1 => do
    if (← readl .bbcr) < 512 then
      let _ ← readl .database
      drainData timeout

/-- `writel(0x7, &reg->gctrl);` and the wait for the reset bits -/
def resetController (turns : Nat) : HostProgram (Option Unit) := do
  writel 7 .gctrl
  awaitClear .gctrl 7 turns

/-- The gates and the reset of the bus are closed and opened between a save and a restore. -/
def reopenController (host : SunxiMmcHost) : HostProgram Unit := do
  let regBak ← mmcSaveRegs savedRegs
  let _ ← mmcClkIoOnoff host false false
  let _ ← mmcClkIoOnoff host true false
  mmcRestoreRegs savedRegs regBak

/-- What is done with the controller after an error, behind the tuning -/
def recoverController (turns : Nat) (host : SunxiMmcHost) : HostProgram (Option Unit) := do
  match ← resetController turns with
  | none => return none
  | some () =>
    reopenController host
    match ← resetController turns with
    | none => return none
    | some () =>
      let _ ← mmcUpdateClk
      return some ()

/-- What a command comes back with: the returned value, the response and `raw_int_bak` -/
structure SendResult : Type where
  value : Int
  response : Vector U32 4
  rawIntBak : U32

/-- The errors of an attempt that has failed -/
def readErrors (host : SunxiMmcHost) (attempt : Attempt) : HostProgram U32 :=
  if attempt.error ≠ 0 then do
    return (← readl .rint) &&& sdxcIntErrBit
  else pure host.rawIntBak

/-- The end of the transfer by descriptors -/
def stopDma (data : Option HostData) (attempt : Attempt) : HostProgram Unit :=
  if data.isSome ∧ attempt.usedma then do
    writel (← readl .idst) .idst
    writel 0 .idie
    writel 0 .dmac
    writel ((← readl .gctrl) &&& ~~~bit 5) .gctrl
  else pure ()

/-- Before the controller is reset, a tuning reads what is left of its 512 bytes. -/
def drainTuning (host : SunxiMmcHost) (data : Option HostData) (attempt : Attempt) :
    HostProgram Unit :=
  match data with
  | some data =>
    if host.mmc.doTuning ≠ 0 ∧ data.reads ∧ attempt.bytecnt = 512 then do
      writel ((← readl .gctrl) ||| bit 31) .gctrl
      writel 0xdeb .dbgc
      drainData 1000
    else pure ()
  | none => pure ()

/-- The code behind the label `out` -/
def endCommand (turns : Nat) (host : SunxiMmcHost) (data : Option HostData) (attempt : Attempt) :
    HostProgram (Option SendResult) := do
  let rawIntBak ← readErrors host attempt
  stopDma data attempt
  if attempt.error ≠ 0 then
    drainTuning host data attempt
    match ← recoverController turns host with
    | none => return none
    | some () =>
      writel 0xffffffff .rint
      return some ⟨-1, attempt.response, rawIntBak⟩
  else
    writel 0xffffffff .rint
    return some ⟨0, attempt.response, rawIntBak⟩

/-- `mmc_send_cmd` of the host driver -/
def SunxiMmcHost.mmcSendCmd (host : SunxiMmcHost) (turns : Nat) (cmd : HostCmd)
    (data : Option HostData) : HostProgram (Option SendResult) := do
  if host.fatalErr ≠ 0 then
    return some ⟨-1, cmd.response, host.rawIntBak⟩
  if cmd.cmdidx = 12 ∧ ¬cmd.manual then
    let error ← awaitIdle (500 * 1000)
    if error ≠ 0 then
      endCommand turns host data ⟨error, false, 0, cmd.response⟩
    else return some ⟨0, cmd.response, host.rawIntBak⟩
  else
    match ← startCommand turns host cmd data with
    | none => return none
    | some attempt => endCommand turns host data attempt

end PinePhonePkg
