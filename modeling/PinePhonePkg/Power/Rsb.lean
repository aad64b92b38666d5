/-
This file gives the block transfers of the power chip's bus both ways: through the
secure monitor and through the registers of the bus controller. The controller moves
one, two or four registers and takes no other length; the monitor is asked for one
register whatever the length. So the two agree exactly if one register is asked for,
or the others are already where they would be put.
-/

import PinePhonePkg.Power.Bus
import PinePhonePkg.Library.Lanes

namespace PinePhonePkg

open Library

namespace Rsb

/-! ### Requests -/

/-- The registers of the bus controller that are used -/
inductive RsbRegister : Type where
  | ctrl
  | stat
  | daddr0
  | data0
  | cmd
  | saddr
deriving DecidableEq

/-- A call of the secure monitor, or an access to a register of the bus controller -/
inductive RsbRequest : Type where
  | monitor (request : PmuRequest)
  | mmioRead32 (register : RsbRegister)
  | mmioWrite32 (register : RsbRegister) (value : U32)
deriving DecidableEq

/-- What comes back; a write has no reply. -/
abbrev RsbRequest.Reply : RsbRequest → Type
  | .monitor _ => U32
  | .mmioRead32 _ => U32
  | .mmioWrite32 _ _ => Unit

/-- A program against the monitor and the bus controller -/
abbrev RsbProgram (Result : Type) : Type := Program RsbRequest RsbRequest.Reply Result

/-- Reads a register of the controller. -/
def mmioRead32 (register : RsbRegister) : RsbProgram U32 :=
  Program.send (.mmioRead32 register : RsbRequest)

/-- Writes a register of the controller. -/
def mmioWrite32 (register : RsbRegister) (value : U32) : RsbProgram Unit :=
  Program.send (.mmioWrite32 register value : RsbRequest)

/-- The calls of the secure monitor, among the other requests -/
def monitored {Result : Type} (program : Pmu Result) : RsbProgram Result :=
  program.sending RsbRequest.monitor fun _ reply => reply

/-! ### The bus controller -/

def rsbStartTrans : U32 := 0x80

def rsbToverInt : U32 := 0x1

def rsbTerrInt : U32 := 0x2

def rsbLbsyInt : U32 := 0x4

def rsbRtsaddrShift : Nat := 16

def retFail : U32 := -20

/-- `rsb_info` -/
structure RsbInfo : Type where
  rsbFlag : U32
  rsbBusy : U32
  rsbLoadBusy : U32

/-- The loop before a transfer, until the status has no flag; `none` when it was read so many times
in vain. -/
def statusLoop : Nat → RsbProgram (Option Unit)
  | 0 => return none
  | polls + 1 => do
    let stat ← mmioRead32 .stat
    if stat &&& (rsbLbsyInt ||| rsbTerrInt ||| rsbToverInt) ≠ 0 then
      statusLoop polls
    else
      return some ()

/-- `while (rsbc.rsb_busy)`; `none` when it was entered so many times in vain. -/
def busyLoop : Nat → RsbInfo → RsbProgram (Option RsbInfo)
  | 0, _ => return none
  | polls + 1, rsbc => do
    if rsbc.rsbBusy = 0 then
      return some rsbc
    let istat ← mmioRead32 .stat
    if istat &&& rsbLbsyInt ≠ 0 then
      mmioWrite32 .stat istat
      return some { rsbc with rsbLoadBusy := 1 }
    if istat &&& rsbTerrInt ≠ 0 then
      mmioWrite32 .stat istat
      return some { rsbc with rsbFlag := (istat >>> 8) &&& 0xffff }
    if istat &&& rsbToverInt ≠ 0 then
      mmioWrite32 .stat istat
      busyLoop polls { rsbc with rsbBusy := 0 }
    else
      busyLoop polls rsbc

/-- The end of `rsb_write` and of `rsb_read`: the transfer is started and waited for, and the value
says what came of it. -/
def startTransfer (polls : Nat) : RsbProgram (Option U32) := do
  let ctrl ← mmioRead32 .ctrl
  mmioWrite32 .ctrl (ctrl ||| rsbStartTrans)
  let some rsbc ← busyLoop polls ⟨0, 1, 0⟩ | return none
  if rsbc.rsbLoadBusy ≠ 0 then
    return some retFail
  if rsbc.rsbFlag ≠ 0 then
    return some (-rsbc.rsbFlag)
  return some 0

/-- RSB_CMD_BYTE_WRITE, RSB_CMD_HWORD_WRITE and RSB_CMD_WORD_WRITE -/
def rsbCmdWrite (len : U32) : U32 :=
  if len = 1 then 0x4E else if len = 2 then 0x59 else if len = 4 then 0x63 else 0

/-- RSB_CMD_BYTE_READ, RSB_CMD_HWORD_READ and RSB_CMD_WORD_READ -/
def rsbCmdRead (len : U32) : U32 :=
  if len = 1 then 0x8B else if len = 2 then 0x9C else if len = 4 then 0xA6 else 0

/-- The address of `data[i]` -/
def dataAt (data : Ulong) (i : Nat) : Nat := (data + BitVec.ofNat 64 i).toNat

/-- Writes one, two or four bytes through the controller. -/
def rsbWrite (polls : Nat) (rtsaddr daddr : U32) (data : Ulong) (len : U32)
    (memory : Memory U8) : RsbProgram (Option U32) := do
  if len > 4 ∨ len = 0 ∨ len = 3 then
    return some (-1)
  if data = 0 then
    return some (-1)
  let some _ ← statusLoop polls | return none
  mmioWrite32 .saddr (rtsaddr <<< rsbRtsaddrShift)
  mmioWrite32 .daddr0 daddr
  mmioWrite32 .data0 ((List.range len.toNat).foldl
    (fun dat i => dat ||| (memory (dataAt data i)).setWidth 32 <<< (i * 8)) 0)
  mmioWrite32 .cmd (rsbCmdWrite len)
  startTransfer polls

/-- Reads one, two or four bytes through the controller. -/
def rsbRead (polls : Nat) (rtsaddr daddr : U32) (data : Ulong) (len : U32)
    (memory : Memory U8) : RsbProgram (Option (U32 × Memory U8)) := do
  if len > 4 ∨ len = 0 ∨ len = 3 then
    return some (-1, memory)
  if data = 0 then
    return some (-1, memory)
  let some _ ← statusLoop polls | return none
  mmioWrite32 .saddr (rtsaddr <<< rsbRtsaddrShift)
  mmioWrite32 .daddr0 daddr
  mmioWrite32 .cmd (rsbCmdRead len)
  let some ret ← startTransfer polls | return none
  if ret ≠ 0 then
    return some (ret, memory)
  let dat ← mmioRead32 .data0
  return some (0, (List.range len.toNat).foldl
    (fun memory i =>
      Function.update memory (dataAt data i) (((dat >>> (i * 8)) &&& 0xff).setWidth 8))
    memory)

/-! ### The layers above -/

variable (gSecureAccess : U32) (polls : Nat)

/-- Reads through the monitor, or else through the controller. -/
def sunxiRsbRead (rtsaddr daddr : U32) (data : Ulong) (len : U32) (memory : Memory U8) :
    RsbProgram (Option (Ulong × Memory U8)) := do
  if gSecureAccess ≠ 0 then
    let (ret, byte) ← monitored (sunxiRsbReadSecureOS daddr (memory data.toNat))
    return some (ret.signExtend 64, Function.update memory data.toNat byte)
  let some (ret, memory) ← rsbRead polls rtsaddr daddr data len memory | return none
  if ret ≠ 0 then
    return some (efiDeviceError, memory)
  return some (efiSuccess, memory)

/-- Writes through the monitor, or else through the controller. -/
def sunxiRsbWrite (rtsaddr daddr : U32) (data : Ulong) (len : U32) (memory : Memory U8) :
    RsbProgram (Option Ulong) := do
  if gSecureAccess ≠ 0 then
    let ret ← monitored (sunxiRsbWriteSecureOS daddr (memory data.toNat))
    return some (ret.signExtend 64)
  let some ret ← rsbWrite polls rtsaddr daddr data len memory | return none
  if ret ≠ 0 then
    return some efiDeviceError
  return some efiSuccess

/-- The length is cut to the 32 bits that `SunxiRsbRead` takes. -/
def smbusBlockRead (buffer length : Ulong) (memory : Memory U8) :
    RsbProgram (Option (Ulong × Memory U8)) :=
  sunxiRsbRead gSecureAccess polls ((memory (dataAt buffer 0)).setWidth 32)
    ((memory (dataAt buffer 1)).setWidth 32) (buffer + 2) ((length - 2).setWidth 32) memory

/-- Writes the data of the buffer to the register it names. -/
def smbusBlockWrite (buffer length : Ulong) (memory : Memory U8) :
    RsbProgram (Option (Ulong × Memory U8)) := do
  let status ← sunxiRsbWrite gSecureAccess polls ((memory (dataAt buffer 0)).setWidth 32)
    ((memory (dataAt buffer 1)).setWidth 32) (buffer + 2) ((length - 2).setWidth 32) memory
  return status.map fun status => (status, memory)

/-- One operation on the bus, with a buffer in memory -/
def smbusExecute (operation : EfiSmbusOperation) (pecCheck : Bool) (length buffer : Ulong)
    (memory : Memory U8) : RsbProgram (Option (Ulong × Memory U8)) :=
  if pecCheck then return some (efiUnsupported, memory)
  else
    match operation with
    | .efiSmbusReadBlock => smbusBlockRead gSecureAccess polls buffer length memory
    | .efiSmbusWriteBlock => smbusBlockWrite gSecureAccess polls buffer length memory
    | .other => return some (efiUnsupported, memory)

end Rsb

end PinePhonePkg
