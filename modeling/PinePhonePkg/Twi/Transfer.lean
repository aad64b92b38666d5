/-
This file embeds the transfers of the two-wire bus: every step sets the controller
going, waits for its flag and looks at its status. The loop over the bytes that are
read counts in 32 bits up to a length of 64 bits less one; it may not end.
-/

import PinePhonePkg.Dxe.Status
import Mathlib.Logic.Function.Basic

namespace PinePhonePkg

open Library

namespace Twi

/-! ### Accesses to the controller -/

/-- An access to a register of `gTwiController[BusNum]` -/
inductive TwiRequest : Type where
  | readCtl
  | readStatus
  | readData
  | writeCtl (value : U32)
  | writeData (value : U32)
  | writeEft (value : U32)
  | writeSrst (value : U32)
deriving DecidableEq

/-- What comes back; only a read has a reply. -/
abbrev TwiRequest.Reply : TwiRequest → Type
  | .readCtl => U32
  | .readStatus => U32
  | .readData => U32
  | _ => Unit

/-- A program against the controller -/
abbrev TwiProgram (Result : Type) : Type := Program TwiRequest TwiRequest.Reply Result

/-- Reads the control register. -/
def readCtl : TwiProgram U32 := Program.send TwiRequest.readCtl

/-- Reads the status. -/
def readStatus : TwiProgram U32 := Program.send TwiRequest.readStatus

/-- Reads the data. -/
def readData : TwiProgram U32 := Program.send TwiRequest.readData

/-- Writes the control register. -/
def writeCtl (value : U32) : TwiProgram Unit := Program.send (.writeCtl value : TwiRequest)

/-- Writes the data. -/
def writeData (value : U32) : TwiProgram Unit := Program.send (.writeData value : TwiRequest)

/-- Writes the register of enhanced features. -/
def writeEft (value : U32) : TwiProgram Unit := Program.send (.writeEft value : TwiRequest)

/-- Resets the controller. -/
def writeSrst (value : U32) : TwiProgram Unit := Program.send (.writeSrst value : TwiRequest)

/-- `while ((time--) && waiting (read))`, and whether `time` is more than 0 then -/
def waitWhile (read : TwiProgram U32) (waiting : U32 → Bool) : Nat → TwiProgram Bool
  | 0 => return false
  | time + 1 => do
    let value ← read
    if waiting value then waitWhile read waiting time else return decide (0 < time)

/-- `!(ctl & 0x08)` -/
def flagDown (ctl : U32) : Bool := decide (ctl &&& 0x08 = 0)

/-! ### Constants -/

def twiOk : Ulong := 0

def twiNokTout : Ulong := 4

def twiStartTransmit : U32 := 0x08

def twiRestartTransmit : U32 := 0x10

def twiAddrwriteAck : U32 := 0x18

def twiAddrreadAck : U32 := 0x40

def twiDatawriteAck : U32 := 0x28

def twiReady : U32 := 0xf8

def twiDatareadNack : U32 := 0x58

def twiDatareadAck : U32 := 0x50

/-! ### Steps -/

/-- The end of a step: the flag is waited for, and then the status has to be the one of the step. -/
def finishStep (time : Nat) (status : U32) : TwiProgram Ulong := do
  if !(← waitWhile readCtl flagDown time) then
    return -twiNokTout
  let tmpVal ← readStatus
  if tmpVal ≠ status then
    return -status.setWidth 64
  return twiOk

/-- Sends a start. -/
def sunxiTwiSendStart : TwiProgram Ulong := do
  writeEft 0
  writeSrst 1
  let ctl ← readCtl
  writeCtl (ctl ||| 0x20)
  finishStep 0xfffff twiStartTransmit

/-- Sends a start without a stop before it. -/
def sunxiTwiSendRestart : TwiProgram Ulong := do
  let tmpVal ← readCtl
  writeCtl (tmpVal ||| 0x20)
  finishStep 0xffff twiRestartTransmit

/-- `RW` is one bit: to read, or to write. -/
def sunxiTwiSendSlaveAddr (slaveAddr : Ulong) (rw : Bool) : TwiProgram Ulong := do
  writeData ((((slaveAddr &&& 0xff) <<< 1) ||| if rw then 1 else 0).setWidth 32)
  let ctl ← readCtl
  writeCtl (ctl ||| 0x08)
  finishStep 0xffff (if rw then twiAddrreadAck else twiAddrwriteAck)

/-- Sends a byte of the address in the chip. -/
def sunxiTwiSendByteAddr (byteAddr : Ulong) : TwiProgram Ulong := do
  writeData ((byteAddr &&& 0xff).setWidth 32)
  let ctl ← readCtl
  writeCtl (ctl ||| 0x08)
  finishStep 0xffff twiDatawriteAck

/-- The loop of `SunxiTwiGetData`, of which `i` has 32 bits; `none` if it is not over after so many
rounds. The buffer is what is behind `Data`. -/
def getDataLoop (count : Ulong) : Nat → U32 → Memory U8 → TwiProgram (Option (Bool × Memory U8))
  | 0, _, _ => return none
  | rounds + 1, i, data => do
    if i.setWidth 64 < count - 1 then
      let _ ← readCtl
      let tmpVal ← readCtl
      writeCtl ((tmpVal &&& 0xf7) ||| 0x04)
      if !(← waitWhile readCtl flagDown 0xffff) then
        return some (false, data)
      let byte ← readData
      let data := Function.update data i.toNat (byte.setWidth 8)
      if !(← waitWhile readStatus (fun status => decide (status ≠ twiDatareadAck)) 0xffff) then
        return some (false, data)
      getDataLoop count rounds (i + 1) data
    else
      return some (true, data)

/-- The end of `SunxiTwiGetData` for more bytes than one -/
def getLastData (count : Ulong) (data : Memory U8) : TwiProgram (Ulong × Memory U8) := do
  let ctl ← readCtl
  writeCtl (ctl &&& 0xfb)
  let ctl ← readCtl
  writeCtl (ctl &&& 0xf7)
  if !(← waitWhile readCtl flagDown 0xffff) then
    return (-twiNokTout, data)
  let byte ← readData
  let data := Function.update data (count - 1).toNat (byte.setWidth 8)
  -- `time` is what the delay loop has left.
  if !(← waitWhile readStatus (fun status => decide (status ≠ twiDatareadNack)) 100) then
    return (-twiNokTout, data)
  return (twiOk, data)

/-- `SunxiTwiGetData` for one byte -/
def getSingleData (data : Memory U8) : TwiProgram (Ulong × Memory U8) := do
  let ctl ← readCtl
  writeCtl (ctl ||| 0x08)
  if !(← waitWhile readCtl flagDown 0xffff) then
    return (-twiNokTout, data)
  let byte ← readData
  let data := Function.update data 0 (byte.setWidth 8)
  let tmpVal ← readStatus
  if tmpVal ≠ twiDatareadNack then
    return (-twiDatareadNack.setWidth 64, data)
  return (twiOk, data)

/-- Receives bytes, the last one without an acknowledgement. -/
def sunxiTwiGetData (rounds : Nat) (data : Memory U8) (count : Ulong) :
    TwiProgram (Option (Ulong × Memory U8)) := do
  if count = 1 then
    return some (← getSingleData data)
  let some (well, data) ← getDataLoop count rounds 0 data | return none
  if !well then
    return some (-twiNokTout, data)
  return some (← getLastData count data)

/-- `SunxiTwiSendData`: so many bytes of the buffer, from `i` on -/
def sunxiTwiSendData (data : Memory U8) : Nat → Nat → TwiProgram Ulong
  | 0, _ => return twiOk
  | left + 1, i => do
    writeData ((data i).setWidth 32)
    let ctl ← readCtl
    writeCtl (ctl ||| 0x08)
    if !(← waitWhile readCtl flagDown 0xffff) then
      return -twiNokTout
    if !(← waitWhile readStatus (fun status => decide (status ≠ twiDatawriteAck)) 0xffff) then
      return -twiNokTout
    sunxiTwiSendData data left (i + 1)

/-- Sends a stop. -/
def sunxiTwiSendStop : TwiProgram Ulong := do
  let ctl ← readCtl
  writeCtl (ctl ||| 0x10)
  let ctl ← readCtl
  writeCtl (ctl &&& 0xf7)
  if !(← waitWhile readCtl (fun ctl => decide (ctl &&& 0x10 ≠ 0)) 0xffff) then
    return -twiNokTout
  let _ ← waitWhile readStatus (fun status => decide (status ≠ twiReady)) 0xffff
  let tmpVal ← readStatus
  if tmpVal ≠ twiReady then
    return -twiNokTout
  return twiOk

/-! ### Transfers -/

/-- The highest index of the address bytes -/
def addrSize (addrLen : Ulong) : Nat :=
  if addrLen ≥ 3 then 2 else if addrLen ≤ 1 then 0 else 1

/-- `slaveReg[i]` -/
def slaveReg (addr : Ulong) (i : Nat) : U8 := (addr >>> (8 * i)).setWidth 8

/-- `for (i = addrSize; i >= 0; i--)`, until a byte is not taken -/
def sendAddrBytes (addr : Ulong) : Nat → TwiProgram Ulong
  | 0 => sunxiTwiSendByteAddr ((slaveReg addr 0).setWidth 64)
  | i + 1 => do
    let ret ← sunxiTwiSendByteAddr ((slaveReg addr (i + 1)).setWidth 64)
    if ret ≠ 0 then
      return ret
    sendAddrBytes addr i

/-- The beginning that `TwiRead` and `TwiWrite` share -/
def sendAddress (chip addr addrLen : Ulong) : TwiProgram Ulong := do
  let ret ← sunxiTwiSendStart
  if ret ≠ 0 then
    return ret
  let ret ← sunxiTwiSendSlaveAddr chip false
  if ret ≠ 0 then
    return ret
  sendAddrBytes addr (addrSize addrLen)

/-- `TwiRead` up to the label, with `ret` there -/
def readSteps (rounds : Nat) (chip addr addrLen : Ulong) (buffer : Memory U8) (length : Ulong) :
    TwiProgram (Option (Ulong × Memory U8)) := do
  let ret ← sendAddress chip addr addrLen
  if ret ≠ 0 then
    return some (ret, buffer)
  let ret ← sunxiTwiSendRestart
  if ret ≠ 0 then
    return some (ret, buffer)
  let ret ← sunxiTwiSendSlaveAddr chip true
  if ret ≠ 0 then
    return some (ret, buffer)
  sunxiTwiGetData rounds buffer length

/-- Reads bytes at an address of a chip, and stops in any case. -/
def twiRead (rounds : Nat) (chip addr addrLen : Ulong) (buffer : Memory U8) (length : Ulong) :
    TwiProgram (Option (Ulong × Memory U8)) := do
  let some (ret, buffer) ← readSteps rounds chip addr addrLen buffer length | return none
  let _ ← sunxiTwiSendStop
  return some (if ret = 0 then efiSuccess else minusOne, buffer)

/-- `TwiWrite` up to the label, with `ret` there -/
def writeSteps (chip addr addrLen : Ulong) (buffer : Memory U8) (length : Ulong) :
    TwiProgram Ulong := do
  let ret ← sendAddress chip addr addrLen
  if ret ≠ 0 then
    return ret
  sunxiTwiSendData buffer length.toNat 0

/-- Writes bytes at an address of a chip, and stops in any case. -/
def twiWrite (chip addr addrLen : Ulong) (buffer : Memory U8) (length : Ulong) :
    TwiProgram Ulong := do
  let ret ← writeSteps chip addr addrLen buffer length
  let _ ← sunxiTwiSendStop
  return if ret = 0 then efiSuccess else minusOne

end Twi

end PinePhonePkg
