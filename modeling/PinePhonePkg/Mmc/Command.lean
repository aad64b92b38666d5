/-
This file embeds the commands every other function of the MMC core is built
from: waiting for the card with CMD13, setting the block length, reading
EXT_CSD, and writing one EXT_CSD byte with CMD6. The waiting loop decides what
a sequence of status replies means; that decision is stated on its own, as a
function of the replies, and the loop is shown to follow it.
-/

import PinePhonePkg.Mmc.Types

namespace PinePhonePkg

open Library

/-! ### Waiting until the card is ready -/

/-- The bits of the status that are not errors -/
def mmcStatusMask : U32 := ~~~0x0206BF7F

def mmcStatusSwitchError : U32 := 0x80

def mmcStatusRdyForData : U32 := 0x100

def mmcStatusCurrState : U32 := 0x1e00

def mmcStatusAddrOutOfRange : U32 := 0x80000000

def mmcStatePrg : U32 := 0xe00

/-- What one turn of the loop of `mmc_send_status` comes to. -/
inductive StatusPoll where
  | ready (response : U32)
  | failed (error : Int)
  | again (retries : Nat)

/-- The body of the loop: the reply to CMD13 and the retries that are left decide. -/
def statusPoll (retries : Nat) (error : Int) (response : U32) : StatusPoll :=
  if error = 0 then
    if response &&& mmcStatusRdyForData ≠ 0 ∧ response &&& mmcStatusCurrState ≠ mmcStatePrg then
      .ready response
    else if response &&& mmcStatusMask ≠ 0 then .failed commErr
    else .again retries
  else
    match retries with
    | 0 => .failed error
    | retries + 1 => .again retries

/-- The checks after the loop was left with `break`; the timeout counter is a signed number. -/
def statusResult (timeout : Nat) (response : U32) : Int :=
  if timeout = 0 ∨ 2 ^ 31 ≤ timeout then timeoutErr
  else if response &&& mmcStatusSwitchError ≠ 0 then switchErr
  else if response &&& mmcStatusAddrOutOfRange ≠ 0 then -1
  else 0

/-- CMD13, with the address of the card -/
def sendStatusCmd (mmc : Mmc) : MmcCmd :=
  ⟨mmcCmdSendStatus, mmcRspR1, mmc.rca.setWidth 32 <<< 16, some 0⟩

/-- The loop of `mmc_send_status`; `timeout` is its counter, taken modulo 2^32. -/
def mmcSendStatusLoop (mmc : Mmc) (timeout retries : Nat) : Driver Int := do
  let reply ← mmcSendCmd (sendStatusCmd mmc) none
  match statusPoll retries reply.error reply.response with
  | .ready response => return statusResult timeout response
  | .failed error => return error
  | .again retries =>
    match timeout with
    | 0 => return timeoutErr
    | timeout + 1 => mmcSendStatusLoop mmc timeout retries

/-- Waits until the card is ready, with five further tries for a command that fails. -/
def mmcSendStatus (mmc : Mmc) (timeout : U32) : Driver Int :=
  mmcSendStatusLoop mmc timeout.toNat 5

/-- What the loop makes of the replies `status 0`, `status 1`, and so on, with the number of
replies it looks at. -/
def pollStatus (status : Nat → Int × U32) (timeout retries : Nat) : Int × Nat :=
  match statusPoll retries (status 0).1 (status 0).2 with
  | .ready response => (statusResult timeout response, 1)
  | .failed error => (error, 1)
  | .again retries =>
    match timeout with
    | 0 => (timeoutErr, 1)
    | timeout + 1 =>
      let rest := pollStatus (fun turn => status (turn + 1)) timeout retries
      (rest.1, rest.2 + 1)

/-! ### Block length and EXT_CSD -/

/-- CMD16 -/
def setBlocklenCmd (len : U32) : MmcCmd :=
  ⟨mmcCmdSetBlocklen, mmcRspR1, len, some 0⟩

/-- CMD16 is not sent in the two DDR modes. -/
def mmcSetBlocklen (mmc : Mmc) (len : U32) : Driver Int := do
  if mmc.speedMode = hs400 ∨ mmc.speedMode = hsddr52Ddr50 then
    return 0
  let reply ← mmcSendCmd (setBlocklenCmd len) none
  return reply.error

/-- CMD8 -/
def sendExtCsdCmd : MmcCmd :=
  ⟨mmcCmdSendExtCsd, mmcRspR1, 0, some 0⟩

/-- Room for the 512 bytes of the register -/
def sendExtCsdData : MmcData :=
  ⟨fun _ => 0, mmcDataRead, 1, 512⟩

/-- EXT_CSD is returned with the error code; the callers read it only when that is zero. -/
def mmcSendExtCsd : Driver (Int × Buffer) := do
  let reply ← mmcSendCmd sendExtCsdCmd (some sendExtCsdData)
  return (reply.error, reply.dest)

/-! ### Writing an EXT_CSD byte -/

def extCsdSanitizeStart : U8 := 165

def extCsdBootBusCond : U8 := 177

def extCsdPartConf : U8 := 179

def extCsdBusWidth : U8 := 183

def extCsdHsTiming : U8 := 185

def partAccessMask : U8 := 0x7

def mmcSwitchModeWriteByte : U32 := 3

/-- The argument of CMD6, which writes a value to a byte -/
def switchArg (index value : U8) : U32 :=
  mmcSwitchModeWriteByte <<< 24 ||| index.setWidth 32 <<< 16 ||| value.setWidth 32 <<< 8

/-- CMD6 -/
def switchCmd (index value : U8) : MmcCmd :=
  ⟨mmcCmdSwitch, mmcRspR1b, switchArg index value, some 0⟩

/-- The error of CMD6 itself is only printed by the source: the result is that of the clock
phase update and of the status that follows. The `set` argument of the source is not used. -/
def mmcDoSwitch (mmc : Mmc) (index value : U8) (timeout : U32) : Driver Int := do
  let _ ← mmcSendCmd (switchCmd index value) none
  mmcSetIos mmc
  let ret ← mmcUpdatePhase mmc
  if ret ≠ 0 then
    return ret
  mmcSendStatus mmc timeout

/-- Writes a byte of the register and waits for a second at most. -/
def mmcSwitch (mmc : Mmc) (index value : U8) : Driver Int :=
  mmcDoSwitch mmc index value 1000

end PinePhonePkg
