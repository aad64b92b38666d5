/-
This file embeds the identification of a card: which family it belongs to, and
how it is addressed, are found out from what it answers to CMD8, ACMD41 and CMD1.
The delays between the commands are left out.
-/

import PinePhonePkg.Start.Startup

namespace PinePhonePkg

open Library

/-! ### Constants -/

@[match_pattern] abbrev mmcCmdGoIdleState : Nat := 0

@[match_pattern] abbrev mmcCmdSendOpCond : Nat := 1

@[match_pattern] abbrev sdCmdSendIfCond : Nat := 8

@[match_pattern] abbrev sdCmdAppSendOpCond : Nat := 41

def mmcModeHc : U32 := 0x20

def ocrBusy : U32 := 0x80000000

def ocrHcs : U32 := 0x40000000

def ocrVoltageMask : U32 := 0x007fff80

def ocrAccessMode : U32 := 0x60000000

def noCardErr : Int := -16

def unusableErr : Int := -17

def inProgress : Int := -20

def workModeBoot : Int := 0

def cardTypeSd : U32 := 0x8000001

def cardTypeMmc : U32 := 0x8000000

/-! ### Reset and CMD8 -/

/-- CMD0 -/
def goIdleCmd : MmcCmd :=
  ⟨mmcCmdGoIdleState, mmcRspNone, 0, some 0⟩

/-- Resets the card and waits for it. -/
def mmcGoIdle : StartDriver Int := do
  let reply ← startCmd goIdleCmd none
  return reply.error

/-- The bit for the voltages is set if the host supports some between 2.7 and 3.6 V. -/
def sendIfCondCmd (mmc : StartMmc) : MmcCmd :=
  ⟨sdCmdSendIfCond, mmcRspR7,
    (if mmc.cfg.voltages &&& 0xff8000 ≠ 0 then 0x100 else 0) ||| 0xaa, some 0⟩

/-- Asks for version 2, and keeps it if the pattern comes back. -/
def mmcSendIfCond (mmc : StartMmc) : StartDriver (Int × StartMmc) := do
  let reply ← startCmd (sendIfCondCmd mmc) none
  if reply.error ≠ 0 then
    return (reply.error, mmc)
  if getElem reply.response 0 zero_lt_words &&& 0xff ≠ 0xaa then
    return (unusableErr, mmc)
  return (0, { mmc with version := sdVersion2 })

/-! ### The operating condition of an SD card -/

/-- CMD55, before the card has an address -/
def sdAppCmd : MmcCmd :=
  ⟨mmcCmdAppCmd, mmcRspR1, 0, some 0⟩

/-- ACMD41, with the voltages of the host and, from version 2 on, sectors -/
def sdSendOpCondCmd (mmc : StartMmc) : MmcCmd :=
  ⟨sdCmdAppSendOpCond, mmcRspR3,
    mmc.cfg.voltages &&& 0xff8000 ||| if mmc.version = sdVersion2 then ocrHcs else 0, some 0⟩

/-- What a card that is ready leaves -/
def StartMmc.takeSdOcr (mmc : StartMmc) (ocr : U32) : StartMmc :=
  { mmc with
    version := if mmc.version ≠ sdVersion2 then sdVersion10 else mmc.version
    ocr := ocr
    highCapacity := ocr &&& ocrHcs == ocrHcs
    rca := 0 }

/-- `do { .. } while ((!(cmd.response[0] & OCR_BUSY)) && timeout--);` -/
def sdSendOpCondLoop (mmc : StartMmc) (timeout : Nat) : StartDriver (Int × StartMmc) := do
  let reply ← startCmd sdAppCmd none
  if reply.error ≠ 0 then
    return (reply.error, mmc)
  let reply ← startCmd (sdSendOpCondCmd mmc) none
  if reply.error ≠ 0 then
    return (reply.error, mmc)
  if getElem reply.response 0 zero_lt_words &&& ocrBusy ≠ 0 then
    return (0, mmc.takeSdOcr (getElem reply.response 0 zero_lt_words))
  match timeout with
  | 0 => return (unusableErr, mmc)
  | timeout + 1 => sdSendOpCondLoop mmc timeout

/-- Has an SD card come up, within a thousand polls. -/
def sdSendOpCond (mmc : StartMmc) : StartDriver (Int × StartMmc) :=
  sdSendOpCondLoop mmc 1000

/-! ### The operating condition of an MMC -/

/-- CMD1, with nothing the first time and then with what the card and the host have in common -/
def mmcSendOpCondCmd (mmc : StartMmc) (useArg : Bool) : MmcCmd :=
  ⟨mmcCmdSendOpCond, mmcRspR3,
    if useArg then
      mmc.cfg.voltages &&& (mmc.opCondResponse &&& ocrVoltageMask) |||
        mmc.opCondResponse &&& ocrAccessMode |||
          if mmc.cfg.hostCaps &&& mmcModeHc ≠ 0 then ocrHcs else 0
    else 0, some 0⟩

/-- Sends CMD1 once and keeps what the card answers. -/
def mmcSendOpCondIter (mmc : StartMmc) (useArg : Bool) : StartDriver (Int × StartMmc) := do
  let reply ← startCmd (mmcSendOpCondCmd mmc useArg) none
  if reply.error ≠ 0 then
    return (reply.error, mmc)
  return (0, { mmc with opCondResponse := getElem reply.response 0 zero_lt_words })

/-- What a card that is ready leaves; `cmd.response[0]` is what `op_cond_response` has been set
to. -/
def StartMmc.takeMmcOcr (mmc : StartMmc) : StartMmc :=
  { mmc with
    version := mmcVersionUnknown
    ocr := mmc.opCondResponse
    highCapacity := mmc.opCondResponse &&& ocrHcs == ocrHcs
    rca := 1 }

/-- The two turns of the loop, the first of them without an argument -/
def mmcSendOpCondLoop (mmc : StartMmc) : List Bool → StartDriver (Int × StartMmc)
  | [] => return (inProgress, mmc)
  | useArg :: turns => do
    let (err, mmc) ← mmcSendOpCondIter mmc useArg
    if err ≠ 0 then
      return (err, mmc)
    if mmc.opCondResponse &&& ocrBusy ≠ 0 then
      return (0, { mmc with opCondPending := 0 }.takeMmcOcr)
    mmcSendOpCondLoop mmc turns

/-- Whether the card could be reset is not looked at. -/
def mmcSendOpCond (mmc : StartMmc) : StartDriver (Int × StartMmc) := do
  let _ ← mmcGoIdle
  mmcSendOpCondLoop { mmc with opCondPending := 1 } [false, true]

/-- `do { .. } while (!(mmc->op_cond_response & OCR_BUSY));`, which ends with an error when the
timeout has come to zero, also if the card has just become ready -/
def mmcCompleteOpCondLoop (mmc : StartMmc) (timeout : Nat) : StartDriver (Int × StartMmc) := do
  let (err, mmc) ← mmcSendOpCondIter mmc true
  if err ≠ 0 then
    return (err, mmc)
  match timeout with
  | 0 => return (unusableErr, mmc)
  | timeout + 1 =>
    if mmc.opCondResponse &&& ocrBusy ≠ 0 then
      return (0, mmc.takeMmcOcr)
    mmcCompleteOpCondLoop mmc timeout

/-- Polls an MMC until it is up, within a thousand polls, if that is still to be done. -/
def mmcCompleteOpCond (mmc : StartMmc) : StartDriver (Int × StartMmc) := do
  if mmc.opCondPending = 0 then
    return (0, mmc)
  mmcCompleteOpCondLoop { mmc with opCondPending := 0 } 1000

/-! ### Which family is tried -/

/-- What `mmc_start_init` takes from elsewhere: the work mode and the type of the card from the boot
head, whether there is a card (`mmc_getcd`), and what the host's `init` comes back with, if there
is one -/
structure StartPlatform where
  workMode : Int
  cardType : U32
  cardDetect : Int
  init : Option Int

/-- The error of CMD8 is not looked at. -/
def trySd (mmc : StartMmc) : StartDriver (Int × StartMmc) := do
  let (_, mmc) ← mmcSendIfCond mmc
  sdSendOpCond mmc

/-- An error other than that the card is not ready yet makes the card unusable. -/
def unlessInProgress (result : Int × StartMmc) : Int × StartMmc :=
  if result.1 ≠ 0 ∧ result.1 ≠ inProgress then (unusableErr, result.2) else result

/-- Tries an SD card only. -/
def trySdOnly (mmc : StartMmc) : StartDriver (Int × StartMmc) := do
  return unlessInProgress (← trySd mmc)

/-- Tries an MMC only. -/
def tryMmc (mmc : StartMmc) : StartDriver (Int × StartMmc) := do
  return unlessInProgress (← mmcSendOpCond mmc)

/-- `If the command timed out, we check for an MMC card` -/
def trySdThenMmc (mmc : StartMmc) : StartDriver (Int × StartMmc) := do
  let (err, mmc) ← trySd mmc
  if err = -1 then tryMmc mmc else return (err, mmc)

/-- Tries the card of the platform when it boots, and else an SD card and then an MMC. -/
def tryCard (platform : StartPlatform) (mmc : StartMmc) : StartDriver (Int × StartMmc) :=
  if platform.workMode = workModeBoot then
    if platform.cardType = cardTypeSd then trySdOnly mmc
    else if platform.cardType = cardTypeMmc then tryMmc mmc
    else trySdThenMmc mmc
  else trySdThenMmc mmc

/-- What `mmc_start_init` does with a card that has not been started -/
def resetAndTry (platform : StartPlatform) (mmc : StartMmc) : StartDriver (Int × StartMmc) := do
  let mmc ← mmc.setBusWidth 1
  let mmc ← mmcSetClock mmc 1
  let err ← mmcGoIdle
  if err ≠ 0 then
    return (err, mmc)
  let (err, mmc) ← tryCard platform { mmc with partNum := 0 }
  return (err, if err = inProgress then { mmc with initInProgress := 1 } else mmc)

/-- Sets up the host, resets the card and finds out which it is. -/
def mmcStartInit (platform : StartPlatform) (mmc : StartMmc) : StartDriver (Int × StartMmc) :=
  match platform.init with
  | none => pure (noCardErr, { mmc with hasInit := 0 })
  | some err =>
    if platform.cardDetect = 0 then pure (noCardErr, { mmc with hasInit := 0 })
    else if mmc.hasInit ≠ 0 then pure (0, mmc)
    else if err ≠ 0 then pure (err, mmc)
    else resetAndTry platform mmc

/-- The first step of `mmc_complete_init` -/
def completeOpCondStep (mmc : StartMmc) : StartDriver (Int × StartMmc) :=
  if mmc.opCondPending ≠ 0 then mmcCompleteOpCond mmc else pure (0, mmc)

/-- `mmc_start_init`, and `mmc_complete_init` as far as the operating condition -/
def identify (platform : StartPlatform) (mmc : StartMmc) : StartDriver (Int × StartMmc) := do
  let (err, mmc) ← mmcStartInit platform mmc
  if err = 0 ∨ err = inProgress then completeOpCondStep mmc else return (err, mmc)

end PinePhonePkg
