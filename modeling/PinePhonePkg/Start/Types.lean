/-
This file gives the data of the start-up of a card. `struct mmc` has more fields
here than for a card that is in use: those that the start-up fills in, and an
erase group size that may be zero, as nothing is known about it yet. The commands
of the start-up are answered with four response words.
-/

import PinePhonePkg.Mmc.Erase

namespace PinePhonePkg

open Library

/-! ### Versions and other constants -/

/-- The versions of SD cards, with the bit that tells them from the others -/
def sdVersion3 : U32 := 0x20300
def sdVersion2 : U32 := 0x20200
def sdVersion10 : U32 := 0x20100
def sdVersion110 : U32 := 0x2010a

/-- The versions of MMC, as far as they are read from the registers -/
def mmcVersionUnknown : U32 := 0x10000
def mmcVersion12 : U32 := 0x10102
def mmcVersion14 : U32 := 0x10104
def mmcVersion22 : U32 := 0x10202
def mmcVersion3 : U32 := 0x10300
def mmcVersion4 : U32 := 0x10400
def mmcVersion41 : U32 := 0x10401
def mmcVersion42 : U32 := 0x10402
def mmcVersion43 : U32 := 0x10403
def mmcVersion51 : U32 := 0x10501
def mmcVersionNewVer : U32 := 0x10fff

def mmcRspNone : U32 := 0

def mmcRspR2 : U32 := 0x7

def mmcRspR3 : U32 := 0x1

def mmcRspR6 : U32 := 0x15

def mmcRspR7 : U32 := 0x15

def mmcMaxBlockLen : U32 := 512

def mmcpartNoavailable : U8 := 0xff

/-! ### The host and card descriptors -/

/-- `struct mmc_config` with the limits of the clock and the voltages -/
structure StartConfig extends MmcConfig where
  fMin : U32
  fMax : U32
  voltages : U32

/-- `block_dev_desc_t`, without what is only printed -/
structure StartBlockDev where
  lba : U32
  blksz : Ulong
  deriving DecidableEq

/-- `struct mmc`, without the private data of the host and the fields that nothing sets -/
structure StartMmc where
  cfg : StartConfig
  version : U32
  hasInit : U32
  highCapacity : Bool
  busWidth : U32
  clock : U32
  cardCaps : U32
  ocr : U32
  dsr : U32
  dsrImp : U32
  scr : Vector U32 2
  csd : Vector U32 4
  cid : Vector U32 4
  rca : BitVec 16
  partConfig : U8
  partNum : U8
  tranSpeed : U32
  readBlLen : U32
  writeBlLen : U32
  eraseGrpSize : U32
  capacity : Ulong
  capacityUser : Ulong
  capacityBoot : Ulong
  capacityRpmb : Ulong
  capacityGp : Fin 4 → Ulong
  blockDev : StartBlockDev
  opCondPending : U8
  initInProgress : U8
  opCondResponse : U32
  speedMode : U32
  ioMode : U32
  clockAfterInit : U32
  bootSupport : U32
  bootBusCond : U8
  eraseTimeout : U32
  trimDiscardTimeout : U32
  secureEraseTimeout : U32
  secureTrimTimeout : U32
  secureFeature : U8
  secureRemovalType : U8
  preEolInfo : U8
  devLifeTimeTypea : U8
  devLifeTimeTypeb : U8
  vendorHealthReport : Fin 32 → U8
  lba : U32

namespace StartMmc

/-- `IS_SD(mmc)` -/
def isSd (mmc : StartMmc) : Bool := mmc.version &&& sdVersionSd != 0

/-- The descriptor of the card in use, once its erase groups have a size -/
def toMmc (mmc : StartMmc) (eraseGrpSize : U32) (positive : 0 < eraseGrpSize) : Mmc where
  cfg := mmc.cfg.toMmcConfig
  version := mmc.version
  highCapacity := mmc.highCapacity
  busWidth := mmc.busWidth
  clock := mmc.clock
  cardCaps := mmc.cardCaps
  csd := mmc.csd
  rca := mmc.rca
  partConfig := mmc.partConfig
  readBlLen := mmc.readBlLen
  writeBlLen := mmc.writeBlLen
  eraseGrpSize := eraseGrpSize
  eraseGrpSizePos := positive
  blockDev := ⟨mmc.blockDev.lba⟩
  speedMode := mmc.speedMode
  bootSupport := mmc.bootSupport
  bootBusCond := mmc.bootBusCond
  eraseTimeout := mmc.eraseTimeout
  trimDiscardTimeout := mmc.trimDiscardTimeout
  secureEraseTimeout := mmc.secureEraseTimeout
  secureTrimTimeout := mmc.secureTrimTimeout
  secureFeature := mmc.secureFeature

/-- The descriptor as the commands of the core look at it, which is not at the erase groups -/
def described (mmc : StartMmc) : Mmc := mmc.toMmc 1 sector_pos

/-- The timeouts that the core has computed -/
def withTimeouts (mmc : StartMmc) (updated : Mmc) : StartMmc :=
  { mmc with
    eraseTimeout := updated.eraseTimeout
    trimDiscardTimeout := updated.trimDiscardTimeout
    secureEraseTimeout := updated.secureEraseTimeout
    secureTrimTimeout := updated.secureTrimTimeout }

end StartMmc

/-! ### Requests of the start-up -/

/-- What a command comes back with, the four response words among it -/
structure StartCmdReply where
  error : Int
  response : Vector U32 4
  dest : Buffer

/-- The reply to a request; that to a command has all words of the response. -/
@[reducible]
def Request.StartReply : Request → Type
  | .sendCmd _ _ => StartCmdReply
  | request => request.Reply

/-- What the functions for a card in use look at of a reply -/
def narrowReply : (request : Request) → request.StartReply → request.Reply
  | .sendCmd _ _, reply => ⟨reply.error, getElem reply.response 0 zero_lt_words, reply.dest⟩
  | .setIos _ _ _, reply => reply
  | .updatePhase, reply => reply
  | .malloc _, reply => reply
  | .unsetWord, reply => reply

/-- A program of the start -/
abbrev StartDriver (Result : Type) : Type := Program Request Request.StartReply Result

/-- A request of the start with its reply -/
abbrev StartExchange : Type := Exchange Request Request.StartReply

/-- The functions for a card in use -/
def inUse {Result : Type} (program : Driver Result) : StartDriver Result :=
  program.reading narrowReply

/-- Sends a command. -/
def startCmd (cmd : MmcCmd) (data : Option MmcData) : StartDriver StartCmdReply :=
  Program.send (Request.sendCmd cmd data)

end PinePhonePkg
