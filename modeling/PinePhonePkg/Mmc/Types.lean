/-
This file gives the data of the MMC core: the fields of `struct mmc` and
`struct mmc_config` that the modelled functions use, the command and data
records they hand to the host driver, and the requests that leave the core.

The core reaches the card only through the operations of the host driver
(`send_cmd`, `set_ios`, `update_phase`) and the memory allocator, so these are
the requests of a `Driver` program. A local variable that the source reads
before it has set it is a request too: it may hold anything.
-/

import PinePhonePkg.Library.Program
import PinePhonePkg.Library.Memory

namespace PinePhonePkg

/-! ### Machine words -/

/-- A byte -/
abbrev U8 : Type := BitVec 8

/-- A word of 32 bits -/
abbrev U32 : Type := BitVec 32

/-- `ulong` of the 64-bit build. -/
abbrev Ulong : Type := BitVec 64

/-- A buffer of the caller, byte by byte -/
abbrev Buffer : Type := Library.Memory U8

/-! ### Four words

A response and CSD have four words, which many modules index; the bounds are lemmas that all of them
use. -/

theorem zero_lt_words : 0 < 4 := by decide

theorem one_lt_words : 1 < 4 := by decide

theorem two_lt_words : 2 < 4 := by decide

theorem three_lt_words : 3 < 4 := by decide

theorem size_words (first second third fourth : U32) :
    #[first, second, third, fourth].size = 4 := rfl

/-- Four words that are 0 -/
def noWords : Vector U32 4 := ⟨#[0, 0, 0, 0], rfl⟩

/-- The `b_max` of the host driver -/
theorem blocks_pos : (0 : U32) < 65535 := by decide

/-- The least erase group -/
theorem sector_pos : (0 : U32) < 1 := by decide

/-! ### Commands -/

@[match_pattern] abbrev mmcCmdSwitch : Nat := 6

@[match_pattern] abbrev mmcCmdSendExtCsd : Nat := 8

@[match_pattern] abbrev mmcCmdStopTransmission : Nat := 12

@[match_pattern] abbrev mmcCmdSendStatus : Nat := 13

@[match_pattern] abbrev mmcCmdSetBlocklen : Nat := 16

@[match_pattern] abbrev mmcCmdReadSingleBlock : Nat := 17

@[match_pattern] abbrev mmcCmdReadMultipleBlock : Nat := 18

@[match_pattern] abbrev mmcCmdWriteSingleBlock : Nat := 24

@[match_pattern] abbrev mmcCmdWriteMultipleBlock : Nat := 25

@[match_pattern] abbrev mmcCmdEraseGroupStart : Nat := 35

@[match_pattern] abbrev mmcCmdEraseGroupEnd : Nat := 36

@[match_pattern] abbrev mmcCmdErase : Nat := 38

def mmcRspR1 : U32 := 0x15

def mmcRspR1b : U32 := 0x1d

def mmcDataRead : U32 := 1

def mmcDataWrite : U32 := 2

/-- `struct mmc_cmd` as it is handed to the host driver; `flags` is `none` where the core
leaves it unset. -/
structure MmcCmd where
  cmdidx : Nat
  respType : U32
  cmdarg : U32
  flags : Option U32
  deriving DecidableEq

/-- `struct mmc_data`; `src` is read only when `flags` asks for a write. -/
structure MmcData where
  src : Buffer
  flags : U32
  blocks : U32
  blocksize : U32

/-- What a command comes back with: the return value of `send_cmd`, `response[0]`, and the
bytes that were stored at `dest`. -/
structure CmdReply where
  error : Int
  response : U32
  dest : Buffer

/-! ### Error codes -/

def commErr : Int := -18

def timeoutErr : Int := -19

def switchErr : Int := -21

/-! ### The host and card descriptors -/

def mmcVersion441 : U32 := 0x10429

def mmcVersion45 : U32 := 0x10405

def mmcVersion50 : U32 := 0x10500

def sdVersionSd : U32 := 0x20000

def mmcModeHs : U32 := 0x1

def mmcModeHs52Mhz : U32 := 0x2

def mmcMode4Bit : U32 := 0x4

def mmcMode8Bit : U32 := 0x8

def mmcModeDdr52Mhz : U32 := 0x40

def mmcModeHs200 : U32 := 0x80

def mmcModeHs400 : U32 := 0x100

def ds26Sdr12 : U32 := 0

def hssdr52Sdr25 : U32 := 1

def hsddr52Ddr50 : U32 := 2

def hs200Sdr104 : U32 := 3

def hs400 : U32 := 4

def drvParaNotBurnUserPart : U32 := 0x1

def drvParaBurnEmmcBootPart : U32 := 0x2

def drvParaDisableSecureWipe : U32 := 0x1

def drvParaDisableEmmcErase : U32 := 0x1

def drvParaEnableEmmcSanitizeWhenErase : U32 := 0x2

/-- What the platform asks of the driver -/
structure MmcPlatformCaps where
  drvBurnBootPos : U32
  drvWipeFeature : U32
  drvEraseFeature : U32
  deriving DecidableEq

/-- `struct mmc_config`. The host driver sets `b_max` to 65535; the chunk loops of the core
would not advance with a `b_max` of zero. -/
structure MmcConfig where
  hasSetIos : Bool
  hasUpdatePhase : Bool
  hostCaps : U32
  platformCaps : MmcPlatformCaps
  bMax : U32
  bMaxPos : 0 < bMax := by decide

/-- The block device of a card, with its capacity in sectors -/
structure BlockDev where
  lba : U32
  deriving DecidableEq

/-- `struct mmc`. The erase group size is a divisor in every erase, so it is not zero. -/
structure Mmc where
  cfg : MmcConfig
  version : U32
  highCapacity : Bool
  busWidth : U32
  clock : U32
  cardCaps : U32
  csd : Vector U32 4
  rca : BitVec 16
  partConfig : U8
  readBlLen : U32
  writeBlLen : U32
  eraseGrpSize : U32
  eraseGrpSizePos : 0 < eraseGrpSize := by decide
  blockDev : BlockDev
  speedMode : U32
  bootSupport : U32
  bootBusCond : U8
  eraseTimeout : U32
  trimDiscardTimeout : U32
  secureEraseTimeout : U32
  secureTrimTimeout : U32
  secureFeature : U8

/-- The descriptor of a host with a `b_max` of 65535 blocks, before anything is known about the
card but that its blocks have 512 bytes. -/
def Mmc.unidentified : Mmc where
  cfg := ⟨true, true, 0, ⟨0, 0, 0⟩, 65535, blocks_pos⟩
  version := 0x10000
  highCapacity := false
  busWidth := 1
  clock := 0
  cardCaps := 0
  csd := noWords
  rca := 0
  partConfig := 0
  readBlLen := 512
  writeBlLen := 512
  eraseGrpSize := 1
  eraseGrpSizePos := sector_pos
  blockDev := ⟨0⟩
  speedMode := ds26Sdr12
  bootSupport := 0
  bootBusCond := 0
  eraseTimeout := 0
  trimDiscardTimeout := 0
  secureEraseTimeout := 0
  secureTrimTimeout := 0
  secureFeature := 0

/-- `IS_SD(mmc)`. -/
def Mmc.isSd (mmc : Mmc) : Bool := mmc.version &&& sdVersionSd != 0

/-! ### Requests of the core -/

/-- What the driver asks of the host, the memory and the platform -/
inductive Request where
  | sendCmd (cmd : MmcCmd) (data : Option MmcData)
  | setIos (clock busWidth speedMode : U32)
  | updatePhase
  | malloc (size : Ulong)
  | unsetWord

/-- What the environment gives back: `malloc` fails or gives the memory from some address on,
with whatever it holds, and an unset word is any word. -/
@[reducible]
def Request.Reply : Request → Type
  | .sendCmd _ _ => CmdReply
  | .setIos _ _ _ => Unit
  | .updatePhase => Int
  | .malloc _ => Option Buffer
  | .unsetWord => U32

/-- A program of the driver -/
abbrev Driver (Result : Type) : Type := Library.Program Request Request.Reply Result

/-- Makes one request. -/
def ask (request : Request) : Driver request.Reply :=
  Library.Program.send request

/-- `mmc_send_cmd` hands the command on to the host driver. -/
def mmcSendCmd (cmd : MmcCmd) (data : Option MmcData) : Driver CmdReply :=
  ask (.sendCmd cmd data)

/-- Tells the host the clock, the lines and the mode. -/
def mmcSetIos (mmc : Mmc) : Driver Unit :=
  if mmc.cfg.hasSetIos then ask (.setIos mmc.clock mmc.busWidth mmc.speedMode) else pure ()

/-- Has the host look for the phase, where it can. -/
def mmcUpdatePhase (mmc : Mmc) : Driver Int :=
  if mmc.cfg.hasUpdatePhase then ask .updatePhase else pure 0

/-- Memory of a size, if there is any -/
def malloc (size : Ulong) : Driver (Option Buffer) :=
  ask (.malloc size)

end PinePhonePkg
