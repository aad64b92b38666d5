/-
This file models the driver's part for card 0: the timer callback that watches
the card-detect pin, the counting of readings before a card is initialised, and
what is installed and removed with it.
-/

import PinePhonePkg.Library.HandleDatabase
import PinePhonePkg.Mmc.Types

namespace PinePhonePkg

open Library

/-! ### Handles, pool memory and media -/

/-- The protocols that the driver installs -/
inductive Protocol : Type where
  | blockIo
  | devicePath
  | sunxiFlashIo
deriving DecidableEq, Repr

/-- The address of an interface: in this driver's pool memory, or of another driver. -/
inductive Pointer : Type where
  | null
  | pool (number : Nat)
  | other (number : Nat)
deriving DecidableEq, Repr

/-- The pool memory of the driver. Each allocation has a number of its own. -/
structure Pool : Type where
  next : Nat
  freed : List Pointer

/-- A new allocation. -/
def Pool.allocateZeroPool (pool : Pool) : Pointer × Pool :=
  (.pool pool.next, { pool with next := pool.next + 1 })

/-- The null pointer fails an assertion of the allocation library. -/
def Pool.freePool (pool : Pool) (pointer : Pointer) : Option Pool :=
  if pointer = .null then none else some { pool with freed := pointer :: pool.freed }

/-- What is told of the media -/
structure EfiBlockIoMedia : Type where
  mediaId : U32
  removableMedia : Bool
  mediaPresent : Bool
  readOnly : Bool
  blockSize : U32
  lastBlock : Ulong

/-- What the driver does that others see. -/
inductive Action : Type where
  | reading (present : Bool)
  | logicalInit (result : Int) (lba : Ulong)
  | logicalExit
  | installed (handle : Nat) (protocol : Protocol) (pointer : Pointer)
  | uninstalled (handle : Nat) (protocol : Protocol) (pointer : Pointer)
deriving DecidableEq

/-- The state of the driver for card 0, the handle database, and a log of the actions. -/
structure SdMmcDxe (Database : Type) : Type where
  gSdMmc0 : EfiBlockIoMedia
  detectCount : U32
  gCard0DetectLock : Bool
  gSdMmcHandle0 : Option Nat
  database : Database
  pool : Pool
  log : List Action

section Driver

variable {Database : Type}

/-- How a step of the driver ends: it comes back with a result, or a failed assertion stops the
processor for good in the state that is left then. -/
abbrev Halting (Database Result : Type) : Type :=
  Except (SdMmcDxe Database) Result

/-- Something is done that others see. -/
def SdMmcDxe.record (dxe : SdMmcDxe Database) (action : Action) : SdMmcDxe Database :=
  { dxe with log := dxe.log ++ [action] }

/-- The lock is taken. -/
def SdMmcDxe.acquire (dxe : SdMmcDxe Database) : SdMmcDxe Database :=
  { dxe with gCard0DetectLock := true }

/-- The lock is given back. -/
def SdMmcDxe.release (dxe : SdMmcDxe Database) : SdMmcDxe Database :=
  { dxe with gCard0DetectLock := false }

/-! ### Card 0 -/

/-- A negative pin value fails an assertion. -/
def card0Present (gpioValue : Int) : Option Bool :=
  if gpioValue < 0 then none else some (gpioValue != 1)

/-- The card in the slot: how the two parts of its initialisation end, and its sectors. -/
structure Card0 : Type where
  sunxiMmcInit : Int
  mmcInit : Int
  lba : Ulong

/-- Initialises the card; zero or -1. -/
def sdmmcLogicalInit (card : Card0) : Int :=
  if card.sunxiMmcInit < 0 then -1
  else if card.mmcInit ≠ 0 then -1
  else 0

/-- What a callback meets: the pin at its first and at its second reading, and the card. -/
structure Card0Input : Type where
  gpioValue : Int
  gpioValueAgain : Int
  card : Card0

/-- The statuses of the initialisation -/
inductive EfiStatus : Type where
  | success
  | noMedia
  | deviceError
deriving DecidableEq

/-- `SIGNATURE_32('s','d','h','c')` -/
def sdhcSignature : U32 := 0x63686473#32

/-- The initialisation of a card that was counted often enough. The result of
`SDMMC_LogicalInit`, a status, is taken for a number of sectors. -/
def initDetectedCard (card : Card0) (dxe : SdMmcDxe Database) :
    EfiStatus × SdMmcDxe Database :=
  let lba := sdmmcLogicalInit card
  let dxe := dxe.record (.logicalInit lba card.lba)
  let media :=
    if lba < 0 then { dxe.gSdMmc0 with mediaPresent := false, lastBlock := 0 }
    else { dxe.gSdMmc0 with lastBlock := BitVec.ofInt 64 (lba - 1), mediaPresent := true }
  (if lba < 0 then .deviceError else .success,
    { dxe with
      gSdMmc0 := { media with blockSize := 512, readOnly := false, mediaId := sdhcSignature }
      detectCount := 0 })

/-- The second reading of a callback. The third one in a row that is present counts enough. -/
def detectCard0 (input : Card0Input) (dxe : SdMmcDxe Database) :
    Halting Database (EfiStatus × SdMmcDxe Database) :=
  match card0Present input.gpioValueAgain with
  | none => .error dxe
  | some false => .ok (.noMedia, { dxe.record (.reading false) with detectCount := 0 })
  | some true =>
    let dxe := { dxe.record (.reading true) with detectCount := dxe.detectCount + 1 }
    if 3 ≤ dxe.detectCount then .ok (initDetectedCard input.card dxe)
    else .ok (.noMedia, dxe)

section Services

variable (services : HandleServices Database Protocol Pointer)

/-! ### Installing and removing -/

/-- The status of the installation is not looked at by the callers. -/
def installMmcFlashIoProtocol (dxe : SdMmcDxe Database) : SdMmcDxe Database :=
  let eMmcFlashIo := dxe.pool.allocateZeroPool.1
  let dxe := { dxe with pool := dxe.pool.allocateZeroPool.2 }
  match services.install dxe.database dxe.gSdMmcHandle0 [(.sunxiFlashIo, eMmcFlashIo)] with
  | none => dxe
  | some (database, handle) =>
    { dxe with database := database, gSdMmcHandle0 := some handle }.record
      (.installed handle .sunxiFlashIo eMmcFlashIo)

/-- Publishes the block interface of a card, after the flash interface when there is none. A
failure fails an assertion. -/
def publishBlockIo (blockIo devicePath : Pointer) (dxe : SdMmcDxe Database) :
    Halting Database (SdMmcDxe Database) :=
  match services.install dxe.database dxe.gSdMmcHandle0
      [(.blockIo, blockIo), (.devicePath, devicePath)] with
  | none => .error dxe
  | some (database, handle) =>
    .ok (({ dxe with database := database, gSdMmcHandle0 := some handle }.record
      (.installed handle .blockIo blockIo)).record (.installed handle .devicePath devicePath))

/-- Allocates the interfaces of a card and installs them, the one for the flash before if it is not
there. -/
def installCard0 (dxe : SdMmcDxe Database) : Halting Database (SdMmcDxe Database) :=
  let blockIo := dxe.pool.allocateZeroPool.1
  let pool := dxe.pool.allocateZeroPool.2
  let devicePath := pool.allocateZeroPool.1
  let dxe := { dxe with pool := pool.allocateZeroPool.2 }
  if (services.locate dxe.database .sunxiFlashIo).isSome then
    publishBlockIo services blockIo devicePath dxe
  else
    publishBlockIo services blockIo devicePath (installMmcFlashIoProtocol services dxe)

/-- The interface on the handle of card 0, or the null pointer. -/
def handleProtocol (dxe : SdMmcDxe Database) (protocol : Protocol) : Pointer :=
  match dxe.gSdMmcHandle0 with
  | none => .null
  | some handle => (services.interface dxe.database handle protocol).getD .null

/-- The interfaces that a removal names. -/
def card0Interfaces (dxe : SdMmcDxe Database) : List (Protocol × Pointer) :=
  [(.blockIo, handleProtocol services dxe .blockIo),
    (.devicePath, handleProtocol services dxe .devicePath),
    (.sunxiFlashIo, handleProtocol services dxe .sunxiFlashIo)]

/-- The status of the removal is not looked at. -/
def uninstallCard0 (dxe : SdMmcDxe Database) : SdMmcDxe Database :=
  match dxe.gSdMmcHandle0 with
  | none => dxe
  | some handle =>
    match services.uninstall dxe.database handle (card0Interfaces services dxe) with
    | none => dxe
    | some database =>
      { dxe with
        database := database
        log := dxe.log ++ (card0Interfaces services dxe).map fun entry =>
          Action.uninstalled handle entry.1 entry.2 }

/-- Gives the interfaces back to the pool one after the other. -/
def SdMmcDxe.freeInterfaces (dxe : SdMmcDxe Database) :
    List (Protocol × Pointer) → Halting Database (SdMmcDxe Database)
  | [] => .ok dxe
  | entry :: rest =>
    match dxe.pool.freePool entry.2 with
    | none => .error dxe
    | some pool => { dxe with pool := pool }.freeInterfaces rest

/-- The interfaces are read before the removal, and freed however it ends. -/
def removeCard0 (dxe : SdMmcDxe Database) : Halting Database (SdMmcDxe Database) :=
  match (uninstallCard0 services dxe).freeInterfaces (card0Interfaces services dxe) with
  | .error dxe => .error dxe
  | .ok dxe =>
    .ok ({ dxe with gSdMmc0 := { dxe.gSdMmc0 with mediaPresent := false } }.record .logicalExit)

/-! ### The callback -/

/-- A callback that reads the card as present while none is known. -/
def insertCard0 (input : Card0Input) (dxe : SdMmcDxe Database) :
    Halting Database (SdMmcDxe Database) :=
  match detectCard0 input dxe with
  | .error dxe => .error dxe
  | .ok (.success, dxe) =>
    (installCard0 services { dxe with gSdMmcHandle0 := none }).map SdMmcDxe.release
  | .ok (_, dxe) => .ok dxe.release

/-- A callback that finds the lock taken comes back at once. -/
def card0DetectTimerCallback (input : Card0Input) (dxe : SdMmcDxe Database) :
    Halting Database (SdMmcDxe Database) :=
  if dxe.gCard0DetectLock then .ok dxe
  else
    match card0Present input.gpioValue with
    | none => .error dxe.acquire
    | some present =>
      let dxe := dxe.acquire.record (.reading present)
      if dxe.gSdMmc0.mediaPresent then
        if present then .ok dxe.release else (removeCard0 services dxe).map SdMmcDxe.release
      else
        if present then insertCard0 services input dxe else .ok dxe.release

/-- What the driver does for card 0 when it is loaded. -/
def initializeCard0 (input : Card0Input) (dxe : SdMmcDxe Database) :
    Halting Database (SdMmcDxe Database) :=
  match card0Present input.gpioValue with
  | none => .error dxe
  | some false => .ok (dxe.record (.reading false))
  | some true =>
    let dxe := dxe.record (.reading true)
    let lba := sdmmcLogicalInit input.card
    let dxe := dxe.record (.logicalInit lba input.card.lba)
    if lba ≠ 0 then .ok dxe
    else
      installCard0 services { dxe with
        gSdMmc0 := { dxe.gSdMmc0 with mediaPresent := true, lastBlock := input.card.lba - 1 } }

end Services

/-- The driver before it is loaded. -/
def SdMmcDxe.unloaded (database : Database) : SdMmcDxe Database where
  gSdMmc0 := {
    mediaId := sdhcSignature
    removableMedia := true
    mediaPresent := false
    readOnly := false
    blockSize := 512
    lastBlock := 0 }
  detectCount := 0
  gCard0DetectLock := false
  gSdMmcHandle0 := none
  database := database
  pool := { next := 0, freed := [] }
  log := []

end Driver

end PinePhonePkg
