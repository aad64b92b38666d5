/-
This file embeds the logical layer over the MMC core: the calls that give a card
an offset, take it away again, and read, write, erase and size the card behind
that offset. The layer keeps one offset for all cards, and a pointer to a
descriptor for each.

The identification of a card is not embedded: it comes with the call as the
environment has it go, with any result, descriptor and card behind it.
-/

import PinePhonePkg.Library.SharedWord
import PinePhonePkg.Card.Transfer

namespace PinePhonePkg

open Library

/-! ### Devices -/

def userPart : U8 := 0

/-- The slots of `mmc_host[]`. -/
abbrev CardNo : Type := Fin 3

instance neZero_cards : NeZero 3 := ⟨by decide⟩

/-- What `mmc_devices[]` points to: the descriptor, and the fields of `struct mmc` only this
layer uses. -/
structure LogicalDevice where
  mmc : Mmc
  partNum : U8
  lba : U32
  userLba : U32

/-- What an identification without an error has made sure of. CMD0 switches the card to the user
area; the CSD of a card with byte addresses has room for 2^32 bytes; the host sets `b_max`. -/
structure Identified (mmc : Mmc) (card : Card) : Prop where
  matched : Matches mmc card
  access : card.access = userPart
  bMax : mmc.cfg.bMax = 65535
  bytes : mmc.highCapacity = false → mmc.blockDev.lba.toNat * 512 ≤ 2 ^ 32

/-- How `mmc_init` goes: the error it returns, the descriptor and the card it leaves. -/
structure Identification where
  error : Int
  mmc : Mmc
  world : World
  sound : error = 0 → Identified mmc world.card

/-- How far an initialisation comes: without the memory for the descriptors or for `struct mmc`
it ends before the card is looked for. -/
inductive Setup where
  | noMemory
  | identified (identification : Identification)

/-! ### Transfers -/

/-- The `int` a count is returned as, with -1 for zero. -/
def countResult (ret : Ulong) : Int :=
  let ret := (ret.setWidth 32).toInt
  if ret = 0 then -1 else ret

/-- The buffer is returned with the result. -/
def sdmmcLogicalRead (mmc : LogicalDevice) (bootcardOffset startSector nsector : U32)
    (buf : Buffer) : Driver (Int × Buffer) := do
  if mmc.partNum ≠ userPart then
    return (-1, buf)
  let (ret, buf) ← mmcBread (some mmc.mmc) (startSector + bootcardOffset) nsector buf
  return (countResult ret, buf)

/-- Writes sectors behind the offset of the card. -/
def sdmmcLogicalWrite (mmc : LogicalDevice) (bootcardOffset startSector nsector : U32)
    (buf : Buffer) : Driver Int := do
  if mmc.partNum ≠ userPart then
    return -1
  let ret ← mmcBwrite (some mmc.mmc) (startSector + bootcardOffset) nsector buf
  return countResult ret

/-- Erases sectors behind the offset of the card. -/
def sdmmcLogicaErase (mmc : LogicalDevice) (bootcardOffset block nblock : U32) : Driver Int := do
  if mmc.partNum ≠ userPart then
    return -1
  let ret ← mmcBerase mmc.mmc (block + bootcardOffset) nblock
  return countResult ret

/-- The descriptor is returned with its `lba` set. -/
def sdmmcLogicalDiskSize (mmc : LogicalDevice) (bootcardOffset : U32) : Int × LogicalDevice :=
  if mmc.partNum ≠ userPart then (-1, mmc)
  else
    let mmc := { mmc with lba := mmc.userLba }
    ((mmc.lba - bootcardOffset).toInt, mmc)

/-! ### Calls to a card -/

/-- The file-level state that belongs to one card: its entry of `mmc_devices[]`, whether the
`cfg` of its host has its operations, and the card with its environment. -/
structure Slot where
  device : Option LogicalDevice
  hasOps : Bool
  world : World

/-- A call does not come back when it follows a null pointer. -/
inductive LogicalResult where
  | returned (value : Int) (buf : Option Buffer)
  | stuck

/-- The value that is returned -/
def LogicalResult.value : LogicalResult → Option Int
  | .returned value _ => some value
  | .stuck => none

/-- The call does not return. -/
def LogicalResult.isStuck : LogicalResult → Bool
  | .returned _ _ => false
  | .stuck => true

/-- A turn of a card -/
abbrev LogicalTurn : Type := Turn U32 Slot LogicalResult

/-- The host's `cfg` has its operations before the first allocation. The memory of a new
`struct mmc` is zeroed, and nothing sets `user_lba` afterwards. -/
def Slot.sdmmcLogicalInit (slot : Slot) (cardOffset : U32) (setup : Setup) : LogicalTurn :=
  match setup with
  | .noMemory => ⟨.returned (-1) none, cardOffset, { slot with hasOps := true }⟩
  | .identified ⟨error, mmc, world, _⟩ =>
      ⟨.returned (if error ≠ 0 then -1 else 0) none, cardOffset,
        ⟨some ⟨mmc, userPart, mmc.blockDev.lba, 0⟩, true, world⟩⟩

/-- The host is cleared; the entry of `mmc_devices[]` stays. -/
def Slot.sdmmcLogicalExit (slot : Slot) : LogicalTurn :=
  ⟨.returned 0 none, 0, { slot with hasOps := false }⟩

/-- A call that runs a program on the device of the slot. `reaches` says whether it gets past its
own checks: with a cleared host it is then stuck, as the first command goes through a null
`ops`, or, where the DDR modes leave out CMD16, as the loop of `mmc_bwrite` never ends with a
`b_max` of zero. -/
def Slot.call (slot : Slot) (bootcardOffset : U32) (reaches : LogicalDevice → Bool)
    (program : LogicalDevice → Driver (Int × Option Buffer)) : LogicalTurn :=
  match slot.device with
  | none => ⟨.stuck, bootcardOffset, slot⟩
  | some mmc =>
      if slot.hasOps = false ∧ reaches mmc then ⟨.stuck, bootcardOffset, slot⟩
      else
        let run := (program mmc).exec serve slot.world
        ⟨.returned run.1.1 run.1.2, bootcardOffset, { slot with world := run.2 }⟩

/-- The calls of the layer -/
inductive LogicalCall where
  | init (cardOffset : U32) (setup : Setup)
  | exit
  | read (startSector nsector : U32) (buf : Buffer)
  | write (startSector nsector : U32) (buf : Buffer)
  | erase (block nblock : U32)
  | diskSize

/-- What a call does -/
def Slot.step (bootcardOffset : U32) (slot : Slot) : LogicalCall → LogicalTurn
  | .init cardOffset setup => slot.sdmmcLogicalInit cardOffset setup
  | .exit => slot.sdmmcLogicalExit
  | .read startSector nsector buf =>
      slot.call bootcardOffset
        (fun mmc => mmc.partNum = userPart ∧ nsector ≠ 0 ∧
          startSector + bootcardOffset + nsector ≤ mmc.mmc.blockDev.lba)
        fun mmc => do
          let (ret, buf) ← sdmmcLogicalRead mmc bootcardOffset startSector nsector buf
          return (ret, some buf)
  | .write startSector nsector buf =>
      slot.call bootcardOffset (fun mmc => mmc.partNum = userPart ∧ nsector ≠ 0) fun mmc => do
        let ret ← sdmmcLogicalWrite mmc bootcardOffset startSector nsector buf
        return (ret, none)
  | .erase block nblock =>
      slot.call bootcardOffset
        (fun mmc => mmc.partNum = userPart ∧ nblock ≠ 0 ∧
          (slot.world.plan.malloc slot.world.mallocs).isSome)
        fun mmc => do
          let ret ← sdmmcLogicaErase mmc bootcardOffset block nblock
          return (ret, none)
  | .diskSize =>
      match slot.device with
      | none => ⟨.stuck, bootcardOffset, slot⟩
      | some mmc =>
          let (ret, mmc) := sdmmcLogicalDiskSize mmc bootcardOffset
          ⟨.returned ret none, bootcardOffset, { slot with device := some mmc }⟩

/-! ### What the calls so far mean for a card -/

/-- The offset given to the last successful initialisation, whether the card was exited after
it, and whether that initialisation is the last one, with no exit since. -/
structure Session where
  offset : Option U32
  closed : Bool
  ready : Bool

/-- What the session of a card knows after a call -/
def Session.next (session : Session) (call : LogicalCall) (result : LogicalResult) : Session :=
  match call with
  | .init cardOffset _ =>
      if result.value = some 0 then ⟨some cardOffset, false, true⟩
      else { session with ready := false }
  | .exit => { session with closed := true, ready := false }
  | _ => session

/-- A slot with the record of the calls to its card, which the layer itself does not have. -/
structure Followed where
  slot : Slot
  session : Session

/-- A call, with the session of its card -/
def Followed.step (bootcardOffset : U32) (followed : Followed) (call : LogicalCall) :
    Turn U32 Followed LogicalResult :=
  let turn := followed.slot.step bootcardOffset call
  ⟨turn.result, turn.shared, ⟨turn.own, followed.session.next call turn.result⟩⟩

/-- The cards with the word that they share -/
abbrev Cards : Type := System CardNo U32 Followed

/-- A call on one of the cards -/
abbrev LogicalVisit : Type := Visit CardNo U32 Followed LogicalCall LogicalResult

/-- The file-level state before the first call, with these cards in the slots. -/
def Cards.start (worlds : CardNo → World) : Cards :=
  ⟨0, fun card => ⟨⟨none, false, worlds card⟩, ⟨none, false, false⟩⟩⟩

/-- The calls of a run. A stuck call is its last. -/
def Cards.run (cards : Cards) (calls : List (CardNo × LogicalCall)) : List LogicalVisit :=
  cards.visits Followed.step LogicalResult.isStuck calls

end PinePhonePkg
