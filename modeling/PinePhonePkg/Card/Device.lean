/-
This file models the card at the other end of the commands, together with the
environment that decides how each command goes. The card has an EXT_CSD register
file that CMD6 writes, one memory for each hardware partition, an erase range
set by CMD35 and CMD36, and a record of the transfers and purges it carried out.

How a command goes is an `Answer`, and a `Plan` gives the answer for every turn
of every command. The theorems quantify over plans, so over every pattern of
success and failure.
-/

import PinePhonePkg.Mmc.Command

namespace PinePhonePkg

open Library

/-! ### Answers -/

/-- How one command goes: the error the host sees, whether a card that reports an error
carried the command out nevertheless, the result of the clock phase update after it, the
replies to the CMD13 that follow, and the bytes an unsuccessful transfer leaves behind. -/
structure Answer where
  error : Int
  accepted : Bool
  phase : Int
  status : Nat → Int × U32
  bytes : Buffer

/-- The answer to the command `cmdidx` the n-th time it is sent; a data command may also go
differently in each hardware partition. -/
structure Plan where
  command : (cmdidx turn : Nat) → Answer
  transfer : (access : U8) → (cmdidx turn : Nat) → Answer
  malloc : (turn : Nat) → Option Buffer
  unsetWord : (turn : Nat) → U32

/-! ### The card -/

/-- One data command the card served: partition, first byte and number of bytes. -/
structure Transfer where
  access : U8
  write : Bool
  first : Nat
  length : Nat
  deriving DecidableEq

/-- One purge the card carried out, an erase with its argument or a sanitize. -/
inductive Purge where
  | erase (arg : U32) (first last : Nat)
  | sanitize
  deriving DecidableEq

/-- A card: its extended register, the contents of its partitions, what an erase has named, and what
was asked of it -/
@[ext]
structure Card where
  sectorAddressed : Bool
  extCsd : Nat → U8
  media : U8 → Buffer
  eraseStart : Nat
  eraseEnd : Nat
  purges : List Purge
  transfers : List Transfer

/-- The hardware partition data commands go to. -/
def Card.access (card : Card) : U8 :=
  card.extCsd extCsdPartConf.toNat &&& partAccessMask

/-- The first byte a data command with this argument addresses. -/
def Card.byteAddress (card : Card) (arg : U32) : Nat :=
  if card.sectorAddressed then arg.toNat * 512 else arg.toNat

/-- The sector an erase command with this argument names. -/
def Card.sector (card : Card) (arg : U32) : Nat :=
  if card.sectorAddressed then arg.toNat else arg.toNat / 512

/-- A byte of the register is written, which may start a sanitize. -/
def Card.writeExtCsd (card : Card) (index value : U8) : Card :=
  { card with
    extCsd := Function.update card.extCsd index.toNat value
    purges := if index = extCsdSanitizeStart then card.purges ++ [.sanitize] else card.purges }

/-- A transfer is noted. -/
def Card.record (card : Card) (write : Bool) (arg : U32) (data : MmcData) : Card :=
  { card with
    transfers := card.transfers ++
      [⟨card.access, write, card.byteAddress arg, data.blocks.toNat * data.blocksize.toNat⟩] }

/-- The blocks of a write are stored in the partition that is accessed. -/
def Card.store (card : Card) (arg : U32) (data : MmcData) (source : Buffer) : Card :=
  { card with
    media := Function.update card.media card.access
      ((card.media card.access).overwrite (card.byteAddress arg)
        (data.blocks.toNat * data.blocksize.toNat) source) }

/-- What a command does to the card. CMD6 writes its register exactly when the card accepts
it. Any other command is carried out when it is reported without an error; one with an error
may have been carried out, and a write with an error leaves other bytes. -/
def Card.perform (card : Card) (cmd : MmcCmd) (data : Option MmcData) (answer : Answer) : Card :=
  let carriedOut := answer.error = 0 ∨ answer.accepted
  match cmd.cmdidx, data with
  | mmcCmdSwitch, none =>
      if answer.accepted then
        card.writeExtCsd ((cmd.cmdarg >>> 16).setWidth 8) ((cmd.cmdarg >>> 8).setWidth 8)
      else card
  | mmcCmdReadSingleBlock, some data => card.record false cmd.cmdarg data
  | mmcCmdReadMultipleBlock, some data => card.record false cmd.cmdarg data
  | mmcCmdWriteSingleBlock, some data =>
      (card.store cmd.cmdarg data (if answer.error = 0 then data.src else answer.bytes)).record
        true cmd.cmdarg data
  | mmcCmdWriteMultipleBlock, some data =>
      (card.store cmd.cmdarg data (if answer.error = 0 then data.src else answer.bytes)).record
        true cmd.cmdarg data
  | mmcCmdEraseGroupStart, none =>
      if carriedOut then { card with eraseStart := card.sector cmd.cmdarg } else card
  | mmcCmdEraseGroupEnd, none =>
      if carriedOut then { card with eraseEnd := card.sector cmd.cmdarg } else card
  | mmcCmdErase, none =>
      if carriedOut then
        { card with purges := card.purges ++ [.erase cmd.cmdarg card.eraseStart card.eraseEnd] }
      else card
  | _, _ => card

/-- The bytes a command brings back. -/
def Card.fetch (card : Card) (cmd : MmcCmd) (answer : Answer) : Buffer :=
  if answer.error = 0 then
    match cmd.cmdidx with
    | mmcCmdSendExtCsd => card.extCsd
    | mmcCmdReadSingleBlock => (card.media card.access).drop (card.byteAddress cmd.cmdarg)
    | mmcCmdReadMultipleBlock => (card.media card.access).drop (card.byteAddress cmd.cmdarg)
    | _ => answer.bytes
  else answer.bytes

/-! ### The environment of a run -/

/-- `sent` counts the commands of each index. The last command other than CMD13 gives the
status replies, and `polls` counts how many of them were given. -/
structure World where
  card : Card
  plan : Plan
  sent : Nat → Nat
  current : Answer
  polls : Nat
  mallocs : Nat
  unsetWords : Nat

/-- An answer without any error, from a card that is ready in transfer state. -/
def Answer.fine : Answer :=
  ⟨0, true, 0, fun _ => (0, 0x900), fun _ => 0⟩

/-- A plan in which nothing goes wrong. -/
def Plan.fine : Plan :=
  ⟨fun _ _ => .fine, fun _ _ _ => .fine, fun _ => some fun _ => 0, fun _ => 0⟩

/-- A card on which every register and every block is zero. -/
def Card.blank (sectorAddressed : Bool) : Card :=
  ⟨sectorAddressed, fun _ => 0, fun _ _ => 0, 0, 0, [], []⟩

/-- The world before the first command of a run. -/
def World.start (card : Card) (plan : Plan) : World :=
  ⟨card, plan, fun _ => 0, .fine, 0, 0, 0⟩

/-- The answer the next command gets. -/
def World.answer (world : World) (cmd : MmcCmd) (data : Option MmcData) : Answer :=
  if cmd.cmdidx ≠ mmcCmdSendExtCsd ∧ data.isSome then
    world.plan.transfer world.card.access cmd.cmdidx (world.sent cmd.cmdidx)
  else world.plan.command cmd.cmdidx (world.sent cmd.cmdidx)

/-- The world after a command other than CMD13. -/
def World.command (world : World) (cmd : MmcCmd) (data : Option MmcData) : World :=
  { world with
    card := world.card.perform cmd data (world.answer cmd data)
    sent := Function.update world.sent cmd.cmdidx (world.sent cmd.cmdidx + 1)
    current := world.answer cmd data
    polls := 0 }

/-- A number of polls are over. -/
def World.polled (world : World) (count : Nat) : World :=
  { world with polls := world.polls + count }

/-- The host and the card answer by the plan, and the card does what it is told. -/
def serve : (request : Request) → World → request.Reply × World
  | .sendCmd cmd data, world =>
      if cmd.cmdidx = mmcCmdSendStatus then
        let status := world.current.status world.polls
        (⟨status.1, status.2, world.current.bytes⟩, world.polled 1)
      else
        let answer := world.answer cmd data
        (⟨answer.error, 0, world.card.fetch cmd answer⟩, world.command cmd data)
  | .setIos _ _ _, world => ((), world)
  | .updatePhase, world => (world.current.phase, world)
  | .malloc _, world =>
      (world.plan.malloc world.mallocs, { world with mallocs := world.mallocs + 1 })
  | .unsetWord, world =>
      (world.plan.unsetWord world.unsetWords, { world with unsetWords := world.unsetWords + 1 })

end PinePhonePkg
