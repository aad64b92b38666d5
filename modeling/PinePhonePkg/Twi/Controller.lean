/-
This file gives the controller of the two-wire bus as a state machine. A write of the
control register sets it going, and each step puts something on the bus. How it
answers a step is up to it: after any time or never, and with any status. It is up to
the controller as well which value of the flag bit clears the flag, as the code
writes a one in some places and a zero in others.
-/

import PinePhonePkg.Twi.Transfer

namespace PinePhonePkg

open Library

namespace Twi

/-! ### The bus -/

/-- What there is to see on the bus -/
inductive BusEvent : Type where
  | start
  | sent (byte : U8)
  | received (byte : U8) (acknowledged : Bool)
  | stop
deriving DecidableEq

/-- How the controller answers a step: after how many reads of the control register, if ever, with
which status, and with which byte of the chip if it is read from -/
structure Answer : Type where
  delay : Option Nat
  status : U32
  byte : U8
deriving DecidableEq

/-- A step on the bus, with the answer to it -/
structure BusStep : Type where
  event : BusEvent
  answer : Answer
deriving DecidableEq

/-! ### The controller -/

/-- What a byte is to the controller -/
inductive Mode : Type where
  | idle
  | address
  | transmit
  | receive
deriving DecidableEq

/-- The flag is down, the flag is up, or a step is under way and will leave the status and the
data. -/
inductive Phase : Type where
  | quiet
  | up
  | busy (left : Option Nat) (status data : U32)
deriving DecidableEq

/-- The flag bit of the control register is that of the phase. `bus` is all that was ever put on the
bus; the next step is answered by the answer with its number. -/
structure TwiController : Type where
  ctl : U32
  data : U32
  status : U32
  phase : Phase
  mode : Mode
  bus : List BusStep
  answers : Nat → Answer
  clears : Bool → Bool

namespace TwiController

variable (controller : TwiController)

/-- The bits for START and STOP are cleared. -/
def withoutRequests : U32 := controller.ctl &&& 0xffffffcf

/-- The answer to the next step -/
def answer : Answer := controller.answers controller.bus.length

/-- The next step is under way; at least one read of the control register sees the flag down. -/
def begin (event : Answer → BusEvent) (data : Answer → U32) : TwiController :=
  { controller with
    bus := controller.bus ++ [⟨event controller.answer, controller.answer⟩]
    phase := .busy (controller.answer.delay.map (· + 1)) controller.answer.status
      (data controller.answer) }

/-- The byte in the data register -/
def dataByte : U8 := controller.data.setWidth 8

/-- A byte is put on the bus or taken from it. The first one behind a START is an address. -/
def moveByte : TwiController :=
  match controller.mode with
  | .receive =>
    controller.begin (fun answer => .received answer.byte (controller.ctl.getLsbD 2))
      fun answer => answer.byte.setWidth 32
  | .address =>
    { controller with
      mode := if controller.dataByte.getLsbD 0 then .receive else .transmit }.begin
        (fun _ => .sent controller.dataByte) fun _ => controller.data
  | _ => controller.begin (fun _ => .sent controller.dataByte) fun _ => controller.data

/-- A write of the control register: a START or a STOP that was not asked for before, or the next
byte if the flag is up and cleared by the write. -/
def putCtl (value : U32) : TwiController :=
  let stored := { controller with ctl := value }
  if value.getLsbD 5 ∧ ¬controller.ctl.getLsbD 5 then
    { stored with mode := .address }.begin (fun _ => .start) fun _ => controller.data
  else if value.getLsbD 4 ∧ ¬controller.ctl.getLsbD 4 then
    stored.begin (fun _ => .stop) fun _ => controller.data
  else if controller.phase = .up ∧ controller.clears (value.getLsbD 3) then stored.moveByte
  else stored

/-- Time passes with each read of the control register. Behind a STOP the flag stays down. -/
def tick : TwiController :=
  match controller.phase with
  | .busy (some 0) status data =>
    { controller with
      ctl := controller.withoutRequests
      status := status
      data := data
      phase := if controller.ctl.getLsbD 4 then .quiet else .up }
  | .busy (some (left + 1)) status data =>
    { controller with phase := .busy (some left) status data }
  | _ => controller

/-- The control register with the flag -/
def shownCtl : U32 :=
  if controller.phase = .up then controller.ctl ||| 0x08 else controller.ctl &&& 0xfffffff7

/-- A soft reset ends what is under way and keeps the settings. -/
def reset : TwiController :=
  { controller with ctl := controller.withoutRequests, phase := .quiet, mode := .idle }

end TwiController

/-- The controller answers to the code. -/
def serveTwi : (request : TwiRequest) → TwiController → request.Reply × TwiController
  | .readCtl, controller => (controller.tick.shownCtl, controller.tick)
  | .readStatus, controller => (controller.status, controller)
  | .readData, controller => (controller.data, controller)
  | .writeCtl value, controller => ((), controller.putCtl value)
  | .writeData value, controller => ((), { controller with data := value })
  | .writeEft _, controller => ((), controller)
  | .writeSrst _, controller => ((), controller.reset)

/-! ### What is expected on the bus -/

/-- A step that a transfer is made of, and the status that acknowledges it -/
inductive Expected : Type where
  | start (status : U32)
  | send (byte : U8) (status : U32)
  | receive (acknowledged : Bool) (status : U32)
deriving DecidableEq

namespace Expected

/-- The status that is expected -/
def status : Expected → U32
  | .start status => status
  | .send _ status => status
  | .receive _ status => status

/-- The step on the bus; a byte that is received is that of the answer. -/
def event : Expected → Answer → BusEvent
  | .start _, _ => .start
  | .send byte _, _ => .sent byte
  | .receive acknowledged _, answer => .received answer.byte acknowledged

end Expected

/-- A step on the bus is the expected one, however it is answered. -/
def Fits (step : BusStep) (expected : Expected) : Prop :=
  step.event = expected.event step.answer

/-- It is acknowledged as required: the controller is done with it at some time, and its status is
the one that was expected. -/
def Acknowledged (step : BusStep) (expected : Expected) : Prop :=
  Fits step expected ∧ step.answer.delay ≠ none ∧ step.answer.status = expected.status

/-- The bytes of an address, the most significant one first -/
def addressBytes (addr : Ulong) (addrLen : Nat) : List U8 :=
  (List.range addrLen).reverse.map (slaveReg addr)

/-- START, the chip to be written to and the address bytes -/
def addressed (chip addr : Ulong) (addrLen : Nat) : List Expected :=
  .start twiStartTransmit :: .send ((chip <<< 1).setWidth 8) twiAddrwriteAck ::
    (addressBytes addr addrLen).map fun byte => .send byte twiDatawriteAck

/-- The bytes of a buffer, sent in order -/
def sentBytes (buffer : Memory U8) (length : Nat) : List Expected :=
  (List.range length).map fun i => .send (buffer i) twiDatawriteAck

/-- The bytes of a read: only the last one is not acknowledged. -/
def receivedBytes (length : Nat) : List Expected :=
  (List.range length).map fun i =>
    if i + 1 < length then .receive true twiDatareadAck else .receive false twiDatareadNack

/-- RESTART and the chip to be read from -/
def turned (chip : Ulong) : List Expected :=
  [.start twiRestartTransmit, .send (((chip <<< 1) ||| 1).setWidth 8) twiAddrreadAck]

/-- The bytes that came over the bus, in order -/
def TwiController.received (controller : TwiController) : List U8 :=
  controller.bus.filterMap fun step =>
    match step.event with
    | .received byte _ => some byte
    | _ => none

/-- The transfer has put a prefix of what is expected on the bus and a STOP at the end; if it went
well, all was put there, and acknowledged. -/
def PutRight (expected : List Expected) (before after : TwiController) (well : Prop) : Prop :=
  ∃ put last, after.bus = before.bus ++ put ++ [last] ∧ last.event = .stop ∧
    List.Forall₂ Fits put (expected.take put.length) ∧
      (well → List.Forall₂ Acknowledged put expected)

end Twi

end PinePhonePkg
