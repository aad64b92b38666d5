/-
This file models the messages of the USB function driver. The interrupt handler queues
them and the application asks for them, one at a time. A message is a record in memory
whose payload is a union: how much of it counts, and as what, is told by its size. The
application gets the messages in the order they were queued in, each one once and as it
was queued; one that finds the queue full is turned away.
-/

import Mathlib.Data.List.Forall2
import PinePhonePkg.Dxe.Status
import PinePhonePkg.Library.Sessions
import PinePhonePkg.Queue.Fifo

namespace PinePhonePkg

open Library

/-! ### The enumerations -/

/-- `EFI_USBFN_MESSAGE` -/
inductive EfiUsbfnMessage : Type where
  | none
  | setupPacket
  | endpointStatusChangedRx
  | endpointStatusChangedTx
  | busEventDetach
  | busEventAttach
  | busEventReset
  | busEventSuspend
  | busEventResume
  | busEventSpeed
deriving DecidableEq

namespace EfiUsbfnMessage

/-- The messages in the order of their numbers -/
def all : List EfiUsbfnMessage :=
  [.none, .setupPacket, .endpointStatusChangedRx, .endpointStatusChangedTx, .busEventDetach,
    .busEventAttach, .busEventReset, .busEventSuspend, .busEventResume, .busEventSpeed]

/-- The number of a message -/
def code (message : EfiUsbfnMessage) : Nat := all.idxOf message

@[simp]
theorem getElem?_code (message : EfiUsbfnMessage) : all[message.code]? = some message := by
  cases message <;> rfl

theorem code_lt (message : EfiUsbfnMessage) : message.code < 256 ^ 4 := by
  cases message <;> decide

end EfiUsbfnMessage

/-- `EFI_USBFN_ENDPOINT_DIRECTION`; what the device receives is what the host puts out. -/
inductive UsbDirection : Type where
  | deviceRx
  | deviceTx
deriving DecidableEq

namespace UsbDirection

/-- The directions in the order of their numbers -/
def all : List UsbDirection := [.deviceRx, .deviceTx]

/-- The number of a direction -/
def code (direction : UsbDirection) : Nat := all.idxOf direction

@[simp]
theorem getElem?_code (direction : UsbDirection) : all[direction.code]? = some direction := by
  cases direction <;> rfl

theorem code_lt (direction : UsbDirection) : direction.code < 256 ^ 4 := by
  cases direction <;> decide

end UsbDirection

/-- `EFI_USBFN_TRANSFER_STATUS` -/
inductive UsbTransferStatus : Type where
  | unknown
  | complete
  | aborted
  | active
  | none
deriving DecidableEq

namespace UsbTransferStatus

/-- The states in the order of their numbers -/
def all : List UsbTransferStatus := [.unknown, .complete, .aborted, .active, .none]

/-- The number of a status -/
def code (status : UsbTransferStatus) : Nat := all.idxOf status

@[simp]
theorem getElem?_code (status : UsbTransferStatus) : all[status.code]? = some status := by
  cases status <;> rfl

theorem code_lt (status : UsbTransferStatus) : status.code < 256 ^ 4 := by
  cases status <;> decide

end UsbTransferStatus

/-- `UsbBusSpeedHigh` -/
def usbBusSpeedHigh : Nat := 3

/-! ### The records -/

/-- `EFI_USB_DEVICE_REQUEST`, eight bytes -/
structure UsbDeviceRequest : Type where
  bmRequestType : U8
  bRequest : U8
  wValue : BitVec 16
  wIndex : BitVec 16
  wLength : BitVec 16
deriving DecidableEq

/-- The request in the eight bytes at an address -/
def UsbDeviceRequest.read (memory : Buffer) (address : Nat) : UsbDeviceRequest where
  bmRequestType := memory address
  bRequest := memory (address + 1)
  wValue := BitVec.ofNat 16 (Memory.word memory (address + 2) 2)
  wIndex := BitVec.ofNat 16 (Memory.word memory (address + 4) 2)
  wLength := BitVec.ofNat 16 (Memory.word memory (address + 6) 2)

/-- A request depends on its own eight bytes alone. -/
theorem UsbDeviceRequest.read_congr {first second : Buffer} {address other : Nat}
    (same : ∀ index < 8, first (address + index) = second (other + index)) :
    UsbDeviceRequest.read first address = UsbDeviceRequest.read second other := by
  have words : ∀ offset, offset + 2 ≤ 8 →
      Memory.word first (address + offset) 2 = Memory.word second (other + offset) 2 := by
    intro offset inside
    rw [← Memory.word_drop, ← Memory.word_drop second]
    exact Memory.word_congr fun index small => by
      simp only [Memory.drop]
      exact same (offset + index) (by omega)
  unfold UsbDeviceRequest.read
  rw [words 2 (by decide), words 4 (by decide), words 6 (by decide), same 1 (by decide)]
  have here : first address = second other := same 0 (by decide)
  rw [here]

/-- `EFI_USBFN_TRANSFER_RESULT` -/
structure UsbTransferResult : Type where
  bytesTransferred : Ulong
  transferStatus : UsbTransferStatus
  endpointIndex : U8
  direction : UsbDirection
  buffer : Ulong
deriving DecidableEq

/-- What counts of the union in a message -/
inductive UsbPayload : Type where
  | nothing
  | request (request : UsbDeviceRequest)
  | result (result : UsbTransferResult)
  | speed (speed : Nat)
deriving DecidableEq

/-- What a message says -/
structure UsbEvent : Type where
  message : EfiUsbfnMessage
  payload : UsbPayload
deriving DecidableEq

/-! ### A message is queued -/

/-- The size of a `USB_EVENT_MESSAGE`: the number of the message, the size of the payload at 8, and
the payload at 16. -/
def usbEventMessageSize : Ulong := 48

def usbEventQueueMaxEventCount : Ulong := 64

/-- The arguments of `UsbQueueEventMassage`, with the bytes that its buffer points to and what is on
the stack where it builds the message. -/
structure UsbPost : Type where
  message : EfiUsbfnMessage
  endpointIndex : U8
  direction : UsbDirection
  transferStatus : UsbTransferStatus
  buffer : Ulong
  bufferLengh : Ulong
  pointed : Buffer
  stack : Buffer

namespace UsbPost

variable (post : UsbPost)

/-- The message comes with a control request. -/
def IsControl : Prop :=
  post.endpointIndex = 0 ∧ post.direction = .deviceRx ∧ post.transferStatus = .complete

instance : Decidable post.IsControl :=
  inferInstanceAs (Decidable (_ ∧ _ ∧ _))

/-- The message before its payload is filled in -/
def header : Buffer :=
  Memory.setWord (Memory.setWord post.stack 0 4 post.message.code) 8 8 0

/-- The message in memory, unless an assertion stops the driver -/
def item : Option Buffer :=
  if post.message = .busEventSpeed then
    some (Memory.setWord (Memory.setWord post.header 16 4 usbBusSpeedHigh) 8 8 4)
  else if post.IsControl then
    if post.buffer ≠ 0 then
      some (Memory.setWord (Memory.overwrite post.header 16 8 post.pointed) 8 8 8)
    else some post.header
  else if post.direction = .deviceRx ∧ post.buffer = 0 then none
  else
    let transferred := Memory.setWord post.header 16 8 post.bufferLengh.toNat
    let buffered := Memory.setWord transferred 40 8 post.buffer.toNat
    let directed := Memory.setWord buffered 32 4 post.direction.code
    let indexed := Memory.setWord directed 28 1 post.endpointIndex.toNat
    let completed := Memory.setWord indexed 24 4 post.transferStatus.code
    some (Memory.setWord completed 8 8 32)

end UsbPost

/-- `UsbQueueEventMassage`: an endpoint that does not exist is reported, and the message is queued
all the same. -/
def usbQueueEventMassage (post : UsbPost) (state : QueueState) : Option (Ulong × QueueState) := do
  let item ← post.item
  let (taken, next) ← state.enqueue item usbEventMessageSize
  if taken then
    return (if post.endpointIndex > 2 then efiInvalidParameter else efiSuccess, next)
  return (efiDeviceError, next)

/-! ### A message is asked for -/

/-- What `EventHandler` leaves at its pointers. With no message in the queue it sets `Message` to
`EfiUsbMsgNone` and nothing else. -/
inductive EventReply : Type where
  | none
  | failed
  | event (message : Nat) (payloadSize : Ulong) (payload : Buffer)

/-- The message in a slot is handed out; as much of the caller's union is written as its size says. -/
def EventReply.ofItem (payload item : Buffer) : EventReply :=
  let payloadSize := BitVec.ofNat 64 (Memory.word item 8 8)
  .event (Memory.word item 0 4) payloadSize
    (Memory.overwrite payload 0 payloadSize.toNat (Memory.drop item 16))

/-- `EventHandler`, with what was in the caller's union before -/
def eventHandler (payload : Buffer) (state : QueueState) : Option (EventReply × QueueState) :=
  if state.queue.isQueueEmpty then some (.none, state)
  else (state.dequeue usbEventMessageSize).map fun (item, next) =>
    (match item with
      | Option.none => .failed
      | some item => .ofItem payload item, next)

/-! ### What is said -/

/-- What a caller of `UsbQueueEventMassage` wants the application to know -/
def UsbPost.event (post : UsbPost) : UsbEvent where
  message := post.message
  payload :=
    if post.message = .busEventSpeed then .speed usbBusSpeedHigh
    else if post.IsControl then
      if post.buffer ≠ 0 then .request (UsbDeviceRequest.read post.pointed 0) else .nothing
    else .result {
      bytesTransferred := post.bufferLengh
      transferStatus := post.transferStatus
      endpointIndex := post.endpointIndex
      direction := post.direction
      buffer := post.buffer }

/-- No assertion stops the driver: what the device received has a buffer. -/
def UsbPost.WellFormed (post : UsbPost) : Prop :=
  post.message = .busEventSpeed ∨ post.IsControl ∨ post.direction = .deviceTx ∨ post.buffer ≠ 0

/-- The transfer result in a union -/
def readResult (payload : Buffer) : Option UsbTransferResult := do
  let transferStatus ← UsbTransferStatus.all[Memory.word payload 8 4]?
  let direction ← UsbDirection.all[Memory.word payload 16 4]?
  return {
    bytesTransferred := BitVec.ofNat 64 (Memory.word payload 0 8)
    transferStatus := transferStatus
    endpointIndex := BitVec.ofNat 8 (Memory.word payload 12 1)
    direction := direction
    buffer := BitVec.ofNat 64 (Memory.word payload 24 8) }

/-- A payload is read by its size. -/
def readPayload (payloadSize : Nat) (payload : Buffer) : Option UsbPayload :=
  match payloadSize with
  | 0 => some .nothing
  | 4 => some (.speed (Memory.word payload 0 4))
  | 8 => some (.request (UsbDeviceRequest.read payload 0))
  | 32 => (readResult payload).map .result
  | _ => none

/-- What an application makes of a message -/
def readEvent (message payloadSize : Nat) (payload : Buffer) : Option UsbEvent := do
  let message ← EfiUsbfnMessage.all[message]?
  let payload ← readPayload payloadSize payload
  return ⟨message, payload⟩

/-- What an application makes of the message in a slot, whatever was in its union before -/
def readItem (payload item : Buffer) : Option UsbEvent :=
  readEvent (Memory.word item 0 4) (Memory.word item 8 8)
    (Memory.overwrite payload 0 (Memory.word item 8 8) (Memory.drop item 16))

/-! ### A message is read as it was meant -/

/-- A word of the payload that its size covers -/
theorem word_payload (payload item : Buffer) {size offset count : Nat}
    (inside : offset + count ≤ size) :
    Memory.word (Memory.overwrite payload 0 size (Memory.drop item 16)) offset count =
      Memory.word item (16 + offset) count := by
  rw [← Memory.word_drop item 16]
  refine Memory.word_congr fun index small => ?_
  have here := Memory.overwrite_inside payload 0 size (Memory.drop item 16) (offset + index)
    (by omega)
  rwa [Nat.zero_add] at here

theorem word_code {code : Nat} (small : code < 256 ^ 4) (memory : Buffer) (address : Nat) :
    Memory.word (Memory.setWord memory address 4 code) address 4 = code := by
  rw [Memory.word_setWord, Nat.mod_eq_of_lt small]

theorem ofNat_word_setWord (memory : Buffer) (address : Nat) (value : Ulong) :
    BitVec.ofNat 64 (Memory.word (Memory.setWord memory address 8 value.toNat) address 8) = value :=
  Memory.word_setWord_toNat memory address value rfl

theorem ofNat_byte_setWord (memory : Buffer) (address : Nat) (value : U8) :
    BitVec.ofNat 8 (Memory.word (Memory.setWord memory address 1 value.toNat) address 1) = value := by
  refine BitVec.eq_of_toNat_eq ?_
  have bound := value.isLt
  rw [BitVec.toNat_ofNat, Memory.word_setWord]
  omega

section Items

variable {post : UsbPost} {item : Buffer}

theorem UsbPost.item_isSome (wellFormed : post.WellFormed) : post.item.isSome := by
  unfold UsbPost.item
  split
  · rfl
  · rename_i noSpeed
    split
    · split <;> rfl
    · rename_i noControl
      rw [if_neg]
      · rfl
      · rintro ⟨received, null⟩
        rcases wellFormed with speed | control | sent | nonNull
        · exact noSpeed speed
        · exact noControl control
        · rw [received] at sent
          cases sent
        · exact nonNull null

theorem word_header (post : UsbPost) : Memory.word post.header 0 4 = post.message.code := by
  unfold UsbPost.header
  rw [Memory.word_setWord_of_disjoint _ (by omega), word_code post.message.code_lt]

theorem size_header (post : UsbPost) : Memory.word post.header 8 8 = 0 := by
  unfold UsbPost.header
  rw [Memory.word_setWord, Nat.zero_mod]

/-- The three parts of a message that count -/
structure ItemCarries (item : Buffer) (post : UsbPost) (size : Nat) (payload : UsbPayload) : Prop where
  number : Memory.word item 0 4 = post.message.code
  length : Memory.word item 8 8 = size
  fits : size ≤ 32
  content : ∀ union : Buffer, readPayload size
    (Memory.overwrite union 0 size (Memory.drop item 16)) = some payload

namespace ItemCarries

variable {size : Nat} {payload : UsbPayload} (carries : ItemCarries item post size payload)
include carries

theorem readItem_eq (union : Buffer) : readItem union item = some ⟨post.message, payload⟩ := by
  unfold readItem readEvent
  rw [carries.number, carries.length, EfiUsbfnMessage.getElem?_code, carries.content]
  rfl

/-- The bytes of a slot are all that counts. -/
theorem congr {other : Buffer} (agree : Memory.Agree 48 item other) :
    ItemCarries other post size payload where
  number := (agree.word (by decide)).symm.trans carries.number
  length := (agree.word (by decide)).symm.trans carries.length
  fits := carries.fits
  content := by
    intro union
    rw [← carries.content union]
    have fits := carries.fits
    refine congrArg (readPayload size) (Memory.overwrite_congr _ _ _ fun address small => ?_)
    exact (agree (16 + address) (by omega)).symm

end ItemCarries

/-- The result of a transfer is read field by field. -/
theorem carries_result (post : UsbPost) :
    ItemCarries (Memory.setWord (Memory.setWord (Memory.setWord (Memory.setWord (Memory.setWord
        (Memory.setWord post.header 16 8 post.bufferLengh.toNat) 40 8 post.buffer.toNat)
        32 4 post.direction.code) 28 1 post.endpointIndex.toNat)
        24 4 post.transferStatus.code) 8 8 32) post 32
      (.result {
        bytesTransferred := post.bufferLengh
        transferStatus := post.transferStatus
        endpointIndex := post.endpointIndex
        direction := post.direction
        buffer := post.buffer }) where
  number := by
    simp (disch := omega) only [Memory.word_setWord_of_disjoint, word_header]
  length := Memory.word_setWord _ _ _ _
  fits := Nat.le_refl 32
  content := by
    intro union
    unfold readPayload readResult
    simp (disch := omega) only [word_payload]
    simp (disch := omega) only [Memory.word_setWord_of_disjoint]
    rw [word_code post.transferStatus.code_lt, word_code post.direction.code_lt,
      UsbTransferStatus.getElem?_code, UsbDirection.getElem?_code, ofNat_word_setWord,
      ofNat_word_setWord, ofNat_byte_setWord]
    rfl

/-- A control request is the eight bytes that were pointed to. -/
theorem carries_request (post : UsbPost) :
    ItemCarries (Memory.setWord (Memory.overwrite post.header 16 8 post.pointed) 8 8 8) post 8
      (.request (UsbDeviceRequest.read post.pointed 0)) where
  number := by
    rw [Memory.word_setWord_of_disjoint _ (by omega),
      Memory.word_overwrite_of_disjoint _ _ (by omega), word_header]
  length := Memory.word_setWord _ _ _ _
  fits := by decide
  content := by
    intro union
    refine congrArg (fun request => some (UsbPayload.request request)) ?_
    refine UsbDeviceRequest.read_congr fun index small => ?_
    rw [Memory.overwrite_inside _ _ _ _ index small]
    simp only [Memory.drop, Nat.zero_add]
    rw [Memory.setWord_outside _ (by omega), Memory.overwrite_inside _ _ _ _ index small]

theorem carries_speed (post : UsbPost) :
    ItemCarries (Memory.setWord (Memory.setWord post.header 16 4 usbBusSpeedHigh) 8 8 4) post 4
      (.speed usbBusSpeedHigh) where
  number := by
    simp (disch := omega) only [Memory.word_setWord_of_disjoint, word_header]
  length := Memory.word_setWord _ _ _ _
  fits := by decide
  content := by
    intro union
    unfold readPayload
    simp (disch := omega) only [word_payload]
    rw [Memory.word_setWord_of_disjoint _ (by omega), word_code (by decide)]

/-- A message in memory says what it was built from. -/
theorem UsbPost.carries (built : post.item = some item) :
    ∃ size, ItemCarries item post size post.event.payload := by
  unfold UsbPost.item at built
  unfold UsbPost.event
  by_cases speed : post.message = .busEventSpeed
  · rw [if_pos speed] at built ⊢
    obtain rfl := Option.some.inj built
    exact ⟨4, carries_speed post⟩
  · rw [if_neg speed] at built ⊢
    by_cases control : post.IsControl
    · rw [if_pos control] at built ⊢
      by_cases pointer : post.buffer ≠ 0
      · rw [if_pos pointer] at built ⊢
        obtain rfl := Option.some.inj built
        exact ⟨8, carries_request post⟩
      · rw [if_neg pointer] at built ⊢
        obtain rfl := Option.some.inj built
        exact ⟨0, word_header post, size_header post, Nat.zero_le 32, fun _ => rfl⟩
    · rw [if_neg control] at built ⊢
      split at built
      · cases built
      · obtain rfl := Option.some.inj built
        exact ⟨32, carries_result post⟩

end Items

/-! ### Sessions -/

/-- A call of the interrupt handler or of the application, with what is in the application's union -/
inductive UsbCall : Type where
  | queue (post : UsbPost)
  | handler (payload : Buffer)

/-- What comes back from a call -/
inductive UsbReply : Type where
  | queued (status : Ulong)
  | handled (reply : EventReply)

/-- A message that is queued is well formed. -/
def UsbCall.WellFormed : UsbCall → Prop
  | .queue post => post.WellFormed
  | .handler _ => True

/-- A message is queued, or the handler is asked for one. -/
def usbCall (state : QueueState) : UsbCall → Option (UsbReply × QueueState)
  | .queue post => (usbQueueEventMassage post state).map fun (status, next) =>
    (.queued status, next)
  | .handler payload => (eventHandler payload state).map fun (reply, next) =>
    (.handled reply, next)

/-- Calls one after the other -/
def usbCalls : List UsbCall → QueueState → Option (List UsbReply × QueueState)
  | [], state => some ([], state)
  | call :: rest, state => do
    let (reply, next) ← usbCall state call
    let (replies, last) ← usbCalls rest next
    return (reply :: replies, last)

/-- What a reply tells -/
inductive Seen : Type where
  | queued (status : Ulong)
  | nothing
  | event (event : UsbEvent)
deriving DecidableEq

/-- What the caller sees of a reply -/
def UsbReply.seen : UsbReply → Option Seen
  | .queued status => some (.queued status)
  | .handled .none => some .nothing
  | .handled .failed => none
  | .handled (.event message payloadSize payload) =>
    (readEvent message payloadSize.toNat payload).map .event

/-- The messages are a list that takes no more than so many. -/
def eventStep (waiting : List UsbEvent) : UsbCall → Seen × List UsbEvent
  | .queue post =>
    if waiting.length = usbEventQueueMaxEventCount.toNat then (.queued efiDeviceError, waiting)
    else (.queued (if post.endpointIndex > 2 then efiInvalidParameter else efiSuccess),
      waiting ++ [post.event])
  | .handler _ =>
    match waiting with
    | [] => (.nothing, [])
    | event :: rest => (.event event, rest)

/-- The messages that were not turned away, in order -/
def accepted : List UsbCall → List Seen → List UsbEvent
  | .queue post :: calls, .queued status :: seen =>
    if status = efiDeviceError then accepted calls seen else post.event :: accepted calls seen
  | _ :: calls, _ :: seen => accepted calls seen
  | _, _ => []

/-- The messages the application got, in order -/
def delivered (seen : List Seen) : List UsbEvent :=
  seen.filterMap fun seen =>
    match seen with
    | .event event => some event
    | _ => none

/-- What was taken has been given back in order, or waits. -/
theorem accepted_session (waiting : List UsbEvent) (calls : List UsbCall) :
    waiting ++ accepted calls (session eventStep waiting calls).1 =
      delivered (session eventStep waiting calls).1 ++ (session eventStep waiting calls).2 := by
  induction calls generalizing waiting with
  | nil => simp [session, accepted, delivered]
  | cons call rest inductionHypothesis =>
    cases call with
    | queue post =>
      by_cases full : waiting.length = usbEventQueueMaxEventCount.toNat
      · simpa [session, eventStep, full, accepted, delivered] using inductionHypothesis waiting
      · have served : (if post.endpointIndex > 2 then efiInvalidParameter else efiSuccess) ≠
            efiDeviceError := by
          split <;> decide
        have later := inductionHypothesis (waiting ++ [post.event])
        simp only [session, eventStep, if_neg full, accepted, if_neg served]
        simpa [delivered] using later
    | handler payload =>
      cases waiting with
      | nil => simpa [session, eventStep, accepted, delivered] using inductionHypothesis []
      | cons event waiting =>
        simpa [session, eventStep, accepted, delivered] using inductionHypothesis waiting

/-! ### The queue in memory -/

/-- A slot is read as an event, whatever memory its bytes are in. -/
def ItemReads (bytes : List U8) (event : UsbEvent) : Prop :=
  ∀ union item, itemBytes usbEventMessageSize item = bytes → readItem union item = some event

theorem toNat_ofNat_word (memory : Buffer) (address : Nat) :
    (BitVec.ofNat 64 (Memory.word memory address 8)).toNat = Memory.word memory address 8 := by
  have bound := Memory.word_lt memory address 8
  rw [BitVec.toNat_ofNat]
  exact Nat.mod_eq_of_lt (by omega)

theorem agree_of_itemBytes {first second : Buffer} {itemSize : Ulong}
    (same : itemBytes itemSize first = itemBytes itemSize second) :
    Memory.Agree itemSize.toNat first second := by
  intro address small
  exact List.map_eq_map_iff.mp same address (List.mem_range.mpr small)

theorem UsbPost.reads {post : UsbPost} {item : Buffer} (built : post.item = some item) :
    ItemReads (itemBytes usbEventMessageSize item) post.event := by
  intro union other same
  obtain ⟨size, carries⟩ := post.carries built
  have agree : Memory.Agree 48 item other := agree_of_itemBytes same.symm
  exact (carries.congr agree).readItem_eq union

/-- The slots of the queue are read as the events that wait. -/
structure Waits (items : Ulong) (state : QueueState) (waiting : List UsbEvent) : Prop where
  placed : Placed usbEventQueueMaxEventCount usbEventMessageSize items state
  reads : List.Forall₂ ItemReads state.contents waiting

namespace Waits

variable {items : Ulong} {state : QueueState} {waiting : List UsbEvent}
  (waits : Waits items state waiting)
include waits

/-- A message finds its slot, or the queue is full. -/
theorem usbQueueEventMassage_eq {post : UsbPost} (wellFormed : post.WellFormed) :
    ∃ status next, usbQueueEventMassage post state = some (status, next) ∧
      Seen.queued status = (eventStep waiting (.queue post)).1 ∧
      Waits items next (eventStep waiting (.queue post)).2 := by
  obtain ⟨item, built⟩ := Option.isSome_iff_exists.mp (UsbPost.item_isSome wellFormed)
  have length := waits.reads.length_eq
  by_cases full : waiting.length = usbEventQueueMaxEventCount.toNat
  · refine ⟨efiDeviceError, state, ?_, ?_, ?_⟩
    · simp [usbQueueEventMassage, built, waits.placed.enqueue_eq item, length, full]
    · simp [eventStep, full]
    · simpa [eventStep, full] using waits
  · have room : state.contents.length ≠ usbEventQueueMaxEventCount.toNat := length ▸ full
    refine ⟨if post.endpointIndex > 2 then efiInvalidParameter else efiSuccess,
      state.pushed (items.toNat + state.queue.tail.toNat * usbEventMessageSize.toNat) item
        usbEventMessageSize, ?_, ?_, ?_⟩
    · simp [usbQueueEventMassage, built, waits.placed.enqueue_eq item, room]
    · simp [eventStep, full]
    · simp only [eventStep, if_neg full]
      refine ⟨waits.placed.pushed item _, ?_⟩
      rw [waits.placed.contents_pushed item room]
      exact List.rel_append waits.reads (.cons (post.reads built) .nil)

/-- The application is given the oldest message. -/
theorem eventHandler_eq (payload : Buffer) :
    ∃ reply next, eventHandler payload state = some (reply, next) ∧
      (UsbReply.handled reply).seen = some (eventStep waiting (.handler payload)).1 ∧
      Waits items next (eventStep waiting (.handler payload)).2 := by
  have empty := waits.placed.isQueueEmpty_eq
  by_cases none : state.queue.head = state.queue.tail
  · have noItem : state.contents = [] := by
      rw [← List.isEmpty_iff, ← empty, Queue.isQueueEmpty, none, beq_self_eq_true]
    have reads := waits.reads
    rw [noItem] at reads
    obtain rfl := List.forall₂_nil_left_iff.mp reads
    refine ⟨.none, state, ?_, rfl, waits⟩
    unfold eventHandler
    rw [empty, noItem]
    rfl
  · have popped := waits.placed.contents_popped none
    have reads := waits.reads
    rw [popped] at reads
    obtain ⟨event, rest, first, others, rfl⟩ := List.forall₂_cons_left_iff.mp reads
    have notEmpty : state.queue.isQueueEmpty = false := by
      rw [empty, popped]
      rfl
    refine ⟨.ofItem payload (Memory.drop state.memory
      (items.toNat + state.queue.head.toNat * usbEventMessageSize.toNat)), state.popped, ?_, ?_,
      waits.placed.popped, others⟩
    · unfold eventHandler
      rw [notEmpty, waits.placed.dequeue_eq, if_neg none]
      rfl
    · simp only [UsbReply.seen, EventReply.ofItem, eventStep, toNat_ofNat_word]
      exact congrArg (Option.map Seen.event) (first payload _ rfl)

/-- A call is answered as the list answers it. -/
theorem usbCall_eq {call : UsbCall} (wellFormed : call.WellFormed) :
    ∃ reply next, usbCall state call = some (reply, next) ∧
      reply.seen = some (eventStep waiting call).1 ∧
      Waits items next (eventStep waiting call).2 := by
  cases call with
  | queue post =>
    obtain ⟨status, next, called, seen, kept⟩ := waits.usbQueueEventMassage_eq wellFormed
    refine ⟨.queued status, next, ?_, congrArg some seen, kept⟩
    simp only [usbCall, called, Option.map_some]
  | handler payload =>
    obtain ⟨reply, next, called, seen, kept⟩ := waits.eventHandler_eq payload
    refine ⟨.handled reply, next, ?_, seen, kept⟩
    simp only [usbCall, called, Option.map_some]

theorem usbCalls_eq {calls : List UsbCall} (wellFormed : ∀ call ∈ calls, call.WellFormed) :
    ∃ replies last, usbCalls calls state = some (replies, last) ∧
      replies.map UsbReply.seen = (session eventStep waiting calls).1.map some ∧
      Waits items last (session eventStep waiting calls).2 := by
  induction calls generalizing state waiting with
  | nil => exact ⟨[], state, rfl, rfl, waits⟩
  | cons call rest inductionHypothesis =>
    obtain ⟨reply, next, called, seen, kept⟩ := waits.usbCall_eq (wellFormed call List.mem_cons_self)
    obtain ⟨replies, last, rests, allSeen, lastKept⟩ :=
      inductionHypothesis kept fun later member => wellFormed later (List.mem_cons_of_mem _ member)
    refine ⟨reply :: replies, last, ?_, ?_, lastKept⟩
    · simp only [usbCalls, called, rests, Option.bind_eq_bind, Option.bind_some]
      rfl
    · simp only [List.map_cons, seen, allSeen, session]

end Waits

/-- The list is never longer than the queue has slots for. -/
theorem length_session_le {waiting : List UsbEvent}
    (fits : waiting.length ≤ usbEventQueueMaxEventCount.toNat) (calls : List UsbCall) :
    (session eventStep waiting calls).2.length ≤ usbEventQueueMaxEventCount.toNat := by
  induction calls generalizing waiting with
  | nil => exact fits
  | cons call rest inductionHypothesis =>
    refine inductionHypothesis ?_
    cases call with
    | queue post =>
      simp only [eventStep]
      split
      · exact fits
      · rw [List.length_append, List.length_singleton]
        omega
    | handler payload =>
      cases waiting with
      | nil => exact fits
      | cons event waiting => exact Nat.le_of_succ_le fits

/-- From its start on, the queue at an address answers the calls as a list that takes no more
messages than it has slots. The application got what was taken, in order, but for what waits. -/
def MessagesInOrder (items : Ulong) (pointers : Nat → Ulong) (memory : Buffer)
    (calls : List UsbCall) : Prop :=
  ∃ start replies last waiting,
    initQueue usbEventQueueMaxEventCount usbEventMessageSize items pointers memory = some start ∧
      usbCalls calls start = some (replies, last) ∧
      replies.map UsbReply.seen = (session eventStep [] calls).1.map some ∧
      List.Forall₂ ItemReads last.contents waiting ∧
      waiting.length ≤ usbEventQueueMaxEventCount.toNat ∧
      accepted calls (session eventStep [] calls).1 =
        delivered (session eventStep [] calls).1 ++ waiting

/-- However the interrupt handler and the application take turns, the application gets the messages
that were taken, in order and as they were meant, and what it did not get waits. A message is turned
away only while there are as many that wait as the queue has slots. -/
theorem usbCalls_inOrder {items : Ulong} (room : items.toNat + 65 * 48 ≤ 2 ^ 64)
    (pointers : Nat → Ulong) (memory : Buffer) {calls : List UsbCall}
    (wellFormed : ∀ call ∈ calls, call.WellFormed) :
    MessagesInOrder items pointers memory calls := by
  have starts : (initQueue usbEventQueueMaxEventCount usbEventMessageSize items pointers
      memory).isSome := initQueue_isSome (by decide)
  obtain ⟨start, started⟩ := Option.isSome_iff_exists.mp starts
  have made := initQueue_made started
  have placed := made.placed (by decide) room
  have empty : start.contents = [] := by
    rw [placed.contents_eq, Ring.contents_eq_nil_iff placed.head, made.rest]
  have waits : Waits items start [] := ⟨placed, by rw [empty]; exact .nil⟩
  obtain ⟨replies, last, called, seen, kept⟩ := waits.usbCalls_eq wellFormed
  exact ⟨start, replies, last, _, started, called, seen, kept.reads,
    length_session_le (Nat.zero_le _) calls, accepted_session [] calls⟩

/-- What the interrupt handler queues when the bus is reset -/
def resetPost : UsbPost where
  message := .busEventReset
  endpointIndex := 0
  direction := .deviceRx
  transferStatus := .complete
  buffer := 0
  bufferLengh := 0
  pointed := fun _ => 0
  stack := fun _ => 0xcc

/-- A reset and then two calls of an application, of which the second finds no message. -/
theorem usbCalls_inOrder_reset :
    MessagesInOrder 0x40000000 (fun _ => 0) (fun _ => 0)
        [.queue resetPost, .handler fun _ => 0xee, .handler fun _ => 0xee] ∧
      (session eventStep []
        [.queue resetPost, .handler fun _ => 0xee, .handler fun _ => 0xee]).1 =
        [.queued efiSuccess, .event ⟨.busEventReset, .nothing⟩, .nothing] := by
  refine ⟨usbCalls_inOrder (by decide) _ _ fun call member => ?_, by decide⟩
  have control : resetPost.WellFormed := .inr (.inl ⟨rfl, rfl, rfl⟩)
  rcases List.mem_cons.mp member with rfl | member
  · exact control
  · rcases List.mem_cons.mp member with rfl | member
    · trivial
    · obtain rfl := List.mem_singleton.mp member
      trivial

end PinePhonePkg
