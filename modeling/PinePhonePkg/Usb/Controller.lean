/-
This file gives the controller as the driver sees it. What a register holds is up to the
controller, but for a few bits: the endpoint that was selected is read back; a packet that
was handed over for an endpoint is in flight until its ready bit is read as clear, and so it
is with a stall; the bit that flushes a FIFO is never read as set. When the host takes a
packet, if it ever does, is up to the host.
-/

import PinePhonePkg.Usb.Registers

namespace PinePhonePkg

open Library

/-! ### The state of the endpoints -/

/-- What the driver has done to the endpoints: the one that is selected; for each one, what is in its
FIFO and not handed over, and whether a packet or a stall is in flight; all packets that were handed
over, stalls and flushes; what was read from each FIFO; and the address of the device. -/
structure UsbBus : Type where
  index : U8
  filled : Nat → List U8
  inFlight : Nat → Bool
  stalling : Nat → Bool
  sent : List (Nat × List U8)
  stalled : List Nat
  flushed : List (UsbEpType × Nat)
  drained : Nat → List U8
  address : U8

/-- The driver with its controller, and all messages it has queued -/
structure UsbState : Type where
  fn : UsbFn
  bus : UsbBus
  posted : List UsbEvent

/-- What `SunxiUsbInit` leaves, with buffers where these are: no endpoint has been used. -/
def UsbState.initial (rxReqBuffer ep0BufferAddress standardRegAddress : Ulong) : UsbState where
  fn := {
    address := 0
    speed := 3
    bulkEpMax := 512
    fifoSize := 512
    bulkInAddr := 100
    bulkOutAddr := 1124
    dmaSendChannal := 1
    dmaRecvChannal := 2
    standardReg := fun _ => 0
    standardRegAddress := standardRegAddress
    rxReqBuffer := rxReqBuffer
    rxReqLength := 0
    txReqLength := 0
    txPackageSendFinish := 0
    rxReadyForData := 0
    requestSize := 0
    dmaRxAddr := 0
    dmaRxSize := 0
    usbDmaTransUnaligedBytes := 0
    usbDmaTransUnalignedBuf := 0
    ep0Stage := 0
    ep0Buffer := fun _ => 0
    ep0BufferAddress := ep0BufferAddress
    fastbootDataFlag := 0
    sunxiUsbBurnFromBootInit := 0
    mDeviceDescriptor := 0
    mConfigDescriptor := 0
    usbDmaUsed := fun channel => if channel = 1 ∨ channel = 2 then 1 else 0
    memory := fun _ => 0 }
  bus := {
    index := 0
    filled := fun _ => []
    inFlight := fun _ => false
    stalling := fun _ => false
    sent := []
    stalled := []
    flushed := []
    drained := fun _ => []
    address := 0 }
  posted := []

namespace UsbBus

variable (bus : UsbBus)

/-- The endpoint that is selected -/
def selected : Nat := bus.index.toNat

/-- The packets that were handed over for an endpoint -/
def packets (endpoint : Nat) : List (List U8) :=
  (bus.sent.filter fun packet => packet.1 = endpoint).map Prod.snd

/-- The bits of the selected endpoint's register: the one that hands a packet over -/
def readyBit : Nat := if bus.index = 0 then 1 else 0

/-- The bit by which a stall is asked for -/
def stallBit : Nat := if bus.index = 0 then 5 else 4

/-- The bit by which the FIFO is flushed -/
def flushBit : Nat := if bus.index = 0 then 8 else 3

/-- Bytes are read from a FIFO. -/
def drain (offset : Nat) (bytes : List U8) : UsbBus :=
  if offset < 0x40 then
    { bus with
      drained := Function.update bus.drained (offset / 4) (bus.drained (offset / 4) ++ bytes) }
  else bus

/-- Bytes are written to a FIFO. -/
def fill (offset : Nat) (bytes : List U8) : UsbBus :=
  if offset < 0x40 then
    { bus with filled := Function.update bus.filled (offset / 4) (bus.filled (offset / 4) ++ bytes) }
  else bus

/-- The host may have taken the packet of the selected endpoint, or seen the stall. -/
def settle (taken seen : Bool) : UsbBus := { bus with
  inFlight := Function.update bus.inFlight bus.selected (bus.inFlight bus.selected && !taken)
  stalling := Function.update bus.stalling bus.selected (bus.stalling bus.selected && !seen) }

/-- The bits of a register that are not up to the controller -/
def Shows (value : U16) : Prop :=
  value.getLsbD bus.readyBit = bus.inFlight bus.selected ∧
    value.getLsbD bus.stallBit = bus.stalling bus.selected ∧ value.getLsbD bus.flushBit = false

/-- The FIFO is emptied. -/
def flush : UsbBus := { bus with
  filled := Function.update bus.filled bus.selected []
  inFlight := Function.update bus.inFlight bus.selected false
  flushed := bus.flushed ++ [(if bus.index = 0 then .ep0 else .tx, bus.selected)] }

/-- A stall is sent from now on. -/
def stall : UsbBus := { bus with
  stalling := Function.update bus.stalling bus.selected true
  stalled := bus.stalled ++ [bus.selected] }

/-- What is in the FIFO is handed over as a packet. -/
def send : UsbBus := { bus with
  filled := Function.update bus.filled bus.selected []
  inFlight := Function.update bus.inFlight bus.selected true
  sent := bus.sent ++ [(bus.selected, bus.filled bus.selected)] }

/-- What writing a register does to the FIFO -/
def writeFlush (value : U16) : UsbBus := if value.getLsbD bus.flushBit then bus.flush else bus

/-- A bit that is set already does nothing. -/
def writeStall (value : U16) : UsbBus :=
  if value.getLsbD bus.stallBit ∧ ¬bus.stalling bus.selected then bus.stall else bus

/-- What writing a register does to a packet that is not on its way -/
def writeReady (value : U16) : UsbBus :=
  if value.getLsbD bus.readyBit ∧ ¬bus.inFlight bus.selected then bus.send else bus

/-- `CSR0` or `TXCSR` is written. -/
def writeCsr (value : U16) : UsbBus :=
  ((bus.writeFlush value).writeStall value).writeReady value

/-- `RXCSR` is written. -/
def writeRxCsr (value : U16) : UsbBus :=
  if value.getLsbD 4 then { bus with flushed := bus.flushed ++ [(.rx, bus.selected)] } else bus

end UsbBus

/-! ### What may happen -/

/-- How a register of two bytes may be read -/
def ReadwMay (offset : Nat) (state : UsbState) (reply : U16) (after : UsbState) : Prop :=
  if offset = usbcRegOTxcsr then
    ∃ taken seen, after = { state with bus := state.bus.settle taken seen } ∧
      after.bus.Shows reply
  else after = state ∧ (offset = usbcRegORxcsr → reply.getLsbD 4 = false)

/-- How the driver may be answered -/
def usbMay : (request : UsbRequest) → UsbState → request.Reply → UsbState → Prop
  | .readb offset, state, reply, after =>
    (offset = usbcRegOEpind → reply = state.bus.index) ∧
      after = { state with bus := state.bus.drain offset [reply] }
  | .readw offset, state, reply, after => ReadwMay offset state reply after
  | .readl offset, state, reply, after =>
    after = { state with bus := state.bus.drain offset (wordBytes reply) }
  | .writeb offset value, state, _, after =>
    after = { state with bus :=
      if offset = usbcRegOEpind then { state.bus with index := value }
      else if offset = usbcRegOFaddr then { state.bus with address := value }
      else state.bus.fill offset [value] }
  | .writew offset value, state, _, after =>
    after = { state with bus :=
      if offset = usbcRegOTxcsr then state.bus.writeCsr value
      else if offset = usbcRegORxcsr then state.bus.writeRxCsr value
      else state.bus }
  | .writel offset value, state, _, after =>
    after = { state with bus := state.bus.fill offset (wordBytes value) }
  | .load, state, reply, after => reply = state.fn ∧ after = state
  | .store change, state, _, after => after = { state with fn := change state.fn }
  | .queue post, state, _, after =>
    post.WellFormed ∧ after = { state with posted := state.posted ++ [post.event] }

/-! ### One request -/

section Requests

variable {stuck : UsbState → Prop} {state : UsbState} {offset : Nat}

@[simp]
theorem ensures_loadFn {post : UsbFn → UsbState → Prop} :
    Trial.Ensures usbMay post stuck loadFn state ↔ post state.fn state := by
  refine ⟨fun ensured => ensured _ _ ⟨rfl, rfl⟩, ?_⟩
  rintro holds reply after ⟨rfl, rfl⟩
  exact holds

@[simp]
theorem ensures_storeFn {post : Unit → UsbState → Prop} {change : UsbFn → UsbFn} :
    Trial.Ensures usbMay post stuck (storeFn change) state ↔
      post () { state with fn := change state.fn } := by
  refine ⟨fun ensured => ensured () _ rfl, ?_⟩
  rintro holds reply after rfl
  exact holds

/-- A message is queued, unless an assertion stops the driver. -/
theorem ensures_queueMessage {post : Unit → UsbState → Prop} {message : EfiUsbfnMessage}
    {endpointIndex : U8} {direction : UsbDirection} {buffer bufferLengh : Ulong} {pointed : Buffer}
    (holds : post () { state with posted := state.posted ++ [UsbPost.event {
      message := message
      endpointIndex := endpointIndex
      direction := direction
      transferStatus := .complete
      buffer := buffer
      bufferLengh := bufferLengh
      pointed := pointed
      stack := fun _ => 0 }] }) :
    Trial.Ensures usbMay post stuck
      (queueMessage message endpointIndex direction buffer bufferLengh pointed) state := by
  rintro reply after ⟨_, rfl⟩
  exact holds

@[simp]
theorem ensures_usbcWriteb {post : Unit → UsbState → Prop} {value : U8} :
    Trial.Ensures usbMay post stuck (usbcWriteb value offset) state ↔
      post () { state with bus :=
        if offset = usbcRegOEpind then { state.bus with index := value }
        else if offset = usbcRegOFaddr then { state.bus with address := value }
        else state.bus.fill offset [value] } := by
  refine ⟨fun ensured => ensured () _ rfl, ?_⟩
  rintro holds reply after rfl
  exact holds

@[simp]
theorem ensures_usbcWritew {post : Unit → UsbState → Prop} {value : U16} :
    Trial.Ensures usbMay post stuck (usbcWritew value offset) state ↔
      post () { state with bus :=
        if offset = usbcRegOTxcsr then state.bus.writeCsr value
        else if offset = usbcRegORxcsr then state.bus.writeRxCsr value
        else state.bus } := by
  refine ⟨fun ensured => ensured () _ rfl, ?_⟩
  rintro holds reply after rfl
  exact holds

@[simp]
theorem ensures_usbcWritel {post : Unit → UsbState → Prop} {value : U32} :
    Trial.Ensures usbMay post stuck (usbcWritel value offset) state ↔
      post () { state with bus := state.bus.fill offset (wordBytes value) } := by
  refine ⟨fun ensured => ensured () _ rfl, ?_⟩
  rintro holds reply after rfl
  exact holds

@[simp]
theorem ensures_usbcReadb {post : U8 → UsbState → Prop} :
    Trial.Ensures usbMay post stuck (usbcReadb offset) state ↔
      ∀ reply, (offset = usbcRegOEpind → reply = state.bus.index) →
        post reply { state with bus := state.bus.drain offset [reply] } := by
  constructor
  · intro ensured reply back
    exact ensured reply _ ⟨back, rfl⟩
  · rintro holds reply after ⟨back, rfl⟩
    exact holds reply back

@[simp]
theorem ensures_usbcReadl {post : U32 → UsbState → Prop} :
    Trial.Ensures usbMay post stuck (usbcReadl offset) state ↔
      ∀ reply, post reply { state with bus := state.bus.drain offset (wordBytes reply) } := by
  refine ⟨fun ensured reply => ensured reply _ rfl, ?_⟩
  rintro holds reply after rfl
  exact holds reply

/-- A register that is not that of a packet to send holds anything. -/
theorem ensures_usbcReadw {post : U16 → UsbState → Prop} (other : offset ≠ usbcRegOTxcsr) :
    Trial.Ensures usbMay post stuck (usbcReadw offset) state ↔
      ∀ reply, (offset = usbcRegORxcsr → reply.getLsbD 4 = false) → post reply state := by
  constructor
  · intro ensured reply clear
    have may : ReadwMay offset state reply state := by
      unfold ReadwMay
      rw [if_neg other]
      exact ⟨rfl, clear⟩
    exact ensured reply state may
  · intro holds reply after (may : ReadwMay offset state reply after)
    unfold ReadwMay at may
    rw [if_neg other] at may
    rw [may.1]
    exact holds reply may.2

theorem ensures_usbcReadw_csr {post : U16 → UsbState → Prop} :
    Trial.Ensures usbMay post stuck (usbcReadw usbcRegOTxcsr) state ↔
      ∀ reply taken seen, (state.bus.settle taken seen).Shows reply →
        post reply { state with bus := state.bus.settle taken seen } := by
  constructor
  · intro ensured reply taken seen shows
    have may : ReadwMay usbcRegOTxcsr state reply
        { state with bus := state.bus.settle taken seen } := by
      unfold ReadwMay
      rw [if_pos rfl]
      exact ⟨taken, seen, rfl, shows⟩
    exact ensured reply _ may
  · intro holds reply after (may : ReadwMay usbcRegOTxcsr state reply after)
    unfold ReadwMay at may
    rw [if_pos rfl] at may
    obtain ⟨taken, seen, rfl, shows⟩ := may
    exact holds reply taken seen shows

end Requests

/-! ### What leaves the endpoints alone -/

/-- Nothing was done to the endpoints; the host may have taken packets and seen stalls. -/
structure Settles (before after : UsbBus) : Prop where
  rest : after = { before with inFlight := after.inFlight, stalling := after.stalling }
  inFlight : ∀ endpoint, after.inFlight endpoint = true → before.inFlight endpoint = true
  stalling : ∀ endpoint, after.stalling endpoint = true → before.stalling endpoint = true

namespace Settles

variable {before after : UsbBus}

theorem settle (bus : UsbBus) (taken seen : Bool) : Settles bus (bus.settle taken seen) where
  rest := rfl
  inFlight endpoint isSet := by
    by_cases same : endpoint = bus.selected
    · subst same
      simp only [UsbBus.settle, Function.update_self, Bool.and_eq_true] at isSet
      exact isSet.1
    · simpa only [UsbBus.settle, Function.update_of_ne same] using isSet
  stalling endpoint isSet := by
    by_cases same : endpoint = bus.selected
    · subst same
      simp only [UsbBus.settle, Function.update_self, Bool.and_eq_true] at isSet
      exact isSet.1
    · simpa only [UsbBus.settle, Function.update_of_ne same] using isSet

variable (settles : Settles before after)
include settles

theorem index_eq : after.index = before.index := by rw [settles.rest]

theorem filled_eq : after.filled = before.filled := by rw [settles.rest]

theorem sent_eq : after.sent = before.sent := by rw [settles.rest]

theorem inFlight_eq_false {endpoint : Nat} (clear : before.inFlight endpoint = false) :
    after.inFlight endpoint = false := by
  have kept := settles.inFlight endpoint
  rw [clear] at kept
  simpa using kept

theorem stalling_eq_false {endpoint : Nat} (clear : before.stalling endpoint = false) :
    after.stalling endpoint = false := by
  have kept := settles.stalling endpoint
  rw [clear] at kept
  simpa using kept

end Settles

end PinePhonePkg
