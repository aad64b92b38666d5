/-
This file models how packets are sent: the bytes go to the FIFO of an endpoint, the packet
is handed over, and the driver waits until the host has taken it. A buffer goes out in
packets of the size of the FIFO, and a flag tells the interrupt handler that the last one
was handed over.
-/

import PinePhonePkg.Usb.Controller

namespace PinePhonePkg

open Library

/-! ### A packet is done -/

def sunxiUsbBulkInEpIndex : U8 := 1

def sunxiUsbBulkOutEpIndex : U8 := 2

/-- What is cleared when the data of the control endpoint is done -/
def usbControlComplete (epType : UsbEpType) : UsbCode Unit := do
  if epType = .ep0 then
    usbcDevCtrlClearSetupEnd
    usbcIntClearEpPending .tx 0

/-- `__usb_readcomplete` -/
def usbReadcomplete (epType : UsbEpType) : UsbCode Unit := do
  usbcDevReadDataComplete epType
  usbControlComplete epType

/-- The loop that waits for the packet to be sent out -/
def usbWaitSent (epType : UsbEpType) : Nat → UsbCode Unit
  | 0 => failure
  | polls + 1 => do
    if ← usbcDevIsWriteDataReady epType then
      usbWaitSent epType polls

/-- `__usb_writecomplete` -/
def usbWritecomplete (polls : Nat) (epType : UsbEpType) : UsbCode Unit := do
  usbcDevWriteDataComplete epType
  usbWaitSent epType polls
  usbControlComplete epType

/-! ### A buffer is sent -/

/-- So many bytes of a buffer, from an offset on -/
def bytesAt (buffer : Buffer) (offset count : Nat) : List U8 :=
  (List.range count).map fun index => buffer (offset + index)

/-- `MIN` of two words -/
def minWord (first second : U32) : U32 := if first < second then first else second

/-- One round of the loop of `__usb_write_fifo`, with the length of the packet; the flag is set for the
last one. -/
def usbWriteRound (polls : Nat) (address : Ulong) (buffer : Buffer) (transfered left : U32) :
    UsbCode U32 := do
  let fifoSize := (← loadFn).fifoSize
  let thisLen ← usbcWritePacket (usbcRegOEpfifo 1) (address + transfered.setWidth 64)
    (bytesAt buffer transfered.toNat (minWord fifoSize left).toNat)
  if left - thisLen = 0 then
    storeFn fun fn => { fn with txPackageSendFinish := 1 }
  usbWritecomplete polls .tx
  return thisLen

/-- The loop of `__usb_write_fifo`, for so many packets at most -/
def usbWriteLoop (polls : Nat) (address : Ulong) (buffer : Buffer) :
    Nat → U32 → U32 → UsbCode Unit
  | 0, _, left => if left = 0 then pure () else failure
  | rounds + 1, transfered, left => do
    if left = 0 then
      return
    let thisLen ← usbWriteRound polls address buffer transfered left
    usbWriteLoop polls address buffer rounds (transfered + thisLen) (left - thisLen)

/-- `__usb_write_fifo`; each packet has a byte, so that there are no more packets than bytes. -/
def usbWriteFifo (polls : Nat) (address : Ulong) (buffer : Buffer) (bufferSize : U32) :
    UsbCode Unit := do
  storeFn fun fn => { fn with txPackageSendFinish := 0 }
  let oldEpIdx ← usbcGetActiveEp
  usbcSelectActiveEp sunxiUsbBulkInEpIndex
  usbWriteLoop polls address buffer bufferSize.toNat 0 bufferSize
  usbcSelectActiveEp oldEpIdx

/-- Sends a buffer at the sending endpoint. -/
def sunxiUdcSendData (polls : Nat) (address : Ulong) (buffer : Buffer) (bufferSize : U32) :
    UsbCode Unit := do
  storeFn fun fn => { fn with rxReadyForData := 0 }
  storeFn fun fn => { fn with txReqLength := bufferSize }
  usbWriteFifo polls address buffer bufferSize

/-- `SunxiEpXSendData`, whatever the endpoint; the size counts modulo 2^32. -/
def sunxiEpXSendData (polls : Nat) (bufferSize address : Ulong) (buffer : Buffer) : UsbCode Unit :=
  sunxiUdcSendData polls address buffer (bufferSize.setWidth 32)

/-- `sunxi_udc_send_setup`, at whatever endpoint is selected -/
def sunxiUdcSendSetup (polls : Nat) (address : Ulong) (bytes : List U8) : UsbCode Unit := do
  if bytes.length ≠ 0 then
    let _ ← usbcWritePacket (usbcRegOEpfifo 0) address bytes
  usbWritecomplete polls .ep0

@[simp]
theorem length_bytesAt (buffer : Buffer) (offset count : Nat) :
    (bytesAt buffer offset count).length = count := by
  simp [bytesAt]

theorem bytesAt_add (buffer : Buffer) (offset first second : Nat) :
    bytesAt buffer offset (first + second) =
      bytesAt buffer offset first ++ bytesAt buffer (offset + first) second := by
  unfold bytesAt
  rw [List.range_add, List.map_append, List.map_map]
  exact congrArg _ (List.map_congr_left fun index _ => by simp [Nat.add_assoc])

/-! ### The bytes of a packet -/

section Rules

variable {may : (request : UsbRequest) → UsbState → request.Reply → UsbState → Prop}
  {stuck : UsbState → Prop} {fifo : Nat}
  {written : List U8 → UsbState → Prop}

/-- The word that four bytes make has these bytes. -/
theorem wordBytes_wordOf (first second third fourth : U8) :
    wordBytes (wordOf first second third fourth) = [first, second, third, fourth] := by
  have next : ∀ {width : Nat} (high : BitVec width) (low : U8) (start : Nat), 8 ≤ start →
      (high ++ low).extractLsb' start 8 = high.extractLsb' (start - 8) 8 :=
    fun _ _ _ above => BitVec.extractLsb'_append_eq_of_le above
  have isFirst : (wordOf first second third fourth).extractLsb' 0 8 = first :=
    BitVec.extractLsb'_append_eq_right
  have isSecond : (wordOf first second third fourth).extractLsb' 8 8 = second :=
    (next (fourth ++ third ++ second) first 8 (by decide)).trans BitVec.extractLsb'_append_eq_right
  have isThird : (wordOf first second third fourth).extractLsb' 16 8 = third :=
    (next (fourth ++ third ++ second) first 16 (by decide)).trans
      ((next (fourth ++ third) second 8 (by decide)).trans BitVec.extractLsb'_append_eq_right)
  have isFourth : (wordOf first second third fourth).extractLsb' 24 8 = fourth :=
    (next (fourth ++ third ++ second) first 24 (by decide)).trans
      ((next (fourth ++ third) second 16 (by decide)).trans BitVec.extractLsb'_append_eq_left)
  unfold wordBytes
  rw [isFirst, isSecond, isThird, isFourth]

/-- What holds after each byte, holds after all of them. -/
theorem ensures_writeBytes
    (byte : ∀ done value state, written done state →
      Trial.Ensures may (fun _ after => written (done ++ [value]) after) stuck
        (usbcWriteb value fifo) state)
    (bytes done : List U8) {state : UsbState} (holds : written done state) :
    Trial.Ensures may (fun _ after => written (done ++ bytes) after) stuck
      (writeBytes fifo bytes) state := by
  induction bytes generalizing done state with
  | nil => simpa [writeBytes] using holds
  | cons value rest inductionHypothesis =>
    unfold writeBytes
    refine (byte done value state holds).bind fun _ after one => ?_
    simpa using inductionHypothesis (done ++ [value]) one

/-- What holds after each word and after each byte, holds after all of them. -/
theorem ensures_writePacketWords
    (byte : ∀ done value state, written done state →
      Trial.Ensures may (fun _ after => written (done ++ [value]) after) stuck
        (usbcWriteb value fifo) state)
    (word : ∀ done value state, written done state →
      Trial.Ensures may (fun _ after => written (done ++ wordBytes value) after) stuck
        (usbcWritel value fifo) state)
    (bytes done : List U8) {state : UsbState} (holds : written done state) :
    Trial.Ensures may (fun _ after => written (done ++ bytes) after) stuck
      (writePacketWords fifo bytes) state := by
  induction bytes using writePacketWords.induct generalizing done state with
  | case1 first second third fourth rest inductionHypothesis =>
    unfold writePacketWords
    refine (word done _ state holds).bind fun _ after one => ?_
    rw [wordBytes_wordOf] at one
    simpa using inductionHypothesis (done ++ [first, second, third, fourth]) one
  | case2 rest few =>
    rw [writePacketWords.eq_2 _ _ few]
    exact ensures_writeBytes byte rest done holds

/-- A packet whose buffer has an address is written whole. -/
theorem ensures_usbcWritePacket
    (byte : ∀ done value state, written done state →
      Trial.Ensures may (fun _ after => written (done ++ [value]) after) stuck
        (usbcWriteb value fifo) state)
    (word : ∀ done value state, written done state →
      Trial.Ensures may (fun _ after => written (done ++ wordBytes value) after) stuck
        (usbcWritel value fifo) state)
    {address : Ulong} {bytes : List U8} {state : UsbState} (holds : written [] state) :
    Trial.Ensures may
      (fun count after =>
        written (if address = 0 then [] else bytes) after ∧
          (address ≠ 0 → count = BitVec.ofNat 32 bytes.length))
      stuck (usbcWritePacket fifo address bytes) state := by
  unfold usbcWritePacket
  by_cases null : address = 0
  · rw [if_pos null, if_pos null]
    exact ⟨holds, fun notNull => absurd null notNull⟩
  · rw [if_neg null, if_neg null]
    dsimp only
    split
    · refine (ensures_writeBytes byte bytes [] holds).bind fun _ after done => ?_
      exact ⟨done, fun _ => rfl⟩
    · refine (ensures_writePacketWords byte word bytes [] holds).bind fun _ after done => ?_
      exact ⟨done, fun _ => rfl⟩

end Rules

end PinePhonePkg
