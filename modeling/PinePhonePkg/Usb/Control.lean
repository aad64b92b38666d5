/-
This file models what the driver does with a control request. A request of eight bytes is
read from the FIFO of the control endpoint. Some requests are answered at once with a
packet, some set the address or reset the endpoints, some are passed to the application,
and one that is not known is stalled.
-/

import PinePhonePkg.Usb.Packets

namespace PinePhonePkg

open Library

/-! ### What a request comes to -/

def sunxiUsbReqSuccessed : Int := 0

def sunxiUsbReqDeviceNotSupported : Int := -1

def sunxiUsbReqUnmatchedCommand : Int := -3

def sunxiUsbReqOpErr : Int := -5

def usbSpeedFull : U32 := 2

def usbSpeedHigh : U32 := 3

def highSpeedEpMaxPacketSize : U32 := 512

def fullSpeedEpMaxPacketSize : U32 := 64

namespace UsbDeviceRequest

variable (request : UsbDeviceRequest)

/-- `USB_REQ_TYPE_STANDARD` -/
def IsStandard : Prop := request.bmRequestType &&& 0x60 = 0

/-- `USB_DIR_IN` -/
def IsIn : Prop := request.bmRequestType &&& 0x80 = 0x80

/-- `USB_DIR_OUT` -/
def IsOut : Prop := request.bmRequestType &&& 0x80 = 0

/-- `USB_RECIP_DEVICE` -/
def ToDevice : Prop := request.bmRequestType &&& 0x1f = 0

/-- `USB_RECIP_INTERFACE` -/
def ToInterface : Prop := request.bmRequestType &&& 0x1f = 1

instance : Decidable request.IsStandard := inferInstanceAs (Decidable (_ = _))

instance : Decidable request.IsIn := inferInstanceAs (Decidable (_ = _))

instance : Decidable request.IsOut := inferInstanceAs (Decidable (_ = _))

instance : Decidable request.ToDevice := inferInstanceAs (Decidable (_ = _))

instance : Decidable request.ToInterface := inferInstanceAs (Decidable (_ = _))

end UsbDeviceRequest

/-! ### The endpoints are reset -/

/-- `__usb_bulk_ep_reset` -/
def usbBulkEpReset : UsbCode Unit := do
  let oldEpIndex ← usbcGetActiveEp
  usbcSelectActiveEp sunxiUsbBulkInEpIndex
  let fn ← loadFn
  usbcDevConfigEp .tx (fn.bulkEpMax &&& 0x7ff)
  usbcConfigFifo .tx fn.fifoSize fn.bulkOutAddr
  usbcIntEnableEp .tx 1
  usbcSelectActiveEp sunxiUsbBulkOutEpIndex
  usbcDevConfigEp .rx (fn.bulkEpMax &&& 0x7ff)
  usbcConfigFifo .rx fn.fifoSize fn.bulkInAddr
  usbcIntEnableEp .rx 2
  usbcSelectActiveEp oldEpIndex

/-! ### The requests -/

/-- Sets the address, and keeps the speed that was agreed on. -/
def sunxiUdcSetAddress (address : U8) : UsbCode Unit := do
  usbcDevSetAddress address
  if ← usbcDevQueryTransferMode then
    storeFn fun fn => { fn with speed := usbSpeedHigh, fifoSize := highSpeedEpMaxPacketSize }
  else
    storeFn fun fn => { fn with speed := usbSpeedFull, fifoSize := fullSpeedEpMaxPacketSize }

/-- `__usb_set_interface`: there is interface 0 alone, without an alternate. -/
def usbSetInterface (request : UsbDeviceRequest) : UsbCode Int := do
  if request.wIndex = 0 ∧ request.wValue = 0 then
    usbBulkEpReset
    return sunxiUsbReqSuccessed
  return sunxiUsbReqOpErr

/-- `__usb_set_address` -/
def usbSetAddress (request : UsbDeviceRequest) : UsbCode Int := do
  sunxiUdcSetAddress ((request.wValue &&& 0x7f).setWidth 8)
  return sunxiUsbReqSuccessed

/-- `__usb_set_configuration`: there is configuration 1 alone. -/
def usbSetConfiguration (request : UsbDeviceRequest) : UsbCode Int := do
  if request.wValue = 1 then
    usbBulkEpReset
    return sunxiUsbReqSuccessed
  return sunxiUsbReqOpErr

/-- The request is passed to the application. -/
def forwardSetup : UsbCode Unit := do
  let fn ← loadFn
  queueMessage .setupPacket 0 .deviceRx fn.standardRegAddress 8 fn.standardReg

/-- `__usb_get_descriptor`: the two descriptors that the application has configured are sent as far as
the host asks for them. -/
def usbGetDescriptor (polls : Nat) (request : UsbDeviceRequest) : UsbCode Int := do
  let fn ← loadFn
  let kind := request.wValue >>> 8
  if kind = 1 then
    let length := (fn.memory fn.mDeviceDescriptor.toNat).toNat
    sunxiUdcSendSetup polls fn.mDeviceDescriptor
      (bytesAt fn.memory fn.mDeviceDescriptor.toNat (min request.wLength.toNat length))
    return sunxiUsbReqSuccessed
  if kind = 2 then
    let totalLength := Memory.word fn.memory (fn.mConfigDescriptor.toNat + 2) 2
    sunxiUdcSendSetup polls fn.mConfigDescriptor
      (bytesAt fn.memory fn.mConfigDescriptor.toNat (min request.wLength.toNat totalLength))
    return sunxiUsbReqSuccessed
  if kind = 3 ∨ kind = 6 then
    forwardSetup
    return sunxiUsbReqSuccessed
  return sunxiUsbReqOpErr

/-- `__usb_get_status`: the length of the answer is taken from the value of the request. -/
def usbGetStatus (polls : Nat) (request : UsbDeviceRequest) : UsbCode Int := do
  if request.wLength = 0 then
    sunxiUdcSendSetup polls 0 []
    return sunxiUsbReqOpErr
  storeFn fun fn => { fn with
    ep0Buffer := Function.update (Function.update fn.ep0Buffer 0 1) 1 0 }
  let fn ← loadFn
  sunxiUdcSendSetup polls fn.ep0BufferAddress
    (bytesAt fn.ep0Buffer 0 (min request.wValue.toNat 2))
  return sunxiUsbReqSuccessed

/-- The standard requests of `ep0_recv_op`: several of them are known, but nothing is done. -/
def standardRequest (polls : Nat) (request : UsbDeviceRequest) : UsbCode Int := do
  if request.bRequest = 0x00 then
    if request.IsIn then
      return ← usbGetStatus polls request
    return sunxiUsbReqUnmatchedCommand
  if request.bRequest = 0x05 then
    if request.IsOut ∧ request.ToDevice then
      return ← usbSetAddress request
    return sunxiUsbReqUnmatchedCommand
  if request.bRequest = 0x06 then
    if request.IsIn ∧ request.ToDevice then
      return ← usbGetDescriptor polls request
    return sunxiUsbReqUnmatchedCommand
  if request.bRequest = 0x09 then
    if request.IsOut ∧ request.ToDevice then
      return ← usbSetConfiguration request
    return sunxiUsbReqUnmatchedCommand
  if request.bRequest = 0x0b then
    if request.IsOut ∧ request.ToInterface then
      return ← usbSetInterface request
    return sunxiUsbReqUnmatchedCommand
  if request.bRequest = 0x0c then
    if request.IsIn ∧ request.ToInterface then
      storeFn fun fn => { fn with ep0Stage := if fn.ep0Stage = 0 then 1 else 0 }
    return sunxiUsbReqUnmatchedCommand
  if request.bRequest ∈ [0x01, 0x03, 0x07, 0x08, 0x0a] then
    return sunxiUsbReqUnmatchedCommand
  usbcDevEpSendStall .ep0
  storeFn fun fn => { fn with ep0Stage := 0 }
  return sunxiUsbReqDeviceNotSupported

/-! ### The control endpoint -/

/-- The bytes are put into a buffer, from an address on. -/
def putBytes (memory : Buffer) (address : Nat) (bytes : List U8) : Buffer :=
  Memory.overwrite memory address bytes.length fun index => bytes.getD index 0

/-- `__usb_read_ep0_data`, which has a request of eight bytes or whatever data came -/
def usbReadEp0Data (keep : List U8 → UsbFn → UsbFn) (buffer : Ulong) (dataType : U32) :
    UsbCode Bool := do
  let oldEpIndex ← usbcGetActiveEp
  let fifoCount ← usbcReadLenFromFifo .ep0
  if dataType = 0 ∧ fifoCount ≠ 8 then
    return false
  let bytes ← usbcReadPacket (usbcRegOEpfifo 0) fifoCount.toNat buffer
  storeFn (keep bytes)
  usbReadcomplete .ep0
  usbcSelectActiveEp oldEpIndex
  return true

/-- What came is the request, or data that follows one. -/
def keepEp0Data (stage : U32) (bytes : List U8) (fn : UsbFn) : UsbFn :=
  if stage = 0 then { fn with standardReg := putBytes fn.standardReg 0 bytes }
  else { fn with ep0Buffer := putBytes fn.ep0Buffer 0 bytes }

/-- Where it is put -/
def UsbFn.ep0DataBuffer (fn : UsbFn) : Ulong :=
  if fn.ep0Stage = 0 then fn.standardRegAddress else fn.ep0BufferAddress

/-- The request that was read is carried out. -/
def ep0Request (polls : Nat) : UsbCode Int := do
  let request := UsbDeviceRequest.read (← loadFn).standardReg 0
  if request.IsStandard then
    return ← standardRequest polls request
  forwardSetup
  return 0

/-- What `ep0_recv_op` does while the control endpoint is selected -/
def ep0Receive (polls : Nat) : UsbCode Int := do
  if ← usbcDevIsEpStall .ep0 then
    usbcDevEpClearStall .ep0
    return -1
  if ← usbcDevCtrlIsSetupEnd then
    usbcDevCtrlClearSetupEnd
  if ← usbcDevIsReadDataReady .ep0 then
    let fn ← loadFn
    if ← usbReadEp0Data (keepEp0Data fn.ep0Stage) fn.ep0DataBuffer fn.ep0Stage then
      return ← ep0Request polls
    return -1
  return 0

/-- What the driver does when the control endpoint has a packet. -/
def ep0RecvOp (polls : Nat) : UsbCode Int := do
  if (← loadFn).ep0Stage = 0 then
    storeFn fun fn => { fn with standardReg := Memory.overwrite fn.standardReg 0 8 fun _ => 0 }
  let oldEpIndex ← usbcGetActiveEp
  usbcSelectActiveEp 0
  let ret ← ep0Receive polls
  usbcSelectActiveEp oldEpIndex
  return ret

end PinePhonePkg
