/-
This file models the primitives of the USB controller. The registers of an endpoint are
banked: a register says which endpoint they are those of. Each primitive is a trial that
reads and writes registers one after the other; the loops that wait for a packet to be sent
give up after so many reads.
-/

import PinePhonePkg.Library.Environment
import PinePhonePkg.Usb.Messages

namespace PinePhonePkg

open Library

/-- A word of 16 bits -/
abbrev U16 : Type := BitVec 16

/-! ### The variables of the driver -/

/-- `sunxi_udc_source`, `sunxi_ubuf` and the other variables of the driver, with the memory its
pointers point to. -/
structure UsbFn : Type where
  address : U32
  speed : U32
  bulkEpMax : U32
  fifoSize : U32
  bulkInAddr : U32
  bulkOutAddr : U32
  dmaSendChannal : U32
  dmaRecvChannal : U32
  standardReg : Buffer
  standardRegAddress : Ulong
  rxReqBuffer : Ulong
  rxReqLength : U32
  txReqLength : U32
  txPackageSendFinish : U32
  rxReadyForData : U32
  requestSize : U32
  dmaRxAddr : U32
  dmaRxSize : U32
  usbDmaTransUnaligedBytes : U32
  usbDmaTransUnalignedBuf : Ulong
  ep0Stage : U32
  ep0Buffer : Buffer
  ep0BufferAddress : Ulong
  fastbootDataFlag : U32
  sunxiUsbBurnFromBootInit : U32
  mDeviceDescriptor : Ulong
  mConfigDescriptor : Ulong
  usbDmaUsed : Nat → U32
  memory : Buffer

/-! ### What the driver asks for -/

/-- A register is read or written, the variables are, or a message is queued. -/
inductive UsbRequest : Type where
  | readb (offset : Nat)
  | readw (offset : Nat)
  | readl (offset : Nat)
  | writeb (offset : Nat) (value : U8)
  | writew (offset : Nat) (value : U16)
  | writel (offset : Nat) (value : U32)
  | load
  | store (change : UsbFn → UsbFn)
  | queue (post : UsbPost)

/-- What comes back from a register or from the driver's own state -/
def UsbRequest.Reply : UsbRequest → Type
  | .readb _ => U8
  | .readw _ => U16
  | .readl _ => U32
  | .load => UsbFn
  | _ => Unit

/-- A program of the driver, which may not end -/
abbrev UsbCode : Type → Type := Trial UsbRequest UsbRequest.Reply

/-- Reads a byte register. -/
def usbcReadb (offset : Nat) : UsbCode U8 := Trial.send (UsbRequest.readb offset)

/-- Reads a register of 16 bits. -/
def usbcReadw (offset : Nat) : UsbCode U16 := Trial.send (UsbRequest.readw offset)

/-- Reads a register of 32 bits. -/
def usbcReadl (offset : Nat) : UsbCode U32 := Trial.send (UsbRequest.readl offset)

/-- Writes a byte register. -/
def usbcWriteb (value : U8) (offset : Nat) : UsbCode Unit := Trial.send (UsbRequest.writeb offset value)

/-- Writes a register of 16 bits. -/
def usbcWritew (value : U16) (offset : Nat) : UsbCode Unit := Trial.send (UsbRequest.writew offset value)

/-- Writes a register of 32 bits. -/
def usbcWritel (value : U32) (offset : Nat) : UsbCode Unit := Trial.send (UsbRequest.writel offset value)

/-- The driver's own state -/
def loadFn : UsbCode UsbFn := Trial.send UsbRequest.load

/-- Changes the driver's own state. -/
def storeFn (change : UsbFn → UsbFn) : UsbCode Unit := Trial.send (UsbRequest.store change)

/-- `UsbQueueEventMassage`, whose result no caller looks at -/
def queueMessage (message : EfiUsbfnMessage) (endpointIndex : U8) (direction : UsbDirection)
    (buffer bufferLengh : Ulong) (pointed : Buffer) : UsbCode Unit :=
  Trial.send (UsbRequest.queue {
    message := message
    endpointIndex := endpointIndex
    direction := direction
    transferStatus := .complete
    buffer := buffer
    bufferLengh := bufferLengh
    pointed := pointed
    stack := fun _ => 0 })

/-! ### The registers -/

/-- The port of the FIFO of an endpoint -/
def usbcRegOEpfifo (index : Nat) : Nat := 4 * index

def usbcRegOPctl : Nat := 0x40

def usbcRegOEpind : Nat := 0x42

def usbcRegOInttx : Nat := 0x44

def usbcRegOIntrx : Nat := 0x46

def usbcRegOInttxe : Nat := 0x48

def usbcRegOIntrxe : Nat := 0x4a

def usbcRegOIntusb : Nat := 0x4c

def usbcRegOIntusbe : Nat := 0x50

def usbcRegOTxmaxp : Nat := 0x80

/-- `CSR0` of the control endpoint, `TXCSR` of the others -/
def usbcRegOTxcsr : Nat := 0x82

def usbcRegORxmaxp : Nat := 0x84

def usbcRegORxcsr : Nat := 0x86

/-- `COUNT0` and `RXCOUNT` -/
def usbcRegORxcount : Nat := 0x88

def usbcRegOTxfifosz : Nat := 0x90

def usbcRegOTxfifoad : Nat := 0x92

def usbcRegORxfifosz : Nat := 0x94

def usbcRegORxfifoad : Nat := 0x96

def usbcRegOFaddr : Nat := 0x98

def usbcRegODmaEnable : Nat := 0x500

def usbcRegODmaStatus : Nat := 0x504

/-- The settings of a channel -/
def usbcRegODmaConfig (channel : Nat) : Nat := 0x540 + 0x10 * channel

/-- A bit of a byte register -/
def usbcRegTestBitB (bit offset : Nat) : UsbCode Bool := do
  return (← usbcReadb offset).getLsbD bit

/-- A bit of a register -/
def usbcRegTestBitW (bit offset : Nat) : UsbCode Bool := do
  return (← usbcReadw offset).getLsbD bit

/-- Sets a bit of a byte register. -/
def usbcRegSetBitB (bit offset : Nat) : UsbCode Unit := do
  usbcWriteb ((← usbcReadb offset) ||| BitVec.twoPow 8 bit) offset

/-- Sets a bit of a register. -/
def usbcRegSetBitW (bit offset : Nat) : UsbCode Unit := do
  usbcWritew ((← usbcReadw offset) ||| BitVec.twoPow 16 bit) offset

/-- Clears a bit of a register. -/
def usbcRegClearBitW (bit offset : Nat) : UsbCode Unit := do
  usbcWritew ((← usbcReadw offset) &&& ~~~BitVec.twoPow 16 bit) offset

/-! ### The endpoint, and what is pending -/

/-- The kinds of endpoints that `USBC_EP_TYPE_` names -/
inductive UsbEpType : Type where
  | ep0
  | tx
  | rx
deriving DecidableEq

/-- The endpoint whose registers are seen -/
def usbcGetActiveEp : UsbCode U8 := usbcReadb usbcRegOEpind

/-- Selects the endpoint whose registers are seen. -/
def usbcSelectActiveEp (index : U8) : UsbCode Unit := usbcWriteb index usbcRegOEpind

/-- The events of the bus that are pending -/
def usbcIntMiscPending : UsbCode U8 := usbcReadb usbcRegOIntusb

/-- The endpoints with an interrupt -/
def usbcIntEpPending : UsbEpType → UsbCode U16
  | .rx => usbcReadw usbcRegOIntrx
  | _ => usbcReadw usbcRegOInttx

/-- Takes events of the bus back. -/
def usbcIntClearMiscPending (mask : U8) : UsbCode Unit := usbcWriteb mask usbcRegOIntusb

/-- Takes all events of the bus back. -/
def usbcIntClearMiscPendingAll : UsbCode Unit := usbcWriteb 0xff usbcRegOIntusb

/-- Takes the interrupt of an endpoint back. -/
def usbcIntClearEpPending (epType : UsbEpType) (index : Nat) : UsbCode Unit :=
  match epType with
  | .rx => usbcWritew (BitVec.twoPow 16 index) usbcRegOIntrx
  | _ => usbcWritew (BitVec.twoPow 16 index) usbcRegOInttx

/-- Takes the interrupts of all endpoints back. -/
def usbcIntClearEpPendingAll : UsbEpType → UsbCode Unit
  | .rx => usbcWritew 0xffff usbcRegOIntrx
  | _ => usbcWritew 0xffff usbcRegOInttx

/-- An endpoint may interrupt. -/
def usbcIntEnableEp (epType : UsbEpType) (index : Nat) : UsbCode Unit :=
  match epType with
  | .tx => usbcRegSetBitW index usbcRegOInttxe
  | .rx => usbcRegSetBitW index usbcRegOIntrxe
  | .ep0 => pure ()

/-- Events of the bus may not interrupt. -/
def usbcIntDisableUsbMiscUint (mask : U8) : UsbCode Unit := do
  usbcWriteb ((← usbcReadb usbcRegOIntusbe) &&& ~~~mask) usbcRegOIntusbe

/-! ### An endpoint as a device -/

/-- Sets the address that devices start with. -/
def usbcDevSetAddressDefault : UsbCode Unit := usbcWriteb 0 usbcRegOFaddr

/-- Sets the address. -/
def usbcDevSetAddress (address : U8) : UsbCode Unit := usbcWriteb address usbcRegOFaddr

/-- Whether the transfer mode is `USBC_TS_MODE_HS` -/
def usbcDevQueryTransferMode : UsbCode Bool := usbcRegTestBitB 4 usbcRegOPctl

/-- The status is read and dropped, so no caller is ever told of a stall. -/
def usbcDevIsEpStall : UsbEpType → UsbCode Bool
  | .ep0 => do
    let _ ← usbcRegTestBitW 2 usbcRegOTxcsr
    return false
  | .tx => do
    let _ ← usbcRegTestBitW 5 usbcRegOTxcsr
    return false
  | .rx => do
    let _ ← usbcRegTestBitW 6 usbcRegORxcsr
    return false

/-- Asks an endpoint to stall. -/
def usbcDevEpSendStall : UsbEpType → UsbCode Unit
  | .ep0 => usbcRegSetBitW 5 usbcRegOTxcsr
  | .tx => usbcRegSetBitW 4 usbcRegOTxcsr
  | .rx => usbcRegSetBitW 5 usbcRegORxcsr

/-- Ends the stall of an endpoint. -/
def usbcDevEpClearStall : UsbEpType → UsbCode Unit
  | .ep0 => do
    usbcRegClearBitW 5 usbcRegOTxcsr
    usbcRegClearBitW 2 usbcRegOTxcsr
  | .tx => do
    let csr ← usbcReadw usbcRegOTxcsr
    usbcWritew (csr &&& ~~~(BitVec.twoPow 16 5 ||| BitVec.twoPow 16 4)) usbcRegOTxcsr
  | .rx => do
    usbcRegClearBitW 5 usbcRegORxcsr
    usbcRegClearBitW 6 usbcRegORxcsr

/-- The control transfer was ended early. -/
def usbcDevCtrlIsSetupEnd : UsbCode Bool := usbcRegTestBitW 4 usbcRegOTxcsr

/-- Takes that back. -/
def usbcDevCtrlClearSetupEnd : UsbCode Unit := usbcRegSetBitW 7 usbcRegOTxcsr

/-- There is a packet to read. -/
def usbcDevIsReadDataReady : UsbEpType → UsbCode Bool
  | .ep0 => usbcRegTestBitW 0 usbcRegOTxcsr
  | .tx => pure false
  | .rx => usbcRegTestBitW 0 usbcRegORxcsr

/-- A packet that was written has not left yet. -/
def usbcDevIsWriteDataReady : UsbEpType → UsbCode Bool
  | .ep0 => usbcRegTestBitW 1 usbcRegOTxcsr
  | .tx => do
    let csr ← usbcReadw usbcRegOTxcsr
    return csr.getLsbD 0 || csr.getLsbD 1
  | .rx => pure false

/-- `USBC_Dev_ReadDataStatus` with all of the data read -/
def usbcDevReadDataComplete : UsbEpType → UsbCode Unit
  | .ep0 => usbcWritew 0x0048 usbcRegOTxcsr
  | .tx => pure ()
  | .rx => do
    let csr ← usbcReadw usbcRegORxcsr
    usbcWritew (csr &&& 0xfff2) usbcRegORxcsr

/-- `USBC_Dev_WriteDataStatus` with all of the data written -/
def usbcDevWriteDataComplete : UsbEpType → UsbCode Unit
  | .ep0 => usbcWritew 0x000a usbcRegOTxcsr
  | .tx => do
    let csr ← usbcReadw usbcRegOTxcsr
    usbcWritew ((csr ||| BitVec.twoPow 16 0) &&& ~~~BitVec.twoPow 16 2) usbcRegOTxcsr
  | .rx => pure ()

/-- `USBC_Dev_ConfigEp` for a bulk endpoint with two FIFOs, which is flushed twice -/
def usbcDevConfigEp (epType : UsbEpType) (epMaxPkt : U32) : UsbCode Unit :=
  match epType with
  | .ep0 => usbcWritew 0x0100 usbcRegOTxcsr
  | .tx => do
    usbcWritew 0x2048 usbcRegOTxcsr
    usbcWritew 0x2048 usbcRegOTxcsr
    let maxp ← usbcReadw usbcRegOTxmaxp
    usbcWritew (maxp &&& 0xe000 ||| (epMaxPkt &&& 0x7ff).setWidth 16) usbcRegOTxmaxp
    usbcRegClearBitW 14 usbcRegOTxcsr
  | .rx => do
    usbcWritew 0x0090 usbcRegORxcsr
    usbcWritew 0x0090 usbcRegORxcsr
    let maxp ← usbcReadw usbcRegORxmaxp
    usbcWritew (maxp &&& 0xe000 ||| (epMaxPkt &&& 0x7ff).setWidth 16) usbcRegORxmaxp
    usbcRegClearBitW 14 usbcRegORxcsr

/-- The number of shifts to the right that leave nothing; a word has at most 32 bits. -/
def fifoSizeCode : Nat → U32 → Nat
  | 0, _ => 0
  | bits + 1, temp => if temp = 0 then 0 else fifoSizeCode bits (temp >>> 1) + 1

/-- `USBC_ConfigFifo` with two FIFOs: sizes are rounded up to 512, and addresses down to 8. -/
def usbcConfigFifo (epType : UsbEpType) (fifoSize fifoAddr : U32) : UsbCode Unit :=
  let size := fifoSizeCode 32 (((fifoSize + 511) &&& ~~~511) >>> 3 >>> 1)
  let addr := (fifoAddr >>> 3).setWidth 16
  match epType with
  | .ep0 => pure ()
  | .tx => do
    usbcWritew addr usbcRegOTxfifoad
    usbcWriteb (BitVec.ofNat 8 size &&& 0x0f) usbcRegOTxfifosz
    usbcRegSetBitB 4 usbcRegOTxfifosz
  | .rx => do
    usbcWritew addr usbcRegORxfifoad
    usbcWriteb (BitVec.ofNat 8 size &&& 0x0f) usbcRegORxfifosz
    usbcRegSetBitB 4 usbcRegORxfifosz

/-- `USBC_Dev_ClearEpDma` for what is received -/
def usbcDevClearEpDma : UsbCode Unit := do
  let csr ← usbcReadb (usbcRegORxcsr + 1)
  usbcWriteb (csr &&& 0x57) (usbcRegORxcsr + 1)
  let pctl ← usbcReadl usbcRegOPctl
  usbcWritel (pctl &&& ~~~BitVec.twoPow 32 24) usbcRegOPctl

/-! ### Packets -/

/-- The bytes of that packet -/
def usbcReadLenFromFifo : UsbEpType → UsbCode U32
  | .tx => pure 0
  | _ => do
    return (← usbcReadw usbcRegORxcount).setWidth 32

/-- The word of four bytes, the first one lowest -/
def wordOf (first second third fourth : U8) : U32 := fourth ++ third ++ second ++ first

/-- The four bytes of a word -/
def wordBytes (word : U32) : List U8 :=
  [word.extractLsb' 0 8, word.extractLsb' 8 8, word.extractLsb' 16 8, word.extractLsb' 24 8]

/-- The bytes go to the FIFO one by one. -/
def writeBytes (fifo : Nat) : List U8 → UsbCode Unit
  | [] => pure ()
  | byte :: rest => do
    usbcWriteb byte fifo
    writeBytes fifo rest

/-- The bytes go to the FIFO in words, and what is left over one by one. -/
def writePacketWords (fifo : Nat) : List U8 → UsbCode Unit
  | first :: second :: third :: fourth :: rest => do
    usbcWritel (wordOf first second third fourth) fifo
    writePacketWords fifo rest
  | rest => writeBytes fifo rest

/-- `USBC_WritePacket` of the bytes at an address, with how many it has written; a buffer that is not
aligned is written byte by byte. -/
def usbcWritePacket (fifo : Nat) (address : Ulong) (bytes : List U8) : UsbCode U32 := do
  if address = 0 then
    return 0
  if address &&& 3 ≠ 0 then
    writeBytes fifo bytes
  else
    writePacketWords fifo bytes
  return BitVec.ofNat 32 bytes.length

/-- So many bytes come from the FIFO one by one. -/
def readBytes (fifo : Nat) : Nat → UsbCode (List U8)
  | 0 => pure []
  | count + 1 => do
    let byte ← usbcReadb fifo
    return byte :: (← readBytes fifo count)

/-- So many words come from the FIFO, and then so many bytes. -/
def readPacketWords (fifo : Nat) : Nat → Nat → UsbCode (List U8)
  | 0, bytes => readBytes fifo bytes
  | words + 1, bytes => do
    let word ← usbcReadl fifo
    return wordBytes word ++ (← readPacketWords fifo words bytes)

/-- `USBC_ReadPacket`, with the bytes that it puts into its buffer; nothing is read where there is no
buffer. -/
def usbcReadPacket (fifo count : Nat) (buff : Ulong) : UsbCode (List U8) :=
  if buff = 0 then pure [] else readPacketWords fifo (count / 4) (count % 4)

/-! ### The channels of the DMA -/

/-- `__usb_index_check`: one index too many is taken for a channel. -/
def usbIndexCheck (dmaIndex : U32) : UsbCode Bool := do
  if dmaIndex.toNat > 8 then
    return false
  return (← loadFn).usbDmaUsed dmaIndex.toNat ≠ 0

/-- Sets the packets of a channel. -/
def usbDmaSetPktlen (dmaIndex pktLen : U32) : UsbCode Unit := do
  if ← usbIndexCheck dmaIndex then
    let config ← usbcReadl (usbcRegODmaConfig dmaIndex.toNat)
    usbcWritel (config &&& 0xf800ffff ||| (pktLen &&& 0x7ff) <<< 16)
      (usbcRegODmaConfig dmaIndex.toNat)

/-- A channel may no longer interrupt. -/
def usbDmaStop (dmaIndex : U32) : UsbCode Unit := do
  if ← usbIndexCheck dmaIndex then
    let enable ← usbcReadl usbcRegODmaEnable
    usbcWritel (enable &&& ~~~BitVec.twoPow 32 (dmaIndex.toNat % 256)) usbcRegODmaEnable

/-- The channels that are done -/
def usbDmaIntQuery : UsbCode U32 := usbcReadl usbcRegODmaStatus

/-- Takes that back. -/
def usbDmaIntClear : UsbCode Unit := usbcWritel 0xff usbcRegODmaStatus

end PinePhonePkg
