/-
This file models the interrupt handler of the USB controller. It may come at any time, and
between any two accesses of the driver. Unless the bus or the endpoints are reset, it puts
back the endpoint that was selected and leaves the one that sends alone; and it reports a
buffer that was sent once.
-/

import PinePhonePkg.Usb.Control
import PinePhonePkg.Usb.Guard

namespace PinePhonePkg

open Library Trial

/-! ### What was received -/

/-- What `eprx_recv_op` does while the endpoint that receives is selected: a command is read unless one
was read already, and the data that follows it is left to the DMA. -/
def eprxReceive : UsbCode U32 := do
  if ← usbcDevIsEpStall .rx then
    usbcDevEpClearStall .rx
    return 0
  if ← usbcDevIsReadDataReady .rx then
    let thisLen ← usbcReadLenFromFifo .rx
    let fn ← loadFn
    if fn.fastbootDataFlag = 1 then
      let bytes ← usbcReadPacket (usbcRegOEpfifo 2) thisLen.toNat fn.rxReqBuffer
      storeFn fun fn => { fn with
        memory := putBytes fn.memory fn.rxReqBuffer.toNat bytes
        rxReqLength := BitVec.ofNat 32 bytes.length
        rxReqBuffer := fn.rxReqBuffer + thisLen.setWidth 64 }
      usbReadcomplete .rx
      return 0
    if fn.rxReadyForData = 0 then
      storeFn fun fn => { fn with
        memory := Memory.overwrite fn.memory fn.rxReqBuffer.toNat 64 fun _ => 0 }
      let bytes ← usbcReadPacket (usbcRegOEpfifo 2) thisLen.toNat fn.rxReqBuffer
      storeFn fun fn => { fn with
        memory := putBytes fn.memory fn.rxReqBuffer.toNat bytes
        rxReqLength := BitVec.ofNat 32 bytes.length
        rxReadyForData := 1 }
      usbReadcomplete .rx
      return (← loadFn).rxReqLength
    return 0
  return 0

/-- What the driver does when the receiving endpoint has a packet; the length it read -/
def eprxRecvOp : UsbCode U32 := do
  let oldEpIndex ← usbcGetActiveEp
  usbcSelectActiveEp sunxiUsbBulkOutEpIndex
  let readLen ← eprxReceive
  usbcSelectActiveEp oldEpIndex
  return readLen

/-- What `__usb_recv_by_dma_isr` does while the endpoint that receives is selected: the DMA has brought
whole words, and what is left of the last one is read from the FIFO. -/
def usbRecvByDma : UsbCode Unit := do
  usbcDevClearEpDma
  let fn ← loadFn
  if fn.usbDmaTransUnaligedBytes ≠ 0 then
    let thisLen ← usbcReadLenFromFifo .rx
    let bytes ← usbcReadPacket (usbcRegOEpfifo 2) thisLen.toNat fn.usbDmaTransUnalignedBuf
    storeFn fun fn => { fn with
      memory := putBytes fn.memory fn.usbDmaTransUnalignedBuf.toNat bytes }
    usbReadcomplete .rx
    storeFn fun fn => { fn with usbDmaTransUnaligedBytes := 0 }
  if fn.requestSize % fn.bulkEpMax ≠ 0 then
    usbcDevReadDataComplete .rx

/-- `__usb_recv_by_dma_isr` -/
def usbRecvByDmaIsr : UsbCode Unit := do
  let oldEpIdx ← usbcGetActiveEp
  usbcSelectActiveEp sunxiUsbBulkOutEpIndex
  usbRecvByDma
  usbcSelectActiveEp oldEpIdx
  return

/-! ### The interrupt handler -/

/-- A message about the bus -/
def queueBusEvent (message : EfiUsbfnMessage) : UsbCode Unit :=
  queueMessage message 0 .deviceRx 0 0 fun _ => 0

/-- `__usb_clear_all_irq` -/
def usbClearAllIrq : UsbCode Unit := do
  usbcIntClearEpPendingAll .tx
  usbcIntClearEpPendingAll .rx
  usbcIntClearMiscPendingAll

/-- What a bus reset does before it is reported; the endpoint that was selected is not put back. -/
def usbResetController : UsbCode Unit := do
  usbcIntClearMiscPending (BitVec.twoPow 8 2)
  usbClearAllIrq
  usbcSelectActiveEp 0
  usbcDevSetAddressDefault
  storeFn fun fn => { fn with address := 0, speed := usbSpeedHigh }
  let fn ← loadFn
  usbDmaStop fn.dmaRecvChannal
  usbDmaStop fn.dmaSendChannal
  usbDmaSetPktlen fn.dmaSendChannal highSpeedEpMaxPacketSize
  usbDmaSetPktlen fn.dmaRecvChannal highSpeedEpMaxPacketSize
  storeFn fun fn => { fn with rxReadyForData := 0 }

/-- The bus is reset. -/
def usbBusReset : UsbCode Unit := do
  usbResetController
  queueBusEvent .busEventReset

/-- One of the bus events that are reported and nothing else -/
def usbBusEvent (miscIrq : U8) (bit : Nat) (message : EfiUsbfnMessage) : UsbCode Unit := do
  if miscIrq.getLsbD bit then
    usbcIntClearMiscPending (BitVec.twoPow 8 bit)
    queueBusEvent message

/-- A frame starts. -/
def usbStartOfFrame (miscIrq : U8) : UsbCode Unit := do
  if miscIrq.getLsbD 3 then
    storeFn fun fn => { fn with sunxiUsbBurnFromBootInit := 1 }
    usbcIntDisableUsbMiscUint (BitVec.twoPow 8 3)
    usbcIntClearMiscPending (BitVec.twoPow 8 3)

/-- The control endpoint needs the driver. -/
def usbControlInterrupt (polls : Nat) (txIrq : U16) : UsbCode Unit := do
  if txIrq.getLsbD 0 then
    usbcIntClearEpPending .tx 0
    let _ ← ep0RecvOp polls

/-- A packet was sent; when it was the last one, that is reported. -/
def usbTxInterrupt (txIrq : U16) : UsbCode Unit := do
  if txIrq.getLsbD 1 then
    usbcIntClearEpPending .tx 1
    if (← loadFn).txPackageSendFinish ≠ 0 then
      storeFn fun fn => { fn with txPackageSendFinish := 0 }
      let fn ← loadFn
      queueMessage .endpointStatusChangedTx 1 .deviceTx 0 (fn.txReqLength.setWidth 64) fun _ => 0

/-- A packet was received; a command is reported. -/
def usbRxInterrupt (rxIrq : U16) : UsbCode Unit := do
  if rxIrq.getLsbD 2 then
    usbcIntClearEpPending .rx 2
    if (← eprxRecvOp) ≠ 0 then
      let fn ← loadFn
      queueMessage .endpointStatusChangedRx 1 .deviceRx fn.rxReqBuffer
        (fn.rxReqLength.setWidth 64) fun _ => 0

/-- The DMA is done with what it receives. -/
def usbDmaInterrupt (dmaIrq : U32) : UsbCode Unit := do
  if dmaIrq.getLsbD 2 then
    usbRecvByDmaIsr
    let fn ← loadFn
    queueMessage .endpointStatusChangedRx 1 .deviceRx (fn.dmaRxAddr.setWidth 64)
      (fn.dmaRxSize.setWidth 64) fun _ => 0

/-- `sunxi_usb_irq` -/
def sunxiUsbIrq (polls : Nat) : UsbCode Unit := do
  let oldEpIdx ← usbcGetActiveEp
  let miscIrq ← usbcIntMiscPending
  let txIrq ← usbcIntEpPending .tx
  let rxIrq ← usbcIntEpPending .rx
  let dmaIrq ← usbDmaIntQuery
  if miscIrq.getLsbD 2 then
    return ← usbBusReset
  usbBusEvent miscIrq 1 .busEventResume
  usbBusEvent miscIrq 0 .busEventSuspend
  if miscIrq.getLsbD 5 then
    return ← usbBusEvent miscIrq 5 .busEventDetach
  usbStartOfFrame miscIrq
  usbControlInterrupt polls txIrq
  usbTxInterrupt txIrq
  usbRxInterrupt rxIrq
  usbDmaInterrupt dmaIrq
  usbDmaIntClear
  usbcSelectActiveEp oldEpIdx

/-! ### The control endpoint while another one sends -/

theorem elsewhere_usbControlComplete (epType : UsbEpType) :
    CarefulElsewhere (usbControlComplete epType) := by
  unfold usbControlComplete usbcDevCtrlClearSetupEnd usbcIntClearEpPending
  refine .ite ?_ (.pure _)
  exact (CarefulElsewhere.setBitW _ _).bind fun _ => .writew _ _

theorem elsewhere_usbReadcomplete (epType : UsbEpType) :
    CarefulElsewhere (usbReadcomplete epType) := by
  unfold usbReadcomplete usbcDevReadDataComplete
  refine .bind ?_ fun _ => elsewhere_usbControlComplete epType
  cases epType with
  | ep0 => exact .writew _ _
  | tx => exact .pure _
  | rx => exact (Careful.readw _).elsewhere.bind fun _ => .writew _ _

theorem elsewhere_usbWaitSent (polls : Nat) : CarefulElsewhere (usbWaitSent .ep0 polls) := by
  induction polls with
  | zero => exact fun _ => trivial
  | succ polls inductionHypothesis =>
    exact (Careful.testBitW _ _).elsewhere.bind fun _ => .ite inductionHypothesis (.pure _)

theorem elsewhere_sunxiUdcSendSetup (polls : Nat) (address : Ulong) (bytes : List U8) :
    CarefulElsewhere (sunxiUdcSendSetup polls address bytes) := by
  have completes : CarefulElsewhere (usbWritecomplete polls .ep0) := by
    unfold usbWritecomplete usbcDevWriteDataComplete
    refine (CarefulElsewhere.writew _ _).bind fun _ => ?_
    exact (elsewhere_usbWaitSent polls).bind fun _ => elsewhere_usbControlComplete .ep0
  have writes : Careful (usbcWritePacket (usbcRegOEpfifo 0) address bytes) := by
    intro state
    have stays := @ensures_usbcWritePacket usbMay (fun _ => True) (usbcRegOEpfifo 0)
      (fun _ after => Stays state after)
    refine (stays (fun _ value middle passed => ?_) (fun _ value middle passed => ?_)
      (.refl state)).mono (fun _ _ written => written.1) fun _ gave => gave
    · refine (Careful.writeb (by decide) (by decide) middle).mono (fun _ _ => ?_) fun _ gave => gave
      exact passed.trans _ _ _
    · refine (Careful.writel (by decide) middle).mono (fun _ _ => ?_) fun _ gave => gave
      exact passed.trans _ _ _
  unfold sunxiUdcSendSetup
  exact .ite (writes.elsewhere.bind fun _ => completes) completes

/-- The endpoints are flushed, so that nothing more is to be shown than which one is selected. -/
theorem careful_usbBulkEpReset : Careful usbBulkEpReset := by
  intro state
  unfold usbBulkEpReset usbcDevConfigEp
  refine ensures_usbcGetActiveEp (ensures_usbcSelectActiveEp ?_)
  rw [ensures_bind]
  refine ensures_loadFn.mpr ?_
  rw [ensures_bind, ensures_bind]
  refine ensures_usbcWritew.mpr ?_
  rw [if_pos rfl]
  have flushed := @flushed_writeCsr_flush { state.bus with index := sunxiUsbBulkInEpIndex } 0x2048 rfl
    (by decide)
  refine (keeps_grows _ _).mono (fun _ after grown => ?_) fun _ gave => gave
  refine Keeps.step Grows.trans grown (keeps_grows _) fun _ _ grown => ?_
  refine Keeps.step Grows.trans grown (keeps_grows _) fun _ _ grown => ?_
  refine Keeps.step Grows.trans grown (keeps_grows _) fun _ _ grown => ?_
  refine Keeps.step Grows.trans grown (keeps_grows _) fun _ _ grown => ?_
  refine Keeps.step Grows.trans grown (keeps_grows _) fun _ _ grown => ?_
  refine Keeps.step Grows.trans grown (keeps_grows _) fun _ last grown => ?_
  refine ensures_usbcWriteb.mpr ?_
  rw [if_pos rfl]
  have longer : state.bus.flushed ++ [(.tx, 1)] <+: last.bus.flushed := flushed ▸ grown.1
  refine ⟨⟨(List.prefix_append _ _).trans longer, grown.2, fun undisturbed => ?_⟩, rfl⟩
  have same : last.bus.flushed = state.bus.flushed := undisturbed.1
  have tooLong := longer.length_le
  rw [same, List.length_append, List.length_singleton] at tooLong
  omega

theorem elsewhere_sunxiUdcSetAddress (address : U8) :
    CarefulElsewhere (sunxiUdcSetAddress address) := by
  unfold sunxiUdcSetAddress usbcDevSetAddress usbcDevQueryTransferMode
  refine .bind (Careful.writeb (by decide) (by decide)).elsewhere fun _ => ?_
  refine (Careful.testBitB _ _).elsewhere.bind fun _ => .ite ?_ ?_
  · exact Careful.elsewhere (.storeFn (fun _ => rfl) fun _ => rfl)
  · exact Careful.elsewhere (.storeFn (fun _ => rfl) fun _ => rfl)

theorem careful_forwardSetup : Careful forwardSetup :=
  Careful.loadFn.bind fun _ => .queueMessage (by decide)

theorem elsewhere_usbGetDescriptor (polls : Nat) (request : UsbDeviceRequest) :
    CarefulElsewhere (usbGetDescriptor polls request) := by
  unfold usbGetDescriptor
  refine Careful.loadFn.elsewhere.bind fun fn => .ite ?_ (.ite ?_ (.ite ?_ (.pure _)))
  · exact (elsewhere_sunxiUdcSendSetup _ _ _).bind fun _ => .pure _
  · exact (elsewhere_sunxiUdcSendSetup _ _ _).bind fun _ => .pure _
  · exact careful_forwardSetup.elsewhere.bind fun _ => .pure _

theorem elsewhere_usbGetStatus (polls : Nat) (request : UsbDeviceRequest) :
    CarefulElsewhere (usbGetStatus polls request) := by
  unfold usbGetStatus
  refine .ite ?_ (.bind (Careful.elsewhere (.storeFn (fun _ => rfl) fun _ => rfl)) fun _ => ?_)
  · exact (elsewhere_sunxiUdcSendSetup _ _ _).bind fun _ => .pure _
  · refine Careful.loadFn.elsewhere.bind fun fn => ?_
    exact (elsewhere_sunxiUdcSendSetup _ _ _).bind fun _ => .pure _

/-- A request for configuration 1, or for interface 0 -/
theorem elsewhere_reset {condition : Prop} [Decidable condition] :
    CarefulElsewhere (do
      if condition then
        usbBulkEpReset
        return sunxiUsbReqSuccessed
      return sunxiUsbReqOpErr) :=
  .ite (careful_usbBulkEpReset.elsewhere.bind fun _ => .pure _) (.pure _)

theorem elsewhere_standardRequest (polls : Nat) (request : UsbDeviceRequest) :
    CarefulElsewhere (standardRequest polls request) := by
  unfold standardRequest
  refine .ite (.ite ?status (.pure _)) (.ite (.ite ?address (.pure _)) (.ite (.ite ?descriptor (.pure _))
    (.ite (.ite ?configuration (.pure _)) (.ite (.ite ?interface (.pure _))
      (.ite (.ite ?synch (.pure _)) (.ite (.pure _) ?unknown))))))
  case status => exact elsewhere_usbGetStatus polls request
  case address => exact (elsewhere_sunxiUdcSetAddress _).bind fun _ => .pure _
  case descriptor => exact elsewhere_usbGetDescriptor polls request
  case configuration => exact elsewhere_reset
  case interface => exact elsewhere_reset
  case synch =>
    exact .bind (Careful.elsewhere (.storeFn (fun _ => rfl) fun _ => rfl)) fun _ => .pure _
  case unknown =>
    refine .bind (.setBitW _ _) fun _ => ?_
    exact .bind (Careful.elsewhere (.storeFn (fun _ => rfl) fun _ => rfl)) fun _ => .pure _

/-! ### The parts of the handler -/

theorem careful_keepEp0Data (stage : U32) (bytes : List U8) :
    Careful (storeFn (keepEp0Data stage bytes)) := by
  refine .storeFn (fun fn => ?_) fun fn => ?_
  · unfold keepEp0Data
    split <;> rfl
  · unfold keepEp0Data
    split <;> rfl

theorem elsewhere_usbReadEp0Data (stage dataType : U32) (buffer : Ulong) :
    CarefulElsewhere (usbReadEp0Data (keepEp0Data stage) buffer dataType) := by
  intro state
  unfold usbReadEp0Data usbcReadLenFromFifo
  refine ensures_usbcGetActiveEp ?_
  have counts : CarefulElsewhere (do
      let count ← usbcReadw usbcRegORxcount
      return count.setWidth 32) := (Careful.readw _).elsewhere.bind fun _ => .pure _
  refine (counts state).bind fun count counted stays => ?_
  split
  · exact stays
  refine Keeps.step StaysElsewhere.trans stays (Careful.readPacket _ _ _).elsewhere
    fun bytes _ stays => ?_
  refine Keeps.step StaysElsewhere.trans stays (careful_keepEp0Data stage bytes).elsewhere
    fun _ _ stays => ?_
  refine Keeps.step StaysElsewhere.trans stays (elsewhere_usbReadcomplete .ep0)
    fun _ _ stays => ?_
  exact ensures_usbcSelectActiveEp fun elsewhere => (stays elsewhere).reselect

theorem careful_ep0RecvOp (polls : Nat) : Careful (ep0RecvOp polls) := by
  have requests : CarefulElsewhere (ep0Request polls) := by
    unfold ep0Request
    refine Careful.loadFn.elsewhere.bind fun fn => .ite (elsewhere_standardRequest polls _) ?_
    exact careful_forwardSetup.elsewhere.bind fun _ => .pure _
  have receives : CarefulElsewhere (ep0Receive polls) := by
    unfold ep0Receive usbcDevIsEpStall usbcDevEpClearStall usbcDevCtrlIsSetupEnd
      usbcDevCtrlClearSetupEnd usbcDevIsReadDataReady
    dsimp only
    have reads : CarefulElsewhere (do
        if ← usbcRegTestBitW 0 usbcRegOTxcsr then
          let fn ← loadFn
          if ← usbReadEp0Data (keepEp0Data fn.ep0Stage) fn.ep0DataBuffer fn.ep0Stage then
            return ← ep0Request polls
          return -1
        return 0) := by
      refine (Careful.testBitW _ _).elsewhere.bind fun _ => .ite ?_ (.pure _)
      refine Careful.loadFn.elsewhere.bind fun fn => ?_
      exact (elsewhere_usbReadEp0Data _ _ _).bind fun _ => .ite requests (.pure _)
    refine CarefulElsewhere.bind ((Careful.testBitW _ _).elsewhere.bind fun _ => .pure _) fun _ => ?_
    refine .ite ?_ ((Careful.testBitW _ _).elsewhere.bind fun _ => .ite ?_ reads)
    · refine CarefulElsewhere.bind ((CarefulElsewhere.clearBitW _ _).bind fun _ =>
        .clearBitW _ _) fun _ => .pure _
    · exact (CarefulElsewhere.setBitW _ _).bind fun _ => reads
  unfold ep0RecvOp
  refine Careful.loadFn.bind fun fn => ?_
  have restores : Careful (do
      let oldEpIndex ← usbcGetActiveEp
      usbcSelectActiveEp 0
      let ret ← ep0Receive polls
      usbcSelectActiveEp oldEpIndex
      return ret) := careful_restored (by decide) receives fun ret => .pure ret
  dsimp only
  split
  · exact .bind (.storeFn (fun _ => rfl) fun _ => rfl) fun _ => restores
  · exact restores

/-- What is left of the packets of the endpoint that receives is read, and put somewhere. -/
theorem elsewhere_receive {Result : Type} {count : Nat} {buff : Ulong} {change : List U8 → UsbFn → UsbFn}
    (length : ∀ bytes fn, (change bytes fn).txReqLength = fn.txReqLength)
    (finish : ∀ bytes fn, (change bytes fn).txPackageSendFinish = fn.txPackageSendFinish)
    {next : UsbCode Result} (rest : CarefulElsewhere next) :
    CarefulElsewhere (do
      let bytes ← usbcReadPacket (usbcRegOEpfifo 2) count buff
      storeFn (change bytes)
      usbReadcomplete .rx
      next) := by
  refine (Careful.readPacket _ _ _).elsewhere.bind fun bytes => ?_
  refine CarefulElsewhere.bind (Careful.elsewhere (.storeFn (length bytes) (finish bytes))) fun _ => ?_
  exact (elsewhere_usbReadcomplete .rx).bind fun _ => rest

theorem careful_eprxRecvOp : Careful eprxRecvOp := by
  refine careful_restored (by decide) ?_ fun readLen => .pure readLen
  unfold eprxReceive usbcDevIsEpStall usbcDevEpClearStall usbcDevIsReadDataReady usbcReadLenFromFifo
  refine CarefulElsewhere.bind ((Careful.testBitW _ _).elsewhere.bind fun _ => .pure _) fun _ => ?_
  refine .ite ?stalled ((Careful.testBitW _ _).elsewhere.bind fun _ => .ite ?ready (.pure _))
  case stalled =>
    exact .bind ((CarefulElsewhere.clearBitW _ _).bind fun _ => .clearBitW _ _) fun _ => .pure _
  refine CarefulElsewhere.bind ((Careful.readw _).elsewhere.bind fun _ => .pure _) fun thisLen => ?_
  refine Careful.loadFn.elsewhere.bind fun fn => .ite ?_ (.ite ?_ (.pure _))
  · refine elsewhere_receive ?_ ?_ (.pure _)
    · exact fun _ _ => rfl
    · exact fun _ _ => rfl
  · refine .bind (Careful.elsewhere (.storeFn (fun _ => rfl) fun _ => rfl)) fun _ => ?_
    refine elsewhere_receive ?_ ?_ (Careful.loadFn.elsewhere.bind fun _ => .pure _)
    · exact fun _ _ => rfl
    · exact fun _ _ => rfl

theorem careful_usbRecvByDmaIsr : Careful usbRecvByDmaIsr := by
  refine careful_restored (by decide) ?_ fun _ => .pure _
  have completes : CarefulElsewhere (usbcDevReadDataComplete .rx) :=
    (Careful.readw _).elsewhere.bind fun _ => .writew _ _
  have clears : Careful usbcDevClearEpDma := by
    refine (Careful.readb _).bind fun _ => (Careful.writeb (by decide) (by decide)).bind fun _ => ?_
    exact (Careful.readl _).bind fun _ => .writel (by decide)
  unfold usbRecvByDma usbcReadLenFromFifo
  dsimp only
  refine clears.elsewhere.bind fun _ => Careful.loadFn.elsewhere.bind fun fn => ?_
  refine .ite ?_ (.ite completes (.pure _))
  refine CarefulElsewhere.bind ((Careful.readw _).elsewhere.bind fun _ => .pure _) fun thisLen => ?_
  refine elsewhere_receive ?_ ?_ ?_
  · exact fun _ _ => rfl
  · exact fun _ _ => rfl
  · refine .bind (Careful.elsewhere (.storeFn (fun _ => rfl) fun _ => rfl)) fun _ => ?_
    exact .ite completes (.pure _)

/-- The flag is cleared and the report is queued: it was due before. -/
theorem careful_usbTxInterrupt (txIrq : U16) : Careful (usbTxInterrupt txIrq) := by
  have reports : Careful (do
      if (← loadFn).txPackageSendFinish ≠ 0 then
        storeFn fun fn => { fn with txPackageSendFinish := 0 }
        let fn ← loadFn
        queueMessage .endpointStatusChangedTx 1 .deviceTx 0 (fn.txReqLength.setWidth 64)
          fun _ => 0) := by
    intro state
    rw [ensures_bind]
    refine ensures_loadFn.mpr ?_
    by_cases due : state.fn.txPackageSendFinish ≠ 0
    · rw [if_pos due, ensures_bind]
      refine ensures_storeFn.mpr ?_
      rw [ensures_bind]
      refine ensures_loadFn.mpr ?_
      refine ensures_queueMessage ?_
      refine ⟨⟨List.prefix_rfl, List.prefix_append _ _, fun _ => ?_⟩, rfl⟩
      refine ⟨rfl, rfl, id, id, rfl, fun _ => rfl, ?_⟩
      unfold UsbState.completions
      rw [if_neg due]
      simp [UsbPost.event, UsbPost.IsControl, sentEvent]
    · rw [if_neg due]
      exact .refl state
  unfold usbTxInterrupt usbcIntClearEpPending
  exact .ite ((Careful.writew (by decide)).bind fun _ => reports) (.pure _)

/-! ### The handler -/

theorem careful_usbBusEvent (miscIrq : U8) (bit : Nat) {message : EfiUsbfnMessage}
    (other : message ≠ .endpointStatusChangedTx) : Careful (usbBusEvent miscIrq bit message) := by
  unfold usbBusEvent usbcIntClearMiscPending queueBusEvent
  exact .ite ((Careful.writeb (by decide) (by decide)).bind fun _ => .queueMessage other) (.pure _)

theorem careful_usbStartOfFrame (miscIrq : U8) : Careful (usbStartOfFrame miscIrq) := by
  have disables : Careful (usbcIntDisableUsbMiscUint (BitVec.twoPow 8 3)) :=
    (Careful.readb _).bind fun _ => .writeb (by decide) (by decide)
  unfold usbStartOfFrame usbcIntClearMiscPending
  refine .ite (.bind (.storeFn (fun _ => rfl) fun _ => rfl) fun _ => ?_) (.pure _)
  exact disables.bind fun _ => .writeb (by decide) (by decide)

theorem careful_usbControlInterrupt (polls : Nat) (txIrq : U16) :
    Careful (usbControlInterrupt polls txIrq) := by
  unfold usbControlInterrupt usbcIntClearEpPending
  refine .ite ((Careful.writew (by decide)).bind fun _ => ?_) (.pure _)
  exact (careful_ep0RecvOp polls).bind fun _ => .pure _

theorem careful_usbRxInterrupt (rxIrq : U16) : Careful (usbRxInterrupt rxIrq) := by
  unfold usbRxInterrupt usbcIntClearEpPending
  refine .ite ((Careful.writew (by decide)).bind fun _ => ?_) (.pure _)
  refine careful_eprxRecvOp.bind fun _ => .ite ?_ (.pure _)
  exact Careful.loadFn.bind fun _ => .queueMessage (by decide)

theorem careful_usbDmaInterrupt (dmaIrq : U32) : Careful (usbDmaInterrupt dmaIrq) := by
  unfold usbDmaInterrupt
  refine .ite (careful_usbRecvByDmaIsr.bind fun _ => ?_) (.pure _)
  exact Careful.loadFn.bind fun _ => .queueMessage (by decide)

/-- A bus reset is queued. -/
theorem ensures_usbBusReset (state : UsbState) :
    Ensures usbMay (fun _ after => Grows state after ∧ state.resets < after.resets)
      (fun _ => True) usbBusReset state := by
  unfold usbBusReset
  refine (keeps_grows usbResetController state).bind fun _ middle grown => ?_
  refine ensures_queueMessage ?_
  refine ⟨⟨grown.1, grown.2.trans (List.prefix_append _ _)⟩, ?_⟩
  have before := resets_mono grown.2
  unfold UsbState.resets at before ⊢
  simp only [List.filter_append, List.length_append, UsbPost.event]
  simp
  omega

/-- Unless the bus or an endpoint is reset, an interrupt leaves the endpoint that sends alone and puts
back the one that was selected. -/
theorem ensures_sunxiUsbIrq (polls : Nat) (state : UsbState) :
    Ensures usbMay
      (fun _ after => Passes state after ∧
        (Undisturbed state after → after.bus.index = state.bus.index))
      (fun _ => True) (sunxiUsbIrq polls) state := by
  unfold sunxiUsbIrq usbcIntMiscPending usbcIntEpPending usbDmaIntQuery
  refine ensures_usbcGetActiveEp ?_
  refine Keeps.step Stays.trans (.refl state) (Careful.readb _) fun miscIrq _ stays => ?_
  refine Keeps.step Stays.trans stays (Careful.readw _) fun txIrq _ stays => ?_
  refine Keeps.step Stays.trans stays (Careful.readw _) fun rxIrq _ stays => ?_
  refine Keeps.step Stays.trans stays (Careful.readl _) fun dmaIrq entered stays => ?_
  split
  · refine (ensures_usbBusReset entered).mono (fun _ after ⟨grown, more⟩ => ?_) fun _ gave => gave
    have before := resets_mono stays.1.posted
    have disturbed : ¬Undisturbed state after := by
      rintro ⟨_, same⟩
      omega
    exact ⟨⟨stays.1.flushed.trans grown.1, stays.1.posted.trans grown.2, fun undisturbed =>
      absurd undisturbed disturbed⟩, fun undisturbed => absurd undisturbed disturbed⟩
  refine Keeps.step Stays.trans stays (careful_usbBusEvent _ _ (by decide)) fun _ _ stays => ?_
  refine Keeps.step Stays.trans stays (careful_usbBusEvent _ _ (by decide))
    fun _ reported stays => ?_
  split
  · refine (careful_usbBusEvent _ _ (by decide) reported).mono (fun _ after detached => ?_)
      fun _ gave => gave
    have stays := Stays.trans _ _ _ stays detached
    exact ⟨stays.1, fun _ => stays.2⟩
  refine Keeps.step Stays.trans stays (careful_usbStartOfFrame _) fun _ _ stays => ?_
  refine Keeps.step Stays.trans stays (careful_usbControlInterrupt _ _) fun _ _ stays => ?_
  refine Keeps.step Stays.trans stays (careful_usbTxInterrupt _) fun _ _ stays => ?_
  refine Keeps.step Stays.trans stays (careful_usbRxInterrupt _) fun _ _ stays => ?_
  refine Keeps.step Stays.trans stays (careful_usbDmaInterrupt _) fun _ _ stays => ?_
  refine Keeps.step Stays.trans stays (Careful.writel (by decide)) fun _ _ stays => ?_
  refine ensures_usbcWriteb.mpr ?_
  rw [if_pos rfl]
  exact ⟨stays.reselect.1, fun _ => rfl⟩

/-! ### A buffer is sent while interrupts come -/

/-- An interrupt came and went that reset neither the bus nor an endpoint and left the speed alone. -/
structure QuietInterrupt (polls : Nat) (before after : UsbState) : Prop where
  handled : Program.Outcome usbMay (sunxiUsbIrq polls).run before (some ()) after
  undisturbed : Undisturbed before after
  fifoSize : after.fn.fifoSize = before.fn.fifoSize

/-- Any number of them came one after the other. -/
abbrev QuietInterrupts (polls : Nat) : UsbState → UsbState → Prop :=
  Relation.ReflTransGen (QuietInterrupt polls)

theorem QuietInterrupt.kept {polls : Nat} {before after : UsbState}
    (quiet : QuietInterrupt polls before after) : Kept before after := by
  have handled := (ensures_sunxiUsbIrq polls before).outcome quiet.handled
  have leaves := handled.1.leaves quiet.undisturbed
  exact { leaves with
    index := handled.2 quiet.undisturbed
    fifoSize := quiet.fifoSize }

theorem kept_of_quietInterrupts {polls : Nat} {before after : UsbState}
    (quiet : QuietInterrupts polls before after) : Kept before after := by
  induction quiet with
  | refl => exact { Leaves.refl before with index := rfl, fifoSize := rfl }
  | tail _ one inductionHypothesis =>
    exact { inductionHypothesis.toLeaves.trans one.kept.toLeaves with
      index := one.kept.index.trans inductionHypothesis.index
      fifoSize := one.kept.fifoSize.trans inductionHypothesis.fifoSize }

/-- The packets of the bytes were handed over and taken, which was or will be reported once, and the
endpoint is as it was. -/
structure SentWhole (length : U32) (bytes : List U8) (before after : UsbState) : Prop where
  packets : ∃ packets, Cut before.fn.fifoSize.toNat bytes packets ∧
    after.bus.packets 1 = before.bus.packets 1 ++ packets
  completions : after.completions =
    before.completions ++ if length = 0 then [] else [sentEvent length]
  index : after.bus.index = before.bus.index
  idle : after.bus.filled 1 = [] ∧ after.bus.inFlight 1 = false

/-- The driver waits for the host to take a packet; what was handed over are the packets of the bytes
up to there, and it is reported with the last one. -/
structure SentInPart (length : U32) (bytes : List U8) (before after : UsbState) : Prop where
  packets : ∃ sent rest packets, bytes = sent ++ rest ∧ sent ≠ [] ∧
    Cut before.fn.fifoSize.toNat sent packets ∧
    after.bus.packets 1 = before.bus.packets 1 ++ packets ∧
    after.completions = before.completions ++ if rest = [] then [sentEvent length] else []
  index : after.bus.index = 1

/-- Whenever interrupts come while a buffer is sent, and however the controller answers: the packets are
the bytes in order, all full but the last. -/
theorem sunxiEpXSendData_whole (polls handlerPolls : Nat) (bufferSize address : Ulong)
    (buffer : Buffer) (state : UsbState) (ready : Ready state) (notNull : address ≠ 0)
    (fits : address.toNat + bufferSize.toNat % 2 ^ 32 ≤ 2 ^ 64) :
    Ensures (Interrupted (QuietInterrupts handlerPolls) usbMay)
      (fun _ after => SentWhole (bufferSize.setWidth 32)
        (bytesAt buffer 0 (bufferSize.toNat % 2 ^ 32)) state after)
      (SentInPart (bufferSize.setWidth 32) (bytesAt buffer 0 (bufferSize.toNat % 2 ^ 32)) state)
      (sunxiEpXSendData polls bufferSize address buffer) state := by
  have isSize : (bufferSize.setWidth 32).toNat = bufferSize.toNat % 2 ^ 32 := BitVec.toNat_setWidth _ _
  rw [← isSize] at fits ⊢
  have sends := @ensures_sunxiUdcSendData polls address buffer (bufferSize.setWidth 32) state ready
    notNull fits
  have among : ∀ request before reply after,
      Interrupted (QuietInterrupts handlerPolls) usbMay request before reply after →
        Interrupted Kept usbMay request before reply after :=
    fun _ _ _ _ ⟨middle, quiet, may⟩ => ⟨middle, kept_of_quietInterrupts quiet, may⟩
  refine (sends.of_may among).mono ?_ ?_
  · rintro _ after ⟨packets, cut, sending⟩
    exact {
      packets := ⟨packets, cut, sending.packets⟩
      completions := sending.completions
      index := sending.index
      idle := ⟨sending.filled, sending.inFlight rfl⟩ }
  · rintro after ⟨sent, rest, packets, isBytes, some, cut, sending⟩
    exact {
      packets := ⟨sent, rest, packets, isBytes, some, cut, sending.packets, sending.completions⟩
      index := sending.index }

/-- Six hundred bytes are two packets, of 512 and of 88 bytes. -/
theorem sunxiEpXSendData_whole_twoPackets :
    Ensures (Interrupted (QuietInterrupts 1) usbMay)
      (fun _ after => SentWhole 600 (bytesAt (BitVec.ofNat 8) 0 600)
        (.initial 0x1000 0x2000 0x3000) after)
      (SentInPart 600 (bytesAt (BitVec.ofNat 8) 0 600) (.initial 0x1000 0x2000 0x3000))
      (sunxiEpXSendData 4 600 0x4000 (BitVec.ofNat 8)) (.initial 0x1000 0x2000 0x3000) := by
  have ready : Ready (.initial 0x1000 0x2000 0x3000) := ⟨rfl, rfl, rfl, rfl, by decide⟩
  exact sunxiEpXSendData_whole 4 1 600 0x4000 (BitVec.ofNat 8) _ ready (by decide) (by decide)

end PinePhonePkg
