/-
This file proves what becomes of a buffer that is sent while interrupts come at any time.
An interrupt that leaves the sending endpoint alone may fall between any two accesses of
the driver. The packets are the bytes of the buffer in order, all of them full but the
last, and it is reported once that the buffer was sent.
-/

import PinePhonePkg.Usb.Packets

namespace PinePhonePkg

open Library Trial

/-! ### What is reported -/

/-- What the application is told when so many bytes were sent -/
def sentEvent (length : U32) : UsbEvent where
  message := .endpointStatusChangedTx
  payload := .result {
    bytesTransferred := length.setWidth 64
    transferStatus := .complete
    endpointIndex := 1
    direction := .deviceTx
    buffer := 0 }

/-- The reports of buffers that were sent: those that were queued, and the one that the next interrupt
will queue. -/
def UsbState.completions (state : UsbState) : List UsbEvent :=
  (state.posted.filter fun event => event.message = .endpointStatusChangedTx) ++
    if state.fn.txPackageSendFinish = 0 then [] else [sentEvent state.fn.txReqLength]

/-! ### What is left alone -/

/-- What is left alone of the endpoint that sends -/
structure Leaves (before after : UsbState) : Prop where
  filled : after.bus.filled 1 = before.bus.filled 1
  packets : after.bus.packets 1 = before.bus.packets 1
  inFlight : before.bus.inFlight 1 = false → after.bus.inFlight 1 = false
  stalling : before.bus.stalling 1 = false → after.bus.stalling 1 = false
  txReqLength : after.fn.txReqLength = before.fn.txReqLength
  finish : before.fn.txPackageSendFinish = 0 → after.fn.txPackageSendFinish = 0
  completions : after.completions = before.completions

namespace Leaves

theorem refl (state : UsbState) : Leaves state state :=
  ⟨rfl, rfl, id, id, rfl, id, rfl⟩

variable {before middle after : UsbState}

theorem trans (first : Leaves before middle) (second : Leaves middle after) :
    Leaves before after where
  filled := second.filled.trans first.filled
  packets := second.packets.trans first.packets
  inFlight idle := second.inFlight (first.inFlight idle)
  stalling clear := second.stalling (first.stalling clear)
  txReqLength := second.txReqLength.trans first.txReqLength
  finish clear := second.finish (first.finish clear)
  completions := second.completions.trans first.completions

end Leaves

/-- What an interrupt keeps of the endpoint that sends -/
structure Kept (before after : UsbState) : Prop extends Leaves before after where
  index : after.bus.index = before.bus.index
  fifoSize : after.fn.fifoSize = before.fn.fifoSize

/-- The controller, and interrupts between the accesses -/
abbrev Disturbed : (request : UsbRequest) → UsbState → request.Reply → UsbState → Prop :=
  Interrupted Kept usbMay

/-! ### How far a buffer was sent -/

/-- What the endpoint has got of a buffer -/
structure Progress : Type where
  filled : List U8
  packets : List (List U8)
  completions : List UsbEvent
  busy : Bool
  finished : Bool

/-- Before a packet -/
def Progress.between (packets : List (List U8)) (completions : List UsbEvent)
    (finished : Bool) : Progress :=
  ⟨[], packets, completions, false, finished⟩

/-- One more packet was handed over, and is taken or not; the last one is reported. -/
def Progress.next (length : U32) (packets : List (List U8)) (completions : List UsbEvent)
    (packet : List U8) (last busy : Bool) : Progress where
  filled := []
  packets := packets ++ [packet]
  completions := completions ++ if last then [sentEvent length] else []
  busy := busy
  finished := last

/-- The driver is at this point with a buffer of the length; the endpoint is selected. -/
structure Sending (index : U8) (length fifoSize : U32) (progress : Progress) (state : UsbState) :
    Prop where
  index : state.bus.index = index
  filled : state.bus.filled 1 = progress.filled
  packets : state.bus.packets 1 = progress.packets
  inFlight : progress.busy = false → state.bus.inFlight 1 = false
  stalling : state.bus.stalling 1 = false
  fifoSize : state.fn.fifoSize = fifoSize
  txReqLength : state.fn.txReqLength = length
  finish : progress.finished = false → state.fn.txPackageSendFinish = 0
  completions : state.completions = progress.completions

namespace Sending

variable {index : U8} {length fifoSize : U32} {progress : Progress} {state : UsbState}
  {stuck : UsbState → Prop}

theorem kept {after : UsbState} (sending : Sending index length fifoSize progress state)
    (keeps : Kept state after) : Sending index length fifoSize progress after where
  index := keeps.index.trans sending.index
  filled := keeps.filled.trans sending.filled
  packets := keeps.packets.trans sending.packets
  inFlight idle := keeps.inFlight (sending.inFlight idle)
  stalling := keeps.stalling sending.stalling
  fifoSize := keeps.fifoSize.trans sending.fifoSize
  txReqLength := keeps.txReqLength.trans sending.txReqLength
  finish unfinished := keeps.finish (sending.finish unfinished)
  completions := keeps.completions.trans sending.completions

/-- One access, whenever it is interrupted -/
theorem request (sending : Sending index length fifoSize progress state) {request : UsbRequest}
    {post : request.Reply → UsbState → Prop}
    (step : ∀ middle, Sending index length fifoSize progress middle →
      Ensures usbMay post stuck
        (Trial.send request : UsbCode request.Reply) middle) :
    Ensures Disturbed post stuck
      (Trial.send request : UsbCode request.Reply) state :=
  (ensures_interrupted_send _ _ _).mpr fun middle keeps => step middle (sending.kept keeps)

variable (sending : Sending index length fifoSize progress state)
include sending

/-- Bytes are written to the FIFO. -/
theorem fill (bytes : List U8) :
    Sending index length fifoSize { progress with filled := progress.filled ++ bytes }
      { state with bus := state.bus.fill (usbcRegOEpfifo 1) bytes } := by
  refine { sending with filled := ?_ }
  change Function.update state.bus.filled 1 (state.bus.filled 1 ++ bytes) 1 = _
  rw [Function.update_self, sending.filled]

theorem load :
    Ensures Disturbed
      (fun fn after => fn.fifoSize = fifoSize ∧ Sending index length fifoSize progress after)
      stuck loadFn state := by
  refine sending.request fun middle here => ?_
  exact ensures_loadFn.mpr ⟨here.fifoSize, here⟩

theorem writeb (value : U8) :
    Ensures Disturbed
      (fun _ after =>
        Sending index length fifoSize { progress with filled := progress.filled ++ [value] } after)
      stuck (usbcWriteb value (usbcRegOEpfifo 1)) state := by
  refine sending.request fun middle here => ?_
  exact ensures_usbcWriteb.mpr (here.fill [value])

theorem writel (value : U32) :
    Ensures Disturbed
      (fun _ after =>
        Sending index length fifoSize
          { progress with filled := progress.filled ++ wordBytes value } after)
      stuck (usbcWritel value (usbcRegOEpfifo 1)) state := by
  refine sending.request fun middle here => ?_
  exact ensures_usbcWritel.mpr (here.fill (wordBytes value))

/-- The host may have taken the packet. -/
theorem settle (taken seen : Bool) :
    Sending index length fifoSize progress { state with bus := state.bus.settle taken seen } := by
  have settles := Settles.settle state.bus taken seen
  exact { sending with
    inFlight := fun idle => settles.inFlight_eq_false (sending.inFlight idle)
    stalling := settles.stalling_eq_false sending.stalling }

/-- What is in the FIFO is handed over, in whichever way the register is written. -/
theorem writeCsr {value : U16} (isOne : index = 1) (idle : progress.busy = false)
    (ready : value.getLsbD 0 = true) (noStall : value.getLsbD 4 = false)
    (noFlush : value.getLsbD 3 = false) :
    Sending index length fifoSize
      { progress with
        filled := []
        packets := progress.packets ++ [progress.filled]
        busy := true }
      { state with bus := state.bus.writeCsr value } := by
  have notControl : ¬state.bus.index = 0 := by
    rw [sending.index, isOne]
    decide
  have selects : state.bus.selected = 1 := by
    rw [UsbBus.selected, sending.index, isOne]
    rfl
  have taken : state.bus.inFlight state.bus.selected = false := by
    rw [selects]
    exact sending.inFlight idle
  have sends : state.bus.writeCsr value = state.bus.send := by
    have flushBit : state.bus.flushBit = 3 := if_neg notControl
    have stallBit : state.bus.stallBit = 4 := if_neg notControl
    have readyBit : state.bus.readyBit = 0 := if_neg notControl
    have noFlushes : state.bus.writeFlush value = state.bus := by
      rw [UsbBus.writeFlush, flushBit, noFlush, if_neg Bool.false_ne_true]
    have noStalls : state.bus.writeStall value = state.bus := by
      rw [UsbBus.writeStall, stallBit, noStall, if_neg fun both => Bool.false_ne_true both.1]
    rw [UsbBus.writeCsr, noFlushes, noStalls, UsbBus.writeReady, readyBit, ready, taken,
      if_pos ⟨rfl, Bool.false_ne_true⟩]
  rw [sends]
  exact { sending with
    filled := by
      change Function.update state.bus.filled state.bus.selected [] 1 = []
      rw [selects, Function.update_self]
    packets := by
      unfold UsbBus.packets UsbBus.send
      rw [selects, List.filter_append, List.map_append, ← sending.packets, ← sending.filled]
      simp [UsbBus.packets]
    inFlight := fun busy => Bool.noConfusion busy }

/-- The register is read: the bit that hands packets over shows the one in flight. -/
theorem readw (isOne : index = 1) :
    Ensures Disturbed
      (fun value after => Sending index length fifoSize progress after ∧ value.getLsbD 4 = false ∧
        value.getLsbD 3 = false ∧ (value.getLsbD 0 = false → after.bus.inFlight 1 = false))
      stuck (usbcReadw usbcRegOTxcsr) state := by
  refine sending.request fun middle here => ?_
  refine ensures_usbcReadw_csr.mpr fun value taken seen shows => ?_
  have settled := here.settle taken seen
  have notControl : ¬(middle.bus.settle taken seen).index = 0 := by
    rw [settled.index, isOne]
    decide
  have selects : (middle.bus.settle taken seen).selected = 1 := by
    rw [UsbBus.selected, settled.index, isOne]
    rfl
  obtain ⟨ready, stall, flush⟩ := shows
  unfold UsbBus.readyBit at ready
  unfold UsbBus.stallBit at stall
  unfold UsbBus.flushBit at flush
  rw [if_neg notControl, selects] at ready stall
  rw [if_neg notControl] at flush
  exact ⟨settled, stall.trans settled.stalling, flush, fun clear => ready.symm.trans clear⟩

/-- What is in the FIFO is handed over. -/
theorem handOver (isOne : index = 1) (idle : progress.busy = false) :
    Ensures Disturbed
      (fun _ after => Sending index length fifoSize
        { progress with
          filled := []
          packets := progress.packets ++ [progress.filled]
          busy := true } after)
      stuck (usbcDevWriteDataComplete .tx) state := by
  unfold usbcDevWriteDataComplete
  refine (sending.readw isOne).bind fun value after ⟨shown, noStall, noFlush, _⟩ => ?_
  refine shown.request fun middle here => ?_
  refine ensures_usbcWritew.mpr ?_
  rw [if_pos rfl]
  refine here.writeCsr isOne idle ?_ ?_ ?_
  · simp
  · rw [BitVec.getLsbD_and, BitVec.getLsbD_or, noStall]
    simp
  · rw [BitVec.getLsbD_and, BitVec.getLsbD_or, noFlush]
    simp

/-- The driver waits until the packet is taken. -/
theorem wait (isOne : index = 1) (polls : Nat) :
    Ensures Disturbed
      (fun _ after => Sending index length fifoSize { progress with busy := false } after)
      (Sending index length fifoSize progress) (usbWaitSent .tx polls) state := by
  induction polls generalizing state with
  | zero => exact sending
  | succ polls inductionHypothesis =>
    unfold usbWaitSent usbcDevIsWriteDataReady
    rw [ensures_bind, ensures_bind]
    refine (sending.readw isOne).mono (fun value after ⟨shown, _, _, taken⟩ => ?_) fun _ gave => gave
    rw [ensures_pure]
    split
    · exact inductionHypothesis shown
    · rename_i clear
      have notReady : value.getLsbD 0 = false := by
        cases set : value.getLsbD 0
        · rfl
        · rw [set] at clear
          exact absurd rfl clear
      exact { shown with inFlight := fun _ => taken notReady }

/-- The flag for the interrupt handler is set. -/
theorem finishes (unfinished : progress.finished = false) :
    Ensures Disturbed
      (fun _ after => Sending index length fifoSize
        { progress with
          completions := progress.completions ++ [sentEvent length]
          finished := true } after)
      stuck (storeFn fun fn => { fn with txPackageSendFinish := 1 }) state := by
  refine sending.request fun middle here => ?_
  refine ensures_storeFn.mpr ?_
  have posted := here.completions
  unfold UsbState.completions at posted
  rw [if_pos (here.finish unfinished), List.append_nil] at posted
  exact { here with
    finish := fun finished => Bool.noConfusion finished
    completions := by
      unfold UsbState.completions
      rw [posted, here.txReqLength]
      rfl }

/-- Variables are set while no report is due. -/
theorem store (newLength : U32) {change : UsbFn → UsbFn} (unfinished : progress.finished = false)
    (sameSize : ∀ fn, (change fn).fifoSize = fn.fifoSize)
    (becomes : ∀ fn, fn.txReqLength = length → (change fn).txReqLength = newLength)
    (clear : ∀ fn, fn.txPackageSendFinish = 0 → (change fn).txPackageSendFinish = 0) :
    Ensures Disturbed
      (fun _ after => Sending index newLength fifoSize progress after) stuck
      (storeFn change) state := by
  refine sending.request fun middle here => ?_
  refine ensures_storeFn.mpr ?_
  have finish := here.finish unfinished
  have posted := here.completions
  unfold UsbState.completions at posted
  rw [if_pos finish] at posted
  exact { here with
    fifoSize := (sameSize middle.fn).trans here.fifoSize
    txReqLength := becomes middle.fn here.txReqLength
    finish := fun _ => clear middle.fn finish
    completions := by
      unfold UsbState.completions
      rw [if_pos (clear middle.fn finish)]
      exact posted }

theorem active :
    Ensures Disturbed
      (fun reply after => reply = index ∧ Sending index length fifoSize progress after) stuck
      usbcGetActiveEp state := by
  refine sending.request fun middle here => ?_
  exact ensures_usbcReadb.mpr fun reply shows => ⟨(shows rfl).trans here.index, here⟩

theorem select (newIndex : U8) :
    Ensures Disturbed
      (fun _ after => Sending newIndex length fifoSize progress after) stuck
      (usbcSelectActiveEp newIndex) state := by
  refine sending.request fun middle here => ?_
  exact ensures_usbcWriteb.mpr { here with index := rfl }

end Sending

/-! ### The packets of a buffer -/

/-- Bytes are cut into packets: all of them are full but the last one, and that is not empty. -/
inductive Cut (size : Nat) : List U8 → List (List U8) → Prop
  | nil : Cut size [] []
  | last (packet : List U8) (some : packet ≠ []) (fits : packet.length ≤ size) :
      Cut size packet [packet]
  | full (packet rest : List U8) (packets : List (List U8)) (full : packet.length = size)
      (more : rest ≠ []) (cut : Cut size rest packets) :
      Cut size (packet ++ rest) (packet :: packets)

section Loop

variable {length fifoSize : U32} {address : Ulong} {polls : Nat} {transfered left : U32}
  {packets : List (List U8)} {completions : List UsbEvent} {state : UsbState}
  (buffer : Buffer) (notNull : address ≠ 0) (fits : address.toNat + length.toNat ≤ 2 ^ 64)

include notNull fits in
/-- Nothing wraps around: a byte that is left has an address. -/
theorem address_ne_zero (some : left ≠ 0)
    (whole : transfered.toNat + left.toNat = length.toNat) :
    address + transfered.setWidth 64 ≠ 0 := by
  have notZero : address.toNat ≠ 0 := fun isZero => notNull (BitVec.eq_of_toNat_eq isZero)
  have leftSome : left.toNat ≠ 0 := fun isZero => some (BitVec.eq_of_toNat_eq isZero)
  intro wraps
  have asNat := congrArg BitVec.toNat wraps
  rw [BitVec.toNat_add, BitVec.toNat_setWidth_of_le (by decide), Nat.mod_eq_of_lt (by omega)] at asNat
  have isZero : (0 : Ulong).toNat = 0 := rfl
  omega

include notNull fits in
/-- One packet is sent. -/
theorem ensures_usbWriteRound (some : left ≠ 0)
    (whole : transfered.toNat + left.toNat = length.toNat)
    (sending : Sending 1 length fifoSize (.between packets completions false) state) :
    Ensures Disturbed
      (fun thisLen after => thisLen = minWord fifoSize left ∧
        Sending 1 length fifoSize (.next length packets completions
          (bytesAt buffer transfered.toNat (minWord fifoSize left).toNat)
          (left - minWord fifoSize left = 0) false) after)
      (Sending 1 length fifoSize (.next length packets completions
        (bytesAt buffer transfered.toNat (minWord fifoSize left).toNat)
        (left - minWord fifoSize left = 0) true))
      (usbWriteRound polls address buffer transfered left) state := by
  have here := address_ne_zero notNull fits some whole
  generalize isPacket : bytesAt buffer transfered.toNat (minWord fifoSize left).toNat = packet
  have isLength : BitVec.ofNat 32 packet.length = minWord fifoSize left := by
    rw [← isPacket, length_bytesAt, BitVec.ofNat_toNat, BitVec.setWidth_eq]
  unfold usbWriteRound
  refine sending.load.bind fun fn after ⟨sameSize, loaded⟩ => ?_
  dsimp only
  rw [sameSize, isPacket]
  have written := @ensures_usbcWritePacket Disturbed
    (Sending 1 length fifoSize (.next length packets completions packet
      (left - minWord fifoSize left = 0) true)) (usbcRegOEpfifo 1)
    (fun done => Sending 1 length fifoSize ⟨done, packets, completions, false, false⟩)
    (fun done value state sends => sends.writeb value)
    (fun done value state sends => sends.writel value)
    (address + transfered.setWidth 64) packet after loaded
  rw [if_neg here, isLength] at written
  refine written.bind fun thisLen filled ⟨sends, isWhole⟩ => ?_
  rw [isWhole here]
  have handed : ∀ (last : Bool) (given : UsbState),
      Sending 1 length fifoSize ⟨packet, packets,
        completions ++ if last then [sentEvent length] else [], false, last⟩ given →
      Ensures Disturbed
        (fun thisLen after => thisLen = minWord fifoSize left ∧ Sending 1 length fifoSize
          (.next length packets completions packet last false) after)
        (Sending 1 length fifoSize (.next length packets completions packet last true))
        (do
          usbWritecomplete polls .tx
          return minWord fifoSize left) given := by
    intro last given sends
    unfold usbWritecomplete
    rw [ensures_bind]
    refine (sends.handOver rfl rfl).bind fun _ handed busy => ?_
    refine (busy.wait rfl polls).bind fun _ taken idle => ?_
    exact ⟨rfl, idle⟩
  by_cases last : left - minWord fifoSize left = 0
  · simp only [last, if_true, decide_true]
    refine (sends.finishes rfl).bind fun _ flagged sends => ?_
    exact handed true flagged (by simpa using sends)
  · simp only [last, if_false, decide_false]
    exact handed false filled (by simpa using sends)

theorem usbWriteLoop_zero (rounds : Nat) (transfered : U32) :
    usbWriteLoop polls address buffer rounds transfered 0 = pure () := by
  cases rounds <;> rfl

/-- The driver stopped after some packets, and waits for the last one of them to be taken. -/
def StuckAfter (length fifoSize : U32) (bytes : List U8) (packets : List (List U8))
    (completions : List UsbEvent) (state : UsbState) : Prop :=
  ∃ sent rest later, bytes = sent ++ rest ∧ sent ≠ [] ∧ Cut fifoSize.toNat sent later ∧
    Sending 1 length fifoSize
      ⟨[], packets ++ later, completions ++ if rest = [] then [sentEvent length] else [], true,
        rest = []⟩ state

include notNull fits in
/-- What is left is sent: by induction on the rounds, of which there is one for each byte -/
theorem ensures_usbWriteLoop (someSize : fifoSize ≠ 0) (rounds : Nat)
    (enough : left.toNat ≤ rounds) (whole : transfered.toNat + left.toNat = length.toNat)
    (sending : Sending 1 length fifoSize (.between packets completions false) state) :
    Ensures Disturbed
      (fun _ after => ∃ later,
        Cut fifoSize.toNat (bytesAt buffer transfered.toNat left.toNat) later ∧
          Sending 1 length fifoSize (.between (packets ++ later)
            (completions ++ if left = 0 then [] else [sentEvent length]) (left ≠ 0)) after)
      (StuckAfter length fifoSize (bytesAt buffer transfered.toNat left.toNat) packets completions)
      (usbWriteLoop polls address buffer rounds transfered left) state := by
  induction rounds generalizing transfered left packets completions state with
  | zero =>
    have none : left = 0 := BitVec.eq_of_toNat_eq (Nat.le_zero.mp enough)
    subst none
    rw [usbWriteLoop_zero]
    exact ⟨[], .nil, by simpa using sending⟩
  | succ rounds inductionHypothesis =>
    by_cases none : left = 0
    · subst none
      rw [usbWriteLoop_zero]
      exact ⟨[], .nil, by simpa using sending⟩
    unfold usbWriteLoop
    rw [if_neg none, if_neg none]
    by_cases more : fifoSize < left
    · -- A full packet goes out, and the rest is sent like a buffer of its own.
      have isSize : minWord fifoSize left = fifoSize := if_pos more
      have rests : (left - fifoSize).toNat = left.toNat - fifoSize.toNat :=
        BitVec.toNat_sub_of_le (BitVec.le_of_lt more)
      have moreNat : fifoSize.toNat < left.toNat := more
      have sizeNat : fifoSize.toNat ≠ 0 := fun isZero => someSize (BitVec.eq_of_toNat_eq isZero)
      have someRest : left - fifoSize ≠ 0 := by
        intro isZero
        have asNat := congrArg BitVec.toNat isZero
        have zeroNat : (0 : U32).toNat = 0 := rfl
        omega
      have goes : (transfered + fifoSize).toNat = transfered.toNat + fifoSize.toNat := by
        have bound := length.isLt
        rw [BitVec.toNat_add, Nat.mod_eq_of_lt (by omega)]
      have parts : bytesAt buffer transfered.toNat left.toNat =
          bytesAt buffer transfered.toNat fifoSize.toNat ++
            bytesAt buffer (transfered + fifoSize).toNat (left - fifoSize).toNat := by
        rw [goes, rests, ← bytesAt_add, Nat.add_sub_cancel' (Nat.le_of_lt moreNat)]
      have some : bytesAt buffer transfered.toNat fifoSize.toNat ≠ [] :=
        List.ne_nil_of_length_pos (by rw [length_bytesAt]; omega)
      have someLater : bytesAt buffer (transfered + fifoSize).toNat (left - fifoSize).toNat ≠ [] :=
        List.ne_nil_of_length_pos (by rw [length_bytesAt]; omega)
      have round := @ensures_usbWriteRound length fifoSize address polls transfered left packets
        completions state buffer notNull fits none whole sending
      rw [isSize] at round
      simp only [someRest, decide_false] at round
      rw [parts]
      refine Ensures.bind (round.mono (fun _ _ => id) fun after waits => ?_)
        fun thisLen after ⟨isThis, sends⟩ => ?_
      · refine ⟨_, _, [_], rfl, some, .last _ some (by rw [length_bytesAt]), ?_⟩
        rw [if_neg someLater, decide_eq_false someLater]
        exact waits
      · subst isThis
        have next : Sending 1 length thisLen
            (.between (packets ++ [bytesAt buffer transfered.toNat thisLen.toNat]) completions false)
            after := by
          simpa [Progress.next, Progress.between] using sends
        refine (inductionHypothesis (by omega) (by omega) next).mono ?_ ?_
        · rintro _ last ⟨later, cut, done⟩
          refine ⟨_, .full _ _ later (length_bytesAt _ _ _) someLater cut, ?_⟩
          rw [if_neg someRest, decide_eq_true someRest, List.append_assoc] at done
          rwa [decide_eq_true none]
        · rintro last ⟨sent, rest, later, isBytes, someSent, cut, waits⟩
          refine ⟨bytesAt buffer transfered.toNat thisLen.toNat ++ sent, rest, _, ?_,
            List.append_ne_nil_of_right_ne_nil _ someSent,
            .full _ _ later (length_bytesAt _ _ _) someSent cut, ?_⟩
          · rw [isBytes, List.append_assoc]
          · rwa [List.append_assoc] at waits
    · -- The last packet goes out.
      have isLeft : minWord fifoSize left = left := if_neg more
      have some : bytesAt buffer transfered.toNat left.toNat ≠ [] := by
        have leftNat : left.toNat ≠ 0 := fun isZero => none (BitVec.eq_of_toNat_eq isZero)
        exact List.ne_nil_of_length_pos (by rw [length_bytesAt]; omega)
      have fitsNat : left.toNat ≤ fifoSize.toNat := Nat.le_of_not_lt more
      have round := @ensures_usbWriteRound length fifoSize address polls transfered left packets
        completions state buffer notNull fits none whole sending
      have nothing : left - left = 0 := BitVec.sub_self left
      rw [isLeft, nothing] at round
      refine Ensures.bind (round.mono (fun _ _ => id) fun after waits => ?_)
        fun thisLen after ⟨isThis, sends⟩ => ?_
      · exact ⟨_, [], [_], (List.append_nil _).symm, some, .last _ some (by simpa using fitsNat),
          by simpa [Progress.next] using waits⟩
      · rw [isThis, nothing, usbWriteLoop_zero]
        refine ⟨[_], .last _ some (by simpa using fitsNat), ?_⟩
        rw [decide_eq_true none]
        simpa [Progress.next, Progress.between] using sends

end Loop

/-! ### A whole buffer -/

/-- Nothing is on its way at the endpoint, and no report is due. -/
structure Ready (state : UsbState) : Prop where
  filled : state.bus.filled 1 = []
  inFlight : state.bus.inFlight 1 = false
  stalling : state.bus.stalling 1 = false
  finish : state.fn.txPackageSendFinish = 0
  fifoSize : state.fn.fifoSize ≠ 0

theorem Ready.sending {state : UsbState} (ready : Ready state) :
    Sending state.bus.index state.fn.txReqLength state.fn.fifoSize
      (.between (state.bus.packets 1) state.completions false) state where
  index := rfl
  filled := ready.filled
  packets := rfl
  inFlight _ := ready.inFlight
  stalling := ready.stalling
  fifoSize := rfl
  txReqLength := rfl
  finish _ := ready.finish
  completions := rfl

/-- A buffer is sent whole, or the driver waits for the host to take one of its packets. -/
theorem ensures_sunxiUdcSendData {polls : Nat} {address : Ulong} {buffer : Buffer} {length : U32}
    {state : UsbState} (ready : Ready state) (notNull : address ≠ 0)
    (fits : address.toNat + length.toNat ≤ 2 ^ 64) :
    Ensures Disturbed
      (fun _ after => ∃ later,
        Cut state.fn.fifoSize.toNat (bytesAt buffer 0 length.toNat) later ∧
          Sending state.bus.index length state.fn.fifoSize
            (.between (state.bus.packets 1 ++ later)
              (state.completions ++ if length = 0 then [] else [sentEvent length]) (length ≠ 0))
            after)
      (StuckAfter length state.fn.fifoSize (bytesAt buffer 0 length.toNat) (state.bus.packets 1)
        state.completions)
      (sunxiUdcSendData polls address buffer length) state := by
  unfold sunxiUdcSendData usbWriteFifo
  refine Ensures.bind (ready.sending.store state.fn.txReqLength rfl ?_ ?_ ?_)
    fun _ gated sending => ?_
  · exact fun _ => rfl
  · exact fun _ same => same
  · exact fun _ same => same
  refine Ensures.bind (sending.store length rfl ?_ ?_ ?_) fun _ noted sending => ?_
  · exact fun _ => rfl
  · exact fun _ _ => rfl
  · exact fun _ same => same
  refine Ensures.bind (sending.store length rfl ?_ ?_ ?_) fun _ cleared sending => ?_
  · exact fun _ => rfl
  · exact fun _ same => same
  · exact fun _ _ => rfl
  refine sending.active.bind fun old read ⟨isOld, sending⟩ => ?_
  refine (sending.select sunxiUsbBulkInEpIndex).bind fun _ selected sending => ?_
  have loop := @ensures_usbWriteLoop length state.fn.fifoSize address polls 0 length _ _ _ buffer
    notNull fits ready.fifoSize length.toNat (Nat.le_refl _) (Nat.zero_add _) sending
  refine loop.bind fun _ sent ⟨later, cut, sending⟩ => ?_
  refine (sending.select old).mono (fun _ after done => ⟨later, cut, ?_⟩) fun _ gave => gave
  rwa [isOld] at done

end PinePhonePkg
