/-
This file says what code leaves alone while another buffer is being sent. What was queued
and which endpoints were flushed only ever grows; as long as no endpoint is flushed and the
bus is not reset, the endpoint that sends is as it was. The rules follow the code from one
access to the next.
-/

import PinePhonePkg.Usb.Sending

namespace PinePhonePkg

open Library Trial

/-! ### The endpoint that sends -/

/-- How often the bus was reset -/
def UsbState.resets (state : UsbState) : Nat :=
  (state.posted.filter fun event => event.message = .busEventReset).length

/-- Neither an endpoint was flushed nor the bus reset. -/
def Undisturbed (before after : UsbState) : Prop :=
  after.bus.flushed = before.bus.flushed ∧ after.resets = before.resets

/-- The records grow, and the endpoint is left alone unless they show a flush or a reset. -/
structure Passes (before after : UsbState) : Prop where
  flushed : before.bus.flushed <+: after.bus.flushed
  posted : before.posted <+: after.posted
  leaves : Undisturbed before after → Leaves before after

/-- As records grow, so does the number of resets. -/
theorem resets_mono {before after : UsbState} (posted : before.posted <+: after.posted) :
    before.resets ≤ after.resets :=
  (posted.filter _).length_le

namespace Passes

theorem of_leaves {before after : UsbState} (leaves : Leaves before after)
    (flushed : after.bus.flushed = before.bus.flushed) (posted : after.posted = before.posted) :
    Passes before after :=
  ⟨flushed ▸ List.prefix_rfl, posted ▸ List.prefix_rfl, fun _ => leaves⟩

theorem refl (state : UsbState) : Passes state state := of_leaves (.refl state) rfl rfl

variable {before middle after : UsbState}

theorem trans (first : Passes before middle) (second : Passes middle after) :
    Passes before after where
  flushed := first.flushed.trans second.flushed
  posted := first.posted.trans second.posted
  leaves := by
    rintro ⟨flushed, resets⟩
    -- What is not in the longer record is in neither part of it.
    have notFirst : middle.bus.flushed = before.bus.flushed := by
      refine (first.flushed.eq_of_length_le ?_).symm
      exact flushed ▸ second.flushed.length_le
    have resetsFirst := resets_mono first.posted
    have resetsSecond := resets_mono second.posted
    refine (first.leaves ⟨notFirst, ?_⟩).trans (second.leaves ⟨?_, ?_⟩)
    · omega
    · rw [flushed, notFirst]
    · omega

end Passes

/-! ### Code that passes -/

/-- The endpoint that is selected stays so, and the one that sends is left alone. -/
def Stays (before after : UsbState) : Prop :=
  Passes before after ∧ after.bus.index = before.bus.index

/-- That much holds while the endpoint that sends is not selected. -/
def StaysElsewhere (before after : UsbState) : Prop :=
  before.bus.index ≠ 1 → Stays before after

theorem Stays.refl (state : UsbState) : Stays state state := ⟨.refl state, rfl⟩

theorem Stays.trans (first second third : UsbState) (before : Stays first second)
    (after : Stays second third) : Stays first third :=
  ⟨before.1.trans after.1, after.2.trans before.2⟩

theorem StaysElsewhere.trans (first second third : UsbState) (before : StaysElsewhere first second)
    (after : StaysElsewhere second third) : StaysElsewhere first third := by
  intro elsewhere
  have stays := before elsewhere
  exact stays.trans _ _ _ (after (stays.2 ▸ elsewhere))

/-- The endpoint that was selected is selected again. -/
theorem Stays.reselect {state after : UsbState} (stays : Stays state after) :
    Stays state { after with bus := { after.bus with index := state.bus.index } } := by
  refine ⟨⟨stays.1.flushed, stays.1.posted, fun undisturbed => ?_⟩, rfl⟩
  exact { stays.1.leaves undisturbed with }

theorem Stays.of_bus {state : UsbState} {bus : UsbBus} (index : bus.index = state.bus.index)
    (filled : bus.filled 1 = state.bus.filled 1) (packets : bus.packets 1 = state.bus.packets 1)
    (inFlight : state.bus.inFlight 1 = false → bus.inFlight 1 = false)
    (stalling : state.bus.stalling 1 = false → bus.stalling 1 = false)
    (flushed : state.bus.flushed <+: bus.flushed) : Stays state { state with bus := bus } := by
  refine ⟨⟨flushed, List.prefix_rfl, fun _ => ?_⟩, index⟩
  exact ⟨filled, packets, inFlight, stalling, rfl, id, rfl⟩

/-- Variables are set, but not those for the report. -/
theorem Stays.of_fn {state : UsbState} {fn : UsbFn} (length : fn.txReqLength = state.fn.txReqLength)
    (finish : fn.txPackageSendFinish = state.fn.txPackageSendFinish) :
    Stays state { state with fn := fn } := by
  refine ⟨.of_leaves ⟨rfl, rfl, id, id, length, fun clear => finish.trans clear, ?_⟩ rfl rfl, rfl⟩
  unfold UsbState.completions
  rw [finish, length]

/-- A message other than the report is queued. -/
theorem Stays.of_posted {state : UsbState} {event : UsbEvent}
    (other : event.message ≠ .endpointStatusChangedTx) :
    Stays state { state with posted := state.posted ++ [event] } := by
  refine ⟨⟨List.prefix_rfl, List.prefix_append _ _, fun _ => ?_⟩, rfl⟩
  refine ⟨rfl, rfl, id, id, rfl, id, ?_⟩
  unfold UsbState.completions
  simp [other]

theorem Stays.of_settles {state : UsbState} {bus : UsbBus} (settles : Settles state.bus bus) :
    Stays state { state with bus := bus } := by
  refine .of_bus settles.index_eq (congrFun settles.filled_eq 1) ?_ settles.inFlight_eq_false
    settles.stalling_eq_false ?_
  · rw [UsbBus.packets, settles.sent_eq, UsbBus.packets]
  · have same : bus.flushed = state.bus.flushed := by rw [settles.rest]
    exact same ▸ List.prefix_rfl

/-! ### The endpoints that do not send -/

section Elsewhere

variable {state : UsbState}

theorem selected_ne_one (elsewhere : state.bus.index ≠ 1) : 1 ≠ state.bus.selected := by
  intro isOne
  exact elsewhere (BitVec.eq_of_toNat_eq isOne.symm)

theorem stays_flush : StaysElsewhere state { state with bus := state.bus.flush } := by
  intro elsewhere
  have other := selected_ne_one elsewhere
  refine .of_bus rfl (Function.update_of_ne other _ _) rfl (fun idle => ?_) id
    (List.prefix_append _ _)
  exact (Function.update_of_ne other _ _).trans idle

theorem stays_stall : StaysElsewhere state { state with bus := state.bus.stall } := by
  intro elsewhere
  have other := selected_ne_one elsewhere
  refine .of_bus rfl rfl rfl id (fun clear => ?_) List.prefix_rfl
  exact (Function.update_of_ne other _ _).trans clear

theorem stays_send : StaysElsewhere state { state with bus := state.bus.send } := by
  intro elsewhere
  have other := selected_ne_one elsewhere
  refine .of_bus rfl (Function.update_of_ne other _ _) ?_ (fun idle => ?_) id List.prefix_rfl
  · unfold UsbBus.packets UsbBus.send
    rw [List.filter_append]
    simp [Ne.symm other]
  · exact (Function.update_of_ne other _ _).trans idle

theorem stays_writeCsr (value : U16) :
    StaysElsewhere state { state with bus := state.bus.writeCsr value } := by
  have flushed : ∀ given : UsbState,
      StaysElsewhere given { given with bus := given.bus.writeFlush value } := by
    intro given
    unfold UsbBus.writeFlush
    split
    · exact stays_flush
    · exact fun _ => .refl given
  have stalled : ∀ given : UsbState,
      StaysElsewhere given { given with bus := given.bus.writeStall value } := by
    intro given
    unfold UsbBus.writeStall
    split
    · exact stays_stall
    · exact fun _ => .refl given
  have sent : ∀ given : UsbState,
      StaysElsewhere given { given with bus := given.bus.writeReady value } := by
    intro given
    unfold UsbBus.writeReady
    split
    · exact stays_send
    · exact fun _ => .refl given
  exact .trans _ _ _ (.trans _ _ _ (flushed state) (stalled _)) (sent _)

end Elsewhere

/-- The code keeps what stays, and asks for what it may. -/
abbrev Careful {Result : Type} (code : UsbCode Result) : Prop := Keeps usbMay Stays code

/-- The code does so at the other endpoints. -/
abbrev CarefulElsewhere {Result : Type} (code : UsbCode Result) : Prop :=
  Keeps usbMay StaysElsewhere code

namespace Careful

variable {First Result : Type} {offset : Nat}

theorem elsewhere {code : UsbCode Result} (careful : Careful code) : CarefulElsewhere code :=
  fun state => (careful state).mono (fun _ _ stays _ => stays) fun _ gave => gave

theorem pure (result : Result) : Careful (Pure.pure result) := Keeps.pure Stays.refl result

theorem bind {code : UsbCode First} {next : First → UsbCode Result} (first : Careful code)
    (rest : ∀ result, Careful (next result)) : Careful (code >>= next) :=
  Keeps.bind Stays.trans first rest

theorem loadFn : Careful loadFn := fun state => ensures_loadFn.mpr (.refl state)

theorem storeFn {change : UsbFn → UsbFn} (length : ∀ fn, (change fn).txReqLength = fn.txReqLength)
    (finish : ∀ fn, (change fn).txPackageSendFinish = fn.txPackageSendFinish) :
    Careful (storeFn change) :=
  fun state => ensures_storeFn.mpr (.of_fn (length state.fn) (finish state.fn))

theorem readb (offset : Nat) : Careful (usbcReadb offset) := by
  intro state
  refine ensures_usbcReadb.mpr fun reply _ => ?_
  unfold UsbBus.drain
  split
  · exact .of_bus rfl rfl rfl id id List.prefix_rfl
  · exact .refl state

theorem readl (offset : Nat) : Careful (usbcReadl offset) := by
  intro state
  refine ensures_usbcReadl.mpr fun reply => ?_
  unfold UsbBus.drain
  split
  · exact .of_bus rfl rfl rfl id id List.prefix_rfl
  · exact .refl state

theorem readw (offset : Nat) : Careful (usbcReadw offset) := by
  intro state
  by_cases csr : offset = usbcRegOTxcsr
  · subst csr
    exact ensures_usbcReadw_csr.mpr fun _ taken seen _ => .of_settles (.settle _ _ _)
  · exact (ensures_usbcReadw csr).mpr fun _ _ => .refl state

theorem writeb {value : U8} (noIndex : offset ≠ usbcRegOEpind)
    (otherFifo : offset < 0x40 → offset / 4 ≠ 1) : Careful (usbcWriteb value offset) := by
  intro state
  refine ensures_usbcWriteb.mpr ?_
  rw [if_neg noIndex]
  split
  · exact .of_bus rfl rfl rfl id id List.prefix_rfl
  · unfold UsbBus.fill
    split
    · rename_i fifo
      exact .of_bus rfl (Function.update_of_ne (Ne.symm (otherFifo fifo)) _ _) rfl id id
        List.prefix_rfl
    · exact .refl state

theorem writel {value : U32} (otherFifo : offset < 0x40 → offset / 4 ≠ 1) :
    Careful (usbcWritel value offset) := by
  intro state
  refine ensures_usbcWritel.mpr ?_
  unfold UsbBus.fill
  split
  · rename_i fifo
    exact .of_bus rfl (Function.update_of_ne (Ne.symm (otherFifo fifo)) _ _) rfl id id
      List.prefix_rfl
  · exact .refl state

theorem writew {value : U16} (noCsr : offset ≠ usbcRegOTxcsr) :
    Careful (usbcWritew value offset) := by
  intro state
  refine ensures_usbcWritew.mpr ?_
  rw [if_neg noCsr]
  split
  · unfold UsbBus.writeRxCsr
    split
    · exact .of_bus rfl rfl rfl id id (List.prefix_append _ _)
    · exact .refl state
  · exact .refl state

theorem queueMessage {message : EfiUsbfnMessage} {endpointIndex : U8} {direction : UsbDirection}
    {buffer bufferLengh : Ulong} {pointed : Buffer} (other : message ≠ .endpointStatusChangedTx) :
    Careful (queueMessage message endpointIndex direction buffer bufferLengh pointed) :=
  fun _ => ensures_queueMessage (.of_posted other)

theorem ite {condition : Prop} [Decidable condition] {yes no : UsbCode Result}
    (first : Careful yes) (second : Careful no) : Careful (if condition then yes else no) :=
  Keeps.ite first second

theorem testBitW (bit offset : Nat) : Careful (usbcRegTestBitW bit offset) :=
  (readw offset).bind fun _ => .pure _

theorem testBitB (bit offset : Nat) : Careful (usbcRegTestBitB bit offset) :=
  (readb offset).bind fun _ => .pure _

theorem readBytes (fifo count : Nat) : Careful (readBytes fifo count) := by
  induction count with
  | zero => exact .pure []
  | succ count inductionHypothesis =>
    exact (readb fifo).bind fun _ => inductionHypothesis.bind fun _ => .pure _

theorem readPacket (fifo count : Nat) (buff : Ulong) :
    Careful (usbcReadPacket fifo count buff) := by
  unfold usbcReadPacket
  refine .ite (.pure []) ?_
  generalize count / 4 = words
  induction words with
  | zero => exact readBytes fifo _
  | succ words inductionHypothesis =>
    exact (readl fifo).bind fun _ => inductionHypothesis.bind fun _ => .pure _

end Careful

/-! ### Code for the endpoints that do not send -/

namespace CarefulElsewhere

variable {First Result : Type}

theorem pure (result : Result) : CarefulElsewhere (Pure.pure result) := (Careful.pure result).elsewhere

theorem bind {code : UsbCode First} {next : First → UsbCode Result} (first : CarefulElsewhere code)
    (rest : ∀ result, CarefulElsewhere (next result)) : CarefulElsewhere (code >>= next) :=
  Keeps.bind StaysElsewhere.trans first rest

theorem ite {condition : Prop} [Decidable condition] {yes no : UsbCode Result}
    (first : CarefulElsewhere yes) (second : CarefulElsewhere no) :
    CarefulElsewhere (if condition then yes else no) :=
  Keeps.ite first second

theorem writew (value : U16) (offset : Nat) : CarefulElsewhere (usbcWritew value offset) := by
  by_cases csr : offset = usbcRegOTxcsr
  · intro state
    refine ensures_usbcWritew.mpr ?_
    rw [if_pos csr]
    exact stays_writeCsr value
  · exact (Careful.writew csr).elsewhere

theorem setBitW (bit offset : Nat) : CarefulElsewhere (usbcRegSetBitW bit offset) :=
  (Careful.readw offset).elsewhere.bind fun _ => writew _ _

theorem clearBitW (bit offset : Nat) : CarefulElsewhere (usbcRegClearBitW bit offset) :=
  (Careful.readw offset).elsewhere.bind fun _ => writew _ _

end CarefulElsewhere

/-- The endpoint that is selected is found out first. -/
theorem ensures_usbcGetActiveEp {Result : Type} {next : U8 → UsbCode Result}
    {post : Result → UsbState → Prop} {stuck : UsbState → Prop} {state : UsbState}
    (rest : Ensures usbMay post stuck (next state.bus.index) state) :
    Ensures usbMay post stuck (usbcGetActiveEp >>= next) state := by
  rw [ensures_bind]
  refine ensures_usbcReadb.mpr fun old isOld => ?_
  rw [isOld rfl]
  exact rest

/-- An endpoint is selected. -/
theorem ensures_usbcSelectActiveEp {Result : Type} {next : Unit → UsbCode Result}
    {post : Result → UsbState → Prop} {stuck : UsbState → Prop} {state : UsbState} {index : U8}
    (rest : Ensures usbMay post stuck (next ())
      { state with bus := { state.bus with index := index } }) :
    Ensures usbMay post stuck (usbcSelectActiveEp index >>= next) state := by
  rw [ensures_bind]
  refine ensures_usbcWriteb.mpr ?_
  rwa [if_pos rfl]

/-- An endpoint that does not send is selected, and the one before is put back. -/
theorem careful_restored {First Result : Type} {index : U8} (other : index ≠ 1)
    {code : UsbCode First} (careful : CarefulElsewhere code) {next : First → UsbCode Result}
    (rest : ∀ result, Careful (next result)) :
    Careful (do
      let old ← usbcGetActiveEp
      usbcSelectActiveEp index
      let result ← code
      usbcSelectActiveEp old
      next result) := by
  intro state
  refine ensures_usbcGetActiveEp (ensures_usbcSelectActiveEp ?_)
  refine (careful _).bind fun result done passed => ?_
  obtain ⟨passes, -⟩ := passed other
  refine ensures_usbcSelectActiveEp ?_
  refine (rest result _).mono (fun _ last stays => ?_) fun _ gave => gave
  refine Stays.trans _ _ _ ?_ stays
  refine ⟨⟨passes.flushed, passes.posted, fun undisturbed => ?_⟩, rfl⟩
  exact { passes.leaves undisturbed with }

/-! ### Any code -/

/-- The records grow. -/
def Grows (before after : UsbState) : Prop :=
  before.bus.flushed <+: after.bus.flushed ∧ before.posted <+: after.posted

theorem Grows.trans (first second third : UsbState) (before : Grows first second)
    (after : Grows second third) : Grows first third :=
  ⟨before.1.trans after.1, before.2.trans after.2⟩

theorem flushed_writeStall (bus : UsbBus) (value : U16) :
    (bus.writeStall value).flushed = bus.flushed := by
  unfold UsbBus.writeStall
  split <;> rfl

theorem flushed_writeReady (bus : UsbBus) (value : U16) :
    (bus.writeReady value).flushed = bus.flushed := by
  unfold UsbBus.writeReady
  split <;> rfl

theorem flushed_writeCsr (bus : UsbBus) (value : U16) :
    bus.flushed <+: (bus.writeCsr value).flushed := by
  rw [UsbBus.writeCsr, flushed_writeReady, flushed_writeStall]
  unfold UsbBus.writeFlush
  split
  · exact List.prefix_append _ _
  · exact List.prefix_rfl

/-- The endpoint that sends is flushed. -/
theorem flushed_writeCsr_flush {bus : UsbBus} {value : U16} (isOne : bus.index = 1)
    (flushes : value.getLsbD 3 = true) :
    (bus.writeCsr value).flushed = bus.flushed ++ [(.tx, 1)] := by
  have notControl : ¬bus.index = 0 := by
    rw [isOne]
    decide
  rw [UsbBus.writeCsr, flushed_writeReady, flushed_writeStall, UsbBus.writeFlush, UsbBus.flushBit,
    if_neg notControl, if_pos flushes, UsbBus.flush, if_neg notControl, UsbBus.selected, isOne]
  rfl

theorem flushed_writeRxCsr (bus : UsbBus) (value : U16) :
    bus.flushed <+: (bus.writeRxCsr value).flushed := by
  unfold UsbBus.writeRxCsr
  split
  · exact List.prefix_append _ _
  · exact List.prefix_rfl

theorem flushed_drain (bus : UsbBus) (offset : Nat) (bytes : List U8) :
    (bus.drain offset bytes).flushed = bus.flushed := by
  unfold UsbBus.drain
  split <;> rfl

theorem flushed_fill (bus : UsbBus) (offset : Nat) (bytes : List U8) :
    (bus.fill offset bytes).flushed = bus.flushed := by
  unfold UsbBus.fill
  split <;> rfl

theorem Grows.of_bus {state : UsbState} {bus : UsbBus}
    (flushed : state.bus.flushed <+: bus.flushed) : Grows state { state with bus := bus } :=
  ⟨flushed, List.prefix_rfl⟩

/-- Whatever is asked for, the records grow. -/
theorem grows_of_usbMay (request : UsbRequest) (state : UsbState) (reply : request.Reply)
    (after : UsbState) (may : usbMay request state reply after) : Grows state after := by
  cases request with
  | readb offset =>
    rw [may.2]
    exact .of_bus (flushed_drain _ _ _ ▸ List.prefix_rfl)
  | readw offset =>
    have read : ReadwMay offset state reply after := may
    unfold ReadwMay at read
    split at read
    · obtain ⟨taken, seen, rfl, _⟩ := read
      exact .of_bus List.prefix_rfl
    · rw [read.1]
      exact ⟨List.prefix_rfl, List.prefix_rfl⟩
  | readl offset =>
    cases may
    exact .of_bus (flushed_drain _ _ _ ▸ List.prefix_rfl)
  | writeb offset value =>
    cases may
    refine .of_bus ?_
    split
    · exact List.prefix_rfl
    · split
      · exact List.prefix_rfl
      · exact flushed_fill _ _ _ ▸ List.prefix_rfl
  | writew offset value =>
    cases may
    refine .of_bus ?_
    split
    · exact flushed_writeCsr _ _
    · split
      · exact flushed_writeRxCsr _ _
      · exact List.prefix_rfl
  | writel offset value =>
    cases may
    exact .of_bus (flushed_fill _ _ _ ▸ List.prefix_rfl)
  | load =>
    rw [may.2]
    exact ⟨List.prefix_rfl, List.prefix_rfl⟩
  | store change =>
    cases may
    exact ⟨List.prefix_rfl, List.prefix_rfl⟩
  | queue post =>
    rw [may.2]
    exact ⟨List.prefix_rfl, List.prefix_append _ _⟩

theorem keeps_grows {Result : Type} (code : UsbCode Result) : Keeps usbMay Grows code :=
  .of_requests (fun _ => ⟨List.prefix_rfl, List.prefix_rfl⟩) Grows.trans grows_of_usbMay code

end PinePhonePkg
