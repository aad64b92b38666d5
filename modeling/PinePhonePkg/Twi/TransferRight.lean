/-
This file settles what a transfer puts on the bus. A write is right whatever the
controller does. A read is right for the lengths from one byte to 2^32 bytes; a read of
one byte depends on a bit of the control register that an earlier read may have left
set. For any other length a controller that acknowledges every byte keeps the read from
ending.
-/

import PinePhonePkg.Twi.Reads

namespace PinePhonePkg

open Library Program

namespace Twi

/-! ### The end of a transfer -/

section Stop

variable {controller : TwiController}

/-- A step is under way for one read at least. -/
theorem begin_tick_busy (event : Answer → BusEvent) (data : Answer → U32) :
    (controller.begin event data).tick.phase ≠ .up := by
  have busy : ∃ left, (controller.begin event data).tick.phase =
      .busy left controller.answer.status (data controller.answer) := by
    have phase : (controller.begin event data).phase =
        .busy (controller.answer.delay.map (· + 1)) controller.answer.status
          (data controller.answer) := rfl
    unfold TwiController.tick
    rw [phase]
    cases delay : controller.answer.delay with
    | none =>
      rw [delay] at phase
      exact ⟨none, phase⟩
    | some count => exact ⟨some count, rfl⟩
  obtain ⟨left, busy⟩ := busy
  rw [busy]
  exact Phase.noConfusion

/-- A STOP that was not asked for yet -/
theorem putCtl_stop (stop : controller.ctl.getLsbD 4 = false) :
    controller.putCtl (controller.shownCtl ||| 0x10) =
      ({ controller with ctl := controller.shownCtl ||| 0x10 } : TwiController).begin
        (fun _ => .stop) fun _ => controller.data := by
  have start : (controller.shownCtl ||| 0x10).getLsbD 5 = controller.ctl.getLsbD 5 := by
    rw [BitVec.getLsbD_or, shown_start]
    exact Bool.or_false _
  have set : (controller.shownCtl ||| 0x10).getLsbD 4 = true := by
    rw [BitVec.getLsbD_or]
    exact Bool.or_true _
  unfold TwiController.putCtl
  rw [if_neg (by rw [start]; exact fun both => both.2 both.1),
    if_pos ⟨set, by rw [stop]; exact Bool.false_ne_true⟩]

/-- The write that lowers the flag asks for nothing. -/
theorem putCtl_lower_bus (down : controller.phase ≠ .up) :
    (controller.putCtl (controller.shownCtl &&& 0xf7)).bus = controller.bus := by
  rw [putCtl_nothing rfl (fun set => ?_) (fun set => ?_) fun taken => down taken.1]
  · rw [BitVec.getLsbD_and, shown_stop, Bool.and_eq_true] at set
    exact set.1
  · rw [BitVec.getLsbD_and, shown_start, Bool.and_eq_true] at set
    exact set.1

/-- Whatever the controller is doing, a STOP is put on the bus, and nothing behind it. -/
theorem exec_sendStop (stop : controller.ctl.getLsbD 4 = false) :
    ∃ last, (exec serveTwi sunxiTwiSendStop controller).2.bus =
      controller.bus ++ [last] ∧ last.event = .stop := by
  have kept := kept_tick controller
  generalize ticks : controller.tick = ticked at kept
  have asked := putCtl_stop (kept.stop stop)
  generalize issue : ticked.putCtl (ticked.shownCtl ||| 0x10) = issued at asked
  have bus : issued.bus = controller.bus ++ [⟨.stop, ticked.answer⟩] := by
    rw [asked, ← kept.bus]
    rfl
  have down : issued.tick.phase ≠ .up := by
    rw [asked]
    exact begin_tick_busy _ _
  have lowered := putCtl_lower_bus down
  generalize lower : issued.tick.putCtl (issued.tick.shownCtl &&& 0xf7) = idle at lowered
  refine ⟨⟨.stop, ticked.answer⟩, ?_, rfl⟩
  unfold sunxiTwiSendStop
  rw [exec_readCtl, exec_writeCtl, ticks, issue, exec_readCtl, exec_writeCtl, lower,
    exec_bind]
  have waited : Kept idle (exec serveTwi
      (waitWhile readCtl (fun ctl => decide (ctl &&& 0x10 ≠ 0)) 0xffff) idle).2 :=
    waitWhile_readCtl_kept _ 0xffff
  have total := (waited.bus.trans lowered).trans ((kept_tick issued).bus.trans bus)
  split
  · exact total
  · rw [exec_bind, exec_waitStatus _ (by decide : 2 ≤ 0xffff), exec_readStatus]
    split
    · exact total
    · exact total

end Stop

/-! ### Transfers that end -/

/-- A write ends, and what it has put on the bus is right. -/
def WriteRight (chip addr addrLen : Ulong) (buffer : Memory U8) (length : Ulong)
    (controller : TwiController) : Prop :=
  ∃ status after, exec serveTwi (twiWrite chip addr addrLen buffer length) controller =
      (status, after) ∧
    PutRight (addressed chip addr addrLen.toNat ++ sentBytes buffer length.toNat) controller after
      (status = efiSuccess)

/-- A read ends, and what it has put on the bus is right. It stores nothing beyond the length, and
if it succeeds, all that was received. -/
def ReadRight (chip addr addrLen : Ulong) (buffer : Memory U8) (length : Ulong)
    (controller : TwiController) : Prop :=
  ∃ rounds status stored after,
    exec serveTwi (twiRead rounds chip addr addrLen buffer length) controller =
      (some (status, stored), after) ∧
    PutRight (addressed chip addr addrLen.toNat ++ turned chip ++ receivedBytes length.toNat)
      controller after (status = efiSuccess) ∧
    (∀ place, length.toNat ≤ place → stored place = buffer place) ∧
    (status = efiSuccess →
      after.received = controller.received ++ (List.range length.toNat).map stored)

section Right

variable {items : List Expected} {before middle after : TwiController} {ret : Ulong}
  {well : Bool} {last : BusStep}

/-- No STOP is asked for behind a step. -/
theorem stop_of_script (script : Script Took Failed items before middle well) (some : items ≠ []) :
    middle.ctl.getLsbD 4 = false :=
  (script.ensures (fun _ _ _ took => took.ready.stop) fun _ _ _ failed => failed.stop).resolve_left
    some

/-- The steps that were performed are on the bus, and at most the first one that was not. -/
theorem bus_of_script (script : Script Took Failed items before middle well) :
    ∃ put, middle.bus = before.bus ++ put ∧ List.Forall₂ Fits put (items.take put.length) ∧
      (well = true → List.Forall₂ Acknowledged put items) := by
  refine script.logged (fun entry item good => good.1) (fun item before after took => ?_)
    fun item before after failed => ?_
  · exact ⟨_, took.bus, rfl, took.delay, took.acknowledged⟩
  · exact failed.bus.imp_right fun put => ⟨item.step before.answer, put, rfl⟩

theorem ret_of_success (success : (if ret = 0 then efiSuccess else minusOne) = efiSuccess) :
    ret = 0 := by
  by_contra wrong
  rw [if_neg wrong] at success
  exact absurd success (by decide)

theorem putRight_of_script (script : Script Took Failed items before middle (decide (ret = 0)))
    (bus : after.bus = middle.bus ++ [last]) (stop : last.event = .stop) :
    PutRight items before after ((if ret = 0 then efiSuccess else minusOne) = efiSuccess) := by
  obtain ⟨put, there, fits, acknowledged⟩ := bus_of_script script
  exact ⟨put, last, by rw [bus, there], stop, fits,
    fun success => acknowledged (decide_eq_true (ret_of_success success))⟩

/-- A STOP brings no byte. -/
theorem received_of_stop (bus : after.bus = middle.bus ++ [last]) (stop : last.event = .stop) :
    after.received = middle.received := by
  unfold TwiController.received
  rw [bus, List.filterMap_append, List.filterMap_cons, stop]
  exact List.append_nil _

theorem sentBytes_eq (buffer : Memory U8) (length : Nat) :
    sentBytes buffer length =
      (List.range' 0 length).map fun i => .send (buffer i) twiDatawriteAck := by
  unfold sentBytes
  rw [List.range_eq_range']

end Right

/-- A write is right whatever is written and whatever the controller does. -/
theorem writeRight (chip addr : Ulong) {addrLen : Ulong} (some : 1 ≤ addrLen.toNat)
    (few : addrLen.toNat ≤ 3) (buffer : Memory U8) (length : Ulong) (controller : TwiController) :
    WriteRight chip addr addrLen buffer length controller := by
  obtain ⟨ret, middle, ran, script, _⟩ :=
    (leads_sendAddress controller chip addr some few).andThen fun between talking =>
      leads_sendData buffer length.toNat 0 talking
  rw [← sentBytes_eq] at script
  obtain ⟨last, bus, stop⟩ := exec_sendStop (stop_of_script script (List.cons_ne_nil _ _))
  have steps : exec serveTwi (writeSteps chip addr addrLen buffer length) controller =
      (ret, middle) := ran
  refine ⟨_, _, ?_, putRight_of_script script bus stop⟩
  unfold twiWrite
  rw [exec_bind, steps, exec_bind]
  rfl

/-- A read is right if it is of one byte at least, and of not more than the index of the loop can
count, and if a single byte is not to be acknowledged. -/
theorem readRight (chip addr : Ulong) {addrLen : Ulong} (some : 1 ≤ addrLen.toNat)
    (few : addrLen.toNat ≤ 3) (buffer : Memory U8) {length : Ulong} {controller : TwiController}
    (any : 1 ≤ length.toNat) (short : length.toNat ≤ 2 ^ 32)
    (single : length = 1 → controller.ctl.getLsbD 2 = false) :
    ReadRight chip addr addrLen buffer length controller := by
  obtain ⟨ret, stored, middle, ran, script, kept, received⟩ :=
    delivers_readSteps chip addr some few buffer any short single
  obtain ⟨last, bus, stop⟩ := exec_sendStop (stop_of_script script (List.cons_ne_nil _ _))
  refine ⟨length.toNat, _, stored, _, ?_, putRight_of_script script bus stop, kept,
    fun success => ?_⟩
  · unfold twiRead
    rw [exec_bind, ran]
    dsimp only
    rw [exec_bind]
    rfl
  · rw [received_of_stop bus stop]
    exact received (ret_of_success success)

/-! ### A controller that acknowledges everything -/

/-- The controller takes every step at once, and leaves these statuses from now on. -/
structure Obliging (statuses : Nat → U32) (controller : TwiController) : Prop where
  clears : ∀ bit, controller.clears bit = true
  answers : ∀ index, controller.answers (controller.bus.length + index) =
    ⟨some 0, statuses index, 0⟩

/-- The statuses of some steps, and then always the last one -/
def statusesOf (items : List Expected) (last : U32) (index : Nat) : U32 :=
  (items.map Expected.status)[index]?.getD last

/-- It leaves the statuses of some steps, and then always the last one. -/
def obligingTwi (items : List Expected) (last ctl : U32) : TwiController where
  ctl := ctl
  data := 0
  status := 0
  phase := .quiet
  mode := .idle
  bus := []
  answers := fun index => ⟨some 0, statusesOf items last index, 0⟩
  clears := fun _ => true

theorem obliging_obligingTwi (items : List Expected) (last ctl : U32) :
    Obliging (statusesOf items last) (obligingTwi items last ctl) where
  clears := fun _ => rfl
  answers := fun index =>
    congrArg (fun index => (⟨some 0, statusesOf items last index, 0⟩ : Answer)) (Nat.zero_add index)

section Obliging

variable {statuses : Nat → U32} {item : Expected} {items : List Expected} {last : U32}
  {before after controller : TwiController} {well : Bool}

theorem Obliging.willing (obliging : Obliging statuses before) (status : item.status = statuses 0) :
    Willing item before := by
  have answer : before.answer = ⟨some 0, statuses 0, 0⟩ := obliging.answers 0
  refine ⟨obliging.clears, ?_, ?_⟩
  · rw [answer]
  · rw [answer, status]

theorem Obliging.next (obliging : Obliging statuses before) (took : Took item before after) :
    Obliging (fun index => statuses (index + 1)) after where
  clears := by rw [took.clears]; exact obliging.clears
  answers index := by
    rw [took.answers, took.bus, List.length_append, Nat.add_assoc, Nat.add_comm _ index]
    exact obliging.answers (index + 1)

/-- All steps that are acknowledged are performed. -/
theorem Obliging.script (script : Script Took Failed items before after well)
    (obliging : Obliging (statusesOf items last) before) :
    well = true ∧ Obliging (fun _ => last) after := by
  induction script with
  | nil state => exact ⟨rfl, obliging⟩
  | takes first _ inductionHypothesis => exact inductionHypothesis (obliging.next first)
  | fails failed => exact absurd (obliging.willing rfl) failed.refused

/-- No index of 32 bits gets to the last byte. -/
theorem getDataLoop_never {count : Ulong} (long : 2 ^ 32 ≤ (count - 1).toNat) {acking : Bool}
    {received : List U8} (talking : Talking .receive acking received controller)
    (obliging : Obliging (fun _ => twiDatareadAck) controller) (rounds : Nat) (i : U32)
    (data : Memory U8) :
    (exec serveTwi (getDataLoop count rounds i data) controller).1 = none := by
  induction rounds generalizing i data controller acking received with
  | zero => rfl
  | succ rounds inductionHypothesis =>
    have inside : i.setWidth 64 < count - 1 := by
      rw [BitVec.lt_def, BitVec.toNat_setWidth]
      omega
    rcases exec_getDataLoop data talking (.inl (obliging.clears false)) inside rounds with
      ⟨after, ran, took, _⟩ | ⟨_, _, _, failed, _⟩
    · rw [ran]
      exact inductionHypothesis (took.talking_receive talking) (obliging.next took) _ _
    · exact absurd (obliging.willing rfl) failed.refused

end Obliging

/-- The last step fits the last item. -/
theorem last_fits {put : List BusStep} {step : BusStep} {items : List Expected} {item : Expected}
    (length : put.length = items.length)
    (fits : List.Forall₂ Fits (put ++ [step]) ((items ++ [item]).take (put ++ [step]).length)) :
    Fits step item := by
  have all : (items ++ [item]).length ≤ (put ++ [step]).length := by
    rw [List.length_append, List.length_append, length]
    exact Nat.le_refl _
  rw [List.take_of_length_le all] at fits
  have ends := List.forall₂_drop_append _ _ _ fits
  rw [← length, List.drop_left] at ends
  exact (List.forall₂_cons.mp ends).1

section Wrong

variable (chip addr : Ulong) {addrLen : Ulong} (some : 1 ≤ addrLen.toNat)
  (few : addrLen.toNat ≤ 3) (buffer : Memory U8) {length : Ulong}

include some few

/-- A controller that acknowledges the addresses gets to the bytes. -/
theorem readSteps_obliging (last ctl : U32) (length : Ulong) (rounds : Nat) :
    ∃ between, exec serveTwi (readSteps rounds chip addr addrLen buffer length)
        (obligingTwi (addressed chip addr addrLen.toNat ++ turned chip) last ctl) =
          exec serveTwi (sunxiTwiGetData rounds buffer length) between ∧
      Talking .receive (ctl.getLsbD 2) [] between ∧ Obliging (fun _ => last) between ∧
      List.Forall₂ Acknowledged between.bus (addressed chip addr addrLen.toNat ++ turned chip) := by
  obtain ⟨ret, between, script, ran, talks⟩ := begins_readSteps rounds chip addr some few buffer
    length (obligingTwi (addressed chip addr addrLen.toNat ++ turned chip) last ctl)
  obtain ⟨well, obliging⟩ := Obliging.script script (obliging_obligingTwi _ _ _)
  obtain ⟨put, bus, _, acknowledged⟩ := bus_of_script script
  have right := of_decide_eq_true well
  rw [if_pos right] at ran
  refine ⟨between, ran, (talks right).1, obliging, ?_⟩
  rw [bus]
  exact acknowledged well

/-- A read of no byte, or of more bytes than the index can count, does not end. -/
theorem not_readRight_of_length (ctl : U32) (wrong : ¬(1 ≤ length.toNat ∧ length.toNat ≤ 2 ^ 32)) :
    ¬ReadRight chip addr addrLen buffer length
      (obligingTwi (addressed chip addr addrLen.toNat ++ turned chip) twiDatareadAck ctl) := by
  rintro ⟨rounds, status, stored, after, ran, _⟩
  obtain ⟨between, steps, talking, obliging, _⟩ :=
    readSteps_obliging chip addr some few buffer twiDatareadAck ctl length rounds
  have one : (1 : Ulong).toNat = 1 := rfl
  have more : length ≠ 1 := by
    rintro rfl
    exact wrong (by decide)
  have long : 2 ^ 32 ≤ (length - 1).toNat := by
    rw [BitVec.toNat_sub, one]
    omega
  have never := getDataLoop_never long talking obliging rounds 0 buffer
  have endless : (exec serveTwi (twiRead rounds chip addr addrLen buffer length)
      (obligingTwi (addressed chip addr addrLen.toNat ++ turned chip) twiDatareadAck ctl)).1 =
        none := by
    unfold twiRead
    rw [exec_bind, steps, sunxiTwiGetData, if_neg more, exec_bind, never]
    rfl
  rw [ran] at endless
  exact absurd endless (Option.some_ne_none _)

/-- A single byte is acknowledged if the control register says so. -/
theorem not_readRight_of_acking {ctl : U32} (acking : ctl.getLsbD 2 = true) :
    ¬ReadRight chip addr addrLen buffer 1
      (obligingTwi (addressed chip addr addrLen.toNat ++ turned chip) twiDatareadNack ctl) := by
  rintro ⟨rounds, status, stored, after, ran, ⟨put, last, bus, _, fits, _⟩, _⟩
  obtain ⟨between, steps, talking, obliging, acknowledged⟩ :=
    readSteps_obliging chip addr some few buffer twiDatareadNack ctl 1 rounds
  rw [acking] at talking
  rcases fetches_single buffer talking with
    ⟨middle, fetched, took⟩ | ⟨_, _, _, _, _, failed, _⟩
  · obtain ⟨halt, halted, _⟩ := exec_sendStop took.ready.stop
    have ended : (exec serveTwi (twiRead rounds chip addr addrLen buffer 1)
        (obligingTwi (addressed chip addr addrLen.toNat ++ turned chip) twiDatareadNack ctl)).2 =
          (exec serveTwi sunxiTwiSendStop middle).2 := by
      unfold twiRead
      rw [exec_bind, steps, sunxiTwiGetData, if_pos rfl, exec_bind, fetched]
      dsimp only [exec_pure]
      rw [exec_bind]
      rfl
    rw [ran] at ended
    have same : between.bus ++ [⟨.received between.answer.byte true, between.answer⟩] = put := by
      have shown : after.bus = middle.bus ++ [halt] := by rw [← halted, ← ended]
      rw [shown, took.bus] at bus
      exact (List.append_inj' bus rfl).1
    rw [← same] at fits
    have byte : BusEvent.received between.answer.byte true =
        .received between.answer.byte false := last_fits acknowledged.length_eq fits
    exact absurd (BusEvent.received.inj byte).2 Bool.noConfusion
  · exact absurd (obliging.willing rfl) failed.refused

end Wrong

/-! ### What the code guarantees -/

/-- Whatever the controller does, a write is right; a read is right for just the lengths from one
byte to as many as the index can count, and for one byte only if the control register does not
acknowledge it. -/
theorem transfersRight_iff (chip addr : Ulong) {addrLen : Ulong} (some : 1 ≤ addrLen.toNat)
    (few : addrLen.toNat ≤ 3) (buffer : Memory U8) (length : Ulong) (ctl : U32) :
    (∀ controller, WriteRight chip addr addrLen buffer length controller) ∧
      ((∀ controller, controller.ctl = ctl →
          ReadRight chip addr addrLen buffer length controller) ↔
        1 ≤ length.toNat ∧ length.toNat ≤ 2 ^ 32 ∧ (length = 1 → ctl.getLsbD 2 = false)) := by
  refine ⟨writeRight chip addr some few buffer length, fun right => ?_, ?_⟩
  · have bounds : 1 ≤ length.toNat ∧ length.toNat ≤ 2 ^ 32 := by
      by_contra wrong
      exact not_readRight_of_length chip addr some few buffer ctl wrong (right _ rfl)
    refine ⟨bounds.1, bounds.2, ?_⟩
    rintro rfl
    by_contra acking
    exact not_readRight_of_acking chip addr some few buffer (eq_true_of_ne_false acking)
      (right _ rfl)
  · rintro ⟨any, short, single⟩ controller rfl
    exact readRight chip addr some few buffer any short single

/-- Two bytes from a register address of one byte -/
theorem transfersRight_two :
    (∀ controller, WriteRight 0x34 0x03 1 (fun _ => 0) 2 controller) ∧
      ((∀ controller : TwiController, controller.ctl = 0x44 →
          ReadRight 0x34 0x03 1 (fun _ => 0) 2 controller) ↔
        1 ≤ (2 : Ulong).toNat ∧ (2 : Ulong).toNat ≤ 2 ^ 32 ∧
          ((2 : Ulong) = 1 → (0x44 : U32).getLsbD 2 = false)) :=
  transfersRight_iff 0x34 0x03 (by decide) (by decide) (fun _ => 0) 2 0x44

/-- A read of no byte, from a chip that acknowledges all of them -/
theorem not_readRight_none :
    ¬ReadRight 0x34 0x03 1 (fun _ => 0) 0
      (obligingTwi (addressed 0x34 0x03 1 ++ turned 0x34) twiDatareadAck 0x40) :=
  not_readRight_of_length 0x34 0x03 (by decide) (by decide) (fun _ => 0) 0x40 (by decide)

end Twi

end PinePhonePkg
