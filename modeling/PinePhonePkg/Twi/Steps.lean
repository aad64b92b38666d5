/-
This file shows what each step of a transfer does to the controller: it is taken, and
acknowledged, and the code goes on; or the code sees an error, and at most the step
itself was put on the bus.
-/

import PinePhonePkg.Twi.Controller
import PinePhonePkg.Library.Scripts

namespace PinePhonePkg

open Library Program

namespace Twi

/-! ### What a step comes to -/

namespace Expected

/-- The mode behind a step -/
def mode : Expected → Mode → Mode
  | .start _, _ => .address
  | .send byte _, .address => if byte.getLsbD 0 then .receive else .transmit
  | _, mode => mode

/-- The bit of the control register that acknowledges a byte, behind a step -/
def acking : Expected → Bool → Bool
  | .receive acknowledged _, _ => acknowledged
  | _, bit => bit

/-- The step moves a byte. -/
def isByte : Expected → Bool
  | .start _ => false
  | _ => true

/-- The bytes that a step brings -/
def brings : Expected → Answer → List U8
  | .receive _ _, answer => [answer.byte]
  | _, _ => []

/-- The step on the bus, with the answer to it -/
def step (expected : Expected) (answer : Answer) : BusStep := ⟨expected.event answer, answer⟩

end Expected

/-- The flag is up, and neither a START nor a STOP is asked for. -/
structure Ready (controller : TwiController) : Prop where
  phase : controller.phase = .up
  stop : controller.ctl.getLsbD 4 = false
  start : controller.ctl.getLsbD 5 = false

/-- The expected step was taken and acknowledged. -/
structure Took (expected : Expected) (before after : TwiController) : Prop where
  bus : after.bus = before.bus ++ [expected.step before.answer]
  delay : before.answer.delay ≠ none
  acknowledged : before.answer.status = expected.status
  answers : after.answers = before.answers
  clears : after.clears = before.clears
  ready : Ready after
  status : after.status = expected.status
  mode : after.mode = expected.mode before.mode
  acking : after.ctl.getLsbD 2 = expected.acking (before.ctl.getLsbD 2)
  data : ∀ byte ∈ expected.brings before.answer, after.data = byte.setWidth 32
  flag : expected.isByte = true → before.clears true = true

/-- The controller takes a step whatever is written to the flag bit, and its next answer is prompt
and acknowledges the expected step. -/
def Willing (expected : Expected) (controller : TwiController) : Prop :=
  (∀ bit, controller.clears bit = true) ∧ controller.answer.delay = some 0 ∧
    controller.answer.status = expected.status

/-- The code has seen an error at the expected step. -/
structure Failed (expected : Expected) (before after : TwiController) : Prop where
  bus : after.bus = before.bus ∨ after.bus = before.bus ++ [expected.step before.answer]
  stop : after.ctl.getLsbD 4 = false
  refused : ¬Willing expected before

/-- The controller has gone on for a time with nothing but reads. -/
structure Kept (before after : TwiController) : Prop where
  bus : after.bus = before.bus
  stop : before.ctl.getLsbD 4 = false → after.ctl.getLsbD 4 = false

/-- The expected step is under way and will leave the status of its answer and the data; so many
reads are still to come before those that the answer tells. -/
structure UnderWay (expected : Expected) (early : Nat) (data : U32)
    (before after : TwiController) : Prop where
  bus : after.bus = before.bus ++ [expected.step before.answer]
  phase : after.phase = .busy (before.answer.delay.map (· + early)) before.answer.status data
  answers : after.answers = before.answers
  clears : after.clears = before.clears
  stop : after.ctl.getLsbD 4 = false
  mode : after.mode = expected.mode before.mode
  acking : after.ctl.getLsbD 2 = expected.acking (before.ctl.getLsbD 2)
  data : ∀ byte ∈ expected.brings before.answer, data = byte.setWidth 32
  flag : expected.isByte = true → before.clears true = true

/-! ### Waiting -/

section Waiting

variable {controller : TwiController}

@[simp]
theorem exec_readCtl {Result : Type} (next : U32 → TwiProgram Result) :
    exec serveTwi (readCtl >>= next) controller =
      exec serveTwi (next controller.tick.shownCtl) controller.tick := rfl

@[simp]
theorem exec_readStatus {Result : Type} (next : U32 → TwiProgram Result) :
    exec serveTwi (readStatus >>= next) controller =
      exec serveTwi (next controller.status) controller := rfl

@[simp]
theorem exec_readData {Result : Type} (next : U32 → TwiProgram Result) :
    exec serveTwi (readData >>= next) controller =
      exec serveTwi (next controller.data) controller := rfl

@[simp]
theorem exec_writeCtl {Result : Type} (value : U32) (next : Unit → TwiProgram Result) :
    exec serveTwi (writeCtl value >>= next) controller =
      exec serveTwi (next ()) (controller.putCtl value) := rfl

@[simp]
theorem exec_writeEft {Result : Type} (value : U32) (next : Unit → TwiProgram Result) :
    exec serveTwi (writeEft value >>= next) controller =
      exec serveTwi (next ()) controller := rfl

@[simp]
theorem exec_writeSrst {Result : Type} (value : U32) (next : Unit → TwiProgram Result) :
    exec serveTwi (writeSrst value >>= next) controller =
      exec serveTwi (next ()) controller.reset := rfl

@[simp]
theorem exec_writeData {Result : Type} (value : U32) (next : Unit → TwiProgram Result) :
    exec serveTwi (writeData value >>= next) controller =
      exec serveTwi (next ()) { controller with data := value } := rfl

/-- The controller when the step that is under way is done -/
def TwiController.settled (controller : TwiController) (status data : U32) : TwiController :=
  { controller with
    ctl := controller.withoutRequests
    status := status
    data := data
    phase := .up }

theorem Kept.refl (controller : TwiController) : Kept controller controller := ⟨rfl, id⟩

theorem Kept.trans {before between after : TwiController} (first : Kept before between)
    (second : Kept between after) : Kept before after :=
  ⟨second.bus.trans first.bus, fun stop => second.stop (first.stop stop)⟩

theorem withoutRequests_stop (controller : TwiController) :
    controller.withoutRequests.getLsbD 4 = false := by
  unfold TwiController.withoutRequests
  simp

theorem withoutRequests_start (controller : TwiController) :
    controller.withoutRequests.getLsbD 5 = false := by
  unfold TwiController.withoutRequests
  simp

theorem withoutRequests_acking (controller : TwiController) :
    controller.withoutRequests.getLsbD 2 = controller.ctl.getLsbD 2 := by
  unfold TwiController.withoutRequests
  simp

theorem kept_tick (controller : TwiController) : Kept controller controller.tick := by
  unfold TwiController.tick
  split
  · exact ⟨rfl, fun _ => withoutRequests_stop controller⟩
  · exact ⟨rfl, id⟩
  · exact .refl controller

theorem tick_reset (controller : TwiController) : controller.reset.tick = controller.reset := rfl

theorem tick_up (up : controller.phase = .up) : controller.tick = controller := by
  unfold TwiController.tick
  rw [up]

theorem shown_stop : controller.shownCtl.getLsbD 4 = controller.ctl.getLsbD 4 := by
  unfold TwiController.shownCtl
  split
  · simp
  · simp

theorem shown_start : controller.shownCtl.getLsbD 5 = controller.ctl.getLsbD 5 := by
  unfold TwiController.shownCtl
  split
  · simp
  · simp

theorem shown_acking : controller.shownCtl.getLsbD 2 = controller.ctl.getLsbD 2 := by
  unfold TwiController.shownCtl
  split
  · simp
  · simp

theorem shown_flag (up : controller.phase = .up) : controller.shownCtl.getLsbD 3 = true := by
  unfold TwiController.shownCtl
  rw [if_pos up]
  simp

theorem flagDown_up (up : controller.phase = .up) : flagDown controller.shownCtl = false := by
  unfold flagDown TwiController.shownCtl
  rw [if_pos up]
  refine decide_eq_false fun clear => ?_
  have bit := congrArg (fun word : U32 => word.getLsbD 3) clear
  simp at bit

theorem flagDown_not_up (down : controller.phase ≠ .up) : flagDown controller.shownCtl = true := by
  unfold flagDown TwiController.shownCtl
  rw [if_neg down, BitVec.and_assoc]
  exact decide_eq_true (BitVec.and_zero (x := controller.ctl))

/-- A wait of the driver reads only. -/
theorem waitWhile_readCtl_kept (waiting : U32 → Bool) (time : Nat) :
    Kept controller (exec serveTwi (waitWhile readCtl waiting time) controller).2 := by
  induction time generalizing controller with
  | zero => exact .refl controller
  | succ time inductionHypothesis =>
    rw [waitWhile, exec_readCtl]
    split
    · exact (kept_tick controller).trans inductionHypothesis
    · exact kept_tick controller

/-- The status does not change while it is read. -/
theorem exec_waitStatus (waiting : U32 → Bool) {time : Nat} (long : 2 ≤ time) :
    exec serveTwi (waitWhile readStatus waiting time) controller =
      (!waiting controller.status, controller) := by
  obtain ⟨time, rfl⟩ := Nat.exists_eq_add_of_le' long
  by_cases waits : waiting controller.status
  · have never : ∀ left, exec serveTwi (waitWhile readStatus waiting left) controller =
        (false, controller) := by
      intro left
      induction left with
      | zero => rfl
      | succ left inductionHypothesis =>
        rw [waitWhile, exec_readStatus, if_pos waits, inductionHypothesis]
    rw [never, waits]
    rfl
  · rw [waitWhile, exec_readStatus, if_neg waits, eq_false_of_ne_true waits]
    rfl

/-- The flag is up. -/
theorem exec_waitFlag_up (up : controller.phase = .up) {time : Nat} (long : 2 ≤ time) :
    exec serveTwi (waitWhile readCtl flagDown time) controller = (true, controller) := by
  obtain ⟨time, rfl⟩ := Nat.exists_eq_add_of_le' long
  rw [waitWhile, exec_readCtl, tick_up up, flagDown_up up]
  rfl

/-- The flag is waited for until the step that is under way is done, or the time is over. -/
theorem exec_waitFlag_busy {left : Option Nat} {status data : U32}
    (busy : controller.phase = .busy left status data)
    (stop : controller.ctl.getLsbD 4 = false) (time : Nat) :
    left ≠ none ∧ exec serveTwi (waitWhile readCtl flagDown time) controller =
        (true, controller.settled status data) ∨
      (∃ after, exec serveTwi (waitWhile readCtl flagDown time) controller =
          (false, after) ∧ Kept controller after) ∧
        ∀ count, left = some count → time ≤ count + 1 := by
  induction time generalizing controller left with
  | zero => exact .inr ⟨⟨controller, rfl, .refl controller⟩, fun count _ => Nat.zero_le _⟩
  | succ time inductionHypothesis =>
    rw [waitWhile, exec_readCtl]
    match left with
    | none =>
      have still : controller.tick = controller := by
        unfold TwiController.tick
        rw [busy]
      have down : controller.phase ≠ .up := by
        rw [busy]
        exact Phase.noConfusion
      rw [still, flagDown_not_up down, if_pos rfl]
      rcases inductionHypothesis busy stop with ⟨ends, _⟩ | ⟨never, _⟩
      · exact absurd rfl ends
      · exact .inr ⟨never, fun count same => nomatch same⟩
    | some 0 =>
      have done : controller.tick = controller.settled status data := by
        unfold TwiController.tick TwiController.settled
        rw [busy]
        dsimp only
        rw [stop, if_neg Bool.false_ne_true]
      have up : (controller.settled status data).phase = .up := rfl
      rw [done, flagDown_up up, if_neg Bool.false_ne_true]
      rcases Nat.eq_zero_or_pos time with rfl | more
      · refine .inr ⟨⟨controller.settled status data, rfl, rfl, fun _ => ?_⟩, fun count _ => ?_⟩
        · exact withoutRequests_stop controller
        · exact Nat.succ_le_succ (Nat.zero_le count)
      · refine .inl ⟨Option.some_ne_none 0, ?_⟩
        rw [decide_eq_true more]
        rfl
    | some (count + 1) =>
      have early : controller.tick =
          { controller with phase := .busy (some count) status data } := by
        unfold TwiController.tick
        rw [busy]
      have down : controller.tick.phase ≠ .up := by
        rw [early]
        exact Phase.noConfusion
      rw [flagDown_not_up down, if_pos rfl, early]
      have later : ({ controller with phase := .busy (some count) status data } :
        TwiController).phase = .busy (some count) status data := rfl
      rcases inductionHypothesis later stop with ⟨_, ends⟩ | ⟨⟨after, ends, kept⟩, late⟩
      · exact .inl ⟨Option.some_ne_none _, ends⟩
      · refine .inr ⟨⟨after, ends, kept.bus, kept.stop⟩, fun other same => ?_⟩
        have known := late count rfl
        have counts := Option.some.inj same
        omega

/-! ### The end of a step -/

theorem neg_setWidth_ne_zero {status : U32} (some : status ≠ 0) :
    -(status.setWidth 64 : Ulong) ≠ 0 := by
  intro zero
  have same : (status.setWidth 64 : Ulong) = 0 := BitVec.neg_eq_zero_iff.mp zero
  have number := congrArg BitVec.toNat same
  rw [BitVec.toNat_setWidth, Nat.mod_eq_of_lt (by omega)] at number
  exact some (BitVec.eq_of_toNat_eq number)

/-- Where no step was taken, the status has to be the one that is shown already. -/
theorem exec_finishStep_up (up : controller.phase = .up) {status : U32} (some : status ≠ 0)
    (other : controller.status ≠ status) {time : Nat} (long : 2 ≤ time) :
    ∃ ret, ret ≠ 0 ∧ exec serveTwi (finishStep time status) controller =
      (ret, controller) := by
  refine ⟨-status.setWidth 64, neg_setWidth_ne_zero some, ?_⟩
  unfold finishStep
  rw [exec_bind, exec_waitFlag_up up long]
  dsimp only
  rw [if_neg (by decide), exec_readStatus, if_pos other]
  rfl

variable {expected : Expected} {before : TwiController} {early : Nat} {data : U32}

/-- A step that is done was acknowledged if it has left the status that was expected. -/
theorem took_settled (way : UnderWay expected early data before controller)
    (answered : before.answer.delay ≠ none)
    (acknowledged : before.answer.status = expected.status) :
    Took expected before (controller.settled before.answer.status data) where
  bus := way.bus
  delay := answered
  acknowledged := acknowledged
  answers := way.answers
  clears := way.clears
  ready := ⟨rfl, withoutRequests_stop controller, withoutRequests_start controller⟩
  status := acknowledged
  mode := way.mode
  acking := (withoutRequests_acking controller).trans way.acking
  data := way.data
  flag := way.flag

theorem failed_settled (way : UnderWay expected early data before controller)
    (other : before.answer.status ≠ expected.status) :
    Failed expected before (controller.settled before.answer.status data) where
  bus := .inr way.bus
  stop := withoutRequests_stop controller
  refused := fun willing => other willing.2.2

/-- A step that was set going is waited for: it is taken and acknowledged, or done with another
status, or the time is over. -/
theorem UnderWay.waited (way : UnderWay expected early data before controller) (soon : early ≤ 1)
    {time : Nat} (long : 3 ≤ time) :
    (∃ after, exec serveTwi (waitWhile readCtl flagDown time) controller = (true, after) ∧
        Took expected before after ∧ after.data = data) ∨
      (∃ after, exec serveTwi (waitWhile readCtl flagDown time) controller =
          (true, after) ∧ after.status ≠ expected.status ∧ Failed expected before after) ∨
      ∃ after, exec serveTwi (waitWhile readCtl flagDown time) controller =
        (false, after) ∧ Failed expected before after := by
  rcases exec_waitFlag_busy way.phase way.stop time with
    ⟨ends, ran⟩ | ⟨⟨after, ran, kept⟩, late⟩
  · have answered : before.answer.delay ≠ none := by
      intro never
      rw [never] at ends
      exact ends rfl
    by_cases acknowledged : before.answer.status = expected.status
    · exact .inl ⟨_, ran, took_settled way answered acknowledged, rfl⟩
    · exact .inr (.inl ⟨_, ran, acknowledged, failed_settled way acknowledged⟩)
  · refine .inr (.inr ⟨after, ran, .inr (kept.bus.trans way.bus), kept.stop way.stop, ?_⟩)
    rintro ⟨_, prompt, _⟩
    have known := late (0 + early) (by rw [prompt]; rfl)
    omega

/-- The program performs the expected step, or returns an error. -/
def Performs (program : TwiProgram Ulong) (expected : Expected)
    (before controller : TwiController) : Prop :=
  (∃ after, exec serveTwi program controller = (0, after) ∧ Took expected before after) ∨
    ∃ ret after, exec serveTwi program controller = (ret, after) ∧ ret ≠ 0 ∧
      Failed expected before after

theorem performs_finishStep (way : UnderWay expected 1 data before controller)
    (some : expected.status ≠ 0) {time : Nat} (long : 3 ≤ time) :
    Performs (finishStep time expected.status) expected before controller := by
  unfold Performs finishStep
  rw [exec_bind]
  rcases way.waited (Nat.le_refl 1) long with
    ⟨after, ran, took, _⟩ | ⟨after, ran, other, failed⟩ | ⟨after, ran, failed⟩
  · rw [ran]
    dsimp only
    rw [if_neg (by decide), exec_readStatus, if_neg (not_not.mpr took.status)]
    exact .inl ⟨after, rfl, took⟩
  · rw [ran]
    dsimp only
    rw [if_neg (by decide), exec_readStatus, if_pos other]
    exact .inr ⟨_, after, rfl, neg_setWidth_ne_zero some, failed⟩
  · rw [ran]
    exact .inr ⟨-twiNokTout, after, rfl, by decide, failed⟩

/-! ### Steps that are set going -/

/-- A START that was not asked for yet -/
theorem underWay_start {value : U32} (asked : value.getLsbD 5 = true)
    (fresh : controller.ctl.getLsbD 5 = false) (stop : value.getLsbD 4 = false)
    (acking : value.getLsbD 2 = controller.ctl.getLsbD 2) (status : U32) :
    UnderWay (.start status) 1 controller.data controller (controller.putCtl value) := by
  have start : controller.putCtl value =
      { controller with ctl := value, mode := .address }.begin (fun _ => .start)
        fun _ => controller.data :=
    if_pos ⟨asked, by rw [fresh]; exact Bool.false_ne_true⟩
  rw [start]
  exact ⟨rfl, rfl, rfl, rfl, stop, rfl, acking, fun byte member => absurd member List.not_mem_nil,
    fun moves => absurd moves Bool.false_ne_true⟩

/-- The flag is up, nothing is asked for, and the write clears the flag. -/
theorem putCtl_byte (ready : Ready controller) {value : U32} {flag : Bool}
    (bit : value.getLsbD 3 = flag) (stop : value.getLsbD 4 = false)
    (start : value.getLsbD 5 = false) (clears : controller.clears flag = true) :
    controller.putCtl value = { controller with ctl := value }.moveByte := by
  subst bit
  unfold TwiController.putCtl
  rw [if_neg (by rw [start]; exact fun asked => Bool.false_ne_true asked.1),
    if_neg (by rw [stop]; exact fun asked => Bool.false_ne_true asked.1),
    if_pos ⟨ready.phase, clears⟩]

/-- Nothing is asked for that was not before, and the flag is not up or not cleared by the write. -/
theorem putCtl_nothing {value : U32} {flag : Bool} (bit : value.getLsbD 3 = flag)
    (stop : value.getLsbD 4 = true → controller.ctl.getLsbD 4 = true)
    (start : value.getLsbD 5 = true → controller.ctl.getLsbD 5 = true)
    (still : ¬(controller.phase = .up ∧ controller.clears flag = true)) :
    controller.putCtl value = { controller with ctl := value } := by
  subst bit
  unfold TwiController.putCtl
  rw [if_neg fun asked => asked.2 (start asked.1), if_neg fun asked => asked.2 (stop asked.1),
    if_neg still]

theorem moveByte_receive (mode : controller.mode = .receive) :
    controller.moveByte =
      controller.begin (fun answer => .received answer.byte (controller.ctl.getLsbD 2))
        fun answer => answer.byte.setWidth 32 := by
  unfold TwiController.moveByte
  rw [mode]

/-- What is put on the bus does not depend on whether the byte is an address. -/
theorem moveByte_send (mode : controller.mode ≠ .receive) (status : U32) :
    controller.moveByte =
      { controller with
        mode := (Expected.send controller.dataByte status).mode controller.mode }.begin
          (fun _ => .sent controller.dataByte) fun _ => controller.data := by
  unfold TwiController.moveByte Expected.mode
  cases kind : controller.mode with
  | receive => exact absurd kind mode
  | address => rfl
  | idle =>
    dsimp only
    rw [← kind]
  | transmit =>
    dsimp only
    rw [← kind]

theorem underWay_send (ready : Ready controller) (mode : controller.mode ≠ .receive) (word : U32)
    {value : U32} (bit : value.getLsbD 3 = true) (stop : value.getLsbD 4 = false)
    (start : value.getLsbD 5 = false) (clears : controller.clears true = true)
    (acking : value.getLsbD 2 = controller.ctl.getLsbD 2) (status : U32) :
    UnderWay (.send (word.setWidth 8) status) 1 word controller
      ({ controller with data := word }.putCtl value) := by
  have ready' : Ready { controller with data := word } := ⟨ready.phase, ready.stop, ready.start⟩
  have mode' : ({ controller with data := word, ctl := value } : TwiController).mode ≠ .receive :=
    mode
  rw [putCtl_byte ready' bit stop start clears, moveByte_send mode' status]
  exact ⟨rfl, rfl, rfl, rfl, stop, rfl, acking, fun byte member => absurd member List.not_mem_nil,
    fun _ => clears⟩

theorem underWay_receive (ready : Ready controller) (mode : controller.mode = .receive)
    {value : U32} {flag : Bool} (bit : value.getLsbD 3 = flag) (stop : value.getLsbD 4 = false)
    (start : value.getLsbD 5 = false) (clears : controller.clears flag = true)
    (sends : controller.clears true = true) (status : U32) :
    UnderWay (.receive (value.getLsbD 2) status) 1 (controller.answer.byte.setWidth 32) controller
      (controller.putCtl value) := by
  have mode' : ({ controller with ctl := value } : TwiController).mode = .receive := mode
  rw [putCtl_byte ready bit stop start clears, moveByte_receive mode']
  refine ⟨rfl, rfl, rfl, rfl, stop, rfl, rfl, fun byte member => ?_, fun _ => sends⟩
  rw [List.mem_singleton.mp member]

/-- A write while the step is under way; the read before it is one of those to come. -/
theorem UnderWay.again (way : UnderWay expected 1 data before controller) :
    UnderWay expected 0 data before
      (controller.tick.putCtl (controller.tick.shownCtl &&& 0xf7)) := by
  have ticked : controller.tick = { controller with
      phase := .busy before.answer.delay before.answer.status data } := by
    have busy := way.phase
    unfold TwiController.tick
    rw [busy]
    cases delay : before.answer.delay with
    | none =>
      rw [delay] at busy
      exact congrArg (fun phase => { controller with phase := phase }) busy
    | some count => rfl
  generalize written : controller.tick.shownCtl &&& 0xf7 = value
  have stop : value.getLsbD 4 = controller.tick.ctl.getLsbD 4 := by
    rw [← written, BitVec.getLsbD_and, shown_stop]
    exact Bool.and_true _
  have start : value.getLsbD 5 = controller.tick.ctl.getLsbD 5 := by
    rw [← written, BitVec.getLsbD_and, shown_start]
    exact Bool.and_true _
  have acking : value.getLsbD 2 = controller.tick.ctl.getLsbD 2 := by
    rw [← written, BitVec.getLsbD_and, shown_acking]
    exact Bool.and_true _
  have still : ¬(controller.tick.phase = .up ∧
      controller.tick.clears (value.getLsbD 3) = true) := by
    rw [ticked]
    exact fun taken => nomatch taken.1
  rw [putCtl_nothing rfl (fun set => stop.symm.trans set) (fun set => start.symm.trans set) still]
  rw [ticked] at stop acking ⊢
  refine ⟨way.bus, ?_, way.answers, way.clears, stop.trans way.stop, way.mode,
    acking.trans way.acking, way.data, way.flag⟩
  cases before.answer.delay with
  | none | some => rfl

/-! ### The steps of the driver -/

theorem underWay_asked_start (controller : TwiController)
    (start : controller.ctl.getLsbD 5 = false) (stop : controller.ctl.getLsbD 4 = false)
    (status : U32) :
    UnderWay (.start status) 1 controller.data controller
      (controller.putCtl (controller.shownCtl ||| 0x20)) := by
  refine underWay_start ?_ start ?_ ?_ status
  · rw [BitVec.getLsbD_or, shown_start, start]
    rfl
  · rw [BitVec.getLsbD_or, shown_stop, stop]
    rfl
  · rw [BitVec.getLsbD_or, shown_acking]
    exact Bool.or_false _

/-- A START behind a soft reset is one behind what was before it. -/
theorem underWay_start_of_reset {status : U32} {after : TwiController}
    (way : UnderWay (.start status) 1 data controller.reset after) :
    UnderWay (.start status) 1 data controller after where
  bus := way.bus
  phase := way.phase
  answers := way.answers
  clears := way.clears
  stop := way.stop
  mode := way.mode
  acking := way.acking.trans (withoutRequests_acking controller)
  data := way.data
  flag := way.flag

theorem Performs.of_exec {program other : TwiProgram Ulong} {origin : TwiController}
    (performs : Performs other expected before origin)
    (same : exec serveTwi program controller = exec serveTwi other origin) :
    Performs program expected before controller := by
  unfold Performs at performs ⊢
  rw [same]
  exact performs

theorem performs_sendStart (controller : TwiController) :
    Performs sunxiTwiSendStart (.start twiStartTransmit) controller controller := by
  have going : UnderWay (.start twiStartTransmit) 1 controller.reset.data controller.reset
      (controller.reset.putCtl (controller.reset.shownCtl ||| 0x20)) :=
    underWay_asked_start controller.reset (withoutRequests_start controller)
      (withoutRequests_stop controller) twiStartTransmit
  have way := underWay_start_of_reset going
  have long : 3 ≤ 0xfffff := by decide
  have performs := performs_finishStep way (by decide) long
  refine performs.of_exec ?_
  unfold sunxiTwiSendStart
  rw [exec_writeEft, exec_writeSrst, exec_readCtl, exec_writeCtl, tick_reset]
  rfl

theorem performs_sendRestart (ready : Ready controller) :
    Performs sunxiTwiSendRestart (.start twiRestartTransmit) controller controller := by
  have going := underWay_asked_start controller ready.start ready.stop twiRestartTransmit
  have long : 3 ≤ 0xffff := by decide
  refine (performs_finishStep going (by decide) long).of_exec ?_
  unfold sunxiTwiSendRestart
  rw [exec_readCtl, exec_writeCtl, tick_up ready.phase]
  rfl

/-- The bits that are written with the flag -/
theorem flag_written (ready : Ready controller) :
    (controller.shownCtl ||| 0x08).getLsbD 3 = true ∧
      (controller.shownCtl ||| 0x08).getLsbD 4 = false ∧
      (controller.shownCtl ||| 0x08).getLsbD 5 = false ∧
      (controller.shownCtl ||| 0x08).getLsbD 2 = controller.ctl.getLsbD 2 := by
  refine ⟨?_, ?_, ?_, ?_⟩
  · rw [BitVec.getLsbD_or]
    exact Bool.or_true _
  · rw [BitVec.getLsbD_or, shown_stop, ready.stop]
    rfl
  · rw [BitVec.getLsbD_or, shown_start, ready.start]
    rfl
  · rw [BitVec.getLsbD_or, shown_acking]
    exact Bool.or_false _

/-- A step that the controller does not take as the flag is not cleared, and that is asked for a
status which is not there -/
theorem failed_of_still (expected : Expected) (ready : Ready controller) {value : U32} {flag : Bool}
    (bit : value.getLsbD 3 = flag) (stop : value.getLsbD 4 = false)
    (start : value.getLsbD 5 = false) (still : controller.clears flag = false) (word : U32) :
    (({ controller with data := word }.putCtl value).phase = .up ∧
      ({ controller with data := word }.putCtl value).status = controller.status) ∧
      Failed expected controller ({ controller with data := word }.putCtl value) := by
  have same : ({ controller with data := word } : TwiController).putCtl value =
      { controller with data := word, ctl := value } :=
    putCtl_nothing bit (fun set => absurd (stop.symm.trans set) Bool.false_ne_true)
      (fun set => absurd (start.symm.trans set) Bool.false_ne_true)
      fun taken => Bool.false_ne_true (still.symm.trans taken.2)
  rw [same]
  refine ⟨⟨ready.phase, rfl⟩, .inl rfl, stop, fun willing => ?_⟩
  exact Bool.false_ne_true (still.symm.trans (willing.1 _))

/-- A byte that is sent; the status has to change if the controller does not take the step. -/
theorem performs_sendByte (ready : Ready controller) (mode : controller.mode ≠ .receive)
    (word status : U32) (some : status ≠ 0)
    (fresh : controller.clears true = true ∨ controller.status ≠ status) :
    Performs
      (do
        writeData word
        let ctl ← readCtl
        writeCtl (ctl ||| 0x08)
        finishStep 0xffff status)
      (.send (word.setWidth 8) status) controller controller := by
  obtain ⟨flag, stop, start, acking⟩ := flag_written ready
  have ready' : Ready { controller with data := word } := ⟨ready.phase, ready.stop, ready.start⟩
  have ran : exec serveTwi
      (do
        writeData word
        let ctl ← readCtl
        writeCtl (ctl ||| 0x08)
        finishStep 0xffff status) controller =
      exec serveTwi (finishStep 0xffff status)
        ({ controller with data := word }.putCtl (controller.shownCtl ||| 0x08)) := by
    rw [exec_writeData, exec_readCtl, exec_writeCtl, tick_up ready'.phase]
    rfl
  cases clears : controller.clears true with
  | true =>
    have way := underWay_send ready mode word flag stop start clears acking status
    have long : 3 ≤ 0xffff := by decide
    exact (performs_finishStep way some long).of_exec ran
  | false =>
    obtain ⟨⟨up, shown⟩, failed⟩ :=
      failed_of_still (.send (word.setWidth 8) status) ready flag stop start clears word
    have other : ({ controller with data := word }.putCtl
        (controller.shownCtl ||| 0x08)).status ≠ status := by
      rw [shown]
      rcases fresh with taken | other
      · exact absurd (clears.symm.trans taken) Bool.false_ne_true
      · exact other
    have long : 2 ≤ 0xffff := by decide
    obtain ⟨ret, wrong, finished⟩ := exec_finishStep_up up some other long
    exact .inr ⟨ret, _, ran.trans finished, wrong, failed⟩

/-- Of the address of the chip seven bits reach the data register. -/
theorem slaveAddr_byte (chip bit : Ulong) :
    ((((chip &&& 0xff) <<< 1) ||| bit).setWidth 32 : U32).setWidth 8 =
      (((chip <<< 1) ||| bit).setWidth 8 : U8) := by
  refine BitVec.eq_of_getLsbD_eq fun place inside => ?_
  have mask : (0xff : Ulong).getLsbD (place - 1) = true := by
    have low : ∀ low < 8, (0xff : Ulong).getLsbD low = true := by decide
    exact low _ (by omega)
  have within : place < 32 := by omega
  simp only [BitVec.getLsbD_setWidth, BitVec.getLsbD_or, BitVec.getLsbD_shiftLeft,
    BitVec.getLsbD_and, mask, Bool.and_true, decide_eq_true inside, decide_eq_true within,
    Bool.true_and]

theorem byteAddr_byte (byte : U8) :
    ((((byte.setWidth 64 : Ulong) &&& 0xff).setWidth 32 : U32).setWidth 8) = byte := by
  revert byte
  decide +kernel

theorem performs_sendSlaveAddr (ready : Ready controller) (mode : controller.mode ≠ .receive)
    (chip : Ulong) (reading : Bool)
    (fresh : controller.clears true = true ∨
      controller.status ≠ if reading then twiAddrreadAck else twiAddrwriteAck) :
    Performs (sunxiTwiSendSlaveAddr chip reading)
      (.send (((chip <<< 1) ||| if reading then 1 else 0).setWidth 8)
        (if reading then twiAddrreadAck else twiAddrwriteAck)) controller controller := by
  have some : (if reading then twiAddrreadAck else twiAddrwriteAck) ≠ 0 := by
    cases reading <;> decide
  rw [← slaveAddr_byte]
  exact performs_sendByte ready mode _ _ some fresh

theorem performs_sendByteAddr (ready : Ready controller) (mode : controller.mode ≠ .receive)
    (clears : controller.clears true = true) (byte : U8) :
    Performs (sunxiTwiSendByteAddr (byte.setWidth 64)) (.send byte twiDatawriteAck) controller
      controller := by
  have performs := performs_sendByte ready mode (((byte.setWidth 64 : Ulong) &&& 0xff).setWidth 32)
    twiDatawriteAck (by decide) (.inl clears)
  rw [byteAddr_byte] at performs
  exact performs

end Waiting

/-! ### Sequences -/

/-- The controller talks to a chip in a direction: it is ready, has the bit that acknowledges a
byte, and has received so much. -/
structure Talking (mode : Mode) (acking : Bool) (received : List U8) (controller : TwiController) :
    Prop where
  ready : Ready controller
  mode : controller.mode = mode
  clears : controller.clears true = true
  acking : controller.ctl.getLsbD 2 = acking
  received : controller.received = received

/-- The program performs the expected steps one after the other until it returns an error, and if it
returns none, the controller is as said. -/
def Leads (program : TwiProgram Ulong) (items : List Expected) (afterwards : TwiController → Prop)
    (before : TwiController) : Prop :=
  ∃ ret after, exec serveTwi program before = (ret, after) ∧
    Script Took Failed items before after (decide (ret = 0)) ∧ (ret = 0 → afterwards after)

theorem Took.received {expected : Expected} {before after : TwiController}
    (took : Took expected before after) :
    after.received = before.received ++ expected.brings before.answer := by
  unfold TwiController.received
  rw [took.bus, List.filterMap_append]
  cases expected with
  | start | send | receive => rfl

section Sequences

variable {program next : TwiProgram Ulong} {items more : List Expected}
  {middle afterwards : TwiController → Prop} {controller : TwiController} {expected : Expected}

theorem Performs.leads (performs : Performs program expected controller controller)
    (post : ∀ after, Took expected controller after → afterwards after) :
    Leads program [expected] afterwards controller := by
  rcases performs with ⟨after, ran, took⟩ | ⟨ret, after, ran, wrong, failed⟩
  · exact ⟨0, after, ran, .single took, fun _ => post after took⟩
  · refine ⟨ret, after, ran, ?_, fun right => absurd right wrong⟩
    rw [decide_eq_false wrong]
    exact .fails failed

/-- `if (ret) goto` behind the first part -/
theorem Leads.andThen (first : Leads program items middle controller)
    (rest : ∀ between, middle between → Leads next more afterwards between) :
    Leads
      (do
        let ret ← program
        if ret ≠ 0 then
          return ret
        next)
      (items ++ more) afterwards controller := by
  obtain ⟨ret, between, ran, script, post⟩ := first
  by_cases right : ret = 0
  · obtain ⟨last, after, ends, more, posts⟩ := rest between (post right)
    refine ⟨last, after, ?_, ?_, posts⟩
    · rw [exec_bind, ran]
      dsimp only
      rw [if_neg (not_not.mpr right)]
      exact ends
    · rw [decide_eq_true right] at script
      exact script.append more
  · refine ⟨ret, between, ?_, ?_, fun zero => absurd zero right⟩
    · rw [exec_bind, ran]
      dsimp only
      rw [if_pos right]
      rfl
    · rw [decide_eq_false right] at script ⊢
      exact script.append_fails more

/-- A byte that was sent in the middle of a transfer -/
theorem Took.talking_send {acking : Bool} {received : List U8} {byte : U8} {status : U32}
    {after : TwiController} (took : Took (.send byte status) controller after)
    (talking : Talking .transmit acking received controller) :
    Talking .transmit acking received after where
  ready := took.ready
  mode := by
    rw [took.mode, talking.mode]
    rfl
  clears := by rw [took.clears]; exact talking.clears
  acking := took.acking.trans talking.acking
  received := by
    rw [took.received, talking.received]
    exact List.append_nil _

theorem leads_sendAddrBytes {acking : Bool} {received : List U8} (addr : Ulong) (high : Nat)
    (talking : Talking .transmit acking received controller) :
    Leads (sendAddrBytes addr high)
      ((addressBytes addr (high + 1)).map fun byte => .send byte twiDatawriteAck)
      (Talking .transmit acking received) controller := by
  have sends : ∀ (index : Nat) {controller : TwiController},
      Talking .transmit acking received controller →
      Leads (sunxiTwiSendByteAddr ((slaveReg addr index).setWidth 64))
        [.send (slaveReg addr index) twiDatawriteAck] (Talking .transmit acking received)
        controller := by
    intro index controller talking
    have mode : controller.mode ≠ .receive := by
      rw [talking.mode]
      exact fun same => nomatch same
    exact (performs_sendByteAddr talking.ready mode talking.clears _).leads
      fun after took => took.talking_send talking
  induction high generalizing controller with
  | zero => exact sends 0 talking
  | succ high inductionHypothesis =>
    have bytes : (addressBytes addr (high + 1 + 1)).map
          (fun byte => Expected.send byte twiDatawriteAck) =
        [.send (slaveReg addr (high + 1)) twiDatawriteAck] ++
          (addressBytes addr (high + 1)).map fun byte => .send byte twiDatawriteAck := by
      unfold addressBytes
      rw [List.range_succ, List.reverse_append]
      rfl
    rw [bytes]
    exact (sends (high + 1) talking).andThen fun between talking => inductionHypothesis talking

theorem addrSize_succ {addrLen : Ulong} (some : 1 ≤ addrLen.toNat) (few : addrLen.toNat ≤ 3) :
    addrLen.toNat = addrSize addrLen + 1 := by
  have three : (3 : Ulong).toNat = 3 := rfl
  have one : (1 : Ulong).toNat = 1 := rfl
  unfold addrSize
  simp only [ge_iff_le, BitVec.le_def, three, one]
  split
  · omega
  · split
    · omega
    · omega

/-- The lowest bit of the first byte is the direction. -/
theorem slaveAddr_mode (chip : Ulong) (reading : Bool) (status : U32) :
    (Expected.send (((chip <<< 1) ||| if reading then 1 else 0).setWidth 8) status).mode .address =
      if reading then .receive else .transmit := by
  have bit : ((((chip <<< 1) ||| if reading then 1 else 0).setWidth 8 : U8)).getLsbD 0 =
      reading := by
    rw [BitVec.getLsbD_setWidth, BitVec.getLsbD_or, BitVec.getLsbD_shiftLeft]
    cases reading <;> rfl
  show (if _ then _ else _) = _
  rw [bit]

/-- The address of the chip behind a START; the status of the START is not the one that is asked
for. -/
theorem leads_sendSlaveAddr (ready : Ready controller) (mode : controller.mode = .address)
    (chip : Ulong) (reading : Bool)
    (fresh : controller.status ≠ if reading then twiAddrreadAck else twiAddrwriteAck) :
    Leads (sunxiTwiSendSlaveAddr chip reading)
      [.send (((chip <<< 1) ||| if reading then 1 else 0).setWidth 8)
        (if reading then twiAddrreadAck else twiAddrwriteAck)]
      (fun after =>
        Talking (if reading then .receive else .transmit) (controller.ctl.getLsbD 2)
            controller.received after ∧
          after.status = if reading then twiAddrreadAck else twiAddrwriteAck) controller := by
  have sends : controller.mode ≠ .receive := by
    rw [mode]
    exact fun same => nomatch same
  refine (performs_sendSlaveAddr ready sends chip reading (.inr fresh)).leads fun after took =>
    ⟨⟨took.ready, ?_, ?_, took.acking, ?_⟩, took.status⟩
  · rw [took.mode, mode]
    exact slaveAddr_mode chip reading _
  · rw [took.clears]
    exact took.flag rfl
  · rw [took.received]
    exact List.append_nil _

/-- START, the chip and the address bytes, from any state of the controller -/
theorem leads_sendAddress (controller : TwiController) (chip addr : Ulong) {addrLen : Ulong}
    (some : 1 ≤ addrLen.toNat) (few : addrLen.toNat ≤ 3) :
    Leads (sendAddress chip addr addrLen) (addressed chip addr addrLen.toNat)
      (Talking .transmit (controller.ctl.getLsbD 2) controller.received) controller := by
  have first : Leads sunxiTwiSendStart [.start twiStartTransmit]
      (Took (.start twiStartTransmit) controller) controller :=
    (performs_sendStart controller).leads fun after took => took
  rw [addrSize_succ some few]
  refine first.andThen fun started took => ?_
  have fresh : started.status ≠ twiAddrwriteAck := by
    rw [took.status]
    decide
  have second := leads_sendSlaveAddr took.ready took.mode chip false fresh
  have chipByte : (((chip <<< 1) ||| if false then 1 else 0).setWidth 8 : U8) =
      (chip <<< 1).setWidth 8 :=
    congrArg (BitVec.setWidth 8) BitVec.or_zero
  rw [chipByte] at second
  refine second.andThen fun between talking => ?_
  have same : started.received = controller.received := by
    rw [took.received]
    exact List.append_nil _
  have bit : started.ctl.getLsbD 2 = controller.ctl.getLsbD 2 := took.acking
  have there := talking.1
  rw [same, bit] at there
  exact leads_sendAddrBytes addr (addrSize addrLen) there

/-- The bytes of a write, from one of them on -/
theorem leads_sendData {acking : Bool} {received : List U8} (data : Memory U8) (left i : Nat)
    (talking : Talking .transmit acking received controller) :
    Leads (sunxiTwiSendData data left i)
      ((List.range' i left).map fun i => .send (data i) twiDatawriteAck)
      (Talking .transmit acking received) controller := by
  induction left generalizing i controller with
  | zero => exact ⟨twiOk, controller, rfl, .nil controller, fun _ => talking⟩
  | succ left inductionHypothesis =>
    have mode : controller.mode ≠ .receive := by
      rw [talking.mode]
      exact fun same => nomatch same
    obtain ⟨flag, stop, start, bit⟩ := flag_written talking.ready
    have way := underWay_send talking.ready mode ((data i).setWidth 32) flag stop start
      talking.clears bit twiDatawriteAck
    rw [BitVec.setWidth_setWidth_of_le _ (by decide), BitVec.setWidth_eq] at way
    have long : 3 ≤ 0xffff := by decide
    have up : ({ controller with data := (data i).setWidth 32 } : TwiController).phase = .up :=
      talking.ready.phase
    have shown : ({ controller with data := (data i).setWidth 32 } : TwiController).shownCtl =
        controller.shownCtl := rfl
    unfold Leads
    rw [sunxiTwiSendData, exec_writeData, exec_readCtl, exec_writeCtl, tick_up up, shown,
      List.range'_succ, List.map_cons, exec_bind]
    rcases way.waited (Nat.le_refl 1) long with
      ⟨after, ran, took, _⟩ | ⟨after, ran, other, failed⟩ | ⟨after, ran, failed⟩
    · obtain ⟨ret, last, rest, script, post⟩ :=
        inductionHypothesis (i + 1) (took.talking_send talking)
      refine ⟨ret, last, ?_, .takes took script, post⟩
      rw [ran]
      dsimp only
      rw [if_neg (by decide), exec_bind, exec_waitStatus _ (by decide : 2 ≤ 0xffff),
        took.status]
      exact rest
    · have wrong : after.status ≠ twiDatawriteAck := other
      refine ⟨-twiNokTout, after, ?_, .fails failed, fun right => absurd right (by decide)⟩
      rw [ran]
      dsimp only
      rw [if_neg (by decide), exec_bind, exec_waitStatus _ (by decide : 2 ≤ 0xffff),
        decide_eq_true wrong]
      rfl
    · refine ⟨-twiNokTout, after, ?_, .fails failed, fun right => absurd right (by decide)⟩
      rw [ran]
      rfl

end Sequences

end Twi

end PinePhonePkg
