/-
This file says what each basic command of the core does when it runs against
the card model: the value it returns, as a function of the answer the command
gets, and the world it leaves. The later modules use these equations and do not
look into the command functions again.
-/

import PinePhonePkg.Card.Device
import PinePhonePkg.Mmc.SendStatus

namespace PinePhonePkg

open Library Program

/-! ### Requests -/

theorem serve_sendCmd (cmd : MmcCmd) (data : Option MmcData) (world : World) :
    serve (.sendCmd cmd data) world =
      if cmd.cmdidx = mmcCmdSendStatus then
        (⟨(world.current.status world.polls).1, (world.current.status world.polls).2,
          world.current.bytes⟩, world.polled 1)
      else
        (⟨(world.answer cmd data).error, 0, world.card.fetch cmd (world.answer cmd data)⟩,
          world.command cmd data) := rfl

@[simp]
theorem exec_mmcSendCmd (cmd : MmcCmd) (data : Option MmcData)
    (notStatus : cmd.cmdidx ≠ mmcCmdSendStatus) (world : World) :
    (mmcSendCmd cmd data).exec serve world =
      (⟨(world.answer cmd data).error, 0, world.card.fetch cmd (world.answer cmd data)⟩,
        world.command cmd data) :=
  if_neg notStatus

@[simp]
theorem exec_mmcSetIos (mmc : Mmc) (world : World) :
    (mmcSetIos mmc).exec serve world = ((), world) := by
  unfold mmcSetIos
  split <;> rfl

/-- The clock phase update fails only when the host driver has one. -/
def Answer.phaseResult (answer : Answer) (mmc : Mmc) : Int :=
  if mmc.cfg.hasUpdatePhase then answer.phase else 0

@[simp]
theorem exec_mmcUpdatePhase (mmc : Mmc) (world : World) :
    (mmcUpdatePhase mmc).exec serve world = (world.current.phaseResult mmc, world) := by
  unfold mmcUpdatePhase Answer.phaseResult
  split <;> rfl

/-! ### Requests that leave the card alone -/

/-- A command that neither writes a register nor transfers nor erases. -/
def MmcCmd.Quiet (cmd : MmcCmd) : Prop :=
  cmd.cmdidx ∈ [mmcCmdSendExtCsd, mmcCmdStopTransmission, mmcCmdSendStatus, mmcCmdSetBlocklen]

/-- A request that leaves the card as it is -/
def Request.Quiet : Request → Prop
  | .sendCmd cmd _ => cmd.Quiet
  | _ => True

theorem perform_quiet (card : Card) (cmd : MmcCmd) (quiet : cmd.Quiet) (data : Option MmcData)
    (answer : Answer) : card.perform cmd data answer = card := by
  unfold MmcCmd.Quiet at quiet
  unfold Card.perform
  simp only [List.mem_cons, List.not_mem_nil, or_false] at quiet
  rcases quiet with equal | equal | equal | equal <;> rw [equal] <;> rfl

theorem sendStatusCmd_quiet (mmc : Mmc) : (sendStatusCmd mmc).Quiet := by
  show mmcCmdSendStatus ∈ _
  decide

theorem setBlocklenCmd_quiet (len : U32) : (setBlocklenCmd len).Quiet := by
  show mmcCmdSetBlocklen ∈ _
  decide

theorem sendExtCsdCmd_quiet : sendExtCsdCmd.Quiet := by
  show mmcCmdSendExtCsd ∈ _
  decide

theorem serve_quiet (request : Request) (quiet : request.Quiet) (world : World) :
    (serve request world).2.card = world.card := by
  cases request with
  | sendCmd cmd data =>
    rw [serve_sendCmd]
    split
    · rfl
    · exact perform_quiet world.card cmd quiet data _
  | setIos | updatePhase | malloc | unsetWord => rfl

/-- A program of quiet requests leaves the card as it was. -/
theorem exec_quiet {Result : Type} {program : Driver Result}
    (quiet : Always (fun _ => True) Request.Quiet (fun _ => True) program)
    (world : World) : (program.exec serve world).2.card = world.card :=
  have keeps (request : Request) (state : World) (allowed : request.Quiet)
      (kept : state.card = world.card) :
      True ∧ (serve request state).2.card = world.card :=
    ⟨trivial, (serve_quiet request allowed state).trans kept⟩
  (quiet.exec serve keeps rfl).2

/-! ### Waiting for the card -/

/-- The waiting loop returns what the status replies that are still to come make of it. -/
theorem exec_mmcSendStatusLoop (mmc : Mmc) (timeout retries : Nat) (world : World) :
    (mmcSendStatusLoop mmc timeout retries).exec serve world =
      ((pollStatus (fun turn => world.current.status (world.polls + turn)) timeout retries).1,
        world.polled
          (pollStatus (fun turn => world.current.status (world.polls + turn)) timeout retries).2) := by
  have polled := exec_statusLoop serve mmc (fun turn => world.current.status (world.polls + turn))
    world.current.bytes world.polled (fun _ => rfl) timeout retries 0
  simp only [Nat.zero_add] at polled
  exact polled

/-- What `mmc_send_status` returns right after the command with this answer. -/
def Answer.statusResult (answer : Answer) (timeout : U32) : Int :=
  (pollStatus answer.status timeout.toNat 5).1

/-- A world in which no status reply to the last command was given yet. -/
def World.Fresh (world : World) : Prop :=
  world.polls = 0

theorem command_fresh (world : World) (cmd : MmcCmd) (data : Option MmcData) :
    (world.command cmd data).Fresh := rfl

theorem exec_mmcSendStatus (mmc : Mmc) (timeout : U32) (world : World) (fresh : world.Fresh) :
    (mmcSendStatus mmc timeout).exec serve world =
      (world.current.statusResult timeout,
        world.polled (pollStatus world.current.status timeout.toNat 5).2) := by
  unfold mmcSendStatus
  rw [exec_mmcSendStatusLoop, fresh]
  simp only [Nat.zero_add]
  rfl

/-! ### Block length and EXT_CSD -/

/-- The data has two edges of the clock. -/
def Mmc.Ddr (mmc : Mmc) : Prop :=
  mmc.speedMode = hs400 ∨ mmc.speedMode = hsddr52Ddr50

instance (mmc : Mmc) : Decidable mmc.Ddr :=
  inferInstanceAs (Decidable (_ ∨ _))

theorem exec_mmcSendExtCsd (world : World) :
    mmcSendExtCsd.exec serve world =
      (((world.answer sendExtCsdCmd (some sendExtCsdData)).error,
          world.card.fetch sendExtCsdCmd (world.answer sendExtCsdCmd (some sendExtCsdData))),
        world.command sendExtCsdCmd (some sendExtCsdData)) := rfl

/-! ### Writing an EXT_CSD byte -/

theorem switchCmd_notStatus (index value : U8) :
    (switchCmd index value).cmdidx ≠ mmcCmdSendStatus := by
  show mmcCmdSwitch ≠ mmcCmdSendStatus
  decide

theorem writeByteMode_low {place : Nat} (low : place < 24) :
    (mmcSwitchModeWriteByte <<< 24).getLsbD place = false := by
  rw [BitVec.getLsbD_shiftLeft, decide_eq_true low]
  simp

theorem switchArg_index (index value : U8) :
    (switchArg index value >>> 16).setWidth 8 = index := by
  ext bit small
  have beyond : value.getLsbD (16 + bit - 8) = false := BitVec.getLsbD_of_ge _ _ (by omega)
  have own : index.getLsbD bit = index[bit] := BitVec.getLsbD_eq_getElem small
  unfold switchArg
  rw [BitVec.getElem_setWidth, BitVec.getLsbD_ushiftRight, BitVec.getLsbD_or, BitVec.getLsbD_or,
    writeByteMode_low (by omega), BitVec.getLsbD_shiftLeft, BitVec.getLsbD_shiftLeft,
    BitVec.getLsbD_setWidth, BitVec.getLsbD_setWidth, beyond, Nat.add_sub_cancel_left, own]
  have length : 16 + bit < 32 := by omega
  have word : bit < 32 := Nat.lt_trans small (by decide)
  simp [length, word]

theorem switchArg_value (index value : U8) :
    (switchArg index value >>> 8).setWidth 8 = value := by
  ext bit small
  have own : value.getLsbD bit = value[bit] := BitVec.getLsbD_eq_getElem small
  unfold switchArg
  rw [BitVec.getElem_setWidth, BitVec.getLsbD_ushiftRight, BitVec.getLsbD_or, BitVec.getLsbD_or,
    writeByteMode_low (by omega), BitVec.getLsbD_shiftLeft, BitVec.getLsbD_shiftLeft,
    BitVec.getLsbD_setWidth, BitVec.getLsbD_setWidth, Nat.add_sub_cancel_left, own]
  have length : 8 + bit < 32 := by omega
  have below : 8 + bit < 16 := by omega
  have word : bit < 32 := Nat.lt_trans small (by decide)
  simp [length, below, word]

/-- CMD6 writes the register it names when the card accepts it. -/
theorem perform_switch (card : Card) (index value : U8) (answer : Answer) :
    card.perform (switchCmd index value) none answer =
      if answer.accepted then card.writeExtCsd index value else card := by
  have written : card.perform (switchCmd index value) none answer =
      if answer.accepted then
        card.writeExtCsd ((switchArg index value >>> 16).setWidth 8)
          ((switchArg index value >>> 8).setWidth 8)
      else card := rfl
  rw [written, switchArg_index, switchArg_value]

/-- What `mmc_do_switch` makes of the answer to its CMD6, with the status replies it takes. -/
def Answer.switchPolls (answer : Answer) (mmc : Mmc) (timeout : U32) : Int × Nat :=
  if answer.phaseResult mmc ≠ 0 then (answer.phaseResult mmc, 0)
  else pollStatus answer.status timeout.toNat 5

/-- What the polls after a switch come to -/
def Answer.switchResult (answer : Answer) (mmc : Mmc) (timeout : U32) : Int :=
  (answer.switchPolls mmc timeout).1

theorem exec_mmcDoSwitch (mmc : Mmc) (index value : U8) (timeout : U32) (world : World) :
    (mmcDoSwitch mmc index value timeout).exec serve world =
      ((world.answer (switchCmd index value) none).switchResult mmc timeout,
        (world.command (switchCmd index value) none).polled
          ((world.answer (switchCmd index value) none).switchPolls mmc timeout).2) := by
  have sent : (mmcSendCmd (switchCmd index value) none).exec serve world =
      (_, world.command (switchCmd index value) none) :=
    exec_mmcSendCmd (switchCmd index value) none (switchCmd_notStatus index value) world
  unfold mmcDoSwitch
  rw [exec_bind, sent, exec_bind, exec_mmcSetIos, exec_bind,
    exec_mmcUpdatePhase, exec_ite, exec_mmcSendStatus _ _ _ (command_fresh _ _ _)]
  unfold Answer.switchResult Answer.switchPolls
  show (if (world.answer (switchCmd index value) none).phaseResult mmc ≠ 0 then _ else _) = _
  split <;> rfl

end PinePhonePkg
