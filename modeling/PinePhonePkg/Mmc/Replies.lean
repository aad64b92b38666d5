/-
This file looks at the commands of the core over every reply they can get. Each
function that only sends commands is known by the requests it may send, and by
what it returns when every request goes well.
-/

import PinePhonePkg.Mmc.Command

namespace PinePhonePkg

open Library Program

/-! ### Replies without an error -/

/-- A CMD13 response of a card that is ready and reports no error. -/
def CardReady (response : U32) : Prop :=
  response &&& mmcStatusRdyForData ≠ 0 ∧ response &&& mmcStatusCurrState ≠ mmcStatePrg ∧
    response &&& mmcStatusSwitchError = 0 ∧ response &&& mmcStatusAddrOutOfRange = 0

/-- A request that went well. -/
def Succeeds : Exchange Request Request.Reply → Prop
  | ⟨.sendCmd cmd _, reply⟩ =>
      reply.error = 0 ∧ (cmd.cmdidx = mmcCmdSendStatus → CardReady reply.response)
  | ⟨.updatePhase, result⟩ => result = 0
  | ⟨.malloc _, memory⟩ => memory.isSome
  | ⟨.setIos _ _ _, _⟩ => True
  | ⟨.unsetWord, _⟩ => True

/-- A server to which every request goes well. -/
def serveWell : (request : Request) → Unit → request.Reply × Unit
  | .sendCmd _ _, state => (⟨0, 0x900, fun _ => 0⟩, state)
  | .setIos _ _ _, state => ((), state)
  | .updatePhase, state => (0, state)
  | .malloc _, state => (some fun _ => 0, state)
  | .unsetWord, state => (0, state)

theorem serveWell_succeeds (request : Request) (state : Unit) :
    Succeeds ⟨request, (serveWell request state).1⟩ := by
  cases request with
  | sendCmd cmd data =>
    refine ⟨rfl, fun _ => ?_⟩
    show CardReady 0x900
    unfold CardReady
    decide
  | setIos clock busWidth speedMode => trivial
  | updatePhase | malloc => rfl
  | unsetWord => trivial

theorem trace_serveWell_succeeds {Result : Type} (program : Driver Result) (state : Unit) :
    ∀ exchange ∈ program.trace serveWell state, Succeeds exchange := by
  induction program generalizing state with
  | done result =>
    intro exchange member
    cases member
  | call request next inductionHypothesis =>
    intro exchange member
    rcases List.mem_cons.mp member with rfl | member
    · exact serveWell_succeeds request state
    · exact inductionHypothesis _ _ exchange member

/-! ### The commands over all replies -/

section Always

variable {assumed : Exchange Request Request.Reply → Prop} {allowed : Request → Prop}

theorem always_mmcSendCmd (cmd : MmcCmd) (data : Option MmcData) {post : CmdReply → Prop} :
    Always assumed allowed post (mmcSendCmd cmd data) ↔
      allowed (.sendCmd cmd data) ∧ ∀ reply, assumed ⟨.sendCmd cmd data, reply⟩ → post reply :=
  always_send _ _

theorem always_mmcSendStatusLoop (mmc : Mmc)
    (status : allowed (.sendCmd (sendStatusCmd mmc) none)) (timeout retries : Nat) :
    Always assumed allowed (fun _ => True) (mmcSendStatusLoop mmc timeout retries) := by
  induction timeout generalizing retries with
  | zero =>
    unfold mmcSendStatusLoop
    rw [always_bind, always_mmcSendCmd]
    refine ⟨status, fun reply _ => ?_⟩
    split <;> trivial
  | succ timeout inductionHypothesis =>
    unfold mmcSendStatusLoop
    rw [always_bind, always_mmcSendCmd]
    refine ⟨status, fun reply _ => ?_⟩
    split
    · trivial
    · trivial
    · exact inductionHypothesis _

theorem always_mmcSendStatus (mmc : Mmc) (status : allowed (.sendCmd (sendStatusCmd mmc) none))
    (timeout : U32) :
    Always assumed allowed (fun _ => True) (mmcSendStatus mmc timeout) :=
  always_mmcSendStatusLoop mmc status timeout.toNat 5

theorem always_mmcSetBlocklen (mmc : Mmc) (len : U32)
    (blocklen : allowed (.sendCmd (setBlocklenCmd len) none)) :
    Always assumed allowed (fun _ => True) (mmcSetBlocklen mmc len) := by
  unfold mmcSetBlocklen
  split
  · trivial
  · exact ⟨blocklen, fun _ _ => trivial⟩

/-- Commands that address no sector, and everything that is not a command, are allowed. -/
structure AllowsControl (allowed : Request → Prop) : Prop where
  command : ∀ cmd data,
    cmd.cmdidx ∈ [mmcCmdSwitch, mmcCmdSendExtCsd, mmcCmdStopTransmission, mmcCmdSendStatus,
      mmcCmdSetBlocklen, mmcCmdErase] → allowed (.sendCmd cmd data)
  setIos : ∀ clock busWidth speedMode, allowed (.setIos clock busWidth speedMode)
  updatePhase : allowed .updatePhase
  malloc : ∀ size, allowed (.malloc size)
  unsetWord : allowed .unsetWord

theorem AllowsControl.status (control : AllowsControl allowed) (mmc : Mmc) :
    allowed (.sendCmd (sendStatusCmd mmc) none) :=
  control.command _ _ (by unfold sendStatusCmd; simp)

theorem AllowsControl.switch (control : AllowsControl allowed) (index value : U8) :
    allowed (.sendCmd (switchCmd index value) none) :=
  control.command _ _ (by unfold switchCmd; simp)

theorem AllowsControl.extCsd (control : AllowsControl allowed) :
    allowed (.sendCmd sendExtCsdCmd (some sendExtCsdData)) :=
  control.command _ _ (by unfold sendExtCsdCmd; simp)

theorem AllowsControl.blocklen (control : AllowsControl allowed) (len : U32) :
    allowed (.sendCmd (setBlocklenCmd len) none) :=
  control.command _ _ (by unfold setBlocklenCmd; simp)

theorem always_mmcSetIos_of (mmc : Mmc)
    (setIos : ∀ clock busWidth speedMode, allowed (.setIos clock busWidth speedMode)) :
    Always assumed allowed (fun _ => True) (mmcSetIos mmc) := by
  unfold mmcSetIos
  split
  · exact ⟨setIos _ _ _, fun _ _ => trivial⟩
  · trivial

theorem always_mmcUpdatePhase_of (mmc : Mmc) (updatePhase : allowed .updatePhase) :
    Always assumed allowed (fun _ => True) (mmcUpdatePhase mmc) := by
  unfold mmcUpdatePhase
  split
  · exact ⟨updatePhase, fun _ _ => trivial⟩
  · trivial

/-- CMD6 and what follows it, for any requests among which these are allowed -/
theorem always_mmcDoSwitch_of (mmc : Mmc) (index value : U8) (timeout : U32)
    (switch : allowed (.sendCmd (switchCmd index value) none))
    (setIos : ∀ clock busWidth speedMode, allowed (.setIos clock busWidth speedMode))
    (updatePhase : allowed .updatePhase) (status : allowed (.sendCmd (sendStatusCmd mmc) none)) :
    Always assumed allowed (fun _ => True) (mmcDoSwitch mmc index value timeout) := by
  unfold mmcDoSwitch
  refine ⟨switch, fun _ _ => ?_⟩
  refine (always_mmcSetIos_of mmc setIos).bind fun _ _ => ?_
  refine (always_mmcUpdatePhase_of mmc updatePhase).bind fun ret _ => ?_
  split
  · trivial
  · exact always_mmcSendStatus mmc status timeout

theorem always_mmcDoSwitch (control : AllowsControl allowed) (mmc : Mmc) (index value : U8)
    (timeout : U32) :
    Always assumed allowed (fun _ => True) (mmcDoSwitch mmc index value timeout) :=
  always_mmcDoSwitch_of mmc index value timeout (control.switch index value) control.setIos
    control.updatePhase (control.status mmc)

end Always

/-! ### The commands when every request goes well -/

theorem statusPoll_ready {error : Int} {response : U32} (succeeds : error = 0)
    (ready : CardReady response) (retries : Nat) :
    statusPoll retries error response = .ready response := by
  unfold statusPoll
  rw [if_pos succeeds, if_pos ⟨ready.1, ready.2.1⟩]

theorem statusResult_ready {timeout : Nat} {response : U32} (positive : 0 < timeout)
    (bound : timeout < 2 ^ 31) (ready : CardReady response) : statusResult timeout response = 0 := by
  unfold statusResult
  rw [if_neg (by omega), if_neg (not_not.mpr ready.2.2.1), if_neg (not_not.mpr ready.2.2.2)]

theorem succeeds_mmcSendStatus (mmc : Mmc) (timeout : U32) (positive : 0 < timeout)
    (bound : timeout.toNat < 2 ^ 31) :
    Always Succeeds (fun _ => True) (fun result => result = 0)
      (mmcSendStatus mmc timeout) := by
  obtain ⟨rest, equal⟩ : ∃ rest, timeout.toNat = rest + 1 :=
    Nat.exists_eq_succ_of_ne_zero (by bv_omega)
  unfold mmcSendStatus
  rw [equal]
  unfold mmcSendStatusLoop
  rw [always_bind, always_mmcSendCmd]
  refine ⟨trivial, fun reply good => ?_⟩
  have ready : CardReady reply.response := good.2 rfl
  dsimp only
  rw [statusPoll_ready good.1 ready]
  exact statusResult_ready (Nat.succ_pos rest) (by omega) ready

theorem succeeds_mmcSetBlocklen (mmc : Mmc) (len : U32) :
    Always Succeeds (fun _ => True) (fun result => result = 0) (mmcSetBlocklen mmc len) := by
  unfold mmcSetBlocklen
  split
  · rfl
  · exact ⟨trivial, fun _ good => good.1⟩

/-- What a program ends with when every request goes well. -/
theorem exec_serveWell {Result : Type} {post : Result → Prop} {program : Driver Result}
    (always : Always Succeeds (fun _ => True) post program) :
    post (program.exec serveWell ()).1 :=
  (always.run (run_exec serveWell program ()) (trace_serveWell_succeeds program ())).2

end PinePhonePkg
