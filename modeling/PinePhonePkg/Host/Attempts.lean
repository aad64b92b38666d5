/-
This file proves what everything that a command does before its recovery leaves
alone: the registers of the clock, and an update of the clock of the card, which
only the recovery waits for.
-/

import PinePhonePkg.Host.Controller

namespace PinePhonePkg

open Library Program

/-! ### Accesses that set up a transfer and wait for the card -/

/-- The accesses are allowed with which the descriptors are set up, the card is waited for and its
response is read. -/
structure AllowsTransfer (allowed : HostRequest → Prop) : Prop where
  readl (reg : HostReg) : reg ∉ [HostReg.cmd, .rint, .database] → allowed (.readl reg)
  writel (value : U32) (reg : HostReg) :
    reg.clock = false → reg ≠ .database → allowed (.writel value reg)
  setDes (index : Nat) (des : MmcDes) : allowed (.setDes index des)

namespace AllowsTransfer

variable {allowed : HostRequest → Prop} (allows : AllowsTransfer allowed)

include allows

theorem reads {reg : HostReg} (other : reg ∉ [HostReg.cmd, .rint, .database]) :
    Makes allowed (PinePhonePkg.readl reg) :=
  .send (allows.readl reg other)

theorem writes (value : U32) {reg : HostReg} (spares : reg.clock = false)
    (other : reg ≠ .database) : Makes allowed (PinePhonePkg.writel value reg) :=
  .send (allows.writel value reg spares other)

theorem awaitClear {reg : HostReg} (other : reg ∉ [HostReg.cmd, .rint, .database]) (mask : U32)
    (turns : Nat) : Makes allowed (awaitClear reg mask turns) := by
  induction turns with
  | zero => exact .pure none
  | succ turns inductionHypothesis =>
    exact .bind (allows.reads other) fun _ => .ite inductionHypothesis (.pure _)

theorem awaitFifo (mask : U32) (timeout : Nat) :
    Makes allowed (awaitFifo mask timeout) := by
  induction timeout with
  | zero => exact .pure false
  | succ timeout inductionHypothesis =>
    exact .bind (allows.reads (by decide)) fun _ => .ite inductionHypothesis (.pure _)

theorem setFragments (pdes address : Ulong) (count remain : U32) (indexes : List Nat) :
    Makes allowed (setFragments pdes address count remain indexes) := by
  induction indexes with
  | nil => exact .pure ()
  | cons index rest inductionHypothesis =>
    exact .bind (.send (allows.setDes _ _)) fun _ => inductionHypothesis

theorem mmcTransDataByDma (turns : Nat) (host : SunxiMmcHost) (data : HostData) :
    Makes allowed (mmcTransDataByDma turns host data) := by
  refine .bind (allows.setFragments _ _ _ _ _) fun _ => .bind (allows.reads (by decide)) fun _ =>
    .bind (allows.writes _ rfl (by decide)) fun _ =>
      .bind (allows.writes _ rfl (by decide)) fun _ =>
        .bind (allows.awaitClear (by decide) _ _) fun cleared => ?_
  cases cleared with
  | none => exact .pure none
  | some cleared =>
    exact .bind (allows.writes _ rfl (by decide)) fun _ => .bind (allows.reads (by decide)) fun _ =>
      .bind (allows.writes _ rfl (by decide)) fun _ =>
        .bind (allows.writes _ rfl (by decide)) fun _ =>
          .bind (allows.writes _ rfl (by decide)) fun _ => .pure _

theorem awaitIdle (timeout : Nat) : Makes allowed (awaitIdle timeout) := by
  induction timeout with
  | zero => exact .bind (allows.reads (by decide)) fun _ => .pure _
  | succ timeout inductionHypothesis =>
    exact .bind (allows.reads (by decide)) fun _ => .ite inductionHypothesis (.pure _)

theorem awaitBusy (cmd : HostCmd) : Makes allowed (awaitBusy cmd) :=
  .ite (allows.awaitIdle _) (.pure _)

theorem readResponse (cmd : HostCmd) : Makes allowed (readResponse cmd) := by
  refine .ite ?_ (.bind (allows.reads (by decide)) fun _ => .pure _)
  exact .bind (allows.reads (by decide)) fun _ => .bind (allows.reads (by decide)) fun _ =>
    .bind (allows.reads (by decide)) fun _ => .bind (allows.reads (by decide)) fun _ => .pure _

theorem stopDma (data : Option HostData) (attempt : Attempt) :
    Makes allowed (stopDma data attempt) := by
  refine .ite ?_ (.pure ())
  exact .bind (allows.reads (by decide)) fun _ => .bind (allows.writes _ rfl (by decide)) fun _ =>
    .bind (allows.writes _ rfl (by decide)) fun _ =>
      .bind (allows.writes _ rfl (by decide)) fun _ =>
        .bind (allows.reads (by decide)) fun _ => allows.writes _ rfl (by decide)

end AllowsTransfer

/-! ### Accesses that spare the clock -/

/-- The registers of the clock are not written, and the command register, in which an update of
the clock is awaited, is not read. -/
def SparesClock : HostRequest → Prop
  | .readl reg => reg ≠ .cmd
  | .writel _ reg => reg.clock = false
  | _ => True

/-- Whatever it reads, the program spares the clock. -/
abbrev Spares {Result : Type} (program : HostProgram Result) : Prop :=
  Always (fun _ => True) SparesClock (fun _ => True) program

theorem sparesClock_transfer : AllowsTransfer SparesClock where
  readl _ other := List.ne_of_not_mem_cons other
  writel _ _ spares _ := spares
  setDes _ _ := trivial

namespace Spares

variable {First Result : Type}

theorem pure (result : Result) : Spares (Pure.pure result) := trivial

theorem bind {program : HostProgram First} {next : First → HostProgram Result}
    (first : Spares program) (rest : ∀ result, Spares (next result)) :
    Spares (program >>= next) :=
  Makes.bind first rest

theorem ite {condition : Prop} [Decidable condition] {yes no : HostProgram Result}
    (first : Spares yes) (second : Spares no) : Spares (if condition then yes else no) :=
  Makes.ite first second

theorem readl {reg : HostReg} (other : reg ≠ .cmd) : Spares (PinePhonePkg.readl reg) :=
  ⟨other, fun _ _ => trivial⟩

theorem writel (value : U32) {reg : HostReg}
    (others : reg.clock = false) :
    Spares (PinePhonePkg.writel value reg) :=
  ⟨others, fun _ _ => trivial⟩

theorem readWords (index count : Nat) : Spares (readWords index count) := by
  induction count generalizing index with
  | zero => exact pure 0
  | succ count inductionHypothesis =>
    refine bind (sparesClock_transfer.awaitFifo _ _) fun _ =>
      ite (bind (readl (by decide)) fun _ => ?_) (pure _)
    exact bind ⟨trivial, fun _ _ => trivial⟩ fun _ => inductionHypothesis _

theorem writeWords (src : Buffer) (index count : Nat) : Spares (writeWords src index count) := by
  induction count generalizing index with
  | zero => exact pure 0
  | succ count inductionHypothesis =>
    refine bind (sparesClock_transfer.awaitFifo _ _) fun _ =>
      ite (bind (writel _ (by decide)) fun _ => ?_) (pure _)
    exact inductionHypothesis _

theorem mmcTransDataByCpu (data : HostData) : Spares (mmcTransDataByCpu data) :=
  ite (readWords _ _) (writeWords _ _ _)

theorem awaitCommand (timeout : Nat) : Spares (awaitCommand timeout) := by
  induction timeout with
  | zero => exact bind (readl (by decide)) fun _ => pure _
  | succ timeout inductionHypothesis =>
    exact bind (readl (by decide)) fun _ => ite (pure _) (ite (pure _) inductionHypothesis)

theorem awaitData (usedma giveUp : Bool) (flag : U32) (timeout : Nat) :
    Spares (awaitData usedma giveUp flag timeout) := by
  induction timeout with
  | zero => exact bind (readl (by decide)) fun _ => pure _
  | succ timeout inductionHypothesis =>
    refine bind (readl (by decide)) fun _ => ite (pure _) (ite (pure _) (ite ?_ ?_))
    · exact ite (bind (readl (by decide)) fun _ => ite (pure _) inductionHypothesis) (pure _)
    · exact inductionHypothesis

theorem awaitTransfer (mmc : HostCard) (cmd : HostCmd) (usedma : Bool) (bytecnt : U32)
    (data : Option HostData) : Spares (awaitTransfer mmc cmd usedma bytecnt data) := by
  cases data with
  | none => exact pure 0
  | some data => exact awaitData _ _ _ _

theorem finishCommand (mmc : HostCard) (cmd : HostCmd) (data : Option HostData) (usedma : Bool)
    (bytecnt : U32) : Spares (finishCommand mmc cmd data usedma bytecnt) :=
  bind (awaitCommand _) fun _ => ite (pure _) <| bind (awaitTransfer _ _ _ _ _) fun _ =>
    ite (pure _) <| bind (sparesClock_transfer.awaitBusy _) fun _ => ite (pure _) <|
      bind (sparesClock_transfer.readResponse _) fun _ => pure _

theorem transData (turns : Nat) (host : SunxiMmcHost) (cmd : HostCmd) (data : HostData) :
    Spares (transData turns host cmd data) := by
  refine ite ?_ ?_
  · refine bind (readl (by decide)) fun _ => bind (writel _ (by decide)) fun _ =>
      bind (sparesClock_transfer.mmcTransDataByDma _ _ _) fun ret => ?_
    cases ret with
    | none => exact pure none
    | some ret => exact bind (writel _ (by decide)) fun _ => pure _
  · exact bind (readl (by decide)) fun _ => bind (writel _ (by decide)) fun _ =>
      bind (writel _ (by decide)) fun _ => bind (mmcTransDataByCpu data) fun _ => pure _

theorem startCommand (turns : Nat) (host : SunxiMmcHost) (cmd : HostCmd)
    (data : Option HostData) : Spares (startCommand turns host cmd data) := by
  cases data with
  | none =>
    exact bind (writel _ (by decide)) fun _ => bind (writel _ (by decide)) fun _ =>
      bind (finishCommand _ _ _ _ _) fun _ => pure _
  | some data =>
    refine ite (pure _) (bind (writel _ (by decide)) fun _ => bind (writel _ (by decide)) fun _ =>
      bind (writel _ (by decide)) fun _ => bind (transData _ _ _ _) fun ret => ?_)
    cases ret with
    | none => exact pure none
    | some ret =>
      exact ite (bind (readl (by decide)) fun _ => pure _)
        (bind (finishCommand _ _ _ _ _) fun _ => pure _)

theorem readErrors (host : SunxiMmcHost) (attempt : Attempt) :
    Spares (readErrors host attempt) :=
  ite (bind (readl (by decide)) fun _ => pure _) (pure _)

theorem drainData (timeout : Nat) : Spares (drainData timeout) := by
  induction timeout with
  | zero =>
    exact bind (readl (by decide)) fun _ => ite (bind (readl (by decide)) fun _ => pure ())
      (pure ())
  | succ timeout inductionHypothesis =>
    exact bind (readl (by decide)) fun _ => ite (bind (readl (by decide)) fun _ =>
      inductionHypothesis) (pure ())

theorem drainTuning (host : SunxiMmcHost) (data : Option HostData) (attempt : Attempt) :
    Spares (drainTuning host data attempt) := by
  cases data with
  | none => exact pure ()
  | some data =>
    refine ite ?_ (pure ())
    exact bind (readl (by decide)) fun _ => bind (writel _ (by decide)) fun _ =>
      bind (writel _ (by decide)) fun _ => drainData _

theorem resetController (turns : Nat) : Spares (resetController turns) :=
  bind (writel _ (by decide)) fun _ => sparesClock_transfer.awaitClear (by decide) _ _

theorem mmcSaveRegs {regs : List HostReg} (others : ∀ reg ∈ regs, reg ≠ .cmd) :
    Spares (mmcSaveRegs regs) := by
  induction regs with
  | nil => exact pure []
  | cons reg rest inductionHypothesis =>
    obtain ⟨other, others⟩ := List.forall_mem_cons.mp others
    exact bind (readl other) fun _ => bind (inductionHypothesis others) fun _ => pure _

theorem restoreReg (value : U32) {reg : HostReg} (others : reg.clock = false) :
    Spares (restoreReg value reg) :=
  ite (writel value others) (ite (writel _ others) (pure ()))

theorem mmcRestoreRegs {regs : List HostReg} (others : ∀ reg ∈ regs, reg.clock = false)
    (values : List U32) : Spares (mmcRestoreRegs regs values) := by
  induction regs generalizing values with
  | nil => cases values <;> exact pure ()
  | cons reg rest inductionHypothesis =>
    obtain ⟨other, others⟩ := List.forall_mem_cons.mp others
    cases values with
    | nil => exact pure ()
    | cons value values =>
      exact bind (restoreReg value other) fun _ => inductionHypothesis others values

end Spares

/-! ### What programs leave -/

section Effects

variable (smhc : Smhc) (mmcNo : Nat) {Result : Type}

/-- A request to the host with its reply -/
abbrev HostExchange : Type := Exchange HostRequest HostRequest.Reply

/-- The reply says that an update of the clock is over. -/
def endsUpdate : HostExchange → Bool
  | ⟨.readl .cmd, value⟩ => (value : U32) &&& bit 31 = 0
  | _ => false

/-- Whatever it reads, the program does not read the command register. -/
abbrev SkipsCommand (program : HostProgram Result) : Prop :=
  Always (fun _ => True) (· ≠ .readl .cmd) (fun _ => True) program

/-- A program that does not read the command register does not see an update end. -/
theorem SkipsCommand.no_update {program : HostProgram Result} (skips : SkipsCommand program)
    (world : HostWorld) : (program.trace (serveHost smhc mmcNo) world).any endsUpdate = false := by
  rw [List.any_eq_false]
  rintro ⟨request, reply⟩ member ends
  have other : request ≠ .readl .cmd :=
    (skips.run (run_exec (serveHost smhc mmcNo) program world) fun _ _ => trivial).1 _ member
  unfold endsUpdate at ends
  split at ends
  case h_1 heading => exact other (congrArg Exchange.request heading)
  case h_2 => exact Bool.false_ne_true ends

/-- A write to another register leaves those of the clock as they were. -/
theorem write_clock (world : HostWorld) (value : U32) {reg other : HostReg}
    (spares : reg.clock = false) (clock : other.clock = true) :
    (world.write smhc mmcNo value reg).registers other = world.registers other := by
  have notConfigured : other.configuration = false := by
    cases other <;> first | rfl | cases clock
  have different : other ≠ reg := by
    rintro rfl
    exact Bool.false_ne_true (spares.symm.trans clock)
  have notControl : other ≠ .gctrl := by
    rintro rfl
    exact Bool.false_ne_true clock
  unfold HostWorld.write
  split
  case h_2 =>
    rw [registers_set, if_neg notControl]
    split
    · rw [registers_reset, notConfigured, if_neg Bool.false_ne_true]
    · rw [registers_set, if_neg notControl]
  case h_6 => cases spares
  all_goals rw [registers_set, if_neg different]

namespace Spares

variable {program : HostProgram Result} (spares : Spares program) (world : HostWorld)
include spares

theorem clock {reg : HostReg} (isClock : reg.clock = true) :
    (program.exec (serveHost smhc mmcNo) world).2.registers reg = world.registers reg := by
  have notRint : reg ≠ .rint := by
    rintro rfl
    exact Bool.false_ne_true isClock
  have keeps (request : HostRequest) (state : HostWorld) (allowed : SparesClock request)
      (same : state.registers reg = world.registers reg) :
      (serveHost smhc mmcNo request state).2.registers reg = world.registers reg := by
    cases request with
    | readl other => exact (registers_tick smhc state reg notRint).trans same
    | writel value other =>
      refine (write_clock smhc mmcNo _ value allowed isClock).trans ?_
      exact (registers_tick smhc state reg notRint).trans same
    | storeWord | setDes => exact same
  exact (Always.exec spares (serveHost smhc mmcNo)
    (fun request state allowed same => ⟨trivial, keeps request state allowed same⟩) rfl).2

omit smhc mmcNo world in
theorem skipsCommand : SkipsCommand program := by
  refine spares.mono ?_ fun _ _ => trivial
  rintro request allowed rfl
  exact allowed rfl

end Spares

end Effects

end PinePhonePkg
