/-
This file proves when a command that fails leaves the configuration of the
controller as it was. The controller is reset before its registers are saved and
again after they are restored, so that nothing but what a reset leaves survives.
-/

import PinePhonePkg.Host.Attempts

namespace PinePhonePkg

open Library Program

/-! ### The steps of the recovery -/

section Steps

variable (smhc : Smhc) (mmcNo : Nat) (host : SunxiMmcHost) (world : HostWorld)

/-- The bits that `mmc_clk_io_onoff` sets -/
def gates (mmcNo : Nat) : HostReg → U32
  | .mclkbase => bit 31
  | _ => bit (8 + mmcNo)

/-- What a reset by the control register leaves -/
def Smhc.afterReset : HostReg → U32
  | .gctrl => smhc.resetValue .gctrl &&& ~~~7
  | reg => smhc.resetValue reg

theorem resetController_reset {reg : HostReg} (configured : reg.configuration) (turns : Nat) :
    ((resetController (turns + 1)).exec (serveHost smhc mmcNo) world).2.registers reg =
      smhc.afterReset reg := by
  have notRint : reg ≠ .rint := by
    rintro rfl
    exact Bool.false_ne_true configured
  unfold resetController
  rw [exec_bind, exec_writel,
    exec_awaitClear smhc mmcNo _ rfl (by decide) (gctrl_write smhc mmcNo _ 7) turns,
    registers_tick _ _ _ notRint]
  unfold HostWorld.write
  rw [if_pos smhc.resets, registers_set, registers_reset, registers_reset, configured, if_pos rfl]
  split
  case isTrue control =>
    rw [control]
    rfl
  case isFalse other =>
    cases reg <;> first | rfl | exact absurd rfl other

theorem resetController_ends (turns : Nat) :
    ((resetController (turns + 1)).exec (serveHost smhc mmcNo) world).1 = some () := by
  unfold resetController
  rw [exec_bind, exec_writel,
    exec_awaitClear smhc mmcNo _ rfl (by decide) (gctrl_write smhc mmcNo _ 7) turns]

/-- A write to a register of the clock sets it and leaves the others of the clock as they were. -/
theorem write_clock_clock (value : U32) {reg other : HostReg} (clock : reg.clock = true)
    (otherClock : other.clock = true) :
    (world.write smhc mmcNo value reg).registers other =
      if other = reg then value else world.registers other := by
  have notConfigured : other.configuration = false := by
    cases other <;> first | rfl | cases otherClock
  unfold HostWorld.write
  split
  case h_6 =>
    rw [registers_set]
    split
    · rfl
    · split
      · rw [registers_reset, notConfigured, if_neg Bool.false_ne_true]
      · rfl
  all_goals first | exact registers_set _ _ _ _ | cases clock

theorem modifyReg_clock (change : U32 → U32) {reg other : HostReg} (clock : reg.clock = true)
    (otherClock : other.clock = true) :
    ((modifyReg change reg).exec (serveHost smhc mmcNo) world).2.registers other =
      if other = reg then change (world.registers reg) else world.registers other := by
  have notRint {reg : HostReg} (clock : reg.clock = true) : reg ≠ .rint := by
    rintro rfl
    exact Bool.false_ne_true clock
  have kept : reg.volatile = false := by
    cases reg <;> first | rfl | cases clock
  unfold modifyReg
  rw [exec_bind, exec_readl, exec_writel, write_clock_clock _ _ _ _ clock otherClock,
    read_eq _ _ kept, registers_tick _ _ _ (notRint clock), registers_tick _ _ _ (notRint otherClock),
    registers_tick _ _ _ (notRint otherClock)]

theorem modifyReg_self (change : U32 → U32) (reg : HostReg) (clock : reg.clock = true) :
    ((modifyReg change reg).exec (serveHost smhc mmcNo) world).2.registers reg =
      change (world.registers reg) :=
  (modifyReg_clock smhc mmcNo world change clock clock).trans (if_pos rfl)

theorem modifyReg_other (change : U32 → U32) (reg other : HostReg) (clock : reg.clock = true)
    (otherClock : other.clock = true) (different : other ≠ reg) :
    ((modifyReg change reg).exec (serveHost smhc mmcNo) world).2.registers other =
      world.registers other :=
  (modifyReg_clock smhc mmcNo world change clock otherClock).trans (if_neg different)

/-- Three different registers of the clock that are changed one after the other -/
theorem modifyReg_three (change : HostReg → U32 → U32) (first second third : HostReg)
    {reg : HostReg}
    (clocks : first.clock = true ∧ second.clock = true ∧ third.clock = true)
    (different : first ≠ second ∧ first ≠ third ∧ second ≠ third)
    (among : reg = first ∨ reg = second ∨ reg = third) :
    ((modifyReg (change third) third).exec (serveHost smhc mmcNo)
      ((modifyReg (change second) second).exec (serveHost smhc mmcNo)
        ((modifyReg (change first) first).exec (serveHost smhc mmcNo) world).2).2).2.registers reg =
      change reg (world.registers reg) := by
  obtain ⟨firstClock, secondClock, thirdClock⟩ := clocks
  obtain ⟨firstSecond, firstThird, secondThird⟩ := different
  rcases among with rfl | rfl | rfl
  · rw [modifyReg_other _ _ _ _ third reg thirdClock firstClock firstThird,
      modifyReg_other _ _ _ _ second reg secondClock firstClock firstSecond,
      modifyReg_self _ _ _ _ reg firstClock]
  · rw [modifyReg_other _ _ _ _ third reg thirdClock secondClock secondThird,
      modifyReg_self _ _ _ _ reg secondClock,
      modifyReg_other _ _ _ _ first reg firstClock secondClock firstSecond.symm]
  · rw [modifyReg_self _ _ _ _ reg thirdClock,
      modifyReg_other _ _ _ _ second reg secondClock thirdClock secondThird.symm,
      modifyReg_other _ _ _ _ first reg firstClock thirdClock firstThird.symm]

theorem mmcClkIoOnoff_off {reg : HostReg} (clock : reg.clock = true) :
    ((mmcClkIoOnoff host false false).exec (serveHost smhc mmcNo) world).2.registers reg =
      world.registers reg &&& ~~~gates host.mmcNo reg := by
  unfold mmcClkIoOnoff
  simp only [Bool.false_eq_true, if_false, exec_bind, exec_pure]
  exact modifyReg_three smhc mmcNo world (fun reg word => word &&& ~~~gates host.mmcNo reg)
    .mclkbase .hclkbase .hclkrst (by decide) (by decide) (by cases reg <;> cases clock <;> simp)

theorem mmcClkIoOnoff_on {reg : HostReg} (clock : reg.clock = true) :
    ((mmcClkIoOnoff host true false).exec (serveHost smhc mmcNo) world).2.registers reg =
      world.registers reg ||| gates host.mmcNo reg := by
  unfold mmcClkIoOnoff
  simp only [Bool.false_eq_true, if_false, if_true, exec_bind, exec_pure]
  exact modifyReg_three smhc mmcNo world (fun reg word => word ||| gates host.mmcNo reg)
    .hclkrst .hclkbase .mclkbase (by decide) (by decide) (by cases reg <;> cases clock <;> simp)

theorem off_on (word mask : U32) : word &&& ~~~mask ||| mask = word ||| mask := by
  ext place
  simp only [BitVec.getElem_or, BitVec.getElem_and, BitVec.getElem_not]
  cases word[place] <;> cases mask[place] <;> rfl

theorem saves : Spares (mmcSaveRegs savedRegs) :=
  Spares.mmcSaveRegs (by decide)

theorem restores (values : List U32) : Spares (mmcRestoreRegs savedRegs values) :=
  Spares.mmcRestoreRegs (by decide) values

/-- What was open or closed is open. -/
theorem reopenController_clock {reg : HostReg} (clock : reg.clock = true) :
    ((reopenController host).exec (serveHost smhc mmcNo) world).2.registers reg =
      world.registers reg ||| gates host.mmcNo reg := by
  unfold reopenController
  simp only [exec_bind]
  rw [(restores _).clock smhc mmcNo _ clock, mmcClkIoOnoff_on _ _ _ _ clock,
    mmcClkIoOnoff_off _ _ _ _ clock, saves.clock smhc mmcNo _ clock, off_on]

theorem modifyReg_skipsCommand (change : U32 → U32) {reg : HostReg} (other : reg ≠ .cmd) :
    SkipsCommand (modifyReg change reg) :=
  ⟨fun same => other (HostRequest.readl.inj same), fun _ _ =>
    ⟨HostRequest.noConfusion, fun _ _ => trivial⟩⟩

theorem mmcClkIoOnoff_skipsCommand (onoff : Bool) :
    SkipsCommand (mmcClkIoOnoff host onoff false) := by
  cases onoff
  all_goals
    exact Always.bind (modifyReg_skipsCommand _ (by decide)) fun _ _ =>
      Always.bind (modifyReg_skipsCommand _ (by decide)) fun _ _ =>
        Always.bind (modifyReg_skipsCommand _ (by decide)) fun _ _ => trivial

theorem reopenController_skipsCommand : SkipsCommand (reopenController host) := by
  refine Always.bind saves.skipsCommand fun regBak _ => ?_
  refine Always.bind (mmcClkIoOnoff_skipsCommand host false) fun _ _ => ?_
  exact Always.bind (mmcClkIoOnoff_skipsCommand host true) fun _ _ =>
    (restores regBak).skipsCommand

/-! ### The update of the clock -/

theorem awaitUpdate_registers {reg : HostReg} (notRint : reg ≠ .rint) (timeout : Nat) :
    ((awaitUpdate timeout).exec (serveHost smhc mmcNo) world).2.registers reg =
      world.registers reg := by
  induction timeout generalizing world with
  | zero => rfl
  | succ timeout inductionHypothesis =>
    unfold awaitUpdate
    rw [exec_bind, exec_readl, exec_ite]
    split
    · exact (inductionHypothesis _).trans (registers_tick smhc world reg notRint)
    · exact registers_tick smhc world reg notRint

/-- The wait ends in time if and only if it saw the update end. -/
theorem awaitUpdate_result (timeout : Nat) :
    ((awaitUpdate timeout).exec (serveHost smhc mmcNo) world).1 =
      ((awaitUpdate timeout).trace (serveHost smhc mmcNo) world).any endsUpdate := by
  induction timeout generalizing world with
  | zero => rfl
  | succ timeout inductionHypothesis =>
    unfold awaitUpdate
    rw [exec_bind, trace_bind, exec_readl, List.any_append]
    have first : ((readl .cmd).trace (serveHost smhc mmcNo) world).any endsUpdate =
        decide ((world.tick smhc).read smhc .cmd &&& bit 31 = 0) := Bool.or_false _
    rw [first]
    by_cases finished : (world.tick smhc).read smhc .cmd &&& bit 31 = 0
    · rw [if_neg (not_not.mpr finished), decide_eq_true finished, Bool.true_or]
      rfl
    · rw [if_pos finished, decide_eq_false finished, Bool.false_or]
      exact inductionHypothesis _

/-- The clock register after an update, by whether the update ended in time -/
def updated (value : U32) (ended : Bool) : U32 :=
  if ended then value &&& ~~~bit 31 else value ||| bit 31

@[simp]
theorem write_clkcr (value : U32) : world.write smhc mmcNo value .clkcr = world.set .clkcr value :=
  rfl

@[simp]
theorem write_cmd (value : U32) : world.write smhc mmcNo value .cmd = world.set .cmd value := rfl

@[simp]
theorem write_rint (value : U32) :
    world.write smhc mmcNo value .rint =
      world.set .rint (world.registers .rint &&& ~~~value) := rfl

theorem startUpdate_registers {reg : HostReg} (notCmd : reg ≠ .cmd) (notRint : reg ≠ .rint) :
    (startUpdate.exec (serveHost smhc mmcNo) world).2.registers reg =
      if reg = .clkcr then world.registers .clkcr ||| bit 31 else world.registers reg := by
  have kept : HostReg.clkcr.volatile = false := rfl
  have clkcrNotRint : HostReg.clkcr ≠ .rint := by decide
  unfold startUpdate modifyReg
  simp only [exec_bind, exec_readl, exec_writel, write_clkcr, write_cmd, registers_set,
    if_neg notCmd, registers_tick _ _ _ notRint, read_eq _ _ kept, registers_tick _ _ _ clkcrNotRint]

theorem finishUpdate_registers {reg : HostReg} (notRint : reg ≠ .rint) :
    (finishUpdate.exec (serveHost smhc mmcNo) world).2.registers reg =
      if reg = .clkcr then world.registers .clkcr &&& ~~~bit 31 else world.registers reg := by
  have kept : HostReg.clkcr.volatile = false := rfl
  have clkcrNotRint : HostReg.clkcr ≠ .rint := by decide
  unfold finishUpdate modifyReg
  simp only [exec_bind, exec_pure, exec_readl, exec_writel, write_clkcr, write_rint,
    registers_set, if_neg notRint, registers_tick _ _ _ notRint, read_eq _ _ kept,
    registers_tick _ _ _ clkcrNotRint]

theorem mmcUpdateClk_registers {reg : HostReg} (notCmd : reg ≠ .cmd) (notRint : reg ≠ .rint) :
    (mmcUpdateClk.exec (serveHost smhc mmcNo) world).2.registers reg =
      if reg = .clkcr then
        updated (world.registers .clkcr)
          ((mmcUpdateClk.trace (serveHost smhc mmcNo) world).any endsUpdate)
      else world.registers reg := by
  have starts : SkipsCommand startUpdate :=
    Always.bind (modifyReg_skipsCommand _ (by decide)) fun _ _ =>
      ⟨HostRequest.noConfusion, fun _ _ => trivial⟩
  have finishes : SkipsCommand finishUpdate :=
    Always.bind (modifyReg_skipsCommand _ (by decide)) fun _ _ =>
      ⟨by decide, fun _ _ => ⟨HostRequest.noConfusion, fun _ _ => trivial⟩⟩
  have loaded (word : U32) : (word ||| bit 31) &&& ~~~bit 31 = word &&& ~~~bit 31 := by
    ext place
    simp only [BitVec.getElem_or, BitVec.getElem_and, BitVec.getElem_not]
    cases word[place] <;> cases (bit 31)[place] <;> rfl
  unfold mmcUpdateClk
  rw [trace_bind, List.any_append, starts.no_update, Bool.false_or, trace_bind,
    List.any_append, ← awaitUpdate_result, exec_bind, exec_bind]
  split
  case isTrue ended =>
    rw [ended, Bool.true_or, finishUpdate_registers _ _ _ notRint, awaitUpdate_registers _ _ _ notRint,
      awaitUpdate_registers _ _ _ (by decide), startUpdate_registers _ _ _ notCmd notRint,
      startUpdate_registers _ _ _ (by decide) (by decide), if_pos rfl, loaded]
    split <;> rfl
  case isFalse late =>
    rw [Bool.not_eq_true] at late
    rw [late, Bool.false_or, exec_pure, awaitUpdate_registers _ _ _ notRint,
      startUpdate_registers _ _ _ notCmd notRint]
    rfl

end Steps

section Parts

variable (smhc : Smhc) (mmcNo : Nat) (host : SunxiMmcHost) (world : HostWorld) (turns : Nat)

/-- The controller before the last update of its clock -/
def resetTwice : HostWorld :=
  ((resetController (turns + 1)).exec (serveHost smhc mmcNo)
    ((reopenController host).exec (serveHost smhc mmcNo)
      ((resetController (turns + 1)).exec (serveHost smhc mmcNo) world).2).2).2

theorem exec_recoverController :
    (recoverController (turns + 1) host).exec (serveHost smhc mmcNo) world =
      (some (), (mmcUpdateClk.exec (serveHost smhc mmcNo)
        (resetTwice smhc mmcNo host world turns)).2) := by
  unfold recoverController
  rw [exec_bind, resetController_ends]
  dsimp only
  rw [exec_bind, exec_bind, resetController_ends]
  dsimp only
  rw [exec_bind]
  rfl

theorem trace_recoverController :
    ((recoverController (turns + 1) host).trace (serveHost smhc mmcNo) world).any endsUpdate =
      (mmcUpdateClk.trace (serveHost smhc mmcNo)
        (resetTwice smhc mmcNo host world turns)).any endsUpdate := by
  have resets : SkipsCommand (resetController (turns + 1)) :=
    (Spares.resetController (turns + 1)).skipsCommand
  unfold recoverController
  rw [trace_bind, List.any_append, resets.no_update, Bool.false_or, resetController_ends]
  dsimp only
  rw [trace_bind, List.any_append, (reopenController_skipsCommand host).no_update,
    Bool.false_or, trace_bind, List.any_append, resets.no_update, Bool.false_or,
    resetController_ends]
  dsimp only
  rw [trace_bind, List.any_append]
  exact Bool.or_false _

end Parts

/-! ### What a failed command leaves -/

/-- The configuration a failed command leaves, by whether its update of the clock ended in time -/
def Smhc.recovered (smhc : Smhc) (mmcNo : Nat) (ended : Bool) (registers : HostReg → U32)
    (reg : HostReg) : U32 :=
  if reg.clock then registers reg ||| gates mmcNo reg
  else if reg = .clkcr then updated (smhc.resetValue .clkcr) ended
  else smhc.afterReset reg

theorem recovered_resetTwice (smhc : Smhc) (mmcNo : Nat) (host : SunxiMmcHost) (world : HostWorld)
    (turns : Nat) {reg : HostReg} (kept : reg.configuration ∨ reg.clock) (ended : Bool) :
    (if reg = .clkcr then
      updated ((resetTwice smhc mmcNo host world turns).registers .clkcr) ended
    else (resetTwice smhc mmcNo host world turns).registers reg) =
      smhc.recovered host.mmcNo ended world.registers reg := by
  have resets : Spares (resetController (turns + 1)) := Spares.resetController (turns + 1)
  unfold Smhc.recovered resetTwice
  by_cases clock : reg.clock = true
  · have notClkcr : reg ≠ .clkcr := by
      rintro rfl
      exact Bool.false_ne_true clock
    rw [if_neg notClkcr, if_pos clock, resets.clock smhc mmcNo _ clock,
      reopenController_clock _ _ _ _ clock, resets.clock smhc mmcNo _ clock]
  · have configured : reg.configuration := kept.resolve_right clock
    rw [if_neg clock, resetController_reset smhc mmcNo _ rfl,
      resetController_reset smhc mmcNo _ configured]
    rfl

section Recovers

variable (smhc : Smhc) (mmcNo : Nat) (host : SunxiMmcHost)

/-- Where the program returns -1, the controller has recovered and no interrupt is pending. -/
def Recovers (program : HostProgram (Option SendResult)) : Prop :=
  ∀ world, (program.exec (serveHost smhc mmcNo) world).1.map SendResult.value = some (-1) →
    (∀ reg : HostReg, reg.configuration ∨ reg.clock →
      (program.exec (serveHost smhc mmcNo) world).2.registers reg =
        smhc.recovered host.mmcNo ((program.trace (serveHost smhc mmcNo) world).any endsUpdate)
          world.registers reg) ∧
      (program.exec (serveHost smhc mmcNo) world).2.registers .rint = 0

variable {smhc mmcNo host}

theorem Recovers.returned {result : Option SendResult}
    (other : result.map SendResult.value ≠ some (-1)) : Recovers smhc mmcNo host (pure result) :=
  fun _ failed => absurd failed other

theorem Recovers.bind {First : Type} {program : HostProgram First}
    {next : First → HostProgram (Option SendResult)} (spares : Spares program)
    (rest : ∀ first, Recovers smhc mmcNo host (next first)) :
    Recovers smhc mmcNo host (program >>= next) := by
  intro world failed
  rw [exec_bind] at failed ⊢
  rw [trace_bind, List.any_append, spares.skipsCommand.no_update, Bool.false_or]
  obtain ⟨settings, pending⟩ := rest _ _ failed
  refine ⟨fun reg kept => (settings reg kept).trans ?_, pending⟩
  unfold Smhc.recovered
  split
  case isTrue clock => rw [spares.clock smhc mmcNo world clock]
  case isFalse => rfl

theorem Recovers.ite {condition : Prop} [Decidable condition]
    {yes no : HostProgram (Option SendResult)} (first : condition → Recovers smhc mmcNo host yes)
    (second : ¬condition → Recovers smhc mmcNo host no) :
    Recovers smhc mmcNo host (if condition then yes else no) := by
  split
  case isTrue holds => exact first holds
  case isFalse fails => exact second fails

/-- The way out behind an error recovers the controller. -/
theorem recovers_errorExit (turns : Nat) (result : SendResult) :
    Recovers smhc mmcNo host (do
      match ← recoverController turns host with
      | none => return none
      | some () =>
        writel 0xffffffff .rint
        return some result) := by
  intro world failed
  cases turns with
  | zero => exact absurd failed nofun
  | succ turns =>
    rw [trace_bind, List.any_append, trace_recoverController, exec_bind,
      exec_recoverController]
    dsimp only
    rw [exec_bind, exec_writel, exec_pure]
    refine ⟨fun reg kept => ?_, ?_⟩
    · have notCmd : reg ≠ .cmd := by
        rintro rfl
        exact absurd kept (by decide)
      have notRint : reg ≠ .rint := by
        rintro rfl
        exact absurd kept (by decide)
      rw [write_rint, registers_set, if_neg notRint, registers_tick _ _ _ notRint,
        mmcUpdateClk_registers _ _ _ notCmd notRint]
      exact (recovered_resetTwice smhc mmcNo host world turns kept _).trans
        (congrArg (smhc.recovered host.mmcNo · world.registers reg) (Bool.or_false _).symm)
    · have cleared (word : U32) : word &&& ~~~0xffffffff = 0 := BitVec.and_zero
      exact cleared _

theorem recovers_endCommand (turns : Nat) (data : Option HostData) (attempt : Attempt) :
    Recovers smhc mmcNo host (endCommand turns host data attempt) := by
  refine .bind (Spares.readErrors _ _) fun rawIntBak => ?_
  refine .bind (sparesClock_transfer.stopDma _ _) fun _ => ?_
  refine .ite (fun _ => .bind (Spares.drainTuning _ _ _) fun _ => recovers_errorExit turns _) ?_
  exact fun _ => .bind (Spares.writel _ rfl) fun _ =>
    .returned (by decide : some (0 : Int) ≠ some (-1))

theorem recovers_mmcSendCmd (noFatal : host.fatalErr = 0) (turns : Nat) (cmd : HostCmd)
    (data : Option HostData) : Recovers smhc mmcNo host (host.mmcSendCmd turns cmd data) := by
  refine .ite (fun fatal => absurd noFatal fatal) fun _ => .ite (fun _ => ?_) fun _ => ?_
  · refine .bind (sparesClock_transfer.awaitIdle _) fun error => ?_
    refine .ite (fun _ => recovers_endCommand _ _ _) ?_
    exact fun _ => .returned (by decide : some (0 : Int) ≠ some (-1))
  · refine .bind (Spares.startCommand _ _ _ _) fun attempt => ?_
    cases attempt with
    | none => exact .returned nofun
    | some attempt => exact recovers_endCommand turns data attempt

end Recovers

end PinePhonePkg
