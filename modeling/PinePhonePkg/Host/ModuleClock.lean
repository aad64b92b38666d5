/-
This file follows the module clock through its configuration: what is written to
its register, which clock of the card is read back from it, and that nothing of
this is touched behind it, by the update of the clock of the card or the delays.
-/

import PinePhonePkg.Host.Controller

namespace PinePhonePkg

open Library
open Program hiding bind_assoc

/-! ### What is written and read back -/

/-- `sunxi_clock_get_pll6`, by the value of its register -/
def pll6Of (regVal : U32) : U32 :=
  let factorN := (regVal >>> 8 &&& 0x1f) + 1
  let factorK := (regVal >>> 4 &&& 0x03) + 1
  24 * factorN * factorK / 2

/-- The source that is chosen for a module clock, and its rate -/
def mclkSource (pll clkHz : U32) : U32 × U32 :=
  if clkHz ≤ 4000000 then (0, 24000000) else (1, pll6Of pll * 2 * 1000000)

/-- The quotient of the two frequencies, rounded, and never zero -/
def mclkDiv (sclkHz clkHz : U32) : U32 :=
  let div := (2 * sclkHz + clkHz) / (2 * clkHz)
  if div = 0 then 1 else div

/-- The value of the register for a source and a divider -/
def mclkValue (src : U32) (divider : U32 × U32) : U32 :=
  src <<< 24 ||| divider.1 <<< 16 ||| (divider.2 - 1)

/-- What the setting of the clock writes -/
def mclkWritten (pll clkHz : U32) : U32 :=
  mclkValue (mclkSource pll clkHz).1 (mclkDivider (mclkDiv (mclkSource pll clkHz).2 clkHz))

/-- What the reading of the clock computes from the register -/
def mclkRead (pll rval : U32) : U32 :=
  let src := rval >>> 24 &&& 0x3
  let sclkHz : U32 :=
    if src = 0 then 24000000 else if src = 1 then pll6Of pll * 2 * 1000000 else 0
  sclkHz / ((1 : U32) <<< (rval >>> 16 &&& 0x3)) / ((rval &&& 0xf) + 1)

/-- The module clock that is asked for -/
def SunxiMmcHost.askedMclk (host : SunxiMmcHost) (clk : U32) : U32 :=
  if host.timingMode = sunxiMmcTimingMode1 ∨ host.timingMode = sunxiMmcTimingMode4 then
    if host.mmc.quarter host.timingMode then clk * 4 else clk * 2
  else host.modClk

/-! ### The parts of the configuration -/

/-- Tells the controller whether the timing is the new one. -/
def selectTiming (host : SunxiMmcHost) : HostProgram Unit :=
  if host.timingMode = sunxiMmcTimingMode1 then do
    writel ((← readl .ntsr) ||| bit 31) .ntsr
  else writel 0 .ntsr

/-- The host with its clocks -/
def SunxiMmcHost.clocked (host : SunxiMmcHost) (modClk clock : U32) : SunxiMmcHost :=
  { host with modClk := modClk, clock := clock, mmc := { host.mmc with clock := clock } }

/-- What follows the module clock -/
def finishClock (host : SunxiMmcHost) (quarter : Bool) (clk : U32) :
    HostProgram (Int × SunxiMmcHost) := do
  let rval := (← readl .clkcr) &&& ~~~0xff
  writel (if quarter then rval ||| 1 else rval) .clkcr
  if (← mmcUpdateClk) ≠ 0 then
    return (-1, host)
  let host ← mmcConfigDelay (host.setCurrent clk)
  return (0, host)

theorem mmcConfigClockModex_eq {host : SunxiMmcHost} (timed : HasTimingMode host) (clk : U32) :
    mmcConfigClockModex host clk = (do
      writel 0 .mclkbase
      selectTiming host
      let _ ← mmcSetMclk (host.askedMclk clk)
      let mclk ← mmcGetMclk
      modifyReg (· ||| bit 31) .mclkbase
      let quarter := host.mmc.quarter host.timingMode
      finishClock (host.clocked (host.askedMclk clk) (if quarter then mclk / 4 else mclk / 2))
        quarter clk) := by
  unfold mmcConfigClockModex selectTiming modifyReg
  simp only [if_pos timed, bind_assoc, pure_bind]
  congr 1
  funext _
  by_cases first : host.timingMode = sunxiMmcTimingMode1
  · simp only [if_pos first, bind_assoc]
    rfl
  · simp only [if_neg first]
    rfl

/-! ### The registers of the clocks -/

/-- The registers of the module clock and of PLL_PERIPH0 -/
def HostWorld.clocks (world : HostWorld) : U32 × U32 :=
  (world.registers .mclkbase, world.registers .pllPeriph0)

/-- The registers of the module clock and of PLL_PERIPH0 are not written. -/
def SparesMclk : HostRequest → Prop
  | .writel _ reg => reg ≠ .mclkbase ∧ reg ≠ .pllPeriph0
  | _ => True

section Registers

variable (smhc : Smhc) (mmcNo : Nat) (world : HostWorld)

theorem clocks_tick : (world.tick smhc).clocks = world.clocks := rfl

theorem readl_mclkbase :
    ((readl .mclkbase).exec (serveHost smhc mmcNo) world).1 = world.clocks.1 := rfl

theorem modifyReg_mclkbase (change : U32 → U32) :
    ((modifyReg change .mclkbase).exec (serveHost smhc mmcNo) world).2.clocks =
      (change world.clocks.1, world.clocks.2) := rfl

/-- Any other access leaves them as they are. -/
theorem serve_clocks {request : HostRequest} (spares : SparesMclk request) :
    (serveHost smhc mmcNo request world).2.clocks = world.clocks := by
  cases request with
  | readl | storeWord | setDes => rfl
  | writel value reg =>
    have others : ∀ reg value (state : HostWorld), reg ≠ .mclkbase ∧ reg ≠ .pllPeriph0 →
        (state.set reg value).clocks = state.clocks := by
      intro reg value state other
      unfold HostWorld.clocks
      rw [registers_set, registers_set, if_neg other.1.symm, if_neg other.2.symm]
    have reset : ∀ state : HostWorld, (state.reset smhc).clocks = state.clocks := fun _ => rfl
    refine Eq.trans ?_ (clocks_tick smhc world)
    show ((world.tick smhc).write smhc mmcNo value reg).clocks = _
    unfold HostWorld.write
    split
    case h_2 =>
      rw [others _ _ _ spares]
      split
      · exact reset _
      · exact others _ _ _ spares
    case h_6 =>
      rw [others _ _ _ spares]
      split
      · exact reset _
      · rfl
    all_goals exact others _ _ _ spares

/-- A program that spares them -/
theorem exec_spares {Result : Type} {post : Result → Prop} {program : HostProgram Result}
    (spares : Always (fun _ => True) SparesMclk post program) :
    post (program.exec (serveHost smhc mmcNo) world).1 ∧
      (program.exec (serveHost smhc mmcNo) world).2.clocks = world.clocks :=
  spares.exec (serveHost smhc mmcNo)
    (fun _ state allowed same => ⟨trivial, (serve_clocks smhc mmcNo state allowed).trans same⟩) rfl

end Registers

/-! ### What the parts leave alone -/

/-- What of a host its clocks depend on, or what holds them -/
def SunxiMmcHost.clocking (host : SunxiMmcHost) : Nat × U32 × U32 × HostCard :=
  (host.mmcNo, host.timingMode, host.modClk, host.mmc)

section Spares

theorem readl_sparesMclk (reg : HostReg) : Makes SparesMclk (readl reg) :=
  .send trivial

theorem writel_sparesMclk (value : U32) {reg : HostReg}
    (other : reg ≠ .mclkbase ∧ reg ≠ .pllPeriph0) :
    Makes SparesMclk (writel value reg) :=
  .send other

theorem modifyReg_sparesMclk (change : U32 → U32) {reg : HostReg}
    (other : reg ≠ .mclkbase ∧ reg ≠ .pllPeriph0) :
    Makes SparesMclk (modifyReg change reg) :=
  .bind (readl_sparesMclk reg) fun _ => writel_sparesMclk _ other

theorem selectTiming_sparesMclk (host : SunxiMmcHost) :
    Makes SparesMclk (selectTiming host) :=
  .ite (.bind (readl_sparesMclk _) fun _ => writel_sparesMclk _ (by decide))
    (writel_sparesMclk _ (by decide))

theorem awaitUpdate_sparesMclk (timeout : Nat) :
    Makes SparesMclk (awaitUpdate timeout) := by
  induction timeout with
  | zero => exact .pure false
  | succ timeout inductionHypothesis =>
    exact .bind (readl_sparesMclk _) fun _ => .ite inductionHypothesis (.pure _)

theorem mmcUpdateClk_sparesMclk : Makes SparesMclk mmcUpdateClk := by
  have starts : Makes SparesMclk startUpdate :=
    .bind (modifyReg_sparesMclk _ (by decide)) fun _ => writel_sparesMclk _ (by decide)
  have finishes : Makes SparesMclk finishUpdate :=
    .bind (modifyReg_sparesMclk _ (by decide)) fun _ =>
      .bind (readl_sparesMclk _) fun _ => .bind (writel_sparesMclk _ (by decide)) fun _ => .pure _
  unfold mmcUpdateClk
  exact .bind starts fun _ => .bind (awaitUpdate_sparesMclk _) fun _ => .ite finishes (.pure _)

theorem writeOdly_sparesMclk (odly : U8) : Makes SparesMclk (writeOdly odly) :=
  .bind (readl_sparesMclk _) fun _ => writel_sparesMclk _ (by decide)

theorem writeDelay_sparesMclk (delay : U8) {reg : HostReg}
    (other : reg ≠ .mclkbase ∧ reg ≠ .pllPeriph0) :
    Makes SparesMclk (writeDelay delay reg) :=
  .bind (readl_sparesMclk _) fun _ => writel_sparesMclk _ other

/-- The delays are set without a change to the clocks, in the registers or in the host. -/
theorem mmcConfigDelay_clocking (host : SunxiMmcHost) :
    Always (fun _ => True) SparesMclk (fun left => left.clocking = host.clocking)
      (mmcConfigDelay host) := by
  unfold mmcConfigDelay
  split
  · refine .bind (writeOdly_sparesMclk _) fun _ _ => ?_
    exact .bind (readl_sparesMclk _) fun _ _ =>
      .bind (writel_sparesMclk _ (by decide)) fun _ _ => rfl
  · split
    · exact .bind (writeOdly_sparesMclk _) fun _ _ =>
        .bind (writeDelay_sparesMclk _ (by decide)) fun _ _ => rfl
    · split
      · refine .bind (writeOdly_sparesMclk _) fun _ _ =>
          .bind (writeDelay_sparesMclk _ (by decide)) fun _ _ => ?_
        split
        · exact .bind (writeDelay_sparesMclk _ (by decide)) fun _ _ => rfl
        · exact rfl
      · exact rfl

theorem clocking_setCurrent (host : SunxiMmcHost) (clk : U32) :
    (host.setCurrent clk).clocking = host.clocking := by
  unfold SunxiMmcHost.setCurrent
  dsimp only
  split
  · rfl
  · split
    · rfl
    · split <;> rfl

theorem finishClock_clocking (host : SunxiMmcHost) (quarter : Bool) (clk : U32) :
    Always (fun _ => True) SparesMclk (fun run => run.2.clocking = host.clocking)
      (finishClock host quarter clk) := by
  unfold finishClock
  refine .bind (readl_sparesMclk _) fun _ _ =>
    .bind (writel_sparesMclk _ (by decide)) fun _ _ =>
      .bind mmcUpdateClk_sparesMclk fun _ _ => ?_
  split
  · exact rfl
  · exact .bind (mmcConfigDelay_clocking _) fun left same =>
      same.trans (clocking_setCurrent host clk)

end Spares

/-! ### What is left -/

/-- The host and the registers that `mmc_config_clock_modex` leaves -/
def clockConfigured (smhc : Smhc) (host : SunxiMmcHost) (clk : U32) (world : HostWorld) :
    SunxiMmcHost × HostWorld :=
  let run := (mmcConfigClockModex host clk).exec (serveHost smhc host.mmcNo) world
  (run.1.2, run.2)

section Left

variable (smhc : Smhc) (mmcNo : Nat) (world : HostWorld)

theorem sunxiClockGetPll6_result :
    (sunxiClockGetPll6.exec (serveHost smhc mmcNo) world).1 = pll6Of world.clocks.2 := rfl

theorem sunxiClockGetPll6_left :
    (sunxiClockGetPll6.exec (serveHost smhc mmcNo) world).2 = world.tick smhc := rfl

theorem mmcSetMclk_clocks (clkHz : U32) :
    ((mmcSetMclk clkHz).exec (serveHost smhc mmcNo) world).2.clocks =
      (mclkWritten world.clocks.2 clkHz, world.clocks.2) := by
  unfold mmcSetMclk mclkWritten
  extract_lets writes
  -- for either source, a value goes into the register
  have written : ∀ (state : HostWorld) (src sclkHz : U32), state.clocks.2 = world.clocks.2 →
      ((writes (src, sclkHz)).exec (serveHost smhc mmcNo) state).2.clocks =
        (mclkValue src (mclkDivider (mclkDiv sclkHz clkHz)), world.clocks.2) := by
    intro state src sclkHz same
    rw [← same]
    rfl
  by_cases slow : clkHz ≤ 4000000
  · have source : mclkSource world.clocks.2 clkHz = (0, 24000000) := if_pos slow
    rw [if_pos slow, source, pure_bind]
    exact written world 0 24000000 rfl
  · have source : mclkSource world.clocks.2 clkHz = (1, pll6Of world.clocks.2 * 2 * 1000000) :=
      if_neg slow
    rw [if_neg slow, source, exec_bind, sunxiClockGetPll6_result,
      sunxiClockGetPll6_left]
    -- the rate is not to be computed with
    generalize pll6Of world.clocks.2 * 2 * 1000000 = sclkHz
    rw [pure_bind]
    exact written (world.tick smhc) 1 sclkHz rfl

theorem mmcGetMclk_result :
    (mmcGetMclk.exec (serveHost smhc mmcNo) world).1 = mclkRead world.clocks.2 world.clocks.1 := by
  unfold mmcGetMclk mclkRead
  rw [exec_bind, readl_mclkbase]
  extract_lets m n src reads sclkHz
  have result : ∀ (state : HostWorld) (rate : U32), rate = sclkHz →
      ((reads rate).exec (serveHost smhc mmcNo) state).1 = sclkHz / (1 : U32) <<< n / (m + 1) := by
    rintro state rate rfl
    rfl
  by_cases oscillator : src = 0
  · rw [if_pos oscillator, pure_bind]
    exact result _ _ (if_pos oscillator).symm
  · rw [if_neg oscillator]
    by_cases pll : src = 1
    · rw [if_pos pll, exec_bind, sunxiClockGetPll6_result, pure_bind]
      exact result _ _ ((if_neg oscillator).trans (if_pos pll)).symm
    · rw [if_neg pll, pure_bind]
      exact result _ _ ((if_neg oscillator).trans (if_neg pll)).symm

theorem mmcGetMclk_sparesMclk : Makes SparesMclk mmcGetMclk :=
  .bind (readl_sparesMclk _) fun _ => .ite (.bind (.pure _) fun _ => .pure _) <|
    .ite (.bind (.bind (readl_sparesMclk _) fun _ => .pure _) fun _ =>
      .bind (.pure _) fun _ => .pure _) (.bind (.pure _) fun _ => .pure _)

theorem clockConfigured_spec {host : SunxiMmcHost} (timed : HasTimingMode host) (clk : U32) :
    let written := mclkWritten world.clocks.2 (host.askedMclk clk)
    let mclk := mclkRead world.clocks.2 written
    let clock := if host.mmc.quarter host.timingMode then mclk / 4 else mclk / 2
    (clockConfigured smhc host clk world).2.clocks = (written ||| bit 31, world.clocks.2) ∧
      (clockConfigured smhc host clk world).1.clocking =
        (host.clocked (host.askedMclk clk) clock).clocking := by
  intro written mclk clock
  unfold clockConfigured
  rw [mmcConfigClockModex_eq timed]
  simp only [exec_bind]
  have disabled : (exec (serveHost smhc host.mmcNo) (writel 0 .mclkbase) world).2.clocks.2 =
      world.clocks.2 := rfl
  generalize (exec (serveHost smhc host.mmcNo) (writel 0 .mclkbase) world).2 = first
    at disabled ⊢
  have selected :
      (exec (serveHost smhc host.mmcNo) (selectTiming host) first).2.clocks.2 =
        world.clocks.2 :=
    (congrArg Prod.snd (exec_spares smhc host.mmcNo first (selectTiming_sparesMclk host)).2).trans
      disabled
  generalize (exec (serveHost smhc host.mmcNo) (selectTiming host) first).2 = second
    at selected ⊢
  have set := mmcSetMclk_clocks smhc host.mmcNo second (host.askedMclk clk)
  rw [selected] at set
  generalize (exec (serveHost smhc host.mmcNo) (mmcSetMclk (host.askedMclk clk)) second).2 =
    third at set ⊢
  have isMclk := mmcGetMclk_result smhc host.mmcNo third
  have read := (exec_spares smhc host.mmcNo third mmcGetMclk_sparesMclk).2
  rw [set] at isMclk read
  rw [isMclk]
  generalize (exec (serveHost smhc host.mmcNo) mmcGetMclk third).2 = fourth at read ⊢
  have enabled := modifyReg_mclkbase smhc host.mmcNo fourth (· ||| bit 31)
  rw [read] at enabled
  obtain ⟨left, kept⟩ := exec_spares smhc host.mmcNo
    (exec (serveHost smhc host.mmcNo) (modifyReg (· ||| bit 31) .mclkbase) fourth).2
    (finishClock_clocking (host.clocked (host.askedMclk clk) clock)
      (host.mmc.quarter host.timingMode) clk)
  exact ⟨kept.trans enabled, left⟩

end Left

end PinePhonePkg
