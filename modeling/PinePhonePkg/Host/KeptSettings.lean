/-
This file states what a command that fails is to leave of the configuration, and
proves that it leaves it exactly where there was nothing to lose: where the
configuration was the one a reset leaves, and the clocks were open.
-/

import PinePhonePkg.Host.Recovery

namespace PinePhonePkg

open Library

/-! ### The configuration -/

/-- The registers that the set-up writes as a whole, but for the clocks -/
def settings : List HostReg :=
  [.timeout, .width, .csdc, .ntsr, .hwrst, .thldc, .dsbd, .drvDl, .sampDl, .dsDl]

/-- The registers of the module clock, its gates and its reset -/
def clockSettings : List HostReg := [.mclkbase, .hclkbase, .hclkrst]

/-- The configuration is what it was. -/
structure ConfigurationKept (before after : HostReg → U32) : Prop where
  ddr : after .gctrl &&& bit 10 = before .gctrl &&& bit 10
  clkcr : after .clkcr = before .clkcr
  settings : ∀ reg ∈ settings, after reg = before reg
  clocks : ∀ reg ∈ clockSettings, after reg = before reg

/-- The configuration is the one that a reset leaves, behind an update of the clock that has ended
in time or not, and the clocks are open. -/
structure AtReset (smhc : Smhc) (mmcNo : Nat) (ended : Bool) (registers : HostReg → U32) :
    Prop where
  ddr : registers .gctrl &&& bit 10 = smhc.resetValue .gctrl &&& bit 10
  clkcr : registers .clkcr = updated (smhc.resetValue .clkcr) ended
  settings : ∀ reg ∈ settings, registers reg = smhc.resetValue reg
  clocks : ∀ reg ∈ clockSettings, registers reg &&& gates mmcNo reg = gates mmcNo reg

theorem or_eq_self_iff (word mask : U32) : word ||| mask = word ↔ word &&& mask = mask := by
  constructor
  · intro same
    rw [← same]
    ext place
    simp only [BitVec.getElem_or, BitVec.getElem_and]
    cases word[place] <;> cases mask[place] <;> rfl
  · intro same
    rw [← same]
    ext place
    simp only [BitVec.getElem_or, BitVec.getElem_and]
    cases word[place] <;> cases mask[place] <;> rfl

theorem gctrl_ddr (word : U32) : word &&& ~~~7 &&& bit 10 = word &&& bit 10 := by
  have outside : ~~~7 &&& bit 10 = bit 10 := by decide
  rw [BitVec.and_assoc, outside]

/-- A recovered configuration is the one before if and only if that was the one of a reset. -/
theorem recovered_kept_iff (smhc : Smhc) (mmcNo : Nat) (ended : Bool)
    (before after : HostReg → U32)
    (recovered : ∀ reg : HostReg, reg.configuration ∨ reg.clock →
      after reg = smhc.recovered mmcNo ended before reg) :
    ConfigurationKept before after ↔ AtReset smhc mmcNo ended before := by
  have control : after .gctrl = smhc.resetValue .gctrl &&& ~~~7 := recovered .gctrl (by decide)
  have clock : after .clkcr = updated (smhc.resetValue .clkcr) ended :=
    recovered .clkcr (by decide)
  have setting : ∀ reg ∈ settings, after reg = smhc.resetValue reg := by
    intro reg member
    have kinds : ∀ reg ∈ settings, reg.configuration = true ∧ reg.clock = false ∧
        reg ≠ .clkcr ∧ reg ≠ .gctrl := by decide
    obtain ⟨configured, notClock, notClkcr, notControl⟩ := kinds reg member
    rw [recovered reg (.inl configured)]
    unfold Smhc.recovered Smhc.afterReset
    rw [notClock, if_neg Bool.false_ne_true, if_neg notClkcr]
    split
    · exact absurd rfl notControl
    · rfl
  have opened : ∀ reg ∈ clockSettings, after reg = before reg ||| gates mmcNo reg := by
    intro reg member
    have isClock : ∀ reg ∈ clockSettings, reg.clock = true := by decide
    rw [recovered reg (.inr (isClock reg member))]
    unfold Smhc.recovered
    rw [isClock reg member, if_pos rfl]
  constructor
  · intro kept
    refine ⟨?_, kept.clkcr.symm.trans clock, fun reg member => ?_, fun reg member => ?_⟩
    · rw [← kept.ddr, control, gctrl_ddr]
    · rw [← kept.settings reg member, setting reg member]
    · exact (or_eq_self_iff _ _).mp ((opened reg member).symm.trans (kept.clocks reg member))
  · intro atReset
    refine ⟨?_, clock.trans atReset.clkcr.symm, fun reg member => ?_, fun reg member => ?_⟩
    · rw [atReset.ddr, control, gctrl_ddr]
    · rw [setting reg member, atReset.settings reg member]
    · exact (opened reg member).trans ((or_eq_self_iff _ _).mpr (atReset.clocks reg member))

/-! ### Failed commands -/

/-- Whatever set-up has left the registers as they are, a command that fails keeps the
configuration and leaves no interrupt pending if and only if the configuration was the one of a
reset. -/
theorem configuration_kept_iff (smhc : Smhc) (mmcNo : Nat) (host : SunxiMmcHost) (turns : Nat)
    (issued : HostWorld) (cmd : HostCmd) (data : Option HostData) (noFatal : host.fatalErr = 0)
    (failed : ((host.mmcSendCmd turns cmd data).exec (serveHost smhc mmcNo) issued).1.map
      SendResult.value = some (-1)) :
    (ConfigurationKept issued.registers
        ((host.mmcSendCmd turns cmd data).exec (serveHost smhc mmcNo) issued).2.registers ∧
      ((host.mmcSendCmd turns cmd data).exec (serveHost smhc mmcNo) issued).2.registers .rint =
        0) ↔
      AtReset smhc host.mmcNo
        (((host.mmcSendCmd turns cmd data).trace (serveHost smhc mmcNo) issued).any endsUpdate)
        issued.registers := by
  obtain ⟨recovered, pending⟩ := recovers_mmcSendCmd noFatal turns cmd data issued failed
  exact (and_iff_left pending).trans (recovered_kept_iff smhc host.mmcNo _ _ _ recovered)

/-! ### An eMMC in the mode of double data rate -/

/-- A controller that answers at once -/
def promptSmhc : Smhc where
  resetValue
    | .gctrl => 0x300
    | .timeout => 0xffffff40
    | .hwrst => 1
    | _ => 0
  resetBits := 7
  resets := by decide
  calibration := 0x5000
  calibrated := by decide
  raised := fun _ => 0
  held := fun _ _ => 0

/-- The registers after power-on, with a PLL_PERIPH0 of 600 MHz -/
def poweredOn : HostWorld where
  registers
    | .pllPeriph0 => 0x1810
    | .hclkbase | .hclkrst => bit 10
    | reg => promptSmhc.resetValue reg
  time := 0

/-- The same with the gate of the module clock open -/
def openedWorld : HostWorld :=
  { poweredOn with registers := Function.update poweredOn.registers .mclkbase (bit 31) }

/-- A timing mode with no delay tuned -/
def noDelays : TimingMode where
  curSpdMd := 0
  curFreq := 0
  odly := fun _ => 0xff
  sdly := fun _ => 0xff
  dsdly := fun _ => 0xff
  defOdly := fun _ => 0
  defSdly := fun _ => 0
  defDsdly := fun _ => 0
  sdlyUnitPs := 0
  dsdlyUnitPs := 0
  dlyCalibrateDone := 0
  curOdly := 0
  curSdly := 0
  curDsdly := 0

/-- An eMMC at double data rate -/
def ddrCard : HostCard where
  speedMode := hsddr52Ddr50
  busWidth := 8
  clock := 50000000
  doTuning := 0

/-- The controller of the eMMC -/
def emmcHost : SunxiMmcHost where
  mmcNo := 2
  fatalErr := 0
  clock := 0
  modClk := 0
  pdes := 0
  timingMode := sunxiMmcTimingMode4
  tm1 := noDelays
  tm3 := noDelays
  tm4 := noDelays
  rawIntBak := 0
  mmc := ddrCard

/-- CMD17 with a buffer at an odd address -/
def misaligned : HostData where
  address := 1
  src := fun _ => 0
  flags := mmcDataRead
  blocks := 1
  blocksize := 512

/-- CMD17 -/
def readSingle : HostCmd where
  cmdidx := 17
  respType := 0x15
  cmdarg := 0
  response := noWords
  flags := 0

/-- The setup for that card -/
def ddrSetUp : Option SunxiMmcHost × HostWorld :=
  (emmcHost.setUp 1 [.mmcCoreInit, .mmcSetIos ddrCard]).exec (serveHost promptSmhc emmcHost.mmcNo)
    poweredOn

theorem ddrSetUp_ends : ddrSetUp.1.isSome := by decide +kernel

/-- The controller after the setup -/
def ddrHost : SunxiMmcHost := ddrSetUp.1.get ddrSetUp_ends

/-- Not every command that fails behind a set-up keeps the configuration: the mode of double data
rate is lost. -/
theorem configuration_lost :
    ¬∀ (smhc : Smhc) (host left : SunxiMmcHost) (turns : Nat) (calls : List SetupCall)
      (world issued : HostWorld) (cmd : HostCmd) (data : Option HostData),
      (host.setUp turns calls).exec (serveHost smhc host.mmcNo) world = (some left, issued) →
      left.fatalErr = 0 →
      ((left.mmcSendCmd turns cmd data).exec (serveHost smhc host.mmcNo) issued).1.map
        SendResult.value = some (-1) →
      ConfigurationKept issued.registers
          ((left.mmcSendCmd turns cmd data).exec (serveHost smhc host.mmcNo) issued).2.registers ∧
        ((left.mmcSendCmd turns cmd data).exec (serveHost smhc host.mmcNo)
          issued).2.registers .rint = 0 := by
  intro all
  have kept := all promptSmhc emmcHost ddrHost 1 [.mmcCoreInit, .mmcSetIos ddrCard] poweredOn
    ddrSetUp.2 readSingle (some misaligned) (Prod.ext (Option.some_get _).symm rfl)
    (by decide +kernel) (by decide +kernel)
  exact absurd kept.1.ddr (by decide +kernel)

/-- With the registers as power-on has left them, but for the gate of the module clock, the same
command loses nothing. -/
theorem configuration_kept_poweredOn :
    ConfigurationKept openedWorld.registers
        ((emmcHost.mmcSendCmd 1 readSingle (some misaligned)).exec (serveHost promptSmhc 2)
          openedWorld).2.registers ∧
      ((emmcHost.mmcSendCmd 1 readSingle (some misaligned)).exec (serveHost promptSmhc 2)
        openedWorld).2.registers .rint = 0 :=
  (configuration_kept_iff promptSmhc 2 emmcHost 1 openedWorld readSingle (some misaligned) rfl
    (by decide +kernel)).mpr
    ⟨by decide, by decide +kernel, by decide, by decide⟩

end PinePhonePkg
