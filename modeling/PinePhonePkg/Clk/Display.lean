/-
This file puts the clocks of this chip together: the oscillator, the clocks that
multiply it and the peripheral clocks, with the registers that switch them.

It proves that the operations keep the switches of other clocks, and with this that in
every run of the driver a clock in use has all its gates open, and so have all clocks
that it is fed by.
-/

import PinePhonePkg.Clk.GateRun
import PinePhonePkg.Clk.TreeRun
import PinePhonePkg.Smbios.Strings

namespace PinePhonePkg

open Library RefTree

/-! ### The clocks -/

/-- The clocks of `init_clocks` -/
inductive DispClock : Type where
  | hosc
  | media (pll : MediaPll)
  | pllMipi
  | periph (periph : DispPeriph)
deriving DecidableEq

/-- All clocks, in the order in which they are registered -/
def dispClocks : List DispClock :=
  [.hosc, .media .pllVideo0, .media .pllVideo1, .pllMipi, .media .pllDe] ++
    dispPeriphs.map DispClock.periph

theorem mem_dispClocks (clk : DispClock) : clk ∈ dispClocks := by
  cases clk with
  | hosc => decide
  | media pll => cases pll <;> decide
  | pllMipi => decide
  | periph periph => cases periph <;> decide

theorem mem_toFinset_dispClocks (clk : DispClock) : clk ∈ dispClocks.toFinset :=
  List.mem_toFinset.mpr (mem_dispClocks clk)

instance : Fintype DispClock := ⟨dispClocks.toFinset, mem_toFinset_dispClocks⟩

/-- The names of the clocks in the code -/
def dispName : DispClock → String
  | .hosc => "hosc"
  | .media .pllVideo0 => "pll_video0"
  | .media .pllVideo1 => "pll_video1"
  | .media .pllDe => "pll_de"
  | .pllMipi => "pll_mipi"
  | .periph .de => "de"
  | .periph .tcon0 => "tcon0"
  | .periph .tcon1 => "tcon1"
  | .periph .hdmi => "hdmi"
  | .periph .hdmiSlow => "hdmi_slow"
  | .periph .lvds => "lvds"
  | .periph .mipidsi => "mipidsi"

/-- `de_parents` and the others; an empty name is no clock. -/
def dispParents : DispClock → List String
  | .hosc => []
  | .media _ => ["hosc"]
  | .pllMipi => ["pll_video0", ""]
  | .periph .de => ["pll_periph0x2", "pll_de", "", "", "", "", "", ""]
  | .periph .tcon0 => ["pll_mipi", "", "pll_video0x2", "", "", "", "", ""]
  | .periph .tcon1 => ["pll_video0", "", "pll_video1", ""]
  | .periph .hdmi => ["pll_video0", "pll_video1", "", ""]
  | .periph .hdmiSlow => ["hosc"]
  | .periph .lvds => ["tcon0"]
  | .periph .mipidsi => ["pll_video0", "", "pll_periph0", ""]

/-- `clk_fixed_rate_ops` -/
def clkFixedRateOps {Hw : Type} (fixedRate : Ulong) : ClkOps Hw where
  enable := none
  disable := none
  recalcRate := some fun _ _ => fixedRate
  roundRate := none
  setParent := none
  getParent := none
  setRate := none
  init := none

/-- Operations on the hardware beside the bytes of the shared gates -/
def ClkOps.beside {Com Hw : Type} (ops : ClkOps Hw) : ClkOps (GateState Com Hw) where
  enable := ops.enable.map fun enable state =>
    ((enable state.hw).1, { state with hw := (enable state.hw).2 })
  disable := ops.disable.map fun disable state => { state with hw := disable state.hw }
  recalcRate := ops.recalcRate.map fun recalcRate state => recalcRate state.hw
  roundRate := ops.roundRate.map fun roundRate state => roundRate state.hw
  setParent := ops.setParent.map fun setParent state index =>
    ((setParent state.hw index).1, { state with hw := (setParent state.hw index).2 })
  getParent := ops.getParent.map fun getParent state => getParent state.hw
  setRate := ops.setRate.map fun setRate state rate parentRate =>
    ((setRate state.hw rate parentRate).1,
      { state with hw := (setRate state.hw rate parentRate).2 })
  init := ops.init.map fun init state => { state with hw := init state.hw }

section Table

variable {Hw : Type} (device : ClkDevice Hw) (before : ClkFactorsValue)

/-- The operations of the clocks -/
def dispOps : DispClock → ClkOps (GateState ComGateName Hw)
  | .hosc => clkFixedRateOps 24000000
  | .media pll => (sunxiClkFactorsOps device (pll.factors before)).beside
  | .pllMipi => (pllMipiOps device (pllMipi before)).beside
  | .periph periph => sunxiClkPeriphOps device (dispPeriph periph) comGateShare

/-- The clocks as `init_clocks` registers them -/
def dispTable : ClkTable DispClock (GateState ComGateName Hw) where
  name := fun clk => asciiBytes (dispName clk)
  ops := dispOps device before
  parentNames := fun clk => (dispParents clk).map asciiBytes
  clkIsRoot := fun clk => clk = .hosc
  clkSetParentGate := fun _ => false
  clkGetRateNocache := fun _ => false

/-- How far a clock can be from the crystal -/
def dispRank : DispClock → Nat
  | .hosc => 0
  | .media _ => 1
  | .pllMipi => 2
  | .periph .lvds => 4
  | .periph _ => 3

theorem dispTable_layered : (dispTable device before).Layered dispRank := by
  have all : ∀ clk ∈ dispClocks, ∀ up ∈ dispClocks,
      asciiBytes (dispName up) ∈ (dispParents clk).map asciiBytes → dispRank up < dispRank clk := by
    decide +kernel
  exact fun clk up => all clk (mem_dispClocks clk) up (mem_dispClocks up)

end Table

/-! ### The switches -/

/-- The bits that are set while a clock is on -/
def openBits : DispClock → List (U32 × Nat)
  | .hosc => []
  | .media pll => [(pll.reg, 31)]
  | .pllMipi => [(sunxiClkBase + 0x0040, 22), (sunxiClkBase + 0x0040, 23),
      (sunxiClkBase + 0x0040, 31)]
  | .periph periph =>
    (gatesUp.filter fun kind => (dispPeriph periph).Switches comGateShare false kind).map
      (dispPeriph periph).gateBit

/-- The clock is on: all its switches are open. -/
def ClkOpen {Hw : Type} (view : Hw → U32 → U32) (state : GateState ComGateName Hw)
    (clk : DispClock) : Prop :=
  ∀ bit ∈ openBits clk, bitOf (view state.hw) bit = true

/-- No two clocks have a switch in common. -/
theorem openBits_disjoint {clk other : DispClock} (different : other ≠ clk) :
    ∀ bit ∈ openBits other, bit ∉ openBits clk := by
  have all : ∀ clk ∈ dispClocks, ∀ other ∈ dispClocks, other ≠ clk →
      ∀ bit ∈ openBits other, bit ∉ openBits clk := by
    decide +kernel
  exact all clk (mem_dispClocks clk) other (mem_dispClocks other) different

/-! ### Bits that stay set -/

section Bits

variable {shift width place : Nat} {word value : U32}

/-- A bit beside the field stays set, whatever is written to the field. -/
theorem getLsbD_setBits (outside : (setMask shift width).getLsbD place = false)
    (isSet : word.getLsbD place = true) : (setBits shift width word value).getLsbD place = true := by
  have inside : place < 32 := BitVec.lt_of_getLsbD isSet
  unfold setBits
  rw [BitVec.getLsbD_or, BitVec.getLsbD_and, BitVec.getLsbD_not, outside, isSet]
  simp [inside]

/-- A bit that is set to one -/
theorem getLsbD_setBits_one (inside : place < 32) (word : U32) :
    (setBits place 1 word 1).getLsbD place = true := by
  unfold setBits
  rw [BitVec.getLsbD_or, BitVec.getLsbD_shiftLeft, Nat.sub_self]
  simp [inside]

variable {Hw : Type} {device : ClkDevice Hw} {status : U32 → U32} {view : Hw → U32 → U32}
  (keeps : device.Keeps status view) {reg : U32} {hw : Hw}
include keeps

/-- What is seen to be set is read, and the device does not change it by itself. -/
theorem getLsbD_readl (isSet : bitOf (view hw) (reg, place) = true) :
    (device.readl reg hw).getLsbD place = true ∧ (status reg).getLsbD place = false := by
  unfold bitOf at isSet
  rw [← keeps.readl, BitVec.getLsbD_and, BitVec.getLsbD_not] at isSet
  simp only [Bool.and_eq_true, decide_eq_true_eq, Bool.not_eq_true'] at isSet
  exact ⟨isSet.1, isSet.2.2⟩

/-- A bit is set after a write of a word that has it. -/
theorem bitOf_writel (inWord : word.getLsbD place = true)
    (steady : (status reg).getLsbD place = false) (hw : Hw) :
    bitOf (view (device.writel word reg hw)) (reg, place) = true := by
  have inside : place < 32 := BitVec.lt_of_getLsbD inWord
  unfold bitOf
  rw [keeps.writel, Function.update_self, BitVec.getLsbD_and, BitVec.getLsbD_not, inWord, steady]
  simp [inside]

theorem bitOf_writel_of_ne {bit : U32 × Nat} (different : bit.1 ≠ reg) (word : U32) (hw : Hw) :
    bitOf (view (device.writel word reg hw)) bit = bitOf (view hw) bit := by
  unfold bitOf
  rw [keeps.writel, Function.update_of_ne different]

/-- A write of a word that keeps a bit keeps it. -/
theorem bitOf_writel_kept {bit : U32 × Nat} (isSet : bitOf (view hw) bit = true)
    (kept : bit.1 = reg → (device.readl reg hw).getLsbD bit.2 = true → word.getLsbD bit.2 = true) :
    bitOf (view (device.writel word reg hw)) bit = true := by
  obtain ⟨other, place⟩ := bit
  by_cases same : other = reg
  · subst same
    obtain ⟨isRead, steady⟩ := getLsbD_readl keeps isSet
    exact bitOf_writel keeps (kept rfl isRead) steady hw
  · have isSame := @bitOf_writel_of_ne _ _ _ _ keeps reg (other, place) same word hw
    exact isSame.trans isSet

end Bits

/-! ### The clocks that multiply -/

section Factors

variable {Hw : Type} {device : ClkDevice Hw} {status : U32 → U32} {view : Hw → U32 → U32}
  (keeps : device.Keeps status view) {factor : ClkFactors}

/-- A clock without a lock of its own, a spread spectrum and an update bit -/
structure ClkFactors.Plain (factor : ClkFactors) : Prop where
  lock : factor.lockMode = .noneMode
  sdm : factor.config.sdmwidth = 0
  update : factor.config.updshift = 0

variable (plain : factor.Plain)

theorem ClkFactors.Plain.beside (plain : factor.Plain) (reg : U32) : factor.Beside reg where
  lock := fun mode => by
    rw [plain.lock] at mode
    exact mode.elim PllLockMode.noConfusion PllLockMode.noConfusion
  sdm := fun some => absurd plain.sdm some

theorem ClkFactors.Plain.writeSdm (plain : factor.Plain) (word : U32) (hw : Hw) :
    writeSdm device factor word hw = (word, hw) := by
  unfold PinePhonePkg.writeSdm
  exact if_neg (not_not.mpr plain.sdm)

theorem ClkFactors.Plain.setUpdate (plain : factor.Plain) (word : U32) :
    setUpdate factor word = word := by
  unfold PinePhonePkg.setUpdate
  exact if_neg (not_not.mpr plain.update)

theorem ClkFactors.Plain.disablePlllock (plain : factor.Plain) (hw : Hw) :
    sunxiClkDisablePlllock device factor hw = (0, hw) := by
  unfold sunxiClkDisablePlllock
  rw [plain.lock]

include keeps plain

/-- The register has the enable bit after enabling, and all bits that were set before. -/
theorem bitOf_sunxiClkFatorsEnable (inside : factor.config.enshift < 32)
    (steady : (status factor.reg).getLsbD factor.config.enshift = false) (hw : Hw) :
    bitOf (view (sunxiClkFatorsEnable device factor hw).2) (factor.reg, factor.config.enshift) =
        true ∧
      ∀ bit, bitOf (view hw) bit = true →
        bitOf (view (sunxiClkFatorsEnable device factor hw).2) bit = true := by
  unfold sunxiClkFatorsEnable
  by_cases isOn : getBits factor.config.enshift 1 (device.readl factor.reg hw) ≠ 0
  · rw [if_pos isOn]
    refine ⟨?_, fun _ isSet => isSet⟩
    have isRead : (device.readl factor.reg hw).getLsbD factor.config.enshift = true := by
      by_contra notSet
      refine isOn ?_
      unfold getBits
      have none : device.readl factor.reg hw &&& setMask factor.config.enshift 1 = 0 := by
        refine BitVec.eq_of_getLsbD_eq fun place _ => ?_
        rw [BitVec.getLsbD_and, getLsbD_setMask inside]
        by_cases same : place = factor.config.enshift
        · subst same
          rw [eq_false_of_ne_true notSet]
          simp
        · have outside : ¬ (factor.config.enshift ≤ place ∧ place < factor.config.enshift + 1) := by
            omega
          rw [decide_eq_false outside]
          simp
      rw [none]
      simp
    unfold bitOf
    rw [← keeps.readl, BitVec.getLsbD_and, BitVec.getLsbD_not, isRead, steady]
    simp [inside]
  · rw [if_neg isOn, plain.disablePlllock]
    dsimp only
    rw [plain.writeSdm]
    dsimp only
    rw [plain.setUpdate, apply_ite Prod.snd, ite_self]
    have sameView : ∀ start, view (sunxiClkIsLock device factor start).2 = view start :=
      fun start => funext fun reg => view_isLock keeps (plain.beside reg) start
    rw [sameView]
    have isEnabled := getLsbD_setBits_one inside (device.readl factor.reg hw)
    refine ⟨bitOf_writel keeps isEnabled steady hw, fun bit isSet => ?_⟩
    refine bitOf_writel_kept keeps isSet fun _ isRead => ?_
    by_cases same : bit.2 = factor.config.enshift
    · rw [same]
      exact isEnabled
    · refine getLsbD_setBits ?_ isRead
      have outside : ¬ (factor.config.enshift ≤ bit.2 ∧ bit.2 < factor.config.enshift + 1) := by
        omega
      rw [getLsbD_setMask inside, decide_eq_false outside]

/-- A bit that is in none of the factors stays set when they are written, even when they do not
fit. -/
theorem bitOf_sunxiClkFactorsSetRate {bit : U32 × Nat} (hw : Hw) (rate parentRate : Ulong)
    (outside : bit.1 = factor.reg → ∀ field, (factor.config.mask field).getLsbD bit.2 = false)
    (isSet : bitOf (view hw) bit = true) :
    bitOf (view (sunxiClkFactorsSetRate device factor hw rate parentRate).2) bit = true := by
  cases isGet : factor.getFactors with
  | none =>
    unfold sunxiClkFactorsSetRate
    rw [isGet]
    exact isSet
  | some getFactors =>
    by_cases found : 0 ≤ (getFactors (rate.setWidth 32) (parentRate.setWidth 32)).1 ∧
        factor.clkRateFlatFactors = false
    · obtain ⟨word, isBefore, isAfter, others⟩ := view_sunxiClkFactorsSetRate keeps isGet found.2
        found.1 (plain.beside factor.reg) hw
      obtain ⟨reg, place⟩ := bit
      unfold bitOf at isSet ⊢
      by_cases same : reg = factor.reg
      · subst same
        dsimp only at isSet ⊢
        rw [← isBefore, BitVec.getLsbD_and, Bool.and_eq_true] at isSet
        rw [isAfter, BitVec.getLsbD_and, isSet.2, Bool.and_true]
        -- the bit goes through the fields one after the other
        have through : ∀ fields : List FactorField, ∀ word : U32, word.getLsbD place = true →
            (fields.foldl (writeFactor factor.config
              (getFactors (rate.setWidth 32) (parentRate.setWidth 32)).2) word).getLsbD place =
              true := by
          intro fields
          induction fields with
          | nil => exact fun _ isSet => isSet
          | cons field rest inductionHypothesis =>
            intro word isSet
            rw [List.foldl_cons]
            refine inductionHypothesis _ ?_
            unfold writeFactor
            split
            next => exact getLsbD_setBits (outside rfl field) isSet
            next => exact isSet
        unfold factorWord
        rw [plain.setUpdate, if_neg (not_not.mpr plain.sdm)]
        exact through clkFactorFields word isSet.1
      · rw [others reg same (plain.beside reg)]
        exact isSet
    · have unchanged : (sunxiClkFactorsSetRate device factor hw rate parentRate).2 = hw := by
        unfold sunxiClkFactorsSetRate
        rw [isGet]
        dsimp only
        split
        next => rfl
        next isFound =>
          have isFlat : factor.clkRateFlatFactors = true := by
            by_contra notFlat
            exact found ⟨Int.not_lt.mp isFound, eq_false_of_ne_true notFlat⟩
          rw [if_pos isFlat]
      rw [unchanged]
      exact isSet

end Factors

/-! ### The operations of the clocks -/

section Operations

variable {Hw : Type} {device : ClkDevice Hw} {view : Hw → U32 → U32}
  (keeps : device.Keeps lockStatus view) (before : ClkFactorsValue)

/-- The bits that are set stay set where `bits` says so. -/
def OpenKept (view : Hw → U32 → U32) (bits : U32 × Nat → Prop)
    (state after : GateState ComGateName Hw) : Prop :=
  ∀ bit, bits bit → bitOf (view state.hw) bit = true → bitOf (view after.hw) bit = true

theorem plain_factors (pll : MediaPll) : (pll.factors before).Plain := by
  cases pll <;> exact ⟨rfl, rfl, rfl⟩

theorem plain_pllMipi : (pllMipi before).Plain := ⟨rfl, rfl, rfl⟩

/-- What the peripheral clocks are like -/
theorem dispPeriph_facts (periph : DispPeriph) :
    (dispPeriph periph).Placed lockStatus ∧
      (dispPeriph periph).Separate comGateShare false ∧
      ∀ on kind, (dispPeriph periph).gateValue false on kind = on := by
  have writable : (dispPeriph periph).clkReadonly = false := by
    cases periph <;> rfl
  refine ⟨dispLayout.placed periph, fun kind other there otherThere same => ?_, fun on kind => ?_⟩
  · exact (dispLayout.own periph periph kind other ⟨writable, there⟩ ⟨writable, otherThere⟩ same).2
  · cases periph <;> exact if_neg fun reverted => Bool.noConfusion reverted.2.1

/-- Enabling and disabling a peripheral clock switches its own gates. -/
theorem sunxiClkPeriphEnable_dispPeriph (periph : DispPeriph)
    (state : GateState ComGateName Hw) :
    sunxiClkPeriphEnable device comGateShare (dispPeriph periph) state =
      (0, ⟨state.val, gatesUp.foldl
        (switchGate device comGateShare (dispPeriph periph) false true) state.hw⟩) := by
  cases periph <;> rfl

theorem sunxiClkPeriphDisable_dispPeriph (periph : DispPeriph)
    (state : GateState ComGateName Hw) :
    sunxiClkPeriphDisable device comGateShare (dispPeriph periph) state =
      ⟨state.val, gatesDown.foldl
        (switchGate device comGateShare (dispPeriph periph) false false) state.hw⟩ := by
  cases periph <;> rfl

theorem mem_openBits_periph (periph : DispPeriph) (bit : U32 × Nat) :
    bit ∈ openBits (.periph periph) ↔ ∃ kind,
      (dispPeriph periph).Switches comGateShare false kind ∧
        (dispPeriph periph).gateBit kind = bit := by
  unfold openBits
  rw [List.mem_map]
  refine exists_congr fun kind => and_congr_left fun _ => ?_
  rw [List.mem_filter, decide_eq_true_iff]
  exact and_iff_right (mem_gatesUp kind)

theorem mem_openBits_pllMipi (bit : U32 × Nat) :
    bit ∈ openBits .pllMipi ↔
      bit.1 = (pllMipi before).reg ∧ (bit.2 = 22 ∨ bit.2 = 23 ∨ bit.2 = 31) := by
  have isReg : (pllMipi before).reg = sunxiClkBase + 0x0040 := rfl
  obtain ⟨reg, place⟩ := bit
  rw [isReg]
  unfold openBits
  simp only [List.mem_cons, List.not_mem_nil, or_false, Prod.mk.injEq]
  exact ⟨fun either => by tauto, fun both => by tauto⟩

include keeps

/-- The gates of a peripheral clock after it is switched, and all other bits -/
theorem bitOf_switchGates (periph : DispPeriph) (on : Bool) {kinds : List GateKind}
    (all : ∀ kind, kind ∈ kinds) (hw : Hw) (bit : U32 × Nat) :
    bitOf (view (kinds.foldl (switchGate device comGateShare (dispPeriph periph) false on) hw))
        bit =
      if bit ∈ openBits (.periph periph) then on else bitOf (view hw) bit := by
  obtain ⟨placed, separate, isValue⟩ := dispPeriph_facts periph
  rw [view_switchGates keeps placed]
  split
  next isGate =>
    obtain ⟨kind, there, rfl⟩ := (mem_openBits_periph periph bit).mp isGate
    rw [bitOf_gatePuts placed separate (all kind) there, isValue]
  next notGate =>
    refine bitOf_gatePuts_of_ne placed (fun kind there same => notGate ?_) _
    exact (mem_openBits_periph periph bit).mpr ⟨kind, there, same.symm⟩

omit keeps in
/-- Bits of a word stay set when more are set. -/
theorem getLsbD_or_kept {word more : U32} {place : Nat} (isSet : word.getLsbD place = true) :
    (word ||| more).getLsbD place = true := by
  rw [BitVec.getLsbD_or, isSet, Bool.true_or]

/-- The clock of the serial display is enabled in two steps. -/
theorem clkEnablePllMipi_open (hw : Hw) :
    (∀ bit ∈ openBits .pllMipi,
      bitOf (view (clkEnablePllMipi device (pllMipi before) hw).2) bit = true) ∧
      ∀ bit, bitOf (view hw) bit = true →
        bitOf (view (clkEnablePllMipi device (pllMipi before) hw).2) bit = true := by
  have plain := plain_pllMipi before
  unfold clkEnablePllMipi
  rw [plain.writeSdm]
  dsimp only
  rw [keeps.udelay]
  -- the word that is written in the end
  generalize isFirst : device.readl (pllMipi before).reg hw ||| (3 : U32) <<< 22 = first
  have inside : (pllMipi before).config.enshift + 1 ≤ 32 := by
    show 31 + 1 ≤ 32
    decide
  have stays : ∀ place, first.getLsbD place = true →
      (setBits (pllMipi before).config.enshift 1 first 1).getLsbD place = true := by
    intro place isSet
    by_cases same : place = (pllMipi before).config.enshift
    · rw [same]
      exact getLsbD_setBits_one inside first
    · refine getLsbD_setBits ?_ isSet
      have outside : ¬ ((pllMipi before).config.enshift ≤ place ∧
          place < (pllMipi before).config.enshift + 1) := by
        omega
      rw [getLsbD_setMask inside, decide_eq_false outside]
  have firstStays : ∀ place, (device.readl (pllMipi before).reg hw).getLsbD place = true →
      first.getLsbD place = true := fun place isSet => isFirst ▸ getLsbD_or_kept isSet
  refine ⟨fun bit member => ?_, fun bit isSet => ?_⟩
  · obtain ⟨reg, place⟩ := bit
    obtain ⟨isReg, isPlace⟩ := (mem_openBits_pllMipi before (reg, place)).mp member
    dsimp only at isReg isPlace
    subst isReg
    have added : ∀ place, ((3 : U32) <<< 22).getLsbD place = true → first.getLsbD place = true := by
      intro place isAdded
      rw [← isFirst, BitVec.getLsbD_or, isAdded, Bool.or_true]
    have steady : ∀ place ∈ [22, 23, 31],
        (lockStatus (sunxiClkBase + 0x0040)).getLsbD place = false := by decide
    rcases isPlace with rfl | rfl | rfl
    · exact bitOf_writel keeps (stays 22 (added 22 (by decide))) (steady 22 (by decide)) _
    · exact bitOf_writel keeps (stays 23 (added 23 (by decide))) (steady 23 (by decide)) _
    · exact bitOf_writel keeps (getLsbD_setBits_one inside first) (steady 31 (by decide)) _
  · obtain ⟨reg, place⟩ := bit
    by_cases same : reg = (pllMipi before).reg
    · subst same
      obtain ⟨isRead, steady⟩ := getLsbD_readl keeps isSet
      exact bitOf_writel keeps (stays place (firstStays place isRead)) steady _
    · have second := @bitOf_writel_of_ne _ _ _ _ keeps (pllMipi before).reg (reg, place) same
      rw [second, keeps.udelay, second]
      exact isSet

/-- Enabling a clock opens its switches and closes none. -/
theorem dispOps_enable (clk : DispClock) {enable}
    (isEnable : enable ∈ (dispOps device before clk).enable) (state : GateState ComGateName Hw) :
    ClkOpen view (enable state).2 clk ∧ OpenKept view (fun _ => True) state (enable state).2 := by
  cases clk with
  | hosc => exact absurd isEnable.symm (Option.some_ne_none _)
  | media pll =>
    obtain rfl := Option.some.inj isEnable
    have steady : (lockStatus pll.reg).getLsbD 31 = false := by
      cases pll <;> decide
    have inside : pll.config.enshift < 32 := by
      cases pll <;> decide
    have isShift : (pll.factors before).config.enshift = 31 := by
      cases pll <;> rfl
    obtain ⟨isOn, kept⟩ := bitOf_sunxiClkFatorsEnable keeps (plain_factors before pll) inside
      (isShift.symm ▸ steady) state.hw
    refine ⟨fun bit member => ?_, fun bit _ => kept bit⟩
    rw [List.mem_singleton.mp member, ← isShift]
    exact isOn
  | pllMipi =>
    obtain rfl := Option.some.inj isEnable
    exact ⟨fun bit member => (clkEnablePllMipi_open keeps before state.hw).1 bit member,
      fun bit _ => (clkEnablePllMipi_open keeps before state.hw).2 bit⟩
  | periph periph =>
    obtain rfl := Option.some.inj isEnable
    rw [sunxiClkPeriphEnable_dispPeriph]
    have switched := bitOf_switchGates keeps periph true mem_gatesUp state.hw
    refine ⟨fun bit member => (switched bit).trans (if_pos member), fun bit _ isSet => ?_⟩
    refine (switched bit).trans ?_
    split
    next => rfl
    next => exact isSet

/-- Disabling a clock closes no switches but its own. -/
theorem dispOps_disable (clk : DispClock) {disable}
    (isDisable : disable ∈ (dispOps device before clk).disable) (state : GateState ComGateName Hw) :
    OpenKept view (fun bit => bit ∉ openBits clk) state (disable state) := by
  intro bit notOwn isSet
  cases clk with
  | hosc => exact absurd isDisable.symm (Option.some_ne_none _)
  | media pll =>
    obtain rfl := Option.some.inj isDisable
    exact isSet
  | pllMipi =>
    obtain rfl := Option.some.inj isDisable
    have plain := plain_pllMipi before
    rw [mem_openBits_pllMipi before] at notOwn
    refine bitOf_writel_kept keeps isSet fun isReg isRead => ?_
    have inside : (pllMipi before).config.enshift + 1 ≤ 32 := by
      show 31 + 1 ≤ 32
      decide
    have isMask : (3 : U32) <<< 22 = setMask 22 2 := by decide
    have word : bit.2 < 32 := BitVec.lt_of_getLsbD isRead
    have beside : ¬ (22 ≤ bit.2 ∧ bit.2 < 22 + 2) := fun inMask => notOwn ⟨isReg, by omega⟩
    have besideEnable : ¬ ((pllMipi before).config.enshift ≤ bit.2 ∧
        bit.2 < (pllMipi before).config.enshift + 1) := by
      show ¬ (31 ≤ bit.2 ∧ bit.2 < 31 + 1)
      exact fun inMask => notOwn ⟨isReg, by omega⟩
    rw [isMask, if_neg (not_not.mpr plain.sdm), BitVec.getLsbD_and, BitVec.getLsbD_not,
      getLsbD_setMask (by decide), decide_eq_false beside]
    have kept : (setBits (pllMipi before).config.enshift 1
        (device.readl (pllMipi before).reg state.hw) 0).getLsbD bit.2 = true := by
      refine getLsbD_setBits ?_ isRead
      rw [getLsbD_setMask inside, decide_eq_false besideEnable]
    rw [kept]
    simp [word]
  | periph periph =>
    obtain rfl := Option.some.inj isDisable
    rw [sunxiClkPeriphDisable_dispPeriph]
    exact (bitOf_switchGates keeps periph false mem_gatesDown state.hw bit).trans
      ((if_neg notOwn).trans isSet)

omit keeps in
/-- The fields that are set for a parent or a rate have no switch of any clock. -/
theorem openBits_fields {clk : DispClock} {bit : U32 × Nat} (member : bit ∈ openBits clk) :
    (∀ periph, bit.1 = (dispPeriph periph).mux.reg →
      (setMask (dispPeriph periph).mux.shift (dispPeriph periph).mux.width).getLsbD bit.2 =
        false) ∧
      (∀ periph, bit.1 = (dispPeriph periph).divider.reg →
        (setMask (dispPeriph periph).divider.mshift
          (dispPeriph periph).divider.mwidth).getLsbD bit.2 = false ∧
        (setMask (dispPeriph periph).divider.nshift
          (dispPeriph periph).divider.nwidth).getLsbD bit.2 = false) ∧
      (bit.1 = sunxiClkBase + 0x0040 → (setMask 21 1).getLsbD bit.2 = false ∧
        ∀ field, (sunxiClkFactorPllMipi.mask field).getLsbD bit.2 = false) ∧
      ∀ pll : MediaPll, bit.1 = pll.reg → ∀ field, (pll.config.mask field).getLsbD bit.2 = false := by
  have periphs : ∀ clk ∈ dispClocks, ∀ bit ∈ openBits clk, ∀ periph ∈ dispPeriphs,
      (bit.1 = (dispPeriph periph).mux.reg →
        (setMask (dispPeriph periph).mux.shift (dispPeriph periph).mux.width).getLsbD bit.2 =
          false) ∧
      (bit.1 = (dispPeriph periph).divider.reg →
        (setMask (dispPeriph periph).divider.mshift
          (dispPeriph periph).divider.mwidth).getLsbD bit.2 = false ∧
        (setMask (dispPeriph periph).divider.nshift
          (dispPeriph periph).divider.nwidth).getLsbD bit.2 = false) := by
    decide +kernel
  have mipi : ∀ clk ∈ dispClocks, ∀ bit ∈ openBits clk, bit.1 = sunxiClkBase + 0x0040 →
      (setMask 21 1).getLsbD bit.2 = false ∧
        ∀ field ∈ clkFactorFields, (sunxiClkFactorPllMipi.mask field).getLsbD bit.2 = false := by
    decide +kernel
  have medias : ∀ clk ∈ dispClocks, ∀ bit ∈ openBits clk,
      ∀ pll ∈ [MediaPll.pllVideo0, .pllVideo1, .pllDe], bit.1 = pll.reg →
        ∀ field ∈ clkFactorFields, (pll.config.mask field).getLsbD bit.2 = false := by
    decide +kernel
  have isClock := mem_dispClocks clk
  refine ⟨fun periph => (periphs clk isClock bit member periph (mem_dispPeriphs periph)).1,
    fun periph => (periphs clk isClock bit member periph (mem_dispPeriphs periph)).2,
    fun isReg => ?_, fun pll isReg field => ?_⟩
  · obtain ⟨mux, fields⟩ := mipi clk isClock bit member isReg
    exact ⟨mux, fun field => fields field (mem_clkFactorFields field)⟩
  · refine medias clk isClock bit member pll ?_ isReg field (mem_clkFactorFields field)
    cases pll <;> decide

/-- Moving a clock to another parent closes no switch. -/
theorem dispOps_setParent (clk other : DispClock) {setParent}
    (isSet : setParent ∈ (dispOps device before clk).setParent)
    (state : GateState ComGateName Hw) (index : Nat) :
    OpenKept view (fun bit => bit ∈ openBits other) state (setParent state index).2 := by
  intro bit member isOpen
  have fields := openBits_fields member
  cases clk with
  | hosc | media => exact absurd isSet.symm (Option.some_ne_none _)
  | pllMipi =>
    obtain rfl := Option.some.inj isSet
    have there : (pllMipi before).reg ≠ 0 := by
      show sunxiClkBase + 0x0040 ≠ 0
      decide
    show bitOf (view (setParentPllMipi device (pllMipi before) _ state.hw).2) bit = true
    unfold setParentPllMipi
    rw [if_neg there]
    exact bitOf_writel_kept keeps isOpen fun isReg isRead =>
      getLsbD_setBits (fields.2.2.1 isReg).1 isRead
  | periph periph =>
    obtain rfl := Option.some.inj isSet
    show bitOf (view (sunxiClkPeriphSetParent device (dispPeriph periph) _ state.hw).2) bit = true
    unfold sunxiClkPeriphSetParent
    split
    next => exact isOpen
    next =>
      split
      next => exact isOpen
      next =>
        exact bitOf_writel_kept keeps isOpen fun isReg isRead =>
          getLsbD_setBits (fields.1 periph isReg) isRead

/-- Setting a rate closes no switch. -/
theorem dispOps_setRate (clk other : DispClock) {setRate}
    (isSet : setRate ∈ (dispOps device before clk).setRate)
    (state : GateState ComGateName Hw) (rate parentRate : Ulong) :
    OpenKept view (fun bit => bit ∈ openBits other) state (setRate state rate parentRate).2 := by
  intro bit member isOpen
  have fields := openBits_fields member
  cases clk with
  | hosc => exact absurd isSet.symm (Option.some_ne_none _)
  | media pll =>
    obtain rfl := Option.some.inj isSet
    exact bitOf_sunxiClkFactorsSetRate keeps (plain_factors before pll) state.hw rate parentRate
      (fields.2.2.2 pll) isOpen
  | pllMipi =>
    obtain rfl := Option.some.inj isSet
    exact bitOf_sunxiClkFactorsSetRate keeps (plain_pllMipi before) state.hw rate parentRate
      (fun isReg => (fields.2.2.1 isReg).2) isOpen
  | periph periph =>
    obtain rfl := Option.some.inj isSet
    show bitOf (view (sunxiClkPeriphSetRate device (dispPeriph periph) state.hw rate
      parentRate).2) bit = true
    unfold sunxiClkPeriphSetRate
    dsimp only
    split
    next => exact isOpen
    next =>
      split
      next => exact isOpen
      next =>
        refine bitOf_writel_kept keeps isOpen fun isReg isRead => ?_
        obtain ⟨m, n⟩ := fields.2.1 periph isReg
        split
        next =>
          refine getLsbD_setBits n ?_
          split
          next => exact getLsbD_setBits m isRead
          next => exact isRead
        next =>
          split
          next => exact getLsbD_setBits m isRead
          next => exact isRead

/-- The operations of the clocks are those of a tree of clocks. -/
theorem dispTable_gates : ClkGates (dispTable device before) (ClkOpen view) where
  enable_self := fun clk _ isEnable state _ => (dispOps_enable keeps before clk isEnable state).1
  enable_other := fun clk _ isEnable state _ _ isOpen bit member =>
    (dispOps_enable keeps before clk isEnable state).2 bit trivial (isOpen bit member)
  disable_other := fun clk _ isDisable state _ different isOpen bit member =>
    dispOps_disable keeps before clk isDisable state bit
      (openBits_disjoint different bit member) (isOpen bit member)
  setParent := fun clk _ isSet state index other isOpen bit member =>
    dispOps_setParent keeps before clk other isSet state index bit member (isOpen bit member)
  setRate := fun clk _ isSet state rate parentRate other isOpen bit member =>
    dispOps_setRate keeps before clk other isSet state rate parentRate bit member
      (isOpen bit member)
  init := fun clk init isInit => by
    cases clk <;> exact absurd isInit.symm (Option.some_ne_none _)

end Operations

/-! ### Clocks in use -/

section Runs

variable {Hw : Type} {device : ClkDevice Hw} {view : Hw → U32 → U32}
  (keeps : device.Keeps lockStatus view) (before : ClkFactorsValue)

/-- The clock gets the oscillator through clocks that are all on. -/
inductive Fed (view : Hw → U32 → U32) (state : ClkState DispClock (GateState ComGateName Hw)) :
    DispClock → Prop where
  | hosc : Fed view state .hosc
  | clock {clk up : DispClock} (isOpen : ClkOpen view state.hw clk)
      (isParent : state.parent clk = some up) (fed : Fed view state up) : Fed view state clk

include keeps in
/-- In every fair run of the driver, from before the clocks are registered, each clock in use is on
and gets the oscillator through clocks that are all on. -/
theorem dispClk_fed (hw : GateState ComGateName Hw) {calls : List (ClkCall DispClock)}
    (fair : Along (clkStep (dispTable device before) 6) (ClkFair (dispTable device before) 6)
      (noClocks hw) calls) :
    ∀ clk, (run (clkStep (dispTable device before) 6) (noClocks hw)
        calls).state.enableCount clk ≠ 0 →
      Fed view (run (clkStep (dispTable device before) 6) (noClocks hw) calls).state clk := by
  have deep : ∀ clk, dispRank clk + 1 < 6 := by
    have all : ∀ clk ∈ dispClocks, dispRank clk + 1 < 6 := by decide
    exact fun clk => all clk (mem_dispClocks clk)
  obtain ⟨invariant, -⟩ := right_clkRun (dispTable_gates keeps before)
    (dispTable_layered device before) deep hw fair
  generalize run (clkStep (dispTable device before) 6) (noClocks hw) calls = final at invariant ⊢
  intro clk
  induction isRank : dispRank clk using Nat.strong_induction_on generalizing clk with
  | _ rank inductionHypothesis =>
    intro used
    have isOpen : ClkOpen view final.state.hw clk := by
      cases clk with
      | hosc => exact fun bit member => absurd member List.not_mem_nil
      | media | pllMipi | periph => exact invariant.running.isOn _ (Option.some_ne_none _) used
    obtain ⟨up, isParent, isRoot | upUsed⟩ := invariant.fed used
    · have isHosc : up = .hosc := of_decide_eq_true isRoot
      exact .clock isOpen (isHosc ▸ isParent) .hosc
    · have less := invariant.ranked clk up isParent
      exact .clock isOpen isParent (inductionHypothesis _ (isRank ▸ less) up rfl upUsed)

/-- All clocks are registered, and the one at the end of the longest way is enabled. -/
def lvdsCalls : List (ClkCall DispClock) :=
  dispClocks.map ClkCall.register ++ [.prepareEnable (.periph .lvds)]

theorem dispClk_fed_lvds :
    Fed (fun hw reg => hw reg &&& ~~~lockStatus reg)
      (run (clkStep (dispTable lockedRegisters fun _ => 0) 6) (noClocks ⟨fun _ => 0, fun _ => 0⟩)
        lvdsCalls).state (.periph .lvds) := by
  have fair : Along (clkStep (dispTable lockedRegisters fun _ => 0) 6)
      (ClkFair (dispTable lockedRegisters fun _ => 0) 6) (noClocks ⟨fun _ => 0, fun _ => 0⟩)
      lvdsCalls := by
    refine ⟨trivial, trivial, trivial, trivial, trivial, trivial, trivial, trivial, trivial, trivial,
      trivial, trivial, ?_, trivial⟩
    show DispClock.periph .lvds ∈ (run (clkStep (dispTable lockedRegisters fun _ => 0) 6)
        (noClocks ⟨fun _ => 0, fun _ => 0⟩) (dispClocks.map ClkCall.register)).state.clkList ∧
      HoldsFit (run (clkStep (dispTable lockedRegisters fun _ => 0) 6)
        (noClocks ⟨fun _ => 0, fun _ => 0⟩) (dispClocks.map ClkCall.register)).holds
    decide +kernel
  exact dispClk_fed lockedRegisters_keeps (fun _ => 0) _ fair (.periph .lvds) (by decide +kernel)

end Runs

end PinePhonePkg
