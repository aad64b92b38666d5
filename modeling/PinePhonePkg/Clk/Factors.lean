/-
This file models the clocks of the display driver that multiply and divide: the
factors are fields of one register, and after they are written the clock is polled
until it is locked.

It proves when a poll is taken for a timeout, and that the factors that are written
are those that are read back, with all other bits kept.
-/

import PinePhonePkg.Library.Bits
import PinePhonePkg.Mmc.Types

namespace PinePhonePkg

open Library

/-! ### Bits of a register -/

section Bits

variable (shift width : Nat)

/-- `SETMASK` -/
def setMask : U32 := (if width = 0 then 0 else (-1 : U32) >>> (32 - width)) <<< shift

/-- `GET_BITS` -/
def getBits (reg : U32) : U32 := (reg &&& setMask shift width) >>> shift

/-- `SET_BITS`; the value is not cut to the width. -/
def setBits (reg value : U32) : U32 := (reg &&& ~~~setMask shift width) ||| value <<< shift

end Bits

/-! ### The hardware -/

/-- `sunxi_clk_base` -/
def sunxiClkBase : U32 := 0x01c20000

/-- Registers that are read and written, while time goes on -/
structure ClkDevice (Hw : Type) : Type where
  readl : U32 → Hw → U32
  writel : U32 → U32 → Hw → Hw
  udelay : Nat → Hw → Hw

/-! ### Factors -/

/-- `struct clk_factors_value` has one of each. -/
inductive FactorField : Type where
  | factorn
  | factork
  | factorm
  | factorp
  | factord1
  | factord2
  | fracMode
  | fracFreq
deriving DecidableEq

/-- The values of the factors -/
abbrev ClkFactorsValue : Type := FactorField → BitVec 16

/-- `struct sunxi_clk_factors_config` -/
structure FactorsConfig : Type where
  nshift : Nat
  nwidth : Nat
  kshift : Nat
  kwidth : Nat
  mshift : Nat
  mwidth : Nat
  pshift : Nat
  pwidth : Nat
  d1shift : Nat
  d1width : Nat
  d2shift : Nat
  d2width : Nat
  frac : Bool
  outshift : Nat
  modeshift : Nat
  enshift : Nat
  sdmshift : Nat
  sdmwidth : Nat
  sdmpat : U32
  sdmval : U32
  updshift : Nat

namespace FactorsConfig

variable (config : FactorsConfig)

/-- The lowest bit of a factor -/
def shift : FactorField → Nat
  | .factorn => config.nshift
  | .factork => config.kshift
  | .factorm => config.mshift
  | .factorp => config.pshift
  | .factord1 => config.d1shift
  | .factord2 => config.d2shift
  | .fracMode => config.modeshift
  | .fracFreq => config.outshift

/-- The fields of the fractional mode are one bit wide, if there are any. -/
def width : FactorField → Nat
  | .factorn => config.nwidth
  | .factork => config.kwidth
  | .factorm => config.mwidth
  | .factorp => config.pwidth
  | .factord1 => config.d1width
  | .factord2 => config.d2width
  | .fracMode | .fracFreq => if config.frac then 1 else 0

end FactorsConfig

/-- How the lock of a PLL is found out -/
inductive PllLockMode : Type where
  | newMode
  | oldMode
  | noneMode
  | invalid
deriving DecidableEq

/-- `struct sunxi_clk_factors` -/
structure ClkFactors : Type where
  clkIgnoreDisable : Bool
  clkRateFlatFactors : Bool
  reg : U32
  lockReg : U32
  lockBit : Nat
  pllLockCtrlReg : U32
  lockEnBit : Nat
  lockMode : PllLockMode
  config : FactorsConfig
  /-- `get_factors` for a rate and a rate of the parent, with the value that is returned -/
  getFactors : Option (U32 → U32 → Int × ClkFactorsValue)
  calcRate : Option (U32 → ClkFactorsValue → Ulong)

section Operations

variable {Hw : Type} (device : ClkDevice Hw) (factor : ClkFactors)

/-- A read, a change of one bit and a write -/
def changeBit (reg : U32) (place : Nat) (value : U32) (hw : Hw) : Hw :=
  device.writel (setBits place 1 (device.readl reg hw) value) reg hw

/-- Ends the search for the lock, as the mode has it. -/
def sunxiClkDisablePlllock (hw : Hw) : Int × Hw :=
  match factor.lockMode with
  | .newMode | .oldMode =>
    let hw := changeBit device factor.pllLockCtrlReg factor.lockEnBit 0 hw
    (0, changeBit device factor.pllLockCtrlReg 28 0 hw)
  | .noneMode => (0, hw)
  | .invalid => (-1, hw)

/-- The loop of `sunxi_clk_is_lock`, with `loop` as it is left: it goes below zero when it runs out.
-/
def pollLock : Nat → Hw → U32 × Hw
  | 0, hw => (-1, hw)
  | loop + 1, hw =>
    if getBits factor.lockBit 1 (device.readl factor.lockReg hw) ≠ 0 then
      (BitVec.ofNat 32 loop, device.udelay 20 hw)
    else pollLock loop (device.udelay 1 hw)

/-- The mode with a lock of its own is put off again before the loop is looked at. -/
def sunxiClkIsLock (hw : Hw) : Int × Hw :=
  match factor.lockMode with
  | .newMode =>
    let hw := changeBit device factor.pllLockCtrlReg 28 1 hw
    let hw := changeBit device factor.pllLockCtrlReg factor.lockEnBit 1 hw
    let (loop, hw) := pollLock device factor 5000 hw
    let hw := changeBit device factor.pllLockCtrlReg factor.lockEnBit 0 hw
    let hw := changeBit device factor.pllLockCtrlReg 28 0 hw
    if loop = 0 then (-1, hw) else (0, hw)
  | .oldMode | .noneMode =>
    let (loop, hw) := pollLock device factor 5000 hw
    if loop = 0 then (-1, hw) else (0, hw)
  | .invalid => (-1, hw)

/-- The pattern of the spread spectrum is written, and its field set in the word. -/
def writeSdm (reg : U32) (hw : Hw) : U32 × Hw :=
  let config := factor.config
  if config.sdmwidth ≠ 0 then
    (setBits config.sdmshift config.sdmwidth reg 1, device.writel config.sdmval config.sdmpat hw)
  else (reg, hw)

/-- The update bit of some clocks -/
def setUpdate (reg : U32) : U32 :=
  if factor.config.updshift ≠ 0 then setBits factor.config.updshift 1 reg 1 else reg

/-- Switches a PLL on and waits for the lock. -/
def sunxiClkFatorsEnable (hw : Hw) : Int × Hw :=
  if getBits factor.config.enshift 1 (device.readl factor.reg hw) ≠ 0 then (0, hw)
  else
    let hw := (sunxiClkDisablePlllock device factor hw).2
    let (reg, hw) := writeSdm device factor (device.readl factor.reg hw) hw
    let reg := setUpdate factor (setBits factor.config.enshift 1 reg 1)
    let (ret, hw) := sunxiClkIsLock device factor (device.writel reg factor.reg hw)
    if ret ≠ 0 then (-1, hw) else (0, hw)

/-- Switches a PLL off, unless it has to stay on. -/
def sunxiClkFatorsDisable (hw : Hw) : Hw :=
  if factor.clkIgnoreDisable then hw
  else if getBits factor.config.enshift 1 (device.readl factor.reg hw) = 0 then hw
  else
    let config := factor.config
    let reg := device.readl factor.reg hw
    let reg := if config.sdmwidth ≠ 0 then setBits config.sdmshift config.sdmwidth reg 0 else reg
    let reg := setBits config.enshift 1 (setUpdate factor reg) 0
    (sunxiClkDisablePlllock device factor (device.writel reg factor.reg hw)).2

/-- A field that is there -/
def readFactor (config : FactorsConfig) (reg : U32) (field : FactorField) : BitVec 16 :=
  if config.width field ≠ 0 then
    (getBits (config.shift field) (config.width field) reg).setWidth 16
  else 0xffff

/-- A field is written if it is there. -/
def writeFactor (config : FactorsConfig) (values : ClkFactorsValue) (reg : U32)
    (field : FactorField) : U32 :=
  if config.width field ≠ 0 then
    setBits (config.shift field) (config.width field) reg ((values field).setWidth 32)
  else reg

/-- The fields in the order in which they are written -/
def clkFactorFields : List FactorField :=
  [.factorn, .factork, .factorm, .factorp, .factord1, .factord2, .fracMode, .fracFreq]

/-- The rate by the factors that the register holds -/
def sunxiClkFactorsRecalcRate (hw : Hw) (parentRate : Ulong) : Ulong :=
  match factor.calcRate with
  | none => 0
  | some calcRate =>
    calcRate (parentRate.setWidth 32) (readFactor factor.config (device.readl factor.reg hw))

/-- Whether the factors were found is not looked at. -/
def sunxiClkFactorsRoundRate (rate parentRate : Ulong) : Ulong :=
  match factor.getFactors, factor.calcRate with
  | some getFactors, some calcRate =>
    calcRate (parentRate.setWidth 32) (getFactors (rate.setWidth 32) (parentRate.setWidth 32)).2
  | _, _ => rate

/-- Finds the factors of a rate, writes them and waits for the lock. -/
def sunxiClkFactorsSetRate (hw : Hw) (rate parentRate : Ulong) : Int × Hw :=
  match factor.getFactors with
  | none => (0, hw)
  | some getFactors =>
    let (found, values) := getFactors (rate.setWidth 32) (parentRate.setWidth 32)
    if found < 0 then (0, hw)
    else if factor.clkRateFlatFactors then (0, hw)
    else
      let hw := (sunxiClkDisablePlllock device factor hw).2
      let (reg, hw) := writeSdm device factor (device.readl factor.reg hw) hw
      let reg := setUpdate factor (clkFactorFields.foldl (writeFactor factor.config values) reg)
      let hw := device.writel reg factor.reg hw
      if getBits factor.config.enshift 1 reg ≠ 0 then
        let (ret, hw) := sunxiClkIsLock device factor hw
        if ret ≠ 0 then (-1, hw) else (0, hw)
      else (0, hw)

end Operations

/-! ### The lock -/

section Lock

variable {Hw : Type} (device : ClkDevice Hw) (factor : ClkFactors)

/-- The hardware after some polls that found no lock -/
def waited : Nat → Hw → Hw
  | 0, hw => hw
  | count + 1, hw => waited count (device.udelay 1 hw)

/-- Whether the clock is locked at a poll -/
def LockedAt (hw : Hw) (count : Nat) : Prop :=
  getBits factor.lockBit 1 (device.readl factor.lockReg (waited device count hw)) ≠ 0

/-- The loop is left at zero exactly if the last poll is the first that finds the clock locked. -/
theorem pollLock_eq_zero_iff {loop : Nat} (small : loop < 2 ^ 32) (hw : Hw) :
    (pollLock device factor loop hw).1 = 0 ↔
      loop ≠ 0 ∧ LockedAt device factor hw (loop - 1) ∧
        ∀ earlier < loop - 1, ¬ LockedAt device factor hw earlier := by
  induction loop generalizing hw with
  | zero =>
    have minusOne : (pollLock device factor 0 hw).1 ≠ 0 := show (-1 : U32) ≠ 0 by decide
    exact ⟨fun zero => absurd zero minusOne, fun both => absurd rfl both.1⟩
  | succ loop inductionHypothesis =>
    unfold pollLock
    rw [Nat.add_sub_cancel]
    have next := inductionHypothesis (Nat.lt_of_succ_lt small) (device.udelay 1 hw)
    by_cases locked : LockedAt device factor hw 0
    · have isLocked : getBits factor.lockBit 1 (device.readl factor.lockReg hw) ≠ 0 := locked
      rw [if_pos isLocked]
      dsimp only
      have zero : BitVec.ofNat 32 loop = 0 ↔ loop = 0 := by
        rw [← BitVec.toNat_inj, BitVec.toNat_ofNat, Nat.mod_eq_of_lt (Nat.lt_of_succ_lt small)]
        rfl
      rw [zero]
      constructor
      · rintro rfl
        exact ⟨Nat.succ_ne_zero 0, locked, fun earlier before => absurd before (Nat.not_lt_zero _)⟩
      · rintro ⟨-, -, first⟩
        by_contra later
        exact first 0 (Nat.pos_of_ne_zero later) locked
    · have notLocked : ¬ getBits factor.lockBit 1 (device.readl factor.lockReg hw) ≠ 0 := locked
      rw [if_neg notLocked, next]
      constructor
      · rintro ⟨some, last, first⟩
        have shifted : loop - 1 + 1 = loop := Nat.sub_add_cancel (Nat.one_le_iff_ne_zero.mpr some)
        refine ⟨Nat.succ_ne_zero _, ?_, fun earlier before => ?_⟩
        · have here : LockedAt device factor hw (loop - 1 + 1) := last
          rwa [shifted] at here
        · cases earlier with
          | zero => exact locked
          | succ earlier => exact first earlier (Nat.lt_sub_of_add_lt before)
      · rintro ⟨-, last, first⟩
        have some : loop ≠ 0 := by
          rintro rfl
          exact locked last
        have shifted : loop - 1 + 1 = loop := Nat.sub_add_cancel (Nat.one_le_iff_ne_zero.mpr some)
        refine ⟨some, ?_, fun earlier before => ?_⟩
        · rw [← shifted] at last
          exact last
        · exact first (earlier + 1) (Nat.add_lt_of_lt_sub before)

/-- The hardware at the first poll -/
def lockStart (hw : Hw) : Hw :=
  match factor.lockMode with
  | .newMode =>
    changeBit device factor.pllLockCtrlReg factor.lockEnBit 1
      (changeBit device factor.pllLockCtrlReg 28 1 hw)
  | _ => hw

/-- What is made of the loop -/
theorem pollLock_result (start : Hw) (after : U32 × Hw → Hw) :
    let result : Int × Hw :=
      if (pollLock device factor 5000 start).1 = 0 then
        (-1, after (pollLock device factor 5000 start))
      else (0, after (pollLock device factor 5000 start))
    (result.1 = -1 ↔ LockedAt device factor start 4999 ∧
      ∀ earlier < 4999, ¬ LockedAt device factor start earlier) ∧
      (result.1 = -1 ∨ result.1 = 0) := by
  have small : 5000 < 2 ^ 32 := by decide
  have zero := pollLock_eq_zero_iff device factor small start
  intro result
  by_cases isZero : (pollLock device factor 5000 start).1 = 0
  · have isResult : result.1 = -1 := congrArg Prod.fst (if_pos isZero)
    exact ⟨⟨fun _ => (zero.mp isZero).2, fun _ => isResult⟩, Or.inl isResult⟩
  · have isResult : result.1 = 0 := congrArg Prod.fst (if_neg isZero)
    refine ⟨⟨fun failed => ?_, fun last => ?_⟩, Or.inr isResult⟩
    · rw [isResult] at failed
      exact absurd failed (by decide)
    · exact absurd (zero.mpr ⟨by decide, last⟩) isZero

/-- A clock with a mode of the lock is reported as not locked exactly if it is first found locked at
the very last of the 5000 polls; one that is never locked is reported as locked. -/
theorem sunxiClkIsLock_fails_iff (hw : Hw) :
    ((sunxiClkIsLock device factor hw).1 = -1 ↔
      factor.lockMode = .invalid ∨
        LockedAt device factor (lockStart device factor hw) 4999 ∧
          ∀ earlier < 4999, ¬ LockedAt device factor (lockStart device factor hw) earlier) ∧
      ((sunxiClkIsLock device factor hw).1 = -1 ∨ (sunxiClkIsLock device factor hw).1 = 0) := by
  unfold sunxiClkIsLock lockStart
  cases isMode : factor.lockMode with
  | newMode =>
    have result := pollLock_result device factor
      (changeBit device factor.pllLockCtrlReg factor.lockEnBit 1
        (changeBit device factor.pllLockCtrlReg 28 1 hw))
      fun polled => changeBit device factor.pllLockCtrlReg 28 0
        (changeBit device factor.pllLockCtrlReg factor.lockEnBit 0 polled.2)
    exact ⟨result.1.trans (or_iff_right PllLockMode.noConfusion).symm, result.2⟩
  | oldMode =>
    have result := pollLock_result device factor hw Prod.snd
    exact ⟨result.1.trans (or_iff_right PllLockMode.noConfusion).symm, result.2⟩
  | noneMode =>
    have result := pollLock_result device factor hw Prod.snd
    exact ⟨result.1.trans (or_iff_right PllLockMode.noConfusion).symm, result.2⟩
  | invalid => exact ⟨⟨fun _ => Or.inl rfl, fun _ => rfl⟩, Or.inl rfl⟩

end Lock

/-! ### What bits are read back -/

section BitFields

variable {shift width shift' width' : Nat}

theorem getLsbD_setMask (inWord : shift + width ≤ 32) (place : Nat) :
    (setMask shift width).getLsbD place = decide (shift ≤ place ∧ place < shift + width) := by
  unfold setMask
  by_cases none : width = 0
  · subst none
    have empty : ¬ (shift ≤ place ∧ place < shift + 0) := by omega
    rw [if_pos rfl, decide_eq_false empty]
    simp
  · rw [if_neg none, BitVec.getLsbD_shiftLeft, BitVec.getLsbD_ushiftRight]
    have ones : ∀ index, (-1 : U32).getLsbD index = decide (index < 32) := by
      intro index
      have allOnes : (-1 : U32) = BitVec.allOnes 32 := by decide
      rw [allOnes, BitVec.getLsbD_allOnes]
    rw [ones]
    by_cases before : place < shift
    · have outside : ¬ (shift ≤ place ∧ place < shift + width) := by omega
      simp [before, decide_eq_false outside]
    · by_cases inside : place < shift + width
      · have below : 32 - width + (place - shift) < 32 := by omega
        have inWord' : place < 32 := by omega
        simp [before, inside, below, inWord', Nat.le_of_not_lt before]
      · have above : ¬ 32 - width + (place - shift) < 32 := by omega
        simp [before, inside, above]

/-- The mask of a value at its place is a part of the mask of the field. -/
theorem shiftLeft_and_setMask (inWord : shift + width ≤ 32) {value : U32}
    (fits : value.toNat < 2 ^ width) : value <<< shift &&& setMask shift width = value <<< shift := by
  refine BitVec.eq_of_getLsbD_eq fun place inside => ?_
  rw [BitVec.getLsbD_and, getLsbD_setMask inWord, BitVec.getLsbD_shiftLeft]
  by_cases before : place < shift
  · simp [before]
  · by_cases beyond : place < shift + width
    · simp [before, beyond, Nat.le_of_not_lt before]
    · have high : value.getLsbD (place - shift) = false := by
        refine Nat.testBit_lt_two_pow (Nat.lt_of_lt_of_le fits ?_)
        exact Nat.pow_le_pow_right (by decide) (by omega)
      simp [high]

theorem getBits_setBits_self (inWord : shift + width ≤ 32) (reg : U32) {value : U32}
    (fits : value.toNat < 2 ^ width) : getBits shift width (setBits shift width reg value) = value := by
  have field : setBits shift width reg value &&& setMask shift width = value <<< shift := by
    rw [← shiftLeft_and_setMask inWord fits]
    unfold setBits
    refine BitVec.eq_of_getLsbD_eq fun place _ => ?_
    simp only [BitVec.getLsbD_and, BitVec.getLsbD_or, BitVec.getLsbD_not]
    cases (setMask shift width).getLsbD place <;> simp
  unfold getBits
  rw [field]
  refine BitVec.eq_of_toNat_eq ?_
  have small : value.toNat * 2 ^ shift < 2 ^ 32 := by
    have product : value.toNat * 2 ^ shift < 2 ^ width * 2 ^ shift :=
      Nat.mul_lt_mul_of_pos_right fits (Nat.two_pow_pos shift)
    rw [← Nat.pow_add] at product
    exact Nat.lt_of_lt_of_le product (Nat.pow_le_pow_right (by decide) (by omega))
  rw [BitVec.toNat_ushiftRight, BitVec.toNat_shiftLeft, Nat.shiftLeft_eq, Nat.mod_eq_of_lt small,
    Nat.shiftRight_eq_div_pow, Nat.mul_div_cancel _ (Nat.two_pow_pos shift)]

theorem getBits_congr {first second : U32}
    (same : first &&& setMask shift width = second &&& setMask shift width) :
    getBits shift width first = getBits shift width second := by
  unfold getBits
  rw [same]

/-- A field keeps what another one is set to. -/
theorem setBits_and_apart (inWord : shift' + width' ≤ 32) {mask : U32}
    (apart : mask &&& setMask shift' width' = 0) (reg : U32) {value : U32}
    (fits : value.toNat < 2 ^ width') : setBits shift' width' reg value &&& mask = reg &&& mask := by
  have shared : ∀ place, (mask.getLsbD place && (setMask shift' width').getLsbD place) = false := by
    intro place
    rw [← BitVec.getLsbD_and, apart]
    simp
  unfold setBits
  rw [← shiftLeft_and_setMask inWord fits]
  refine BitVec.eq_of_getLsbD_eq fun place inside => ?_
  have none := shared place
  simp only [BitVec.getLsbD_and, BitVec.getLsbD_or, BitVec.getLsbD_not, inside, decide_true,
    Bool.true_and]
  cases isMask : mask.getLsbD place with
  | false => simp
  | true =>
    rw [isMask, Bool.true_and] at none
    simp [none]

end BitFields

/-! ### Where the factors are -/

/-- Bits that a device changes by itself are beside the registers that are kept. -/
structure ClkDevice.Keeps {Hw : Type} (device : ClkDevice Hw) (status : U32 → U32)
    (view : Hw → U32 → U32) : Prop where
  readl : ∀ reg hw, device.readl reg hw &&& ~~~status reg = view hw reg
  writel : ∀ value reg hw,
    view (device.writel value reg hw) = Function.update (view hw) reg (value &&& ~~~status reg)
  udelay : ∀ us hw, view (device.udelay us hw) = view hw

section Masks

variable {Hw : Type} {device : ClkDevice Hw} {status : U32 → U32} {view : Hw → U32 → U32}

/-- A part of a word that the device does not change -/
theorem and_not_and_of_apart {mask status : U32} (apart : mask &&& status = 0) (word : U32) :
    word &&& ~~~status &&& mask = word &&& mask := by
  refine BitVec.eq_of_getLsbD_eq fun place below => ?_
  have bit := congrArg (fun both => both.getLsbD place) apart
  simp only [BitVec.getLsbD_and, BitVec.getLsbD_not, below, decide_true, Bool.true_and] at bit ⊢
  cases isMask : mask.getLsbD place with
  | false => simp
  | true =>
    rw [isMask, Bool.true_and] at bit
    simp [bit]

theorem ClkDevice.Keeps.readl_and (keeps : device.Keeps status view) {mask reg : U32}
    (apart : mask &&& status reg = 0) (hw : Hw) :
    device.readl reg hw &&& mask = view hw reg &&& mask := by
  rw [← keeps.readl, and_not_and_of_apart apart]

theorem ClkDevice.Keeps.writel_and (keeps : device.Keeps status view) {mask reg : U32}
    (apart : mask &&& status reg = 0) (word : U32) (hw : Hw) :
    view (device.writel word reg hw) reg &&& mask = word &&& mask := by
  rw [keeps.writel, Function.update_self, and_not_and_of_apart apart]

end Masks

/-- Registers that keep what is written, and nothing else -/
def plainRegisters : ClkDevice (U32 → U32) where
  readl := fun reg hw => hw reg
  writel := fun value reg hw => Function.update hw reg value
  udelay := fun _ hw => hw

theorem plainRegisters_keeps : plainRegisters.Keeps (fun _ => 0) id := by
  have isAll : ∀ word : U32, word &&& ~~~(0 : U32) = word := by
    intro word
    rw [show ~~~(0 : U32) = BitVec.allOnes 32 by decide, BitVec.and_allOnes]
  refine ⟨fun reg hw => isAll (hw reg), fun value reg hw => ?_, fun _ _ => rfl⟩
  rw [isAll]
  rfl

/-- The mask of a factor -/
def FactorsConfig.mask (config : FactorsConfig) (field : FactorField) : U32 :=
  setMask (config.shift field) (config.width field)

/-- The factors are inside the register, beside each other and beside the update bit, the field of
the spread spectrum and what the device changes. -/
structure FactorsConfig.Layout (config : FactorsConfig) (status : U32) : Prop where
  inWord : ∀ field, config.shift field + config.width field ≤ 32
  narrow : ∀ field, config.width field ≤ 16
  apart : ∀ field other, field ≠ other → config.mask field &&& config.mask other = 0
  update : config.updshift ≠ 0 → config.updshift + 1 ≤ 32 ∧
    ∀ field, config.mask field &&& setMask config.updshift 1 = 0
  sdm : config.sdmwidth ≠ 0 → config.sdmshift + config.sdmwidth ≤ 32 ∧
    ∀ field, config.mask field &&& setMask config.sdmshift config.sdmwidth = 0
  status : ∀ field, config.mask field &&& status = 0

/-- The factors that are there fit their fields. -/
def FactorsConfig.Fits (config : FactorsConfig) (values : ClkFactorsValue) : Prop :=
  ∀ field, config.width field ≠ 0 → (values field).toNat < 2 ^ config.width field

section Layout

variable {config : FactorsConfig} {status : U32} {values : ClkFactorsValue}

theorem toNat_setWidth_value (value : BitVec 16) : (value.setWidth 32).toNat = value.toNat := by
  rw [BitVec.toNat_setWidth]
  exact Nat.mod_eq_of_lt (Nat.lt_of_lt_of_le value.isLt (by decide))

/-- One factor is written beside the others. -/
theorem writeFactor_and_mask (layout : config.Layout status) (fits : config.Fits values) {mask : U32}
    {field : FactorField} (apart : mask &&& config.mask field = 0) (reg : U32) :
    writeFactor config values reg field &&& mask = reg &&& mask := by
  unfold writeFactor
  split
  next there =>
    refine setBits_and_apart (layout.inWord field) apart reg ?_
    rw [toNat_setWidth_value]
    exact fits field there
  next => rfl

theorem writeFactors_and_mask (layout : config.Layout status) (fits : config.Fits values) {mask : U32}
    {fields : List FactorField} (apart : ∀ field ∈ fields, mask &&& config.mask field = 0)
    (reg : U32) : fields.foldl (writeFactor config values) reg &&& mask = reg &&& mask := by
  induction fields generalizing reg with
  | nil => rfl
  | cons field rest inductionHypothesis =>
    rw [List.foldl_cons,
      inductionHypothesis fun other member => apart other (List.mem_cons_of_mem _ member)]
    exact writeFactor_and_mask layout fits (apart field List.mem_cons_self) reg

/-- Each factor that is written is read back. -/
theorem getBits_writeFactors (layout : config.Layout status) (fits : config.Fits values)
    {fields : List FactorField} (distinct : fields.Nodup) {field : FactorField}
    (member : field ∈ fields) (there : config.width field ≠ 0) (reg : U32) :
    getBits (config.shift field) (config.width field)
      (fields.foldl (writeFactor config values) reg) = (values field).setWidth 32 := by
  induction fields generalizing reg with
  | nil => exact absurd member List.not_mem_nil
  | cons head rest inductionHypothesis =>
    obtain ⟨notLater, distinctRest⟩ := List.nodup_cons.mp distinct
    rw [List.foldl_cons]
    rcases List.mem_cons.mp member with rfl | later
    · have kept : rest.foldl (writeFactor config values) (writeFactor config values reg field) &&&
          config.mask field = writeFactor config values reg field &&& config.mask field := by
        refine writeFactors_and_mask layout fits (fun other isLater => ?_) _
        exact layout.apart field other fun same => notLater (same ▸ isLater)
      rw [getBits_congr kept]
      unfold writeFactor
      rw [if_pos there]
      refine getBits_setBits_self (layout.inWord field) reg ?_
      rw [toNat_setWidth_value]
      exact fits field there
    · exact inductionHypothesis distinctRest later _

theorem mem_clkFactorFields (field : FactorField) : field ∈ clkFactorFields := by
  cases field <;> decide

end Layout

/-! ### The registers after a rate is set -/

/-- The registers that belong to a clock: its own, that of the spread spectrum and that of the lock
-/
structure ClkFactors.Beside (factor : ClkFactors) (reg : U32) : Prop where
  lock : factor.lockMode = .newMode ∨ factor.lockMode = .oldMode → reg ≠ factor.pllLockCtrlReg
  sdm : factor.config.sdmwidth ≠ 0 → reg ≠ factor.config.sdmpat

section Registers

variable {Hw : Type} {device : ClkDevice Hw} {status : U32 → U32} {view : Hw → U32 → U32}
  (keeps : device.Keeps status view) {factor : ClkFactors} {reg : U32}
include keeps

theorem view_changeBit {other : U32} (different : reg ≠ other) (place : Nat) (value : U32)
    (hw : Hw) : view (changeBit device other place value hw) reg = view hw reg := by
  unfold changeBit
  rw [keeps.writel, Function.update_of_ne different]

theorem view_pollLock (loop : Nat) (hw : Hw) : view (pollLock device factor loop hw).2 = view hw := by
  induction loop generalizing hw with
  | zero => rfl
  | succ loop inductionHypothesis =>
    unfold pollLock
    split
    · exact keeps.udelay 20 hw
    · exact (inductionHypothesis _).trans (keeps.udelay 1 hw)

theorem view_disablePlllock (beside : factor.Beside reg) (hw : Hw) :
    view (sunxiClkDisablePlllock device factor hw).2 reg = view hw reg := by
  unfold sunxiClkDisablePlllock
  cases isMode : factor.lockMode with
  | newMode =>
    have different := beside.lock (.inl isMode)
    exact (view_changeBit keeps different _ _ _).trans (view_changeBit keeps different _ _ _)
  | oldMode =>
    have different := beside.lock (.inr isMode)
    exact (view_changeBit keeps different _ _ _).trans (view_changeBit keeps different _ _ _)
  | noneMode | invalid => rfl

theorem view_isLock (beside : factor.Beside reg) (hw : Hw) :
    view (sunxiClkIsLock device factor hw).2 reg = view hw reg := by
  unfold sunxiClkIsLock
  cases isMode : factor.lockMode with
  | newMode =>
    have different := beside.lock (.inl isMode)
    dsimp only
    rw [apply_ite Prod.snd, ite_self, view_changeBit keeps different,
      view_changeBit keeps different, view_pollLock keeps, view_changeBit keeps different,
      view_changeBit keeps different]
  | oldMode =>
    dsimp only
    rw [apply_ite Prod.snd, ite_self, view_pollLock keeps]
  | noneMode =>
    dsimp only
    rw [apply_ite Prod.snd, ite_self, view_pollLock keeps]
  | invalid => rfl

theorem view_writeSdm (beside : factor.Beside reg) (word : U32) (hw : Hw) :
    view (writeSdm device factor word hw).2 reg = view hw reg := by
  unfold writeSdm
  dsimp only
  split
  next there => rw [keeps.writel, Function.update_of_ne (beside.sdm there)]
  next => rfl

/-- What is written to the register of the clock -/
def factorWord (factor : ClkFactors) (values : ClkFactorsValue) (word : U32) : U32 :=
  setUpdate factor (clkFactorFields.foldl (writeFactor factor.config values)
    (if factor.config.sdmwidth ≠ 0 then
      setBits factor.config.sdmshift factor.config.sdmwidth word 1
    else word))

/-- Where the factors are found, the word with them is in the register afterwards. -/
theorem view_sunxiClkFactorsSetRate {getFactors : U32 → U32 → Int × ClkFactorsValue}
    (isGet : factor.getFactors = some getFactors) (notFlat : factor.clkRateFlatFactors = false)
    {rate parentRate : Ulong}
    (found : 0 ≤ (getFactors (rate.setWidth 32) (parentRate.setWidth 32)).1)
    (beside : factor.Beside factor.reg) (hw : Hw) :
    ∃ word, word &&& ~~~status factor.reg = view hw factor.reg ∧
      view (sunxiClkFactorsSetRate device factor hw rate parentRate).2 factor.reg =
        factorWord factor (getFactors (rate.setWidth 32) (parentRate.setWidth 32)).2 word &&&
          ~~~status factor.reg ∧
      ∀ reg, reg ≠ factor.reg → factor.Beside reg →
        view (sunxiClkFactorsSetRate device factor hw rate parentRate).2 reg = view hw reg := by
  unfold sunxiClkFactorsSetRate
  rw [isGet]
  dsimp only
  rw [if_neg (Int.not_lt.mpr found), notFlat, if_neg Bool.false_ne_true]
  generalize isUnlocked : (sunxiClkDisablePlllock device factor hw).2 = unlocked
  have sameUnlocked : ∀ reg, factor.Beside reg → view unlocked reg = view hw reg :=
    fun reg beside => isUnlocked ▸ view_disablePlllock keeps beside hw
  have isWord : (writeSdm device factor (device.readl factor.reg unlocked) unlocked).1 =
      if factor.config.sdmwidth ≠ 0 then
        setBits factor.config.sdmshift factor.config.sdmwidth (device.readl factor.reg unlocked) 1
      else device.readl factor.reg unlocked := by
    unfold writeSdm
    dsimp only
    split <;> rfl
  have sameSdm : ∀ reg, factor.Beside reg →
      view (writeSdm device factor (device.readl factor.reg unlocked) unlocked).2 reg =
        view hw reg :=
    fun reg beside => (view_writeSdm keeps beside _ _).trans (sameUnlocked reg beside)
  generalize writeSdm device factor (device.readl factor.reg unlocked) unlocked = written
    at isWord sameSdm ⊢
  obtain ⟨reg, hw'⟩ := written
  dsimp only at isWord sameSdm ⊢
  subst isWord
  refine ⟨device.readl factor.reg unlocked,
    (keeps.readl factor.reg unlocked).trans (sameUnlocked _ beside), ?_⟩
  have ends : ∀ start : Hw, ∀ reg, factor.Beside reg →
      view (if (sunxiClkIsLock device factor start).1 ≠ 0 then
          ((-1 : Int), (sunxiClkIsLock device factor start).2)
        else (0, (sunxiClkIsLock device factor start).2)).2 reg = view start reg := by
    intro start reg beside
    rw [apply_ite Prod.snd, ite_self, view_isLock keeps beside]
  have isWritten : ∀ values word, setUpdate factor (clkFactorFields.foldl
      (writeFactor factor.config values) (if factor.config.sdmwidth ≠ 0 then
        setBits factor.config.sdmshift factor.config.sdmwidth word 1 else word)) =
      factorWord factor values word := fun _ _ => rfl
  rw [isWritten]
  constructor
  · split
    · rw [ends _ _ beside, keeps.writel, Function.update_self]
    · rw [keeps.writel, Function.update_self]
  · intro reg different beside'
    split
    · rw [ends _ _ beside', keeps.writel, Function.update_of_ne different, sameSdm reg beside']
    · rw [keeps.writel, Function.update_of_ne different, sameSdm reg beside']

end Registers

/-! ### Setting a rate and reading it back -/

/-- The factors as they are read: those that are not there have all bits set. -/
def FactorsConfig.present (config : FactorsConfig) (values : ClkFactorsValue) : ClkFactorsValue :=
  fun field => if config.width field ≠ 0 then values field else 0xffff

/-- Bits of the register of a clock that are none of its factors, its update bit or its spread
spectrum -/
structure FactorsConfig.Apart (config : FactorsConfig) (mask : U32) : Prop where
  factors : ∀ field, mask &&& config.mask field = 0
  update : config.updshift ≠ 0 → mask &&& setMask config.updshift 1 = 0
  sdm : config.sdmwidth ≠ 0 → mask &&& setMask config.sdmshift config.sdmwidth = 0

section ReadBack

variable {factor : ClkFactors} {status : U32} {values : ClkFactorsValue}

theorem setUpdate_and_mask (layout : factor.config.Layout status) {mask : U32}
    (apart : factor.config.updshift ≠ 0 → mask &&& setMask factor.config.updshift 1 = 0)
    (word : U32) : setUpdate factor word &&& mask = word &&& mask := by
  unfold setUpdate
  split
  next there =>
    have fits : (1 : U32).toNat < 2 ^ 1 := by decide
    exact setBits_and_apart (layout.update there).1 (apart there) word fits
  next => rfl

theorem setSdm_and_mask (layout : factor.config.Layout status) {mask : U32}
    (apart : factor.config.sdmwidth ≠ 0 →
      mask &&& setMask factor.config.sdmshift factor.config.sdmwidth = 0) (word : U32) :
    (if factor.config.sdmwidth ≠ 0 then
      setBits factor.config.sdmshift factor.config.sdmwidth word 1 else word) &&& mask =
      word &&& mask := by
  split
  next there =>
    have fits : (1 : U32).toNat < 2 ^ factor.config.sdmwidth :=
      Nat.one_lt_two_pow there
    exact setBits_and_apart (layout.sdm there).1 (apart there) word fits
  next => rfl

/-- The word with the factors differs from the one before in their fields only. -/
theorem factorWord_and_mask (layout : factor.config.Layout status)
    (fits : factor.config.Fits values) {mask : U32} (apart : factor.config.Apart mask)
    (word : U32) : factorWord factor values word &&& mask = word &&& mask := by
  unfold factorWord
  rw [setUpdate_and_mask layout apart.update,
    writeFactors_and_mask layout fits fun field _ => apart.factors field,
    setSdm_and_mask layout apart.sdm]

theorem getBits_factorWord (layout : factor.config.Layout status)
    (fits : factor.config.Fits values) {field : FactorField}
    (there : factor.config.width field ≠ 0) (word : U32) :
    getBits (factor.config.shift field) (factor.config.width field)
      (factorWord factor values word) = (values field).setWidth 32 := by
  have distinct : clkFactorFields.Nodup := by decide
  have kept : factorWord factor values word &&& factor.config.mask field =
      _ &&& factor.config.mask field :=
    setUpdate_and_mask layout (fun there => (layout.update there).2 field) _
  rw [getBits_congr kept]
  exact getBits_writeFactors layout fits distinct (mem_clkFactorFields field) there _

variable {Hw : Type} {device : ClkDevice Hw} {status : U32 → U32} {view : Hw → U32 → U32}

/-- A rate that was set is read back as the one that rounding promised. All bits of the register
beside the factors are kept, and so are the registers that are not those of this clock. -/
theorem sunxiClkFactorsSetRate_readBack (keeps : device.Keeps status view)
    (layout : factor.config.Layout (status factor.reg)) (beside : factor.Beside factor.reg)
    {getFactors : U32 → U32 → Int × ClkFactorsValue} (isGet : factor.getFactors = some getFactors)
    {calcRate : U32 → ClkFactorsValue → Ulong} (isCalc : factor.calcRate = some calcRate)
    (presentOnly : ∀ parent values, calcRate parent (factor.config.present values) =
      calcRate parent values)
    (notFlat : factor.clkRateFlatFactors = false) {rate parentRate : Ulong}
    (found : 0 ≤ (getFactors (rate.setWidth 32) (parentRate.setWidth 32)).1)
    (fits : factor.config.Fits (getFactors (rate.setWidth 32) (parentRate.setWidth 32)).2)
    (hw : Hw) :
    sunxiClkFactorsRecalcRate device factor
        (sunxiClkFactorsSetRate device factor hw rate parentRate).2 parentRate =
      sunxiClkFactorsRoundRate factor rate parentRate ∧
      (∀ mask, factor.config.Apart mask →
        view (sunxiClkFactorsSetRate device factor hw rate parentRate).2 factor.reg &&& mask =
          view hw factor.reg &&& mask) ∧
      ∀ reg, reg ≠ factor.reg → factor.Beside reg →
        view (sunxiClkFactorsSetRate device factor hw rate parentRate).2 reg = view hw reg := by
  obtain ⟨word, isBefore, isAfter, others⟩ :=
    view_sunxiClkFactorsSetRate keeps isGet notFlat found beside hw
  generalize (sunxiClkFactorsSetRate device factor hw rate parentRate).2 = after
    at isAfter others ⊢
  generalize isValues : (getFactors (rate.setWidth 32) (parentRate.setWidth 32)).2 = values
    at isAfter fits
  refine ⟨?_, fun mask apart => ?_, others⟩
  · have readFields : readFactor factor.config (device.readl factor.reg after) =
        factor.config.present values := by
      funext field
      unfold readFactor FactorsConfig.present
      split
      next there =>
        -- what the device changes by itself is in none of the fields
        have sameField : device.readl factor.reg after &&& factor.config.mask field =
            factorWord factor values word &&& factor.config.mask field := by
          rw [keeps.readl_and (layout.status field), isAfter,
            and_not_and_of_apart (layout.status field)]
        rw [getBits_congr sameField, getBits_factorWord layout fits there,
          BitVec.setWidth_setWidth_of_le _ (by decide), BitVec.setWidth_eq]
      next => rfl
    unfold sunxiClkFactorsRecalcRate sunxiClkFactorsRoundRate
    rw [isGet, isCalc]
    dsimp only
    rw [readFields, presentOnly, isValues]
  · rw [isAfter, ← isBefore, BitVec.and_assoc, BitVec.and_comm (~~~status factor.reg) mask,
      ← BitVec.and_assoc, factorWord_and_mask layout fits apart, BitVec.and_assoc,
      BitVec.and_comm mask, ← BitVec.and_assoc]

end ReadBack

end PinePhonePkg
