/-
This file models the registers of the pins. A port has four registers for the
functions of its pins, one for their data, two for their drive levels and two for
their pulls; each register has fields for a group of pins.

What a pin asks for is a value for some of its four fields. A pin is set up by
itself by a read, a change and a write for each of them.
-/

import PinePhonePkg.Library.Bits
import PinePhonePkg.Library.Fields
import PinePhonePkg.Mmc.Types

namespace PinePhonePkg

open Library

/-! ### The registers -/

/-- `user_gpio_set_t` -/
structure UserGpioSet : Type where
  gpioName : Buffer
  port : U32
  portNum : U32
  mulSel : U32
  pull : U32
  drvLevel : U32
  data : U32

/-- The places of the two controllers -/
structure GpioBases : Type where
  sunxiPioBase : U32
  sunxiCpusPioBase : U32

/-- The words at the addresses of the registers -/
abbrev GpioRegisters : Type := U32 → U32

/-- The kinds of registers of a port -/
inductive GpioReg : Type where
  | func
  | pull
  | dlevel
  | data
deriving DecidableEq

section Addresses

variable (bases : GpioBases) (port portNum : U32)

/-- The ports from 12 on are those of the second controller. -/
def pioReg (offset : U32) : U32 :=
  if port.toInt < 12 then bases.sunxiPioBase + (port - 1) * 0x24 + offset
  else bases.sunxiCpusPioBase + (port - 12) * 0x24 + offset

/-- The registers of a pin, by its port and number -/
def getGroupFuncAddrByPort : U32 := pioReg bases port ((portNum.sshiftRight 3 <<< 2) + 0x00)
def getGroupPullAddrByPort : U32 := pioReg bases port ((portNum.sshiftRight 4 <<< 2) + 0x1c)
def getGroupDlevelAddrByPort : U32 := pioReg bases port ((portNum.sshiftRight 4 <<< 2) + 0x14)
def getGroupDataAddrByPort : U32 := pioReg bases port 0x10

/-- The register of a pin -/
def groupAddr : GpioReg → U32
  | .func => getGroupFuncAddrByPort bases port portNum
  | .pull => getGroupPullAddrByPort bases port portNum
  | .dlevel => getGroupDlevelAddrByPort bases port portNum
  | .data => getGroupDataAddrByPort bases port

end Addresses

/-! ### The fields of a pin -/

/-- Where the field of a pin begins -/
def fieldShift (portNum : U32) : GpioReg → Nat
  | .func => ((portNum - (portNum >>> 3 <<< 3)) <<< 2).toNat
  | .pull | .dlevel => ((portNum - (portNum >>> 4 <<< 4)) <<< 1).toNat
  | .data => portNum.toNat

/-- The bits of a field -/
def fieldMask : GpioReg → U32
  | .func => 0x07
  | .pull | .dlevel => 0x03
  | .data => 1

/-- The word of a group with another value for a pin -/
def setField (reg : GpioReg) (portNum value word : U32) : U32 :=
  (word &&& ~~~(fieldMask reg <<< fieldShift portNum reg)) |||
    (value &&& fieldMask reg) <<< fieldShift portNum reg

/-- The value of a pin in the word of its group -/
def getField (reg : GpioReg) (portNum word : U32) : U32 :=
  word >>> fieldShift portNum reg &&& fieldMask reg

/-- What a pin asks for: a negative value asks for nothing, and only an output has data. -/
def UserGpioSet.asks (pin : UserGpioSet) : GpioReg → Option U32
  | .func => if 0 ≤ pin.mulSel.toInt then some pin.mulSel else none
  | .pull => if 0 ≤ pin.pull.toInt then some pin.pull else none
  | .dlevel => if 0 ≤ pin.drvLevel.toInt then some pin.drvLevel else none
  | .data => if pin.mulSel = 1 ∧ 0 ≤ pin.data.toInt then some pin.data else none

/-! ### One pin after the other -/

section PinByPin

variable (bases : GpioBases)

/-- The field of a pin -/
def pinField (port portNum : U32) (reg : GpioReg) : Field U32 32 where
  register := groupAddr bases port portNum reg
  mask := fieldMask reg <<< fieldShift portNum reg

/-- A read, a change and a write, if the pin asks for it -/
def setPinField (pin : UserGpioSet) (regs : GpioRegisters) (reg : GpioReg) : GpioRegisters :=
  match pin.asks reg with
  | some value =>
    (pinField bases pin.port pin.portNum reg).put (value <<< fieldShift pin.portNum reg) regs
  | none => regs

/-- A pin by itself; port 0 stands for no pin. -/
def setPin (regs : GpioRegisters) (pin : UserGpioSet) : GpioRegisters :=
  if pin.port = 0 then regs
  else [.func, .pull, .dlevel, .data].foldl (setPinField bases pin) regs

/-- The bits of the pins of a list -/
def ListedBit (list : List UserGpioSet) (addr : U32) (place : Nat) : Prop :=
  ∃ pin ∈ list, pin.port ≠ 0 ∧
    ∃ reg, (pinField bases pin.port pin.portNum reg).Holds addr place

end PinByPin

/-! ### Places -/

section Places

variable {bases : GpioBases} {port portNum other : U32}

theorem sshiftRight_eq (small : portNum.toNat < 32) (count : Nat) :
    portNum.sshiftRight count = portNum >>> count := by
  refine BitVec.sshiftRight_eq_of_msb_false ?_
  rw [BitVec.msb_eq_false_iff_two_mul_lt]
  omega

/-- The place of the register in its port -/
def regOffset (portNum : Nat) : GpioReg → Nat
  | .func => portNum / 8 * 4
  | .data => 0x10
  | .dlevel => portNum / 16 * 4 + 0x14
  | .pull => portNum / 16 * 4 + 0x1c

/-- How many pins have a field in one register -/
def groupSize : GpioReg → Nat
  | .func => 8
  | .pull | .dlevel => 16
  | .data => 32

/-- A place in a port is that of one register and one group. -/
theorem regOffset_inj {first second : Nat} (small : first < 32) (small' : second < 32)
    {reg reg' : GpioReg} (same : regOffset first reg = regOffset second reg') :
    reg = reg' ∧ first / groupSize reg = second / groupSize reg := by
  unfold regOffset at same
  cases reg <;> cases reg' <;> dsimp only [groupSize] at same ⊢ <;>
    first | exact ⟨rfl, by omega⟩ | omega

theorem regOffset_lt {first : Nat} (small : first < 32) (reg : GpioReg) :
    regOffset first reg < 0x24 := by
  unfold regOffset
  cases reg <;> dsimp only <;> omega

theorem groupAddr_eq (small : portNum.toNat < 32) (reg : GpioReg) :
    groupAddr bases port portNum reg =
      pioReg bases port (BitVec.ofNat 32 (regOffset portNum.toNat reg)) := by
  have offset : ∀ count shift base : Nat, portNum.toNat / 2 ^ count * 2 ^ shift + base < 2 ^ 32 →
      (portNum.sshiftRight count <<< shift) + BitVec.ofNat 32 base =
        BitVec.ofNat 32 (portNum.toNat / 2 ^ count * 2 ^ shift + base) := by
    intro count shift base fits
    refine BitVec.eq_of_toNat_eq ?_
    rw [sshiftRight_eq small, BitVec.toNat_add, BitVec.toNat_shiftLeft, BitVec.toNat_ushiftRight,
      Nat.shiftLeft_eq, Nat.shiftRight_eq_div_pow, BitVec.toNat_ofNat, BitVec.toNat_ofNat]
    omega
  cases reg with
  | func => exact congrArg (pioReg bases port) (offset 3 2 0x00 (by omega))
  | pull => exact congrArg (pioReg bases port) (offset 4 2 0x1c (by omega))
  | dlevel => exact congrArg (pioReg bases port) (offset 4 2 0x14 (by omega))
  | data => rfl

theorem pioReg_injective {first second : U32} (same : pioReg bases port first =
    pioReg bases port second) : first = second := by
  unfold pioReg at same
  split at same
  · exact (BitVec.add_right_inj _).mp same
  · exact (BitVec.add_right_inj _).mp same

/-- The four registers of a pin are four. -/
theorem groupAddr_injective (small : portNum.toNat < 32) {reg reg' : GpioReg}
    (same : groupAddr bases port portNum reg = groupAddr bases port portNum reg') :
    reg = reg' := by
  rw [groupAddr_eq small, groupAddr_eq small] at same
  have numbers := congrArg BitVec.toNat (pioReg_injective same)
  have inside := regOffset_lt small reg
  have inside' := regOffset_lt small reg'
  rw [BitVec.toNat_ofNat, BitVec.toNat_ofNat, Nat.mod_eq_of_lt (by omega),
    Nat.mod_eq_of_lt (by omega)] at numbers
  exact (regOffset_inj small small numbers).1

/-- Pins of one group have their fields in the same register. -/
theorem groupAddr_congr (small : portNum.toNat < 32) (small' : other.toNat < 32) {reg : GpioReg}
    (func : reg = .func → portNum >>> 3 = other >>> 3)
    (pull : reg ≠ .func → portNum >>> 4 = other >>> 4) :
    groupAddr bases port portNum reg = groupAddr bases port other reg := by
  rw [groupAddr_eq small, groupAddr_eq small']
  have numbers : ∀ count, portNum >>> count = other >>> count →
      portNum.toNat / 2 ^ count = other.toNat / 2 ^ count := by
    intro count same
    have shifted := congrArg BitVec.toNat same
    rwa [BitVec.toNat_ushiftRight, BitVec.toNat_ushiftRight, Nat.shiftRight_eq_div_pow,
      Nat.shiftRight_eq_div_pow] at shifted
  cases reg with
  | func =>
    unfold regOffset
    have same : portNum.toNat / 8 = other.toNat / 8 := numbers 3 (func rfl)
    dsimp only
    rw [same]
  | pull =>
    unfold regOffset
    have same : portNum.toNat / 16 = other.toNat / 16 := numbers 4 (pull (by decide))
    dsimp only
    rw [same]
  | dlevel =>
    unfold regOffset
    have same : portNum.toNat / 16 = other.toNat / 16 := numbers 4 (pull (by decide))
    dsimp only
    rw [same]
  | data => rfl

end Places

/-- A pin of a port: there are 32 of them, and no register is at the null address. -/
structure UserGpioSet.Mapped (bases : GpioBases) (pin : UserGpioSet) : Prop where
  inRange : pin.portNum.toNat < 32
  notNull : ∀ reg, groupAddr bases pin.port pin.portNum reg ≠ 0

/-- The entries of a list with a port are pins. -/
def PinsMapped (bases : GpioBases) (list : List UserGpioSet) : Prop :=
  ∀ pin ∈ list, pin.port ≠ 0 → pin.Mapped bases

/-- The two controllers of the phone -/
def phoneGpio : GpioBases := ⟨0x01c20800, 0x01f02c00⟩

theorem toNat_portAddr {base step offset : U32}
    (fits : base.toNat + step.toNat * 36 + offset.toNat < 2 ^ 32) :
    (base + step * 0x24 + offset).toNat = base.toNat + step.toNat * 36 + offset.toNat := by
  have stride : (0x24 : U32).toNat = 36 := rfl
  have product : (step * 0x24).toNat = step.toNat * 36 := by
    rw [BitVec.toNat_mul, stride]
    exact Nat.mod_eq_of_lt (by omega)
  have sum : (base + step * 0x24).toNat = base.toNat + step.toNat * 36 := by
    rw [BitVec.toNat_add, product]
    exact Nat.mod_eq_of_lt (by omega)
  rw [BitVec.toNat_add, sum]
  exact Nat.mod_eq_of_lt fits

/-- The place of a register of the phone -/
theorem toNat_groupAddr_phoneGpio {port portNum : U32} (inRange : portNum.toNat < 32)
    (isPort : port ≠ 0) (small : port.toNat < 2 ^ 16) (reg : GpioReg) :
    (groupAddr phoneGpio port portNum reg).toNat =
      (if port.toNat < 12 then 0x01c20800 + (port.toNat - 1) * 36
        else 0x01f02c00 + (port.toNat - 12) * 36) + regOffset portNum.toNat reg := by
  have positive : port.toNat ≠ 0 := fun zero => isPort (BitVec.eq_of_toNat_eq zero)
  have inPort := regOffset_lt inRange reg
  have offset : (BitVec.ofNat 32 (regOffset portNum.toNat reg)).toNat =
      regOffset portNum.toNat reg := by
    rw [BitVec.toNat_ofNat]
    exact Nat.mod_eq_of_lt (by omega)
  have sign : port.toInt = port.toNat := BitVec.toInt_eq_toNat_of_lt (by omega)
  have pio : phoneGpio.sunxiPioBase.toNat = 0x01c20800 := rfl
  have cpus : phoneGpio.sunxiCpusPioBase.toNat = 0x01f02c00 := rfl
  rw [groupAddr_eq inRange]
  unfold pioReg
  split
  next first =>
    have step : (port - 1).toNat = port.toNat - 1 :=
      BitVec.toNat_sub_of_le (BitVec.le_def.mpr (Nat.one_le_iff_ne_zero.mpr positive))
    rw [toNat_portAddr (by omega), pio, step, offset, if_pos (by omega)]
  next second =>
    have twelve : (12 : U32).toNat = 12 := rfl
    have step : (port - 12).toNat = port.toNat - 12 :=
      BitVec.toNat_sub_of_le (BitVec.le_def.mpr (by omega))
    rw [toNat_portAddr (by omega), cpus, step, offset, if_neg (by omega)]

/-- There the port may be any small number. -/
theorem mapped_phoneGpio {pin : UserGpioSet} (inRange : pin.portNum.toNat < 32)
    (isPort : pin.port ≠ 0) (small : pin.port.toNat < 2 ^ 16) : pin.Mapped phoneGpio := by
  refine ⟨inRange, fun reg null => ?_⟩
  have address : (groupAddr phoneGpio pin.port pin.portNum reg).toNat = 0 :=
    congrArg BitVec.toNat null
  rw [toNat_groupAddr_phoneGpio inRange isPort small] at address
  split at address <;> omega

/-! ### Different pins -/

/-- Pins of a list are different ones. -/
def DistinctPins (list : List UserGpioSet) : Prop :=
  list.Pairwise fun pin other => pin.port ≠ 0 → other.port ≠ 0 →
    (pin.port, pin.portNum) ≠ (other.port, other.portNum)

/-- Pins of a list share no field. -/
def ApartPins (bases : GpioBases) (list : List UserGpioSet) : Prop :=
  list.Pairwise fun pin other => pin.port ≠ 0 → other.port ≠ 0 → ∀ reg reg',
    (pinField bases pin.port pin.portNum reg).Apart (pinField bases other.port other.portNum reg')

/-- How many bits a pin has in a register -/
def fieldStride : GpioReg → Nat
  | .func => 4
  | .pull | .dlevel => 2
  | .data => 1

theorem fieldShift_eq {portNum : U32} (small : portNum.toNat < 32) (reg : GpioReg) :
    fieldShift portNum reg = portNum.toNat % groupSize reg * fieldStride reg := by
  have within : ∀ count shift : Nat, count ≤ 5 → shift ≤ 2 →
      ((portNum - (portNum >>> count <<< count)) <<< shift).toNat =
        portNum.toNat % 2 ^ count * 2 ^ shift := by
    intro count shift _ shiftSmall
    have whole : (portNum >>> count <<< count).toNat = portNum.toNat / 2 ^ count * 2 ^ count := by
      rw [BitVec.toNat_shiftLeft, BitVec.toNat_ushiftRight, Nat.shiftRight_eq_div_pow,
        Nat.shiftLeft_eq]
      refine Nat.mod_eq_of_lt (Nat.lt_of_le_of_lt (Nat.div_mul_le_self _ _) ?_)
      omega
    have rest : (portNum - (portNum >>> count <<< count)).toNat = portNum.toNat % 2 ^ count := by
      have le : portNum.toNat / 2 ^ count * 2 ^ count ≤ portNum.toNat := Nat.div_mul_le_self _ _
      rw [BitVec.toNat_sub_of_le (BitVec.le_def.mpr (whole ▸ le)), whole]
      exact (Nat.mod_eq_sub_div_mul ..).symm
    have few : portNum.toNat % 2 ^ count ≤ portNum.toNat := Nat.mod_le _ _
    have four : 2 ^ shift ≤ 2 ^ 2 := Nat.pow_le_pow_right (by omega) shiftSmall
    rw [BitVec.toNat_shiftLeft, rest, Nat.shiftLeft_eq]
    refine Nat.mod_eq_of_lt (Nat.lt_of_le_of_lt (Nat.mul_le_mul few four) ?_)
    omega
  cases reg with
  | func => exact within 3 2 (by omega) (by omega)
  | pull | dlevel => exact within 4 1 (by omega) (by omega)
  | data =>
    show portNum.toNat = portNum.toNat % 32 * 1
    omega

theorem getLsbD_fieldMask {reg : GpioReg} {place : Nat}
    (inside : (fieldMask reg).getLsbD place = true) : place < fieldStride reg := by
  by_contra beyond
  have small : (fieldMask reg).toNat < 2 ^ fieldStride reg := by cases reg <;> decide
  have most : (fieldMask reg).toNat < 2 ^ place :=
    Nat.lt_of_lt_of_le small (Nat.pow_le_pow_right (by omega) (Nat.le_of_not_lt beyond))
  rw [BitVec.getLsbD, Nat.testBit_lt_two_pow most] at inside
  exact Bool.false_ne_true inside

/-- Fields at different places of a register share no bit. -/
theorem fieldMask_apart {reg : GpioReg} {first second : Nat} (different : first ≠ second) :
    fieldMask reg <<< (first * fieldStride reg) &&&
      fieldMask reg <<< (second * fieldStride reg) = 0 := by
  refine (and_eq_zero_iff _ _).mpr fun place inSecond => ?_
  have bounds : ∀ index, (fieldMask reg <<< (index * fieldStride reg)).getLsbD place = true →
      index * fieldStride reg ≤ place ∧ place < (index + 1) * fieldStride reg := by
    intro index inside
    rw [BitVec.getLsbD_shiftLeft] at inside
    simp only [Bool.and_eq_true, Bool.not_eq_true', decide_eq_true_eq, decide_eq_false_iff_not,
      Nat.not_lt] at inside
    have before := getLsbD_fieldMask inside.2
    rw [Nat.succ_mul]
    omega
  by_contra notClear
  have one := bounds first (eq_true_of_ne_false notClear)
  have other := bounds second inSecond
  refine different (Nat.le_antisymm ?_ ?_)
  · exact Nat.le_of_lt_succ (Nat.lt_of_mul_lt_mul_right (Nat.lt_of_le_of_lt one.1 other.2))
  · exact Nat.le_of_lt_succ (Nat.lt_of_mul_lt_mul_right (Nat.lt_of_le_of_lt other.1 one.2))

/-- Pins of a port with different numbers have no bit in common. -/
theorem pinField_apart {bases : GpioBases} {port portNum other : U32} (small : portNum.toNat < 32)
    (small' : other.toNat < 32) (different : portNum ≠ other) (reg reg' : GpioReg) :
    (pinField bases port portNum reg).Apart (pinField bases port other reg') := by
  by_cases place : groupAddr bases port portNum reg = groupAddr bases port other reg'
  · rw [groupAddr_eq small, groupAddr_eq small'] at place
    have numbers := congrArg BitVec.toNat (pioReg_injective place)
    have inside := regOffset_lt small reg
    have inside' := regOffset_lt small' reg'
    rw [BitVec.toNat_ofNat, BitVec.toNat_ofNat, Nat.mod_eq_of_lt (by omega),
      Nat.mod_eq_of_lt (by omega)] at numbers
    obtain ⟨rfl, group⟩ := regOffset_inj small small' numbers
    refine .inr ?_
    unfold pinField
    dsimp only
    rw [fieldShift_eq small, fieldShift_eq small']
    refine fieldMask_apart fun same => different (BitVec.eq_of_toNat_eq ?_)
    rw [← Nat.div_add_mod portNum.toNat (groupSize reg), group, same, Nat.div_add_mod]
  · exact .inl place

/-- The entries of a list with a port are pins of the phone. -/
def PhonePins (list : List UserGpioSet) : Prop :=
  ∀ pin ∈ list, pin.port ≠ 0 → pin.portNum.toNat < 32 ∧ pin.port.toNat < 2 ^ 16

theorem PhonePins.mapped {list : List UserGpioSet} (pins : PhonePins list) :
    PinsMapped phoneGpio list := fun pin member isPort =>
  mapped_phoneGpio (pins pin member isPort).1 isPort (pins pin member isPort).2

/-- Different pins of the phone share no bit. -/
theorem PhonePins.apart {list : List UserGpioSet} (pins : PhonePins list)
    (distinct : DistinctPins list) : ApartPins phoneGpio list := by
  refine List.Pairwise.imp_of_mem
    (fun {pin other} inList inList' different isPort isPort' reg reg' => ?_) distinct
  obtain ⟨inRange, small⟩ := pins pin inList isPort
  obtain ⟨inRange', small'⟩ := pins other inList' isPort'
  by_cases samePort : pin.port = other.port
  · rw [samePort]
    refine pinField_apart inRange inRange' (fun sameNum => ?_) reg reg'
    exact different isPort isPort' (by rw [samePort, sameNum])
  · refine .inl fun same => samePort (BitVec.eq_of_toNat_eq ?_)
    have address : (groupAddr phoneGpio pin.port pin.portNum reg).toNat =
        (groupAddr phoneGpio other.port other.portNum reg').toNat := congrArg BitVec.toNat same
    have notZero : pin.port.toNat ≠ 0 := fun zero => isPort (BitVec.eq_of_toNat_eq zero)
    have notZero' : other.port.toNat ≠ 0 := fun zero => isPort' (BitVec.eq_of_toNat_eq zero)
    have inPort := regOffset_lt inRange reg
    have inPort' := regOffset_lt inRange' reg'
    rw [toNat_groupAddr_phoneGpio inRange isPort small,
      toNat_groupAddr_phoneGpio inRange' isPort' small'] at address
    split at address <;> split at address <;> omega

/-! ### One field -/

/-- The change of the word is the one of the field. -/
theorem put_pinField (bases : GpioBases) (port portNum value : U32) (reg : GpioReg)
    (regs : GpioRegisters) :
    (pinField bases port portNum reg).put (value <<< fieldShift portNum reg) regs =
      Function.update regs (groupAddr bases port portNum reg)
        (setField reg portNum value (regs (groupAddr bases port portNum reg))) := by
  unfold Field.put pinField setField
  rw [BitVec.shiftLeft_and_distrib]

/-- What was read from a field is what it held. -/
theorem content_getField (reg : GpioReg) (portNum word : U32) :
    getField reg portNum word <<< fieldShift portNum reg &&& fieldMask reg <<< fieldShift portNum reg =
      word &&& fieldMask reg <<< fieldShift portNum reg := by
  unfold getField
  refine BitVec.eq_of_getLsbD_eq fun place inside => ?_
  simp only [BitVec.getLsbD_and, BitVec.getLsbD_shiftLeft, BitVec.getLsbD_ushiftRight]
  by_cases before : place < fieldShift portNum reg
  · simp [before]
  · rw [Nat.add_sub_of_le (Nat.le_of_not_lt before)]
    cases (fieldMask reg).getLsbD (place - fieldShift portNum reg) <;> simp [before, inside]

/-- What every setting of a field of the pins keeps, the pins keep. -/
theorem pinByPin_keeps {bases : GpioBases} (keeps : GpioRegisters → Prop)
    (list : List UserGpioSet) {regs : GpioRegisters} (start : keeps regs)
    (puts : ∀ pin ∈ list, pin.port ≠ 0 → ∀ reg value regs, keeps regs →
      keeps ((pinField bases pin.port pin.portNum reg).put value regs)) :
    keeps (list.foldl (setPin bases) regs) := by
  induction list generalizing regs with
  | nil => exact start
  | cons pin rest inductionHypothesis =>
    have one : pin.port ≠ 0 → ∀ regs reg, keeps regs → keeps (setPinField bases pin regs reg) := by
      intro isPin regs reg kept
      unfold setPinField
      cases pin.asks reg with
      | some value => exact puts pin List.mem_cons_self isPin reg _ regs kept
      | none => exact kept
    refine inductionHypothesis ?_ fun other member => puts other (List.mem_cons_of_mem _ member)
    unfold setPin
    split
    next => exact start
    next isPin =>
      simp only [List.foldl_cons, List.foldl_nil]
      exact one isPin _ _ (one isPin _ _ (one isPin _ _ (one isPin _ _ start)))

/-- The pins keep the fields that are apart from theirs. -/
theorem content_pinByPin {bases : GpioBases} {list : List UserGpioSet} {regs : GpioRegisters}
    {field : Field U32 32} (apart : ∀ pin ∈ list, pin.port ≠ 0 →
      ∀ reg, field.Apart (pinField bases pin.port pin.portNum reg)) :
    field.content (list.foldl (setPin bases) regs) = field.content regs := by
  refine pinByPin_keeps (fun kept => field.content kept = field.content regs) list rfl
    fun pin member isPin reg value regs kept => ?_
  exact (Field.content_put_apart _ _ (apart pin member isPin reg)).trans kept

/-- The pins keep the bits of all others. -/
theorem getLsbD_pinByPin {bases : GpioBases} (list : List UserGpioSet) {regs : GpioRegisters}
    {addr : U32} {place : Nat} (beside : ¬ ListedBit bases list addr place) :
    (list.foldl (setPin bases) regs addr).getLsbD place = (regs addr).getLsbD place := by
  refine pinByPin_keeps (fun kept => (kept addr).getLsbD place = (regs addr).getLsbD place)
    list rfl fun pin member isPin reg value regs kept => ?_
  refine (Field.getLsbD_put _ _ fun holds => beside ?_).trans kept
  exact ⟨pin, member, isPin, reg, holds⟩

end PinePhonePkg
