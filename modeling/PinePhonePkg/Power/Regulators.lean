/-
This file collects the supplies of the power chip with their fields, and shows
what a set function leaves in the registers. The code of a voltage never runs out
of its field, as the codes and the voltages are the two sides of a ladder.
-/

import PinePhonePkg.Library.Fields
import PinePhonePkg.Library.Ladder
import PinePhonePkg.Power.SupplyStatus

namespace PinePhonePkg

open Library

/-! ### The supplies -/

/-- A supply with a voltage -/
inductive Regulator : Type where
  | dcdc1 | dcdc2 | dcdc3 | dcdc4 | dcdc5 | dcdc6
  | aldo1 | aldo2 | aldo3
  | dldo1 | dldo2 | dldo3 | dldo4
  | eldo1 | eldo2 | eldo3
  | fldo1 | fldo2
  | gpio0ldo | gpio1ldo
deriving DecidableEq

/-- What the code has for setting a supply -/
def Regulator.setter : Regulator → SupplySetter
  | .dcdc1 => PinePhonePkg.dcdc1
  | .dcdc2 => PinePhonePkg.dcdc2
  | .dcdc3 => PinePhonePkg.dcdc3
  | .dcdc4 => PinePhonePkg.dcdc4
  | .dcdc5 => PinePhonePkg.dcdc5
  | .dcdc6 => PinePhonePkg.dcdc6
  | .aldo1 => PinePhonePkg.aldo1
  | .aldo2 => PinePhonePkg.aldo2
  | .aldo3 => PinePhonePkg.aldo3
  | .dldo1 => PinePhonePkg.dldo1
  | .dldo2 => PinePhonePkg.dldo2
  | .dldo3 => PinePhonePkg.dldo3
  | .dldo4 => PinePhonePkg.dldo4
  | .eldo1 => PinePhonePkg.eldo1
  | .eldo2 => PinePhonePkg.eldo2
  | .eldo3 => PinePhonePkg.eldo3
  | .fldo1 => PinePhonePkg.fldo1
  | .fldo2 => PinePhonePkg.fldo2
  | .gpio0ldo => PinePhonePkg.gpio0ldo
  | .gpio1ldo => PinePhonePkg.gpio1ldo

/-- What the code has for probing a supply -/
def Regulator.prober : Regulator → SupplyProber
  | .dcdc1 => dcdc1Prober
  | .dcdc2 => dcdc2Prober
  | .dcdc3 => dcdc3Prober
  | .dcdc4 => dcdc4Prober
  | .dcdc5 => dcdc5Prober
  | .dcdc6 => dcdc6Prober
  | .aldo1 => aldo1Prober
  | .aldo2 => aldo2Prober
  | .aldo3 => aldo3Prober
  | .dldo1 => dldo1Prober
  | .dldo2 => dldo2Prober
  | .dldo3 => dldo3Prober
  | .dldo4 => dldo4Prober
  | .eldo1 => eldo1Prober
  | .eldo2 => eldo2Prober
  | .eldo3 => eldo3Prober
  | .fldo1 => fldo1Prober
  | .fldo2 => fldo2Prober
  | .gpio0ldo => gpio0ldoProber
  | .gpio1ldo => gpio1ldoProber

/-! ### The ladder of each regulator -/

/-- How many bits the voltage of the regulator has. -/
def Regulator.bits : Regulator → Nat
  | .dcdc2 | .dcdc3 | .dcdc4 | .dcdc5 | .dcdc6 => 7
  | .fldo1 | .fldo2 => 4
  | _ => 5

/-- The code that a regulator is set to and the voltage that its code is read as are the two sides
of one ladder. -/
theorem Regulator.ladder (regulator : Regulator) :
    GaloisConnection regulator.prober.voltage regulator.setter.voltage.code := by
  cases regulator
  case dcdc2 | dcdc3 | dcdc4 | dcdc5 | dcdc6 | dldo2 =>
    exact slopes_galois (by decide) (by decide) (by decide)
  all_goals exact slope_galois (by decide)

theorem Regulator.low_le_high (regulator : Regulator) :
    regulator.setter.voltage.low ≤ regulator.setter.voltage.high := by
  cases regulator <;> decide

/-- The first rung is the lowest voltage. -/
theorem Regulator.voltage_zero (regulator : Regulator) :
    regulator.prober.voltage 0 = regulator.setter.voltage.low := by
  cases regulator <;> rfl

/-- The field of the voltage has room for the highest. -/
theorem Regulator.high_lt_voltage (regulator : Regulator) :
    regulator.setter.voltage.high < regulator.prober.voltage (2 ^ regulator.bits) := by
  cases regulator <;> decide

theorem VoltageField.clamp_mem (field : VoltageField) (ordered : field.low ≤ field.high)
    (setVol : Int) : field.clamp setVol ∈ Set.Icc field.low field.high := by
  unfold VoltageField.clamp
  split
  · exact ⟨le_refl _, ordered⟩
  · split
    · exact ⟨ordered, le_refl _⟩
    · constructor <;> omega

/-- The code of a voltage is one of its field. -/
theorem Regulator.code_mem (regulator : Regulator) (setVol : Int) :
    regulator.setter.voltage.code (regulator.setter.voltage.clamp setVol) ∈
      Set.Ico 0 (2 ^ regulator.bits) := by
  have inside := regulator.setter.voltage.clamp_mem regulator.low_le_high setVol
  refine code_mem_Ico regulator.ladder ?_ (inside.2.trans_lt regulator.high_lt_voltage)
  rw [regulator.voltage_zero]
  exact inside.1

/-! ### The fields of each supply -/

/-- The field of the voltage -/
def VoltageField.field (voltage : VoltageField) : Field U8 8 := ⟨voltage.register, ~~~voltage.keep⟩

/-- The field of the state -/
def StateField.field (state : StateField) : Field U8 8 := ⟨state.register, ~~~state.keep⟩

/-- What a state field is set to -/
def StateField.value (state : StateField) (on : Bool) : U8 := if on then state.on else state.off

/-- The content of the field for a voltage -/
def VoltageField.value (voltage : VoltageField) (setVol : Int) : U8 :=
  BitVec.ofInt 8 (voltage.code (voltage.clamp setVol))

/-- A number of few bits is inside their mask. -/
theorem ofInt_and_mask {width bits : Nat} (narrow : bits ≤ width) {code : Int}
    (inside : code ∈ Set.Ico (0 : Int) (2 ^ bits)) :
    BitVec.ofInt width code &&& BitVec.ofNat width (2 ^ bits - 1) = BitVec.ofInt width code := by
  obtain ⟨number, rfl⟩ := Int.eq_ofNat_of_zero_le inside.1
  have small : number < 2 ^ bits := by exact_mod_cast inside.2
  have wide : 2 ^ bits ≤ 2 ^ width := Nat.pow_le_pow_right (by decide) narrow
  have fits : 2 ^ bits - 1 < 2 ^ width := by omega
  rw [BitVec.ofInt_natCast]
  refine BitVec.eq_of_toNat_eq ?_
  rw [BitVec.toNat_and, BitVec.toNat_ofNat, BitVec.toNat_ofNat, Nat.mod_eq_of_lt fits,
    Nat.and_two_pow_sub_one_eq_mod, Nat.mod_eq_of_lt (small.trans_le wide), Nat.mod_eq_of_lt small]

theorem Regulator.voltage_mask (regulator : Regulator) :
    ~~~regulator.setter.voltage.keep = BitVec.ofNat 8 (2 ^ regulator.bits - 1) := by
  cases regulator <;> decide

theorem Regulator.bits_le (regulator : Regulator) : regulator.bits ≤ 8 := by
  cases regulator <;> decide

/-- The code of a voltage changes no bit outside the field. -/
theorem Regulator.value_and_mask (regulator : Regulator) (setVol : Int) :
    regulator.setter.voltage.value setVol &&& regulator.setter.voltage.field.mask =
      regulator.setter.voltage.value setVol := by
  show _ &&& ~~~regulator.setter.voltage.keep = _
  rw [regulator.voltage_mask]
  exact ofInt_and_mask regulator.bits_le (regulator.code_mem setVol)

/-- A state that sets its own bits only. -/
abbrev StateField.Inside (state : StateField) : Prop :=
  ∀ on, state.value on &&& state.field.mask = state.value on

theorem Regulator.state_inside (regulator : Regulator) : regulator.setter.state.Inside := by
  cases regulator <;> decide

/-! ### The registers after a set function -/

theorem StateField.update_eq_put (state : StateField) (inside : state.Inside) (on : Bool)
    (registers : Registers) :
    Function.update registers state.register (state.set on (registers state.register)) =
      state.field.put (state.value on) registers := by
  unfold Field.put
  rw [inside on]
  simp only [StateField.field, BitVec.not_not]
  rfl

theorem Regulator.update_eq_put (regulator : Regulator) (setVol : Int) (registers : Registers) :
    Function.update registers regulator.setter.voltage.register
        (regulator.setter.voltage.set setVol (registers regulator.setter.voltage.register)) =
      regulator.setter.voltage.field.put (regulator.setter.voltage.value setVol) registers := by
  unfold Field.put
  rw [regulator.value_and_mask]
  simp only [VoltageField.field, BitVec.not_not]
  rfl

/-- A state after a call with `onoff` -/
def StateField.registersAfter (state : StateField) (onoff : Int) (registers : Registers) :
    Registers :=
  state.field.put (state.value (onoff ≠ 0)) registers

/-- The state already is what a call with `onoff` sets it to. -/
abbrev StateField.Held (state : StateField) (onoff : Int) (registers : Registers) : Prop :=
  state.field.content registers = state.value (onoff ≠ 0)

/-- The voltage after a call; one that is not positive is passed over. -/
def Regulator.voltageAfter (regulator : Regulator) (setVol : Int) (registers : Registers) :
    Registers :=
  if setVol > 0 then
    regulator.setter.voltage.field.put (regulator.setter.voltage.value setVol) registers
  else registers

/-- A regulator after a call; a state that is negative is passed over. -/
def Regulator.registersAfter (regulator : Regulator) (setVol onoff : Int) (registers : Registers) :
    Registers :=
  if onoff < 0 then regulator.voltageAfter setVol registers
  else regulator.setter.state.registersAfter onoff (regulator.voltageAfter setVol registers)

theorem exec_setSwitch (state : StateField) (inside : state.Inside) (error : Ulong) (onoff : Int)
    (registers : Registers) :
    Program.exec servePmu (setSwitch state error onoff) registers =
      (efiSuccess, state.registersAfter onoff registers) := by
  unfold setSwitch
  rw [exec_readOr, exec_writeOr, Program.exec_pure, state.update_eq_put inside]
  rfl

theorem Regulator.exec_onOff (regulator : Regulator) (onoff : Int) (registers : Registers) :
    Program.exec servePmu (regulator.setter.onOff onoff) registers =
      (efiSuccess,
        if onoff < 0 then registers
        else regulator.setter.state.registersAfter onoff registers) := by
  unfold SupplySetter.onOff
  by_cases passed : onoff < 0
  · rw [if_pos passed, if_pos passed, Program.exec_pure]
  · rw [if_neg passed, if_neg passed, exec_readOr, exec_writeOr, Program.exec_pure,
      StateField.update_eq_put _ regulator.state_inside]
    rfl

/-- What a set function of a supply with a voltage does. -/
theorem Regulator.exec_setSupply (regulator : Regulator) (setVol onoff : Int)
    (registers : Registers) :
    Program.exec servePmu (setSupply regulator.setter setVol onoff) registers =
      (efiSuccess, regulator.registersAfter setVol onoff registers) := by
  unfold setSupply Regulator.registersAfter Regulator.voltageAfter
  by_cases asked : setVol > 0
  · rw [if_pos asked, if_pos asked, exec_readOr, exec_writeOr, regulator.update_eq_put,
      regulator.exec_onOff]
  · rw [if_neg asked, if_neg asked, regulator.exec_onOff]

/-! ### What a probe reads -/

/-- A regulator at a pin -/
abbrev Regulator.AtPin (regulator : Regulator) : Prop :=
  regulator = .gpio0ldo ∨ regulator = .gpio1ldo

/-- The probe of a supply. Those at the pins only have their voltage read. -/
def Regulator.probe (regulator : Regulator) : Pmu Ulong :=
  if regulator.AtPin then regulator.prober.readVoltage
  else probeSupply regulator.prober

theorem Regulator.voltageField_eq (regulator : Regulator) :
    regulator.setter.voltage.field =
      ⟨regulator.prober.voltageRegister, regulator.prober.voltageMask⟩ := by
  cases regulator <;> decide

/-- Whatever is in the field of the voltage, it is read as a voltage that fits an int. -/
theorem Regulator.voltage_mem (regulator : Regulator) (byte : U8) :
    regulator.prober.voltage (byte &&& regulator.prober.voltageMask).toNat ∈
      Set.Ioo (0 : Int) (2 ^ 31) := by
  have mask : regulator.prober.voltageMask = BitVec.ofNat 8 (2 ^ regulator.bits - 1) := by
    rw [← regulator.voltage_mask]
    exact (congrArg Field.mask regulator.voltageField_eq).symm
  have inside : (byte &&& regulator.prober.voltageMask).toNat ≤ 2 ^ regulator.bits := by
    rw [mask, BitVec.toNat_and]
    refine Nat.and_le_right.trans ?_
    rw [BitVec.toNat_ofNat]
    exact (Nat.mod_le _ _).trans (Nat.sub_le _ _)
  have lowest : regulator.setter.voltage.low ≤
      regulator.prober.voltage (byte &&& regulator.prober.voltageMask).toNat := by
    rw [← regulator.voltage_zero]
    exact regulator.ladder.monotone_l (Int.natCast_nonneg _)
  have highest : regulator.prober.voltage (byte &&& regulator.prober.voltageMask).toNat ≤
      regulator.prober.voltage (2 ^ regulator.bits) :=
    regulator.ladder.monotone_l (by exact_mod_cast inside)
  have positive : 0 < regulator.setter.voltage.low := by cases regulator <;> decide
  have small : regulator.prober.voltage (2 ^ regulator.bits) < 2 ^ 31 := by
    cases regulator <;> decide
  exact ⟨positive.trans_le lowest, highest.trans_lt small⟩

/-- A small positive status passes through an int and is an error. -/
theorem throughInt_ofInt {value : Int} (inside : value ∈ Set.Ioo (0 : Int) (2 ^ 31)) :
    throughInt (BitVec.ofInt 64 value) = BitVec.ofInt 64 value ∧
      BitVec.ofInt 64 value ≠ efiSuccess := by
  obtain ⟨number, rfl⟩ := Int.eq_ofNat_of_zero_le inside.1.le
  have small : number < 2 ^ 31 := by exact_mod_cast inside.2
  have positive : 0 < number := by exact_mod_cast inside.1
  rw [BitVec.ofInt_natCast]
  have same : (BitVec.ofNat 64 number).toNat = number := by
    rw [BitVec.toNat_ofNat, Nat.mod_eq_of_lt (by omega)]
  constructor
  · unfold throughInt
    have plain : ((BitVec.ofNat 64 number).setWidth 32).msb = false := by
      rw [BitVec.msb_eq_false_iff_two_mul_lt, BitVec.toNat_setWidth, same]
      omega
    rw [BitVec.signExtend_eq_setWidth_of_msb_false plain]
    refine BitVec.eq_of_toNat_eq ?_
    rw [BitVec.toNat_setWidth, BitVec.toNat_setWidth, same]
    omega
  · intro zero
    have none := congrArg BitVec.toNat zero
    rw [same] at none
    exact absurd none positive.ne'

end PinePhonePkg
