/-
This file shows what a call for a supply does to the registers of the power chip,
when the secure monitor carries out every access. A call that names nothing the
chip has changes nothing.
-/

import PinePhonePkg.Power.SupplyNames

namespace PinePhonePkg

open Library

/-! ### What a call does to the registers -/

/-- The registers after a call for a pin. A level that is neither low nor high is passed over. -/
def LevelPin.registersAfter (pin : LevelPin) (level : Int) (registers : Registers) : Registers :=
  if level < 0 ∨ level > 1 then registers else pin.state.registersAfter level registers

/-- The registers after a call for a supply or a pin -/
def Named.registersAfter : Named → Int → Int → Registers → Registers
  | .supply (.regulator which), setVol, onoff, registers =>
    which.registersAfter setVol onoff registers
  | .supply which, _, onoff, registers => which.state.registersAfter onoff registers
  | .pin which, _, onoff, registers => which.registersAfter onoff registers

/-- A call for nothing that there is changes nothing. -/
def registersAfterCall : Option Named → Int → Int → Registers → Registers
  | none, _, _, registers => registers
  | some named, setVol, onoff, registers => named.registersAfter setVol onoff registers

section Effects

variable {setVol onoff : Int} {registers : Registers}

/-- The program does what a call for this does, and succeeds if there is such a thing. -/
def CallsFor (program : Pmu Ulong) (named : Option Named) (setVol onoff : Int) : Prop :=
  ∀ registers,
    (named ≠ none → (Program.exec servePmu program registers).1 = efiSuccess) ∧
    (Program.exec servePmu program registers).2 = registersAfterCall named setVol onoff registers

theorem callsFor_none (status : Ulong) : CallsFor (pure status) none setVol onoff :=
  fun _ => ⟨fun missing => absurd rfl missing, rfl⟩

theorem callsFor_of_exec {program : Pmu Ulong} {named : Named}
    (result : ∀ registers, Program.exec servePmu program registers =
      (efiSuccess, named.registersAfter setVol onoff registers)) :
    CallsFor program (some named) setVol onoff := by
  intro registers
  rw [result registers]
  exact ⟨fun _ => rfl, rfl⟩

theorem callsFor_regulator (regulator : Regulator) :
    CallsFor (setSupply regulator.setter setVol onoff) (some (.regulator regulator)) setVol onoff :=
  callsFor_of_exec fun registers => regulator.exec_setSupply setVol onoff registers

theorem AxpSupply.state_inside (supply : AxpSupply) : supply.state.Inside := by
  cases supply with
  | regulator regulator => exact regulator.state_inside
  | dc1sw | dc5ldo => decide

theorem LevelPin.state_inside (pin : LevelPin) : pin.state.Inside := by
  cases pin <;> decide

theorem callsFor_switch (supply : AxpSupply) (error : Ulong)
    (plain : ∀ regulator, supply ≠ .regulator regulator) :
    CallsFor (setSwitch supply.state error onoff) (some (.supply supply)) setVol onoff := by
  refine callsFor_of_exec fun registers => ?_
  rw [exec_setSwitch _ supply.state_inside]
  cases supply with
  | regulator regulator => exact absurd rfl (plain regulator)
  | dc1sw | dc5ldo => rfl

theorem callsFor_pin (pin : LevelPin) :
    CallsFor (setLevel pin.state onoff) (some (.pin pin)) setVol onoff := by
  refine callsFor_of_exec fun registers => ?_
  show _ = (efiSuccess, pin.registersAfter onoff registers)
  unfold setLevel LevelPin.registersAfter
  by_cases passed : onoff < 0 ∨ onoff > 1
  · rw [if_pos passed, if_pos passed, Program.exec_pure]
  · rw [if_neg passed, if_neg passed, exec_setSwitch _ pin.state_inside]

/-- A success stays one through an int. -/
theorem CallsFor.throughInt {program : Pmu Ulong} {named : Option Named}
    (calls : CallsFor program named setVol onoff) :
    CallsFor (throughInt <$> program) named setVol onoff := by
  intro registers
  rw [map_eq_pure_bind, Program.exec_bind, Program.exec_pure]
  refine ⟨fun some => ?_, (calls registers).2⟩
  show PinePhonePkg.throughInt _ = efiSuccess
  rw [(calls registers).1 some]
  rfl

theorem callsFor_rule :
    SupplyRule setVol onoff fun program named => CallsFor program named setVol onoff where
  regulator := callsFor_regulator
  dc1sw := callsFor_switch .dc1sw efiDeviceError nofun
  dc5ldo := callsFor_switch .dc5ldo efiDeviceError nofun
  pin := callsFor_pin
  missing := callsFor_none
  throughInt := fun _ _ calls => calls.throughInt

end Effects

section Calls

variable (voltageIndex voltage onOff : Ulong) (voltageName : List U8)

theorem callsFor_index :
    CallsFor (axp81XSetSupplyStatus voltageIndex voltage onOff) (namedByIndex voltageIndex)
      (toInt32 voltage) (toInt32 onOff) :=
  callsFor_rule.index voltageIndex

theorem callsFor_name :
    CallsFor (axp81XSetSupplyStatusByName voltageName voltage onOff) (namedByName voltageName)
      (toInt32 voltage) (toInt32 onOff) :=
  callsFor_rule.name voltageName

end Calls

end PinePhonePkg
