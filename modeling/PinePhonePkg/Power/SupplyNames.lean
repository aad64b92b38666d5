/-
This file says what the supplies are called: a call names one by an index or by
the first characters of a name, and a number in the group that these select.
-/

import PinePhonePkg.Power.Regulators

namespace PinePhonePkg

open Library

/-! ### What has a name -/

/-- What can be switched: the supplies with a voltage and two switches -/
inductive AxpSupply : Type where
  | regulator (regulator : Regulator)
  | dc1sw
  | dc5ldo
deriving DecidableEq

/-- A pin that is set to a level -/
inductive LevelPin : Type where
  | gpio0
  | gpio1
  | vbusen
deriving DecidableEq

/-- What has a name: a supply, or a pin with a level -/
inductive Named : Type where
  | supply (supply : AxpSupply)
  | pin (pin : LevelPin)
deriving DecidableEq

/-- A supply with a voltage has a name. -/
abbrev Named.regulator (regulator : Regulator) : Named := .supply (.regulator regulator)

/-- The switch of a supply -/
def AxpSupply.state : AxpSupply → StateField
  | .regulator which => which.setter.state
  | .dc1sw => PinePhonePkg.dc1sw
  | .dc5ldo => PinePhonePkg.dc5ldo

/-- The level of a pin -/
def LevelPin.state : LevelPin → StateField
  | .gpio0 => PinePhonePkg.gpio0
  | .gpio1 => PinePhonePkg.gpio1
  | .vbusen => PinePhonePkg.vbusen

/-! ### Numbers and names -/

/-- The DCDC supply of a number -/
def dcdcNumber : Int → Option Regulator
  | 1 => some .dcdc1
  | 2 => some .dcdc2
  | 3 => some .dcdc3
  | 4 => some .dcdc4
  | 5 => some .dcdc5
  | 6 => some .dcdc6
  | _ => none

/-- The ALDO supply of a number -/
def aldoNumber : Int → Option Regulator
  | 1 => some .aldo1
  | 2 => some .aldo2
  | 3 => some .aldo3
  | _ => none

/-- The DLDO supply of a number -/
def dldoNumber : Int → Option Regulator
  | 1 => some .dldo1
  | 2 => some .dldo2
  | 3 => some .dldo3
  | 4 => some .dldo4
  | _ => none

/-- The ELDO supply of a number -/
def eldoNumber : Int → Option Regulator
  | 1 => some .eldo1
  | 2 => some .eldo2
  | 3 => some .eldo3
  | _ => none

/-- The FLDO supply of a number -/
def fldoNumber : Int → Option Regulator
  | 1 => some .fldo1
  | 2 => some .fldo2
  | _ => none

/-- The supply at the pin of a number -/
def gpioldoNumber : Int → Option Regulator
  | 0 => some .gpio0ldo
  | 1 => some .gpio1ldo
  | _ => none

/-- The pin of a number -/
def gpioNumber : Int → Option LevelPin
  | 0 => some .gpio0
  | 1 => some .gpio1
  | _ => none

/-- The others, by the numbers they have in the code -/
def miscNumber : Int → Option Named
  | pmuSupplyDc5ldo => some (.supply .dc5ldo)
  | pmuSupplyDc1sw => some (.supply .dc1sw)
  | pmuSupplyVbusen => some (.pin .vbusen)
  | _ => none

/-- What an index names, by its type and number -/
def namedByIndex (voltageIndex : Ulong) : Option Named :=
  let spplyIndex := toInt32 (voltageIndex &&& 0x0000ffff)
  match toInt32 (voltageIndex &&& 0xffff0000) with
  | pmuSupplyDcdcType => (dcdcNumber spplyIndex).map .regulator
  | pmuSupplyAldoType => (aldoNumber spplyIndex).map .regulator
  | pmuSupplyEldoType => (eldoNumber spplyIndex).map .regulator
  | pmuSupplyDldoType => (dldoNumber spplyIndex).map .regulator
  | pmuSupplyGpioldoType => (gpioldoNumber spplyIndex).map .regulator
  | pmuSupplyMiscType => miscNumber (toInt32 voltageIndex)
  | pmuSupplyGpioType => (gpioNumber spplyIndex).map .pin
  | _ => none

/-- What a name stands for, by how it starts and the number behind -/
def namedByName (voltageName : List U8) : Option Named :=
  if dcdcPrefix.isPrefixOf voltageName then (dcdcNumber (numberBehind voltageName 4)).map .regulator
  else if aldoPrefix.isPrefixOf voltageName then
    (aldoNumber (numberBehind voltageName 4)).map .regulator
  else if eldoPrefix.isPrefixOf voltageName then
    (eldoNumber (numberBehind voltageName 4)).map .regulator
  else if fldoPrefix.isPrefixOf voltageName then
    (fldoNumber (numberBehind voltageName 4)).map .regulator
  else if dldoPrefix.isPrefixOf voltageName then
    (dldoNumber (numberBehind voltageName 4)).map .regulator
  else if gpioPrefix.isPrefixOf voltageName then
    (gpioldoNumber (numberBehind voltageName 4)).map .regulator
  else if dc5ldoPrefix.isPrefixOf voltageName then some (.supply .dc5ldo)
  else if dc1swPrefix.isPrefixOf voltageName then some (.supply .dc1sw)
  else if powerPrefix.isPrefixOf voltageName then (gpioNumber (numberBehind voltageName 5)).map .pin
  else none

/-! ### The groups -/

section Groups

variable (spplyIndex volValue onoff : Int)

/-- The set function of the regulator, if the number is one of its group -/
def setFound (found : Option Regulator) (missing : Ulong) : Pmu Ulong :=
  match found with
  | some regulator => setSupply regulator.setter volValue onoff
  | none => pure missing

theorem axp81XSetDcdcOutput_eq :
    axp81XSetDcdcOutput spplyIndex volValue onoff =
      setFound volValue onoff (dcdcNumber spplyIndex) efiUnsupported := by
  fun_cases dcdcNumber spplyIndex with
  | case7 => simp only [axp81XSetDcdcOutput, setFound]
  | _ => rfl

theorem axp81XSetAldoOutput_eq :
    axp81XSetAldoOutput spplyIndex volValue onoff =
      setFound volValue onoff (aldoNumber spplyIndex) efiUnsupported := by
  fun_cases aldoNumber spplyIndex with
  | case4 => simp only [axp81XSetAldoOutput, setFound]
  | _ => rfl

theorem axp81XSetDldoOutput_eq :
    axp81XSetDldoOutput spplyIndex volValue onoff =
      setFound volValue onoff (dldoNumber spplyIndex) efiUnsupported := by
  fun_cases dldoNumber spplyIndex with
  | case5 => simp only [axp81XSetDldoOutput, setFound]
  | _ => rfl

theorem axp81XSetEldoOutput_eq :
    axp81XSetEldoOutput spplyIndex volValue onoff =
      setFound volValue onoff (eldoNumber spplyIndex) efiUnsupported := by
  fun_cases eldoNumber spplyIndex with
  | case4 => simp only [axp81XSetEldoOutput, setFound]
  | _ => rfl

theorem axp81XSetFldoOutput_eq :
    axp81XSetFldoOutput spplyIndex volValue onoff =
      throughInt <$> setFound volValue onoff (fldoNumber spplyIndex) minusOne := by
  fun_cases fldoNumber spplyIndex with
  | case3 => simp only [axp81XSetFldoOutput, setFound]
  | _ => rfl

theorem axp81XSetGpioldoOutput_eq :
    axp81XSetGpioldoOutput spplyIndex volValue onoff =
      throughInt <$> setFound volValue onoff (gpioldoNumber spplyIndex) minusOne := by
  fun_cases gpioldoNumber spplyIndex with
  | case3 => simp only [axp81XSetGpioldoOutput, setFound]
  | _ => rfl

theorem axp81XSetGpioOutput_eq :
    axp81XSetGpioOutput spplyIndex onoff =
      throughInt <$>
        match gpioNumber spplyIndex with
        | some pin => setLevel pin.state onoff
        | none => pure minusOne := by
  fun_cases gpioNumber spplyIndex with
  | case3 => simp only [axp81XSetGpioOutput]
  | _ => rfl

end Groups

/-- A program and what it is for may be chosen together. -/
theorem holds_ite {holds : Pmu Ulong → Option Named → Prop} {condition : Prop}
    [Decidable condition] {yes no : Pmu Ulong} {named other : Option Named}
    (first : holds yes named) (second : holds no other) :
    holds (if condition then yes else no) (if condition then named else other) := by
  by_cases chosen : condition
  · rw [if_pos chosen, if_pos chosen]
    exact first
  · rw [if_neg chosen, if_neg chosen]
    exact second

/-- What is to show of the programs that set supplies, each with what it is for, to have it of all
calls. -/
structure SupplyRule (setVol onoff : Int) (holds : Pmu Ulong → Option Named → Prop) : Prop where
  regulator : ∀ regulator,
    holds (setSupply (Regulator.setter regulator) setVol onoff) (some (.regulator regulator))
  dc1sw : holds (axp81XSetDc1sw onoff) (some (.supply .dc1sw))
  dc5ldo : holds (axp81XSetDc5ldo onoff) (some (.supply .dc5ldo))
  pin : ∀ pin, holds (setLevel (LevelPin.state pin) onoff) (some (.pin pin))
  missing : ∀ status, holds (pure status) none
  throughInt : ∀ program named, holds program named → holds (throughInt <$> program) named

namespace SupplyRule

variable {setVol onoff : Int} {holds : Pmu Ulong → Option Named → Prop}
  (rule : SupplyRule setVol onoff holds)
include rule

theorem setFound (found : Option Regulator) (missing : Ulong) :
    holds (setFound setVol onoff found missing) (found.map .regulator) := by
  cases found with
  | none => exact rule.missing missing
  | some regulator => exact rule.regulator regulator

theorem gpioOutput (spplyIndex : Int) :
    holds (axp81XSetGpioOutput spplyIndex onoff) ((gpioNumber spplyIndex).map .pin) := by
  rw [axp81XSetGpioOutput_eq]
  refine rule.throughInt _ _ ?_
  cases gpioNumber spplyIndex with
  | none => exact rule.missing minusOne
  | some pin => exact rule.pin pin

theorem miscOutput (spplyIndex : Int) :
    holds (axp81XSetMiscOutput spplyIndex setVol onoff) (miscNumber spplyIndex) := by
  fun_cases miscNumber spplyIndex with
  | case1 => exact rule.dc5ldo
  | case2 => exact rule.dc1sw
  | case3 => exact rule.pin .vbusen
  | case4 =>
    simp only [axp81XSetMiscOutput]
    exact rule.missing efiUnsupported

end SupplyRule

section Calls

variable {voltage onOff : Ulong} {holds : Pmu Ulong → Option Named → Prop}
  (rule : SupplyRule (toInt32 voltage) (toInt32 onOff) holds)
include rule

theorem SupplyRule.index (voltageIndex : Ulong) :
    holds (axp81XSetSupplyStatus voltageIndex voltage onOff) (namedByIndex voltageIndex) := by
  fun_cases namedByIndex voltageIndex with
  | case1 _ group =>
    simp only [axp81XSetSupplyStatus, group, axp81XSetDcdcOutput_eq]
    exact rule.setFound _ _
  | case2 _ group =>
    simp only [axp81XSetSupplyStatus, group, axp81XSetAldoOutput_eq]
    exact rule.setFound _ _
  | case3 _ group =>
    simp only [axp81XSetSupplyStatus, group, axp81XSetEldoOutput_eq]
    exact rule.setFound _ _
  | case4 _ group =>
    simp only [axp81XSetSupplyStatus, group, axp81XSetDldoOutput_eq]
    exact rule.setFound _ _
  | case5 _ group =>
    simp only [axp81XSetSupplyStatus, group, axp81XSetGpioldoOutput_eq]
    exact rule.throughInt _ _ (rule.setFound _ _)
  | case6 group =>
    simp only [axp81XSetSupplyStatus, group]
    exact rule.miscOutput _
  | case7 _ group =>
    simp only [axp81XSetSupplyStatus, group]
    exact rule.gpioOutput _
  | case8 =>
    simp only [axp81XSetSupplyStatus]
    exact rule.missing efiUnsupported

theorem SupplyRule.name (voltageName : List U8) :
    holds (axp81XSetSupplyStatusByName voltageName voltage onOff) (namedByName voltageName) := by
  unfold axp81XSetSupplyStatusByName namedByName
  refine holds_ite ?_ (holds_ite ?_ (holds_ite ?_ (holds_ite ?_ (holds_ite ?_ (holds_ite ?_
    (holds_ite ?_ (holds_ite ?_ (holds_ite ?_ ?_))))))))
  · rw [axp81XSetDcdcOutput_eq]
    exact rule.setFound _ _
  · rw [axp81XSetAldoOutput_eq]
    exact rule.setFound _ _
  · rw [axp81XSetEldoOutput_eq]
    exact rule.setFound _ _
  · rw [axp81XSetFldoOutput_eq]
    exact rule.throughInt _ _ (rule.setFound _ _)
  · rw [axp81XSetDldoOutput_eq]
    exact rule.setFound _ _
  · rw [axp81XSetGpioldoOutput_eq]
    exact rule.throughInt _ _ (rule.setFound _ _)
  · exact rule.dc5ldo
  · exact rule.dc1sw
  · exact rule.gpioOutput _
  · exact rule.missing efiUnsupported

end Calls

/-! ### Probing by name -/

/-- What a probe by name is for; but for the pins, the number is the fifth character. -/
def probedByName (volName : List U8) : Option Named :=
  let spplyIndex : Int := 1 + (volName.getD 4 0).toNat - 0x31
  if dcdcPrefix.isPrefixOf volName then (dcdcNumber spplyIndex).map .regulator
  else if aldoPrefix.isPrefixOf volName then (aldoNumber spplyIndex).map .regulator
  else if dldoPrefix.isPrefixOf volName then (dldoNumber spplyIndex).map .regulator
  else if eldoPrefix.isPrefixOf volName then (eldoNumber spplyIndex).map .regulator
  else if fldoPrefix.isPrefixOf volName then (fldoNumber spplyIndex).map .regulator
  else if gpioPrefix.isPrefixOf volName then (gpioldoNumber spplyIndex).map .regulator
  else if powerPrefix.isPrefixOf volName then (gpioNumber (numberBehind volName 5)).map .pin
  else none

section ProbeGroups

variable (spplyIndex : Int)

/-- The probe function of the regulator, if the number is one of its group -/
def probeFound (found : Option Regulator) (missing : Ulong) : Pmu Ulong :=
  match found with
  | some regulator => regulator.probe
  | none => pure missing

theorem axp81XProbeDcdcOutput_eq :
    axp81XProbeDcdcOutput spplyIndex = probeFound (dcdcNumber spplyIndex) efiUnsupported := by
  fun_cases dcdcNumber spplyIndex with
  | case7 => simp only [axp81XProbeDcdcOutput, probeFound]
  | _ => rfl

theorem axp81XProbeAldoOutput_eq :
    axp81XProbeAldoOutput spplyIndex = probeFound (aldoNumber spplyIndex) efiUnsupported := by
  fun_cases aldoNumber spplyIndex with
  | case4 => simp only [axp81XProbeAldoOutput, probeFound]
  | _ => rfl

theorem axp81XProbeDldoOutput_eq :
    axp81XProbeDldoOutput spplyIndex =
      throughInt <$> probeFound (dldoNumber spplyIndex) minusOne := by
  fun_cases dldoNumber spplyIndex with
  | case5 => simp only [axp81XProbeDldoOutput, probeFound]
  | _ => rfl

theorem axp81XProbeEldoOutput_eq :
    axp81XProbeEldoOutput spplyIndex =
      throughInt <$> probeFound (eldoNumber spplyIndex) minusOne := by
  fun_cases eldoNumber spplyIndex with
  | case4 => simp only [axp81XProbeEldoOutput, probeFound]
  | _ => rfl

theorem axp81XProbeFldoOutput_eq :
    axp81XProbeFldoOutput spplyIndex =
      throughInt <$> probeFound (fldoNumber spplyIndex) minusOne := by
  fun_cases fldoNumber spplyIndex with
  | case3 => simp only [axp81XProbeFldoOutput, probeFound]
  | _ => rfl

theorem axp81XProbeGpioldoOutput_eq :
    axp81XProbeGpioldoOutput spplyIndex =
      throughInt <$> probeFound (gpioldoNumber spplyIndex) minusOne := by
  fun_cases gpioldoNumber spplyIndex with
  | case3 => simp only [axp81XProbeGpioldoOutput, probeFound]
  | _ => rfl

end ProbeGroups

/-- What is to show of the programs that probe supplies, to have it of all probes by name. -/
structure ProbeRule (holds : Pmu Ulong → Option Named → Prop) : Prop where
  regulator : ∀ regulator, holds (Regulator.probe regulator) (some (.regulator regulator))
  gpio0 : holds axp81XProbeGpio0 (some (.pin .gpio0))
  gpio1 : holds axp81XProbeGpio1 (some (.pin .gpio1))
  missing : ∀ status, holds (pure status) none
  throughInt : ∀ program named, holds program named → holds (throughInt <$> program) named

namespace ProbeRule

variable {holds : Pmu Ulong → Option Named → Prop} (rule : ProbeRule holds)
include rule

theorem probeFound (found : Option Regulator) (missing : Ulong) :
    holds (probeFound found missing) (found.map .regulator) := by
  cases found with
  | none => exact rule.missing missing
  | some regulator => exact rule.regulator regulator

theorem gpioOutput (spplyIndex : Int) :
    holds (axp81XProbeGpioOutput spplyIndex) ((gpioNumber spplyIndex).map .pin) := by
  fun_cases gpioNumber spplyIndex with
  | case1 => exact rule.throughInt _ _ rule.gpio0
  | case2 => exact rule.throughInt _ _ rule.gpio1
  | case3 =>
    simp only [axp81XProbeGpioOutput]
    exact rule.throughInt _ _ (rule.missing minusOne)

theorem name (volName : List U8) : holds (probedStatus volName) (probedByName volName) := by
  unfold probedStatus probedByName
  dsimp only
  refine holds_ite ?_ (holds_ite ?_ (holds_ite ?_ (holds_ite ?_ (holds_ite ?_ (holds_ite ?_
    (holds_ite ?_ ?_))))))
  · rw [axp81XProbeDcdcOutput_eq]
    exact rule.throughInt _ _ (rule.probeFound _ _)
  · rw [axp81XProbeAldoOutput_eq]
    exact rule.throughInt _ _ (rule.probeFound _ _)
  · rw [axp81XProbeDldoOutput_eq]
    exact rule.throughInt _ _ (rule.throughInt _ _ (rule.probeFound _ _))
  · rw [axp81XProbeEldoOutput_eq]
    exact rule.throughInt _ _ (rule.throughInt _ _ (rule.probeFound _ _))
  · rw [axp81XProbeFldoOutput_eq]
    exact rule.throughInt _ _ (rule.probeFound _ _)
  · rw [axp81XProbeGpioldoOutput_eq]
    exact rule.throughInt _ _ (rule.throughInt _ _ (rule.probeFound _ _))
  · exact rule.gpioOutput _
  · exact rule.missing _

end ProbeRule

end PinePhonePkg
