/-
This file proves when a supply that is set is probed as it was set. The voltage
of a supply that is on is never stored through the pointer that the caller passes.
-/

import PinePhonePkg.Power.SupplyCalls

namespace PinePhonePkg

open Library Program

/-! ### Names of the regulators -/

/-- How the name of a supply starts -/
def Regulator.group : Regulator → List U8
  | .dcdc1 | .dcdc2 | .dcdc3 | .dcdc4 | .dcdc5 | .dcdc6 => dcdcPrefix
  | .aldo1 | .aldo2 | .aldo3 => aldoPrefix
  | .dldo1 | .dldo2 | .dldo3 | .dldo4 => dldoPrefix
  | .eldo1 | .eldo2 | .eldo3 => eldoPrefix
  | .fldo1 | .fldo2 => fldoPrefix
  | .gpio0ldo | .gpio1ldo => gpioPrefix

/-- The digit it ends with -/
def Regulator.digit : Regulator → U8
  | .gpio0ldo => 0x30
  | .dcdc1 | .aldo1 | .dldo1 | .eldo1 | .fldo1 | .gpio1ldo => 0x31
  | .dcdc2 | .aldo2 | .dldo2 | .eldo2 | .fldo2 => 0x32
  | .dcdc3 | .aldo3 | .dldo3 | .eldo3 => 0x33
  | .dcdc4 | .dldo4 => 0x34
  | .dcdc5 => 0x35
  | .dcdc6 => 0x36

/-- The name starts with the group and the number of the regulator, and the number ends there. -/
def Regulator.Names (regulator : Regulator) (name : List U8) : Prop :=
  ∃ suffix, name = regulator.group ++ regulator.digit :: suffix ∧
    ∀ char ∈ suffix.head?, ¬(0x30 ≤ char ∧ char ≤ 0x39)

/-- A number of one digit -/
theorem asciiStrDecimalToUintn_digit {digit : U8} (isDigit : 0x30 ≤ digit ∧ digit ≤ 0x39)
    {suffix : List U8} (ends : ∀ char ∈ suffix.head?, ¬(0x30 ≤ char ∧ char ≤ 0x39)) :
    asciiStrDecimalToUintn (digit :: suffix) = BitVec.ofNat 64 (digit.toNat - 0x30) := by
  have stops : ∀ value, decimalFrom value suffix = BitVec.ofNat 64 value := by
    intro value
    cases suffix with
    | nil => rfl
    | cons char rest => exact if_neg (ends char rfl)
  have noBlank : ¬(digit = 0x20 ∨ digit = 0x09) := by
    rintro (rfl | rfl)
    · exact absurd isDigit (by decide)
    · exact absurd isDigit (by decide)
  unfold asciiStrDecimalToUintn
  rw [List.dropWhile_cons_of_neg (by simpa using noBlank)]
  by_cases zero : digit = 0x30
  · have kept : suffix.dropWhile (· = 0x30) = suffix := by
      cases suffix with
      | nil => rfl
      | cons char rest =>
        refine List.dropWhile_cons_of_neg fun same => ends char rfl ?_
        rw [of_decide_eq_true same]
        decide
    rw [List.dropWhile_cons_of_pos (by simpa using zero), kept, stops, zero]
    rfl
  · rw [List.dropWhile_cons_of_neg (by simpa using zero)]
    show (if 0x30 ≤ digit ∧ digit ≤ 0x39 then _ else _) = _
    have small : digit.toNat ≤ 0x39 := isDigit.2
    rw [if_pos isDigit, if_neg (by omega), stops, Nat.zero_mul, Nat.zero_add]

theorem Regulator.digit_isDigit (regulator : Regulator) :
    0x30 ≤ regulator.digit ∧ regulator.digit ≤ 0x39 := by
  cases regulator <;> decide

theorem Regulator.numberBehind_name (regulator : Regulator) {suffix : List U8}
    (ends : ∀ char ∈ suffix.head?, ¬(0x30 ≤ char ∧ char ≤ 0x39)) :
    numberBehind (regulator.group ++ regulator.digit :: suffix) 4 =
      (regulator.digit.toNat - 0x30 : Nat) := by
  have length : regulator.group.length = 4 := by cases regulator <;> rfl
  unfold numberBehind
  rw [List.drop_left' length, asciiStrDecimalToUintn_digit regulator.digit_isDigit ends]
  cases regulator <;> rfl

theorem Regulator.namedByName (regulator : Regulator) {name : List U8}
    (names : regulator.Names name) :
    PinePhonePkg.namedByName name = some (.regulator regulator) := by
  obtain ⟨suffix, rfl, ends⟩ := names
  have number := regulator.numberBehind_name ends
  unfold PinePhonePkg.namedByName
  rw [number]
  cases regulator <;> rfl

/-! ### What is probed by a name -/

theorem Regulator.probedByName (regulator : Regulator) (suffix : List U8) :
    PinePhonePkg.probedByName (regulator.group ++ regulator.digit :: suffix) =
      some (.regulator regulator) := by
  cases regulator <;> rfl

/-- The bits that a probe takes for the state -/
def SupplyProber.stateField (prober : SupplyProber) : Field U8 8 :=
  ⟨prober.stateRegister, prober.stateMask⟩

/-- The voltage that the regulator has, as it is read. -/
def Regulator.reading (regulator : Regulator) (registers : Registers) : Int :=
  regulator.prober.voltage (regulator.setter.voltage.field.content registers).toNat

/-- The status of a probe: success for a supply that is off, and the voltage for one that is on. -/
def Regulator.probed (regulator : Regulator) (registers : Registers) : Ulong :=
  if ¬regulator.AtPin ∧ regulator.prober.stateField.content registers = 0 then efiSuccess
  else BitVec.ofInt 64 (regulator.reading registers)

theorem Regulator.exec_probe (regulator : Regulator) (registers : Registers) :
    exec servePmu regulator.probe registers = (regulator.probed registers, registers) := by
  have read : exec servePmu regulator.prober.readVoltage registers =
      (BitVec.ofInt 64 (regulator.reading registers), registers) := by
    unfold SupplyProber.readVoltage Regulator.reading
    rw [exec_readOr, exec_pure, regulator.voltageField_eq]
    rfl
  unfold Regulator.probe Regulator.probed
  by_cases atPin : regulator.AtPin
  · rw [if_pos atPin, if_neg fun both => both.1 atPin, read]
  · rw [if_neg atPin]
    unfold probeSupply
    rw [exec_readOr, exec_ite, exec_pure, read]
    by_cases off : registers regulator.prober.stateRegister &&& regulator.prober.stateMask = 0
    · have none : regulator.prober.stateField.content registers = 0 := off
      rw [if_pos off, if_pos ⟨atPin, none⟩]
      rfl
    · have some : ¬regulator.prober.stateField.content registers = 0 := off
      rw [if_neg off, if_neg fun both => some both.2]

/-- A reading is one of the voltages of the regulator. -/
theorem Regulator.reading_mem (regulator : Regulator) (registers : Registers) :
    regulator.reading registers ∈ Set.Ioo 0 (2 ^ 31) := by
  unfold Regulator.reading
  rw [regulator.voltageField_eq]
  exact regulator.voltage_mem _

theorem Regulator.probed_eq_success_iff (regulator : Regulator) (registers : Registers) :
    regulator.probed registers = efiSuccess ↔
      ¬regulator.AtPin ∧ regulator.prober.stateField.content registers = 0 := by
  unfold Regulator.probed
  split
  · exact iff_of_true rfl ‹_›
  · exact iff_of_false (throughInt_ofInt (regulator.reading_mem registers)).2 ‹_›

theorem Regulator.throughInt_probed (regulator : Regulator) (registers : Registers) :
    throughInt (regulator.probed registers) = regulator.probed registers := by
  unfold Regulator.probed
  split
  · rfl
  · exact (throughInt_ofInt (regulator.reading_mem registers)).1

/-- What the probe of a regulator returns is not changed on the way through the groups. -/
theorem exec_probe_rule : ProbeRule fun program named =>
    ∀ regulator : Regulator, named = some (.regulator regulator) → ∀ registers,
      exec servePmu program registers = (regulator.probed registers, registers) where
  regulator regulator := by
    rintro _ ⟨⟩ registers
    exact regulator.exec_probe registers
  gpio0 := nofun
  gpio1 := nofun
  missing := nofun
  throughInt program named exec regulator is registers := by
    rw [map_eq_pure_bind, exec_bind, exec regulator is, exec_pure,
      regulator.throughInt_probed]

/-- What a probe by name does: nothing is ever stored through the pointer. -/
theorem Regulator.exec_probeByName (regulator : Regulator) {name : List U8}
    (names : regulator.Names name) (registers : Registers) :
    exec servePmu (axp81XProbeSupplyStatusByName name) registers =
      ((regulator.probed registers, 0), registers) := by
  obtain ⟨suffix, rfl, -⟩ := names
  have probed := exec_probe_rule.name _ regulator (regulator.probedByName suffix) registers
  unfold axp81XProbeSupplyStatusByName
  rw [exec_bind, exec_pure, probed]

/-! ### Setting and probing -/

/-- The voltages that the regulator can have -/
def Regulator.realisable (regulator : Regulator) : Set Int :=
  {level | (∃ code, 0 ≤ code ∧ regulator.prober.voltage code = level) ∧
    level ≤ regulator.setter.voltage.high}

/-- The highest voltage of the regulator that is not above the voltage, cut to its range -/
def Regulator.Rounded (regulator : Regulator) (setVol level : Int) : Prop :=
  IsGreatest {level | level ∈ regulator.realisable ∧ level ≤ regulator.setter.voltage.clamp setVol}
    level

theorem Regulator.Rounded.positive {regulator : Regulator} {setVol level : Int}
    (rounded : regulator.Rounded setVol level) : 0 < level := by
  obtain ⟨code, some, rfl⟩ := rounded.1.1.1
  have lowest : regulator.setter.voltage.low ≤ regulator.prober.voltage code := by
    rw [← regulator.voltage_zero]
    exact regulator.ladder.monotone_l some
  have positive : 0 < regulator.setter.voltage.low := by cases regulator <;> decide
  exact positive.trans_le lowest

/-- dcdc6 is probed by bits that it does not set; every other enable bit is probed as it is set. -/
theorem Regulator.stateField_eq (regulator : Regulator) (notAtPin : ¬regulator.AtPin) :
    if regulator = .dcdc6 then
      regulator.prober.stateField.Apart regulator.setter.state.field ∧
        regulator.prober.stateField.Apart regulator.setter.voltage.field
    else regulator.prober.stateField = regulator.setter.state.field := by
  cases regulator
  case gpio0ldo => exact absurd (.inl rfl) notAtPin
  case gpio1ldo => exact absurd (.inr rfl) notAtPin
  all_goals decide

section After

variable (regulator : Regulator) (setVol : Int) {onoff : Int} (given : 0 ≤ onoff)
  (registers : Registers)

/-- A field that shares no bit with those of the regulator is as before. -/
theorem Regulator.content_registersAfter_apart {field : Field U8 8}
    (state : field.Apart regulator.setter.state.field)
    (voltage : field.Apart regulator.setter.voltage.field) :
    field.content (regulator.registersAfter setVol onoff registers) = field.content registers := by
  have before : field.content (regulator.voltageAfter setVol registers) =
      field.content registers := by
    unfold Regulator.voltageAfter
    split
    · exact Field.content_put_apart _ registers voltage
    · rfl
  unfold Regulator.registersAfter
  split
  · exact before
  · exact (Field.content_put_apart _ _ state).trans before

include given in
theorem Regulator.content_state_registersAfter :
    regulator.setter.state.field.content (regulator.registersAfter setVol onoff registers) =
      regulator.setter.state.value (onoff ≠ 0) := by
  unfold Regulator.registersAfter
  rw [if_neg (not_lt.mpr given)]
  exact (Field.content_put_self _ _ _).trans (regulator.state_inside _)

end After

theorem Regulator.exec_setByName (regulator : Regulator) {name : List U8}
    (names : regulator.Names name) (voltage onOff : Ulong) (registers : Registers) :
    exec servePmu (axp81XSetSupplyStatusByName name voltage onOff) registers =
      (efiSuccess, regulator.registersAfter (toInt32 voltage) (toInt32 onOff) registers) := by
  have calls := callsFor_name voltage onOff name registers
  rw [regulator.namedByName names] at calls
  exact Prod.ext (calls.1 nofun) calls.2

/-- The third argument of a set call -/
def onArgument (on : Bool) : Ulong := if on then 1 else 0

/-- A probe by the name succeeds, and stores the voltage of a supply that is on and 0 else. -/
def Regulator.ProbedAs (regulator : Regulator) (name : List U8) (voltage : Ulong) (on : Bool)
    (registers : Registers) : Prop :=
  ∃ vol, (exec servePmu (axp81XProbeSupplyStatusByName name) registers).1 =
      (efiSuccess, vol) ∧
    if on then ∃ level, regulator.Rounded voltage.toNat level ∧ vol = BitVec.ofInt 64 level
    else vol = 0

/-- A probe by the name succeeds, and stores a voltage exactly if the enable bit is set. -/
def Regulator.ReportsOwnBit (regulator : Regulator) (name : List U8) (registers : Registers) :
    Prop :=
  ∃ vol, (exec servePmu (axp81XProbeSupplyStatusByName name) registers).1 =
      (efiSuccess, vol) ∧
    (vol ≠ 0 ↔ regulator.setter.state.Held 1 registers)

/-- A supply that is set is probed as it was set, and the probe reports its own enable bit. -/
structure Regulator.RoundTrip (regulator : Regulator) (name : List U8) (voltage : Ulong)
    (on : Bool) (registers : Registers) : Prop where
  set : ∀ registersSet,
    exec servePmu (axp81XSetSupplyStatusByName name voltage (onArgument on)) registers =
      (efiSuccess, registersSet) →
    regulator.ProbedAs name voltage on registersSet
  own : ∀ registersSet,
    exec servePmu (axp81XSetSupplyStatusByName name voltage (onArgument on)) registers =
      (efiSuccess, registersSet) →
    regulator.ReportsOwnBit name registersSet

section RoundTrip

variable (regulator : Regulator) {name : List U8} (names : regulator.Names name)
  (voltage : Ulong) (on : Bool) (registers : Registers)

include names in
theorem Regulator.probedAs_iff :
    regulator.ProbedAs name voltage on registers ↔
      on = false ∧ regulator.probed registers = efiSuccess := by
  unfold Regulator.ProbedAs
  rw [regulator.exec_probeByName names]
  cases on with
  | false =>
    simp only [Prod.mk.injEq, Bool.false_eq_true, if_false, true_and]
    exact ⟨fun ⟨_, probed, _⟩ => probed.1, fun probed => ⟨0, ⟨probed, rfl⟩, rfl⟩⟩
  | true =>
    refine iff_of_false ?_ nofun
    rintro ⟨vol, probed, level, rounded, stored⟩
    have none : vol = 0 := (congrArg Prod.snd probed).symm
    have small : regulator.setter.voltage.high < 2 ^ 31 := by cases regulator <;> decide
    have inside : level ∈ Set.Ioo (0 : Int) (2 ^ 31) :=
      ⟨rounded.positive, rounded.1.1.2.trans_lt small⟩
    exact (throughInt_ofInt inside).2 (stored.symm.trans none)

/-- The enable bit of a regulator that is not at a pin -/
theorem Regulator.content_eq_zero_iff (notAtPin : ¬regulator.AtPin) :
    regulator.setter.state.field.content registers = 0 ↔
      ¬regulator.setter.state.Held 1 registers := by
  obtain ⟨register, place, inside, bit⟩ :
      ∃ register place, place < 8 ∧ regulator.setter.state = bitField register place := by
    cases regulator
    case gpio0ldo => exact absurd (.inl rfl) notAtPin
    case gpio1ldo => exact absurd (.inr rfl) notAtPin
    all_goals exact ⟨_, _, by decide, rfl⟩
  have some : ∀ place < 8, BitVec.twoPow 8 place ≠ 0 := by decide
  rw [bit]
  unfold StateField.Held
  show registers register &&& ~~~~~~BitVec.twoPow 8 place = 0 ↔
    ¬registers register &&& ~~~~~~BitVec.twoPow 8 place = BitVec.twoPow 8 place
  rw [BitVec.not_not, BitVec.and_twoPow]
  split
  · exact iff_of_false (some place inside) fun other => other rfl
  · exact iff_of_true rfl (some place inside).symm

/-- What is set is probed as it was set exactly if it is switched off, has an enable bit, and is not
mistaken for another. -/
theorem Regulator.probed_registersAfter_iff (setVol : Int) (notAtPin : ¬regulator.AtPin) :
    regulator.prober.stateField.content (regulator.registersAfter setVol 0 registers) = 0 ↔
      (regulator = .dcdc6 → registers outputCtl1 &&& 5 = 0) := by
  have fields := regulator.stateField_eq notAtPin
  by_cases six : regulator = .dcdc6
  · rw [if_pos six] at fields
    rw [regulator.content_registersAfter_apart setVol registers fields.1 fields.2]
    subst six
    exact ⟨fun clear _ => clear, fun clear => clear rfl⟩
  · rw [if_neg six] at fields
    refine iff_of_true ?_ fun same => absurd same six
    rw [fields, regulator.content_state_registersAfter setVol (le_refl 0)]
    cases regulator
    case gpio0ldo => exact absurd (.inl rfl) notAtPin
    case gpio1ldo => exact absurd (.inr rfl) notAtPin
    all_goals rfl

/-- A supply that is switched off has its enable bit clear, unless it is at a pin. -/
theorem Regulator.not_held_registersAfter (setVol : Int) (notAtPin : ¬regulator.AtPin) :
    ¬regulator.setter.state.Held 1 (regulator.registersAfter setVol 0 registers) := by
  rw [← regulator.content_eq_zero_iff _ notAtPin,
    regulator.content_state_registersAfter setVol (le_refl 0)]
  cases regulator
  case gpio0ldo => exact absurd (.inl rfl) notAtPin
  case gpio1ldo => exact absurd (.inr rfl) notAtPin
  all_goals rfl

include names in
/-- A supply makes the round trip exactly if it is switched off, is not at a pin, and, for dcdc6,
bits 0 and 2 of the control register are clear. -/
theorem supply_round_trip_iff :
    regulator.RoundTrip name voltage on registers ↔
      on = false ∧ ¬regulator.AtPin ∧ (regulator = .dcdc6 → registers outputCtl1 &&& 5 = 0) := by
  have zero : toInt32 (onArgument false) = 0 := by decide
  have sets := regulator.exec_setByName names voltage (onArgument on) registers
  constructor
  · rintro ⟨set, -⟩
    obtain ⟨rfl, probed⟩ := (regulator.probedAs_iff names voltage on _).mp (set _ sets)
    obtain ⟨notAtPin, clear⟩ := (regulator.probed_eq_success_iff _).mp probed
    rw [zero] at clear
    exact ⟨rfl, notAtPin, (regulator.probed_registersAfter_iff registers _ notAtPin).mp clear⟩
  · rintro ⟨rfl, notAtPin, clear⟩
    rw [zero] at sets
    have probed : regulator.probed (regulator.registersAfter (toInt32 voltage) 0 registers) =
        efiSuccess :=
      (regulator.probed_eq_success_iff _).mpr
        ⟨notAtPin, (regulator.probed_registersAfter_iff registers _ notAtPin).mpr clear⟩
    constructor
    · intro registersSet set
      obtain rfl := congrArg Prod.snd (sets.symm.trans set)
      exact (regulator.probedAs_iff names voltage false _).mpr ⟨rfl, probed⟩
    · intro registersSet set
      obtain rfl := congrArg Prod.snd (sets.symm.trans set)
      refine ⟨0, by rw [regulator.exec_probeByName names, probed], ?_⟩
      exact iff_of_false (fun other => other rfl)
        (regulator.not_held_registersAfter registers _ notAtPin)

end RoundTrip

/-- "dcdc1" -/
def firstDcdcName : List U8 := dcdcPrefix ++ [0x31]

theorem firstDcdcName_names : Regulator.dcdc1.Names firstDcdcName := ⟨[], rfl, nofun⟩

/-- "dcdc6" -/
def lastDcdcName : List U8 := dcdcPrefix ++ [0x36]

theorem lastDcdcName_names : Regulator.dcdc6.Names lastDcdcName := ⟨[], rfl, nofun⟩

/-- With every supply on, dcdc1 is found off after it was switched off, and dcdc6 is not. -/
theorem supply_round_trip_iff_switchedOff :
    (Regulator.dcdc1.RoundTrip firstDcdcName 3300 false fun _ => 0xff) ∧
      ¬ Regulator.dcdc6.RoundTrip lastDcdcName 1000 false fun _ => 0xff := by
  constructor
  · exact (supply_round_trip_iff .dcdc1 firstDcdcName_names 3300 false fun _ => 0xff).mpr
      ⟨rfl, by decide, nofun⟩
  · intro trip
    have conditions :=
      (supply_round_trip_iff .dcdc6 lastDcdcName_names 1000 false fun _ => 0xff).mp trip
    exact absurd (conditions.2.2 rfl) (by decide)

/-- dcdc1 is set to 3.3 V and switched on. The probe returns 3300 and stores 0. -/
theorem supply_not_round_trip :
    (exec servePmu (axp81XProbeSupplyStatusByName firstDcdcName)
      (exec servePmu (axp81XSetSupplyStatusByName firstDcdcName 3300 1) fun _ => 0).2).1 =
        (3300, 0) ∧
      ¬Regulator.dcdc1.RoundTrip firstDcdcName 3300 true fun _ => 0 := by
  have status : (exec servePmu (axp81XSetSupplyStatusByName firstDcdcName 3300 1)
      fun _ => 0).1 = efiSuccess := by decide +kernel
  have probed : (exec servePmu (axp81XProbeSupplyStatusByName firstDcdcName)
      (exec servePmu (axp81XSetSupplyStatusByName firstDcdcName 3300 1) fun _ => 0).2).1 =
        (3300, 0) := by decide +kernel
  refine ⟨probed, fun trip => ?_⟩
  obtain ⟨vol, success, -⟩ := trip.set _ (Prod.ext status rfl)
  have same : (3300 : Ulong) = efiSuccess :=
    congrArg Prod.fst (probed.symm.trans success)
  exact absurd same (by decide)

end PinePhonePkg
