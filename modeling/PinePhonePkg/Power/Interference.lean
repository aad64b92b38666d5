/-
This file proves when the calls for one supply leave the others alone. The fields
of the supplies are apart but for one bit, which dcdc1 and dc5ldo both have, and
a pin of the chip is either a regulator or an output.
-/

import PinePhonePkg.Library.Runs
import PinePhonePkg.Power.SupplyCalls

namespace PinePhonePkg

open Library

/-! ### The settings of the supplies -/

/-- The voltage or the state of a supply -/
inductive Setting : Type where
  | voltage (regulator : Regulator)
  | state (supply : AxpSupply)
deriving DecidableEq

/-- Where the chip has the setting. -/
def Setting.field : Setting → Field U8 8
  | .voltage regulator => regulator.setter.voltage.field
  | .state supply => supply.state.field

/-- All the supplies with a voltage -/
def Regulator.all : List Regulator :=
  [.dcdc1, .dcdc2, .dcdc3, .dcdc4, .dcdc5, .dcdc6, .aldo1, .aldo2, .aldo3, .dldo1, .dldo2, .dldo3,
    .dldo4, .eldo1, .eldo2, .eldo3, .fldo1, .fldo2, .gpio0ldo, .gpio1ldo]

/-- All the settings -/
def Setting.all : List Setting :=
  Regulator.all.map .voltage ++ Regulator.all.map (.state ∘ .regulator) ++
    [.state .dc1sw, .state .dc5ldo]

theorem Setting.mem_all (setting : Setting) : setting ∈ Setting.all := by
  have every : ∀ regulator : Regulator, regulator ∈ Regulator.all := by
    intro regulator
    cases regulator <;> decide
  unfold Setting.all
  rcases setting with regulator | regulator | _ | _
  · exact List.mem_append_left _ (List.mem_append_left _ (List.mem_map_of_mem (every regulator)))
  · refine List.mem_append_left _ (List.mem_append_right _ ?_)
    exact List.mem_map.mpr ⟨regulator, every regulator, rfl⟩
  · exact List.mem_append_right _ (by decide)
  · exact List.mem_append_right _ (by decide)

/-- The settings that have the same bit. -/
abbrev Setting.Clash (setting other : Setting) : Prop :=
  setting = .state (.regulator .dcdc1) ∧ other = .state .dc5ldo ∨
    setting = .state .dc5ldo ∧ other = .state (.regulator .dcdc1)

theorem Setting.layout (setting other : Setting) :
    (setting.field = other.field ∨ setting.field.Apart other.field) ∧
      (setting.field = other.field ↔ setting = other ∨ setting.Clash other) := by
  have table : ∀ setting ∈ Setting.all, ∀ other ∈ Setting.all,
      (setting.field = other.field ∨ setting.field.Apart other.field) ∧
        (setting.field = other.field ↔ setting = other ∨ setting.Clash other) := by
    decide +kernel
  exact table setting setting.mem_all other other.mem_all

theorem LevelPin.layout (pin : LevelPin) (setting : Setting) :
    (setting.field = pin.state.field ∨ setting.field.Apart pin.state.field) ∧
      (setting.field = pin.state.field ↔
        pin = .gpio0 ∧ setting = .state (.regulator .gpio0ldo) ∨
          pin = .gpio1 ∧ setting = .state (.regulator .gpio1ldo)) := by
  have table : ∀ setting ∈ Setting.all,
      (setting.field = pin.state.field ∨ setting.field.Apart pin.state.field) ∧
        (setting.field = pin.state.field ↔
          pin = .gpio0 ∧ setting = .state (.regulator .gpio0ldo) ∨
            pin = .gpio1 ∧ setting = .state (.regulator .gpio1ldo)) := by
    cases pin <;> decide +kernel
  exact table setting setting.mem_all

/-! ### Calls one after the other -/

/-- A supply is set, by its number or by its name. -/
inductive SupplyCall : Type where
  | byIndex (voltageIndex voltage onOff : Ulong)
  | byName (voltageName : List U8) (voltage onOff : Ulong)

namespace SupplyCall

/-- What the call runs -/
def program : SupplyCall → Pmu Ulong
  | .byIndex voltageIndex voltage onOff => axp81XSetSupplyStatus voltageIndex voltage onOff
  | .byName voltageName voltage onOff => axp81XSetSupplyStatusByName voltageName voltage onOff

/-- What the call is for -/
def named : SupplyCall → Option Named
  | .byIndex voltageIndex _ _ => namedByIndex voltageIndex
  | .byName voltageName _ _ => namedByName voltageName

/-- The voltage that is asked for -/
def setVol : SupplyCall → Int
  | .byIndex _ voltage _ | .byName _ voltage _ => toInt32 voltage

/-- On or off, as it is asked for -/
def onoff : SupplyCall → Int
  | .byIndex _ _ onOff | .byName _ _ onOff => toInt32 onOff

theorem callsFor (call : SupplyCall) : CallsFor call.program call.named call.setVol call.onoff := by
  cases call with
  | byIndex voltageIndex voltage onOff => exact callsFor_index voltageIndex voltage onOff
  | byName voltageName voltage onOff => exact callsFor_name voltage onOff voltageName

/-- The registers after the call -/
def after (registers : Registers) (call : SupplyCall) : Registers :=
  (Program.exec servePmu call.program registers).2

end SupplyCall

/-- What a call for a supply asks of a setting. Only a switch has a state for a negative number. -/
def AxpSupply.asks (supply : AxpSupply) (setVol onoff : Int) : Setting → Option U8
  | .voltage which =>
    if supply = .regulator which ∧ setVol > 0 then some (which.setter.voltage.value setVol)
    else none
  | .state other =>
    if other = supply ∧ (supply = .dc1sw ∨ supply = .dc5ldo ∨ 0 ≤ onoff) then
      some (supply.state.value (onoff ≠ 0))
    else none

/-- What the call asks of a setting -/
def SupplyCall.asks (call : SupplyCall) (setting : Setting) : Option U8 :=
  match call.named with
  | some (.supply supply) => supply.asks call.setVol call.onoff setting
  | _ => none

theorem asks_regulator (regulator : Regulator) (setVol onoff : Int) (setting : Setting)
    (before : U8) :
    (AxpSupply.asks (.regulator regulator) setVol onoff setting).getD before =
      if setting = .state (.regulator regulator) ∧ 0 ≤ onoff then
        regulator.setter.state.value (onoff ≠ 0)
      else if setting = .voltage regulator ∧ setVol > 0 then
        regulator.setter.voltage.value setVol
      else before := by
  rcases setting with which | which
  · by_cases same : which = regulator
    · subst same
      by_cases asked : setVol > 0 <;> simp [AxpSupply.asks, asked]
    · simp [AxpSupply.asks, same, Ne.symm same]
  · by_cases same : which = .regulator regulator
    · subst same
      by_cases asked : 0 ≤ onoff <;> simp [AxpSupply.asks, AxpSupply.state, asked]
    · simp [AxpSupply.asks, same]

theorem asks_switch (supply : AxpSupply) (plain : ∀ regulator, supply ≠ .regulator regulator)
    (setVol onoff : Int) (setting : Setting) (before : U8) :
    (supply.asks setVol onoff setting).getD before =
      if setting = .state supply then supply.state.value (onoff ≠ 0) else before := by
  have switch : supply = .dc1sw ∨ supply = .dc5ldo := by
    cases supply with
    | regulator regulator => exact absurd rfl (plain regulator)
    | dc1sw => exact .inl rfl
    | dc5ldo => exact .inr rfl
  rcases setting with which | which
  · simp [AxpSupply.asks, plain]
  · by_cases same : which = supply
    · subst same
      simp [AxpSupply.asks, ← or_assoc, switch]
    · simp [AxpSupply.asks, same]

/-! ### When a call leaves the other supplies alone -/

/-- A call for dcdc1 or dc5ldo sets the bit of both to what it is, and a call for a pin finds the
pin at that level. -/
def SupplyCall.Apart (registers : Registers) (call : SupplyCall) : Prop :=
  match call.named with
  | some (.supply (.regulator .dcdc1)) => 0 ≤ call.onoff → dc5ldo.Held call.onoff registers
  | some (.supply .dc5ldo) => dc5ldo.Held call.onoff registers
  | some (.pin .gpio0) => call.onoff = 0 ∨ call.onoff = 1 → gpio0.Held call.onoff registers
  | some (.pin .gpio1) => call.onoff = 0 ∨ call.onoff = 1 → gpio1.Held call.onoff registers
  | _ => True

/-- The contents of all the settings -/
abbrev Settings : Type := Setting → U8

/-- The registers have the settings. -/
def Shows (registers : Registers) (settings : Settings) : Prop :=
  ∀ setting, setting.field.content registers = settings setting

section Puts

variable {registers : Registers} {settings : Settings} (shows : Shows registers settings)
include shows

/-- Setting a field sets the settings of the one that owns it, and keeps the others exactly if those
of the same bits are set to what they were. -/
theorem shows_put_iff {field : Field U8 8} {value : U8} (inside : value &&& field.mask = value)
    (layout : ∀ setting : Setting, setting.field = field ∨ setting.field.Apart field)
    (own : Setting → Prop) [DecidablePred own]
    (owned : ∀ setting, own setting → setting.field = field) :
    Shows (field.put value registers)
        (fun setting => if own setting then value else settings setting) ↔
      ∀ setting, ¬own setting → setting.field = field → field.content registers = value := by
  refine forall_congr' fun setting => ?_
  dsimp only
  by_cases isOwn : own setting
  · rw [if_pos isOwn, owned setting isOwn, Field.content_put_self, inside]
    exact ⟨fun _ other => absurd isOwn other, fun _ => rfl⟩
  · rw [if_neg isOwn, ← shows setting, Field.content_put_eq_iff value registers (layout setting),
      inside]
    exact ⟨fun kept _ => kept, fun kept => kept isOwn⟩

theorem shows_voltageAfter (regulator : Regulator) (setVol : Int) :
    Shows (regulator.voltageAfter setVol registers)
      (fun setting =>
        if setting = .voltage regulator ∧ setVol > 0 then regulator.setter.voltage.value setVol
        else settings setting) := by
  unfold Regulator.voltageAfter
  by_cases asked : setVol > 0
  · simp only [asked, and_true, if_true]
    refine (shows_put_iff shows (regulator.value_and_mask setVol)
      (fun setting => (setting.layout (.voltage regulator)).1) (· = .voltage regulator) ?_).mpr ?_
    · rintro setting rfl
      rfl
    · intro setting other same
      rcases (setting.layout (.voltage regulator)).2.mp same with equal | ⟨-, clash⟩ | ⟨-, clash⟩
      · exact absurd equal other
      · exact nomatch clash
      · exact nomatch clash
  · simpa only [asked, and_false, if_false] using shows

theorem shows_state_iff (supply : AxpSupply) (onoff : Int) :
    Shows (supply.state.registersAfter onoff registers)
        (fun setting =>
          if setting = .state supply then supply.state.value (onoff ≠ 0)
          else settings setting) ↔
      (supply = .regulator .dcdc1 ∨ supply = .dc5ldo → dc5ldo.Held onoff registers) := by
  refine (shows_put_iff shows (supply.state_inside _)
    (fun setting => (setting.layout (.state supply)).1) (· = .state supply) ?_).trans ?_
  · rintro setting rfl
    rfl
  · constructor
    · rintro kept (rfl | rfl)
      · exact kept (.state .dc5ldo) nofun rfl
      · exact kept (.state (.regulator .dcdc1)) nofun rfl
    · intro held setting other same
      rcases (setting.layout (.state supply)).2.mp same with equal | ⟨-, clash⟩ | ⟨-, clash⟩
      · exact absurd equal other
      · cases clash
        exact held (.inr rfl)
      · cases clash
        exact held (.inl rfl)

theorem shows_pin_iff (pin : LevelPin) (level : Int) :
    Shows (pin.state.registersAfter level registers) settings ↔
      (pin ≠ .vbusen → pin.state.Held level registers) := by
  refine (shows_put_iff shows (pin.state_inside _) (fun setting => (pin.layout setting).1)
    (fun _ => False) nofun).trans ?_
  constructor
  · intro kept pad
    cases pin with
    | gpio0 => exact kept (.state (.regulator .gpio0ldo)) id rfl
    | gpio1 => exact kept (.state (.regulator .gpio1ldo)) id rfl
    | vbusen => exact absurd rfl pad
  · intro held setting _ same
    refine held ?_
    rcases (pin.layout setting).2.mp same with ⟨rfl, -⟩ | ⟨rfl, -⟩ <;> nofun

theorem shows_level_iff (pin : LevelPin) (level : Int) :
    Shows (pin.registersAfter level registers) settings ↔
      (pin ≠ .vbusen → level = 0 ∨ level = 1 → pin.state.Held level registers) := by
  unfold LevelPin.registersAfter
  by_cases passed : level < 0 ∨ level > 1
  · rw [if_pos passed]
    exact iff_of_true shows fun _ driven => by omega
  · have driven : level = 0 ∨ level = 1 := by omega
    rw [if_neg passed, shows_pin_iff shows pin level]
    exact ⟨fun held pad _ => held pad, fun held pad => held pad driven⟩

theorem shows_regulator_iff (regulator : Regulator) (setVol onoff : Int) :
    Shows (regulator.registersAfter setVol onoff registers)
        (fun setting =>
          (AxpSupply.asks (.regulator regulator) setVol onoff setting).getD (settings setting)) ↔
      (regulator = .dcdc1 → 0 ≤ onoff → dc5ldo.Held onoff registers) := by
  -- The voltage comes first and disturbs nothing, the state of dc5ldo in particular.
  have between := shows_voltageAfter shows regulator setVol
  have sameBit : dc5ldo.field.content (regulator.voltageAfter setVol registers) =
      dc5ldo.field.content registers :=
    (between (.state .dc5ldo)).trans (shows (.state .dc5ldo)).symm
  unfold Regulator.registersAfter
  simp only [asks_regulator]
  by_cases passed : onoff < 0
  · simp only [not_le.mpr passed, and_false, if_false, false_implies, implies_true, iff_true,
      if_pos passed]
    exact between
  · simp only [not_lt.mp passed, and_true, if_neg passed, true_implies]
    refine (shows_state_iff between (.regulator regulator) onoff).trans ?_
    unfold StateField.Held
    rw [sameBit]
    constructor
    · exact fun held only => held (.inl (congrArg _ only))
    · rintro held (only | only)
      · exact held (AxpSupply.regulator.inj only)
      · exact nomatch only

theorem shows_switch_iff (supply : AxpSupply) (plain : ∀ regulator, supply ≠ .regulator regulator)
    (setVol onoff : Int) :
    Shows (supply.state.registersAfter onoff registers)
        (fun setting => (supply.asks setVol onoff setting).getD (settings setting)) ↔
      (supply = .dc5ldo → dc5ldo.Held onoff registers) := by
  simp only [asks_switch supply plain]
  refine (shows_state_iff shows supply onoff).trans ?_
  simp only [plain, false_or]

/-- A call shows what it is asked for, and nothing else, exactly if it is apart. -/
theorem shows_after_iff (call : SupplyCall) :
    Shows (call.after registers) (fun setting => (call.asks setting).getD (settings setting)) ↔
      call.Apart registers := by
  unfold SupplyCall.after
  rw [(call.callsFor registers).2]
  unfold SupplyCall.asks SupplyCall.Apart
  generalize call.setVol = setVol
  generalize call.onoff = onoff
  rcases call.named with _ | (regulator | _ | _) | pin
  · exact iff_of_true shows trivial
  · refine (shows_regulator_iff shows regulator setVol onoff).trans ?_
    cases regulator
    case dcdc1 => exact ⟨fun held => held rfl, fun held _ => held⟩
    all_goals exact iff_of_true nofun trivial
  · exact (shows_switch_iff shows .dc1sw nofun setVol onoff).trans (iff_of_true nofun trivial)
  · refine (shows_switch_iff shows .dc5ldo nofun setVol onoff).trans ?_
    exact ⟨fun held => held rfl, fun held _ => held⟩
  · refine (shows_level_iff shows pin onoff).trans ?_
    cases pin with
    | gpio0 | gpio1 => exact ⟨fun held => held nofun, fun held _ => held⟩
    | vbusen => exact iff_of_true (fun pad => absurd rfl pad) trivial

end Puts

/-! ### Runs of calls -/

/-- The calls that name the same thing do the same, whether by an index or by a name. -/
theorem named_same_effect {voltageIndex : Ulong} {voltageName : List U8}
    (same : namedByIndex voltageIndex = namedByName voltageName)
    (some : namedByIndex voltageIndex ≠ none) (voltage onOff : Ulong) (registers : Registers) :
    Program.exec servePmu (axp81XSetSupplyStatus voltageIndex voltage onOff) registers =
      Program.exec servePmu (axp81XSetSupplyStatusByName voltageName voltage onOff) registers := by
  have index := callsFor_index voltageIndex voltage onOff registers
  have name := callsFor_name voltage onOff voltageName registers
  refine Prod.ext ?_ ?_
  · rw [index.1 some, name.1 (same ▸ some)]
  · rw [index.2, name.2, same]

example : namedByIndex 0x00020003 = some (.regulator .aldo3) ∧
    namedByName [0x61, 0x6c, 0x64, 0x6f, 0x33] = some (.regulator .aldo3) := by decide

/-- Every setting is what the calls for its supply last asked of it, or as it was, throughout a run,
and indexes and names have the same effect, exactly if each call of the run is apart. -/
theorem supplies_apart_iff (registers : Registers) (calls : List SupplyCall) :
    ((∀ seen, seen <+: calls → ∀ setting : Setting,
        setting.field.content (run SupplyCall.after registers seen) =
          ((seen.filterMap (·.asks setting)).getLast?).getD (setting.field.content registers)) ∧
      ∀ voltageIndex voltageName voltage onOff found,
        namedByIndex voltageIndex = namedByName voltageName →
        namedByIndex voltageIndex ≠ none →
        Program.exec servePmu (axp81XSetSupplyStatus voltageIndex voltage onOff) found =
          Program.exec servePmu (axp81XSetSupplyStatusByName voltageName voltage onOff) found) ↔
      Along SupplyCall.after SupplyCall.Apart registers calls := by
  rw [and_iff_left fun _ _ voltage onOff found same some =>
    named_same_effect same some voltage onOff found]
  have start : Shows registers fun setting => setting.field.content registers := fun _ => rfl
  rw [← related_throughout_iff
    (fun settings call setting => (SupplyCall.asks call setting).getD (settings setting)) Shows
    (fun _ _ call shows => shows_after_iff shows call) start calls]
  simp only [Shows, run_set_eq]

/-- dcdc1 at 3.3 V and switched on, and then dc5ldo switched off -/
def clashingCalls : List SupplyCall :=
  [.byIndex 0x00010001 3300 1, .byIndex 0x00080001 0 0]

/-- Both calls succeed, and switching dc5ldo off switches dcdc1 off, which nobody asked for. -/
theorem supplies_not_apart :
    Along SupplyCall.after
        (fun registers call => (Program.exec servePmu call.program registers).1 = efiSuccess)
        (fun _ => 0) clashingCalls ∧
      ∃ seen, seen <+: clashingCalls ∧ ∃ setting : Setting,
        setting.field.content (run SupplyCall.after (fun _ => 0) seen) ≠
          ((seen.filterMap (·.asks setting)).getLast?).getD
            (setting.field.content fun _ => 0) := by
  refine ⟨⟨by decide +kernel, by decide +kernel, trivial⟩, clashingCalls, List.prefix_rfl,
    .state (.regulator .dcdc1), ?_⟩
  decide +kernel

end PinePhonePkg
