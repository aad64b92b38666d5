/-
This file models the early request of a list of pins. It accesses the registers
with 64 bits, so that each write clears the register behind; it sets the function
of the first pin in any case; and it writes what is kept whether it has changed or
not, the data apart.
-/

import PinePhonePkg.Library.Foreign
import PinePhonePkg.Pins.Request

namespace PinePhonePkg

open Library

/-! ### The early request -/

/-- `GPIO_REG_WRITE`: an `INTN` has 64 bits, and the upper half of the value is zero. -/
def gpioRegWrite (reg : GpioReg) (pins : WriteBack GpioReg U32 U32) : WriteBack GpioReg U32 U32 :=
  { pins with
    memory := Function.update
      (Function.update pins.memory (pins.kept reg).addr (pins.kept reg).data)
      ((pins.kept reg).addr + 4) 0 }

/-- What is kept is written, the data if it has changed. -/
def earlyFlush (pins : WriteBack GpioReg U32 U32) : WriteBack GpioReg U32 U32 :=
  let pins := gpioRegWrite .dlevel (gpioRegWrite .pull (gpioRegWrite .func pins))
  if (pins.kept .data).change then
    gpioRegWrite .data { pins with
      kept := Function.update pins.kept .data { pins.kept .data with change := false } }
  else pins

section Early

variable (bases : GpioBases) (setGpio : U32)

/-- The function is only cleared where `set_gpio` is zero. -/
def earlyValue (reg : GpioReg) (value : U32) : U32 :=
  if reg = .func ∧ setGpio = 0 then 0 else value

/-- A field that the pin asks for is changed in the word that is kept. -/
def earlyField (pin : UserGpioSet) (group : GroupState GpioReg) (reg : GpioReg) :
    GroupState GpioReg :=
  match pin.asks reg with
  | some value => group.setField id pin.portNum reg (earlyValue setGpio reg value)
  | none => group

/-- The first pin, whose function is set also where it is negative -/
def earlyFirst (pin : UserGpioSet) (regs : GpioRegisters) : GroupState GpioReg :=
  let group : GroupState GpioReg := { GroupState.start bases id pin.port pin.portNum regs with
    prePort := pin.port
    prePortNumFunc := pin.portNum >>> 3
    prePortNumPull := pin.portNum >>> 4 }
  [.pull, .dlevel, .data].foldl (earlyField setGpio pin)
    (group.setField id pin.portNum .func (earlyValue setGpio .func pin.mulSel))

/-- With another port or pull group, everything is written, whether it has changed or not. -/
def earlyRegroup (pin : UserGpioSet) (group : GroupState GpioReg) : GroupState GpioReg :=
  group.regroup bases id pin.port pin.portNum .func earlyFlush (gpioRegWrite .func)

/-- The fields of a pin, after what another group makes be written -/
def earlyPin (group : GroupState GpioReg) (pin : UserGpioSet) : GroupState GpioReg :=
  [.func, .pull, .dlevel, .data].foldl (earlyField setGpio pin) (earlyRegroup bases pin group)

/-- The first entry without a port ends the list. -/
def earlyLoop : List UserGpioSet → GroupState GpioReg → GroupState GpioReg
  | [], group => group
  | pin :: rest, group =>
    if pin.port = 0 then group else earlyLoop rest (earlyPin bases setGpio group pin)

/-- What is still kept is written in the end. -/
def earlyEnd (group : GroupState GpioReg) : GpioRegisters :=
  if (group.pins.kept .func).addr ≠ 0 then (earlyFlush group.pins).memory
  else group.pins.memory

/-- `gpio_request_early`: the value that is returned, and the registers -/
def gpioRequestEarly (list : List UserGpioSet) (regs : GpioRegisters) : Int × GpioRegisters :=
  match list.drop (firstPort list) with
  | [] => (-1, regs)
  | pin :: rest =>
    (0, earlyEnd (earlyLoop bases setGpio rest (earlyFirst bases setGpio pin regs)))

end Early

/-! ### What is set -/

/-- Where the request is in the list: the pin before, whether the data is to be written, and whether
its register was cleared meanwhile -/
structure EarlySchedule : Type where
  port : U32
  portNum : U32
  dataChange : Bool
  cleared : Bool

section Settings

variable (bases : GpioBases)

/-- What a pin asks for in some of its registers -/
def ownSettings (pin : UserGpioSet) (kinds : List GpioReg) : List (FieldWrite U32 32) :=
  kinds.filterMap fun reg => (pin.asks reg).map fun (value : U32) =>
    ⟨true, pinField bases pin.port pin.portNum reg, value <<< fieldShift pin.portNum reg⟩

/-- Registers are cleared. -/
def clearRegs (addrs : List U32) : List (FieldWrite U32 32) :=
  addrs.map fun addr => ⟨false, ⟨addr, BitVec.allOnes 32⟩, 0⟩

namespace EarlySchedule

variable (schedule : EarlySchedule)

/-- A register of the group -/
def addr (reg : GpioReg) : U32 := groupAddr bases schedule.port schedule.portNum reg

/-- The register behind one -/
def behind (reg : GpioReg) : U32 := schedule.addr bases reg + 4

/-- The data of the port comes behind its last functions. -/
def clearsData : Bool := schedule.behind bases .func = schedule.addr bases .data

/-- The register behind the functions; if it is the data, that is kept for now. -/
def funcClears : List U32 :=
  if schedule.clearsData bases then [] else [schedule.behind bases .func]

/-- The registers behind those that are written with a group. The data is as it was kept if it is
written itself. -/
def flushClears : List U32 :=
  schedule.funcClears bases ++ [schedule.behind bases .pull, schedule.behind bases .dlevel] ++
    if schedule.dataChange then [schedule.behind bases .data]
    else if schedule.clearsData bases || schedule.cleared then [schedule.addr bases .data]
    else []

/-- What is cleared when a pin comes -/
def enterClears (pin : UserGpioSet) : List U32 :=
  if pin.portNum >>> 4 ≠ schedule.portNum >>> 4 ∨ pin.port ≠ schedule.port then
    schedule.flushClears bases
  else if schedule.portNum >>> 3 ≠ pin.portNum >>> 3 then schedule.funcClears bases
  else []

/-- The schedule when a pin comes -/
def enter (pin : UserGpioSet) : EarlySchedule :=
  if pin.portNum >>> 4 ≠ schedule.portNum >>> 4 ∨ pin.port ≠ schedule.port then
    ⟨pin.port, pin.portNum, false, false⟩
  else if schedule.portNum >>> 3 ≠ pin.portNum >>> 3 then
    { schedule with
      portNum := pin.portNum
      cleared := schedule.cleared || schedule.clearsData bases }
  else { schedule with portNum := pin.portNum }

/-- The data is written in the end if a pin has asked for it. -/
def asked (pin : UserGpioSet) : EarlySchedule :=
  { schedule with dataChange := schedule.dataChange || (pin.asks .data).isSome }

/-- All that is set for the pins behind the first one -/
def settings : EarlySchedule → List UserGpioSet → List (FieldWrite U32 32)
  | schedule, [] => clearRegs (schedule.flushClears bases)
  | schedule, pin :: rest =>
    clearRegs (schedule.enterClears bases pin) ++
      ownSettings bases pin [.func, .pull, .dlevel, .data] ++
        ((schedule.enter bases pin).asked pin).settings rest

end EarlySchedule

/-- What is set for the first pin: its function in any case -/
def firstSettings (pin : UserGpioSet) : List (FieldWrite U32 32) :=
  { own := (pin.asks .func).isSome
    field := pinField bases pin.port pin.portNum .func
    value := pin.mulSel <<< fieldShift pin.portNum .func } ::
  ownSettings bases pin [.pull, .dlevel, .data]

/-- All that the early request sets -/
def earlySettings : List UserGpioSet → List (FieldWrite U32 32)
  | [] => []
  | pin :: rest =>
    firstSettings bases pin ++ EarlySchedule.settings bases
      ⟨pin.port, pin.portNum, (pin.asks .data).isSome, false⟩ rest

end Settings

/-! ### The pins one after the other -/

section Own

variable {bases : GpioBases}

theorem setAll_append (first second : List (FieldWrite U32 32)) (regs : GpioRegisters) :
    FieldWrite.setAll (first ++ second) regs =
      FieldWrite.setAll second (FieldWrite.setAll first regs) := by
  unfold FieldWrite.setAll Field.putAll
  rw [List.map_append, List.foldl_append]

theorem setAll_clearRegs (addrs : List U32) (regs : GpioRegisters) (place : U32) :
    FieldWrite.setAll (clearRegs addrs) regs place = if place ∈ addrs then 0 else regs place := by
  induction addrs generalizing regs with
  | nil => rfl
  | cons addr rest inductionHypothesis =>
    have cleared : (⟨addr, BitVec.allOnes 32⟩ : Field U32 32).put 0 regs =
        Function.update regs addr 0 := by
      unfold Field.put
      simp
    have next : FieldWrite.setAll (clearRegs (addr :: rest)) regs =
        FieldWrite.setAll (clearRegs rest) (Function.update regs addr 0) :=
      congrArg (FieldWrite.setAll (clearRegs rest)) cleared
    rw [next, inductionHypothesis, Function.update_apply]
    by_cases same : place = addr
    · rw [if_pos same, if_pos (List.mem_cons.mpr (.inl same)), ite_self]
    · have later : place ∈ addr :: rest ↔ place ∈ rest :=
        List.mem_cons.trans (or_iff_right same)
      rw [if_neg same, if_congr later rfl rfl]

theorem setAll_ownSettings (pin : UserGpioSet) (kinds : List GpioReg) (regs : GpioRegisters) :
    FieldWrite.setAll (ownSettings bases pin kinds) regs =
      kinds.foldl (setPinField bases pin) regs := by
  induction kinds generalizing regs with
  | nil => rfl
  | cons reg rest inductionHypothesis =>
    rw [List.foldl_cons, ← inductionHypothesis]
    unfold ownSettings setPinField
    rw [List.filterMap_cons]
    cases pin.asks reg with
    | none | some => rfl

theorem filter_ownSettings (pin : UserGpioSet) (kinds : List GpioReg) :
    (ownSettings bases pin kinds).filter FieldWrite.own = ownSettings bases pin kinds := by
  refine List.filter_eq_self.mpr fun setting member => ?_
  obtain ⟨reg, -, asked⟩ := List.mem_filterMap.mp member
  obtain ⟨value, -, rfl⟩ := Option.map_eq_some_iff.mp asked
  rfl

theorem filter_clearRegs (addrs : List U32) : (clearRegs addrs).filter FieldWrite.own = [] := by
  refine List.filter_eq_nil_iff.mpr fun setting member => ?_
  obtain ⟨addr, -, rfl⟩ := List.mem_map.mp member
  exact Bool.false_ne_true

/-- Of what is set, the pins want what they do one after the other. -/
theorem setOwn_settings (list : List UserGpioSet) (isPin : ∀ pin ∈ list, pin.port ≠ 0)
    (schedule : EarlySchedule) (regs : GpioRegisters) :
    FieldWrite.setOwn (schedule.settings bases list) regs = list.foldl (setPin bases) regs := by
  unfold FieldWrite.setOwn
  induction list generalizing schedule regs with
  | nil =>
    unfold EarlySchedule.settings
    rw [filter_clearRegs]
    rfl
  | cons pin rest inductionHypothesis =>
    have one : setPin bases regs pin =
        [.func, .pull, .dlevel, .data].foldl (setPinField bases pin) regs :=
      if_neg (isPin pin List.mem_cons_self)
    rw [List.foldl_cons, one]
    unfold EarlySchedule.settings
    rw [List.filter_append, List.filter_append, filter_clearRegs, filter_ownSettings,
      List.nil_append, setAll_append, setAll_ownSettings]
    exact inductionHypothesis (fun other member => isPin other (List.mem_cons_of_mem _ member)) _ _

theorem setOwn_firstSettings (pin : UserGpioSet) (regs : GpioRegisters) :
    FieldWrite.setAll ((firstSettings bases pin).filter FieldWrite.own) regs =
      [.func, .pull, .dlevel, .data].foldl (setPinField bases pin) regs := by
  unfold firstSettings
  rw [List.filter_cons, filter_ownSettings, List.foldl_cons]
  cases asked : pin.asks .func with
  | none =>
    have kept : setPinField bases pin regs .func = regs := by
      unfold setPinField
      rw [asked]
    rw [kept]
    exact setAll_ownSettings pin _ regs
  | some value =>
    have isMulSel : value = pin.mulSel := by
      unfold UserGpioSet.asks at asked
      dsimp only at asked
      split at asked
      · exact (Option.some.inj asked).symm
      · cases asked
    have set : setPinField bases pin regs .func =
        (pinField bases pin.port pin.portNum .func).put
          (pin.mulSel <<< fieldShift pin.portNum .func) regs := by
      unfold setPinField
      rw [asked, isMulSel]
    rw [set]
    exact setAll_ownSettings pin _ _

theorem setOwn_earlySettings (list : List UserGpioSet) (isPin : ∀ pin ∈ list, pin.port ≠ 0)
    (regs : GpioRegisters) :
    FieldWrite.setOwn (earlySettings bases list) regs = list.foldl (setPin bases) regs := by
  cases list with
  | nil => rfl
  | cons pin rest =>
    have one : setPin bases regs pin =
        [.func, .pull, .dlevel, .data].foldl (setPinField bases pin) regs :=
      if_neg (isPin pin List.mem_cons_self)
    rw [List.foldl_cons, one, ← setOwn_firstSettings, ← setOwn_settings rest
      (fun other member => isPin other (List.mem_cons_of_mem _ member))]
    unfold FieldWrite.setOwn earlySettings
    rw [List.filter_append, setAll_append]

end Own

end PinePhonePkg
