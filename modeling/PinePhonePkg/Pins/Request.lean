/-
This file models the request of a list of pins. The registers of a group of pins
are kept outside the register file and written back when a pin of another group
comes; what the pins had before is saved in a record.

It proves that in the end the registers are those that the pins would have left
one after the other.
-/

import PinePhonePkg.Pins.Group
import PinePhonePkg.Script.PowerTable

namespace PinePhonePkg

open Library

/-! ### The record -/

/-- `gpio_status_set_t` -/
structure GpioStatusSet : Type where
  mulSel : U32
  pull : U32
  drvLevel : U32
  data : U32

/-- `system_gpio_set_t` -/
structure SystemGpioSet : Type where
  gpioName : Buffer
  port : U32
  portNum : U32
  userGpioStatus : GpioStatusSet
  hardwareGpioStatus : GpioStatusSet

/-- An entry of cleared memory -/
def SystemGpioSet.zero : SystemGpioSet := ⟨fun _ => 0, 0, 0, ⟨0, 0, 0, 0⟩, ⟨0, 0, 0, 0⟩⟩

/-- What a handle stands for: the number of pins, and the memory behind it by entries -/
structure GpioRecord : Type where
  realGpioCount : Nat
  userGpioSet : Nat → SystemGpioSet

def sizeofGpioName : Nat := 32

/-- What the caller asked for -/
def SystemGpioSet.recordUser (pin : UserGpioSet) (entry : SystemGpioSet) : SystemGpioSet :=
  { entry with
    gpioName := asciiStrCpySFrom entry.gpioName sizeofGpioName pin.gpioName
    port := pin.port
    portNum := pin.portNum
    userGpioStatus := ⟨pin.mulSel, pin.pull, pin.drvLevel, pin.data⟩ }

/-- What a pin had before; its data is not saved. -/
def SystemGpioSet.saveHardware (reg : GpioReg) (value : U32) (entry : SystemGpioSet) :
    SystemGpioSet :=
  match reg with
  | .func => { entry with hardwareGpioStatus := { entry.hardwareGpioStatus with mulSel := value } }
  | .pull => { entry with hardwareGpioStatus := { entry.hardwareGpioStatus with pull := value } }
  | .dlevel =>
    { entry with hardwareGpioStatus := { entry.hardwareGpioStatus with drvLevel := value } }
  | .data => entry

/-! ### The request -/

/-- The words that are kept, and the entries so far -/
structure RequestState : Type where
  group : GroupState GpioReg
  userGpioSet : Nat → SystemGpioSet

section Request

variable (bases : GpioBases)

/-- What the pin asks for is saved and changed in the word that is kept. -/
def requestField (index : Nat) (pin : UserGpioSet) (state : RequestState) (reg : GpioReg) :
    RequestState :=
  match pin.asks reg with
  | some value =>
    { group := state.group.setField id pin.portNum reg value
      userGpioSet := Function.update state.userGpioSet index
        ((state.userGpioSet index).saveHardware reg
          (getField reg pin.portNum (state.group.pins.kept reg).data)) }
  | none => state

/-- What another group makes be written: with another port or pull group, all that has changed -/
def requestRegroup (pin : UserGpioSet) (group : GroupState GpioReg) : GroupState GpioReg :=
  group.regroup bases id pin.port pin.portNum .func
    (WriteBack.flushAll [.func, .pull, .dlevel, .data]) (WriteBack.store .func)

/-- The fields of a pin, after what another group makes be written; entries without a port are
passed over. -/
def requestPin (index : Nat) (pin : UserGpioSet) (state : RequestState) : RequestState :=
  if pin.port = 0 then state
  else
    [.func, .pull, .dlevel, .data].foldl (requestField index pin)
      { group := requestRegroup bases pin state.group
        userGpioSet := Function.update state.userGpioSet index
          ((state.userGpioSet index).recordUser pin) }

/-- The entries have the places of the pins in the caller's list. -/
def requestLoop : Nat → List UserGpioSet → RequestState → RequestState
  | _, [], state => state
  | index, pin :: rest, state => requestLoop (index + 1) rest (requestPin bases index pin state)

/-- What is still kept is written back. -/
def requestEnd (group : GroupState GpioReg) : GpioRegisters :=
  if (group.pins.kept .func).addr ≠ 0 then
    ((group.pins.store .func).flushAll [.pull, .dlevel, .data]).memory
  else group.pins.memory

/-- `first_port` -/
def firstPort (list : List UserGpioSet) : Nat := list.findIdx fun pin => pin.port ≠ 0

/-- The record comes from `AllocatePool`, with what is behind it in memory, unless that fails. -/
def gpioRequest (allocated : Option (Nat → SystemGpioSet)) (list : List UserGpioSet)
    (regs : GpioRegisters) : Option GpioRecord × GpioRegisters :=
  match list, allocated with
  | [], _ | _, none => (none, regs)
  | list, some behind =>
    let realGpioCount := list.countP fun pin => pin.port ≠ 0
    let userGpioSet := fun index =>
      if index < realGpioCount then SystemGpioSet.zero else behind index
    match list.drop (firstPort list) with
    | [] => (none, regs)
    | pin :: rest =>
      let state := requestLoop bases (firstPort list) (pin :: rest)
        ⟨.start bases id pin.port pin.portNum regs, userGpioSet⟩
      (some ⟨realGpioCount, state.userGpioSet⟩, requestEnd state.group)

end Request

/-! ### What is kept -/

/-- The words are kept for the registers that are to be reached. -/
abbrev RequestInvariant (bases : GpioBases) (target : GpioRegisters) (state : RequestState) :
    Prop :=
  state.group.Invariant bases id target

section Invariant

variable {bases : GpioBases} {target : GpioRegisters} {state : RequestState} {pin : UserGpioSet}

/-- Another group is taken up when everything is written. -/
theorem grouped_requestRegroup (invariant : RequestInvariant bases target state)
    (small : pin.portNum.toNat < 32) :
    (requestRegroup bases pin state.group).Grouped bases id pin.port pin.portNum target := by
  obtain ⟨flushed, written⟩ := invariant.shows.flushAll [.func, .pull, .dlevel, .data]
  refine invariant.regroup Function.injective_id rfl ⟨flushed, fun reg => written reg ?_⟩ small
  refine .inr ?_
  cases reg <;> decide

/-- One field of the pin -/
theorem grouped_requestField (index : Nat) (reg : GpioReg)
    (grouped : state.group.Grouped bases id pin.port pin.portNum target) :
    (requestField index pin state reg).group.Grouped bases id pin.port pin.portNum
      (setPinField bases pin target reg) := by
  unfold requestField setPinField
  cases pin.asks reg with
  | none => exact grouped
  | some value => exact grouped.setField reg value

theorem grouped_requestFields (index : Nat) (regs : List GpioReg)
    (grouped : state.group.Grouped bases id pin.port pin.portNum target) :
    (regs.foldl (requestField index pin) state).group.Grouped bases id pin.port pin.portNum
      (regs.foldl (setPinField bases pin) target) := by
  induction regs generalizing state target with
  | nil => exact grouped
  | cons reg rest inductionHypothesis =>
    exact inductionHypothesis (grouped_requestField index reg grouped)

/-- A pin does what it does by itself. -/
theorem RequestInvariant.requestPin (invariant : RequestInvariant bases target state)
    (index : Nat) (mapped : pin.port ≠ 0 → pin.Mapped bases) :
    RequestInvariant bases (setPin bases target pin) (requestPin bases index pin state) := by
  unfold PinePhonePkg.requestPin setPin
  by_cases none : pin.port = 0
  · rw [if_pos none, if_pos none]
    exact invariant
  · rw [if_neg none, if_neg none]
    have grouped := grouped_requestRegroup invariant (mapped none).inRange
    exact (grouped_requestFields index [.func, .pull, .dlevel, .data] grouped).invariant
      (mapped none).inRange (mapped none).notNull

theorem RequestInvariant.requestLoop (list : List UserGpioSet) (index : Nat)
    (invariant : RequestInvariant bases target state)
    (mapped : PinsMapped bases list) :
    RequestInvariant bases (list.foldl (setPin bases) target)
      (requestLoop bases index list state) := by
  induction list generalizing index target state with
  | nil => exact invariant
  | cons pin rest inductionHypothesis =>
    exact inductionHypothesis (index + 1)
      (RequestInvariant.requestPin invariant index (mapped pin List.mem_cons_self))
      fun other member => mapped other (List.mem_cons_of_mem _ member)

/-- In the end the registers are as they were to be. -/
theorem RequestInvariant.requestEnd (invariant : RequestInvariant bases target state) :
    requestEnd state.group = target := by
  unfold PinePhonePkg.requestEnd
  rw [if_pos (invariant.notNull .func)]
  have stored : (state.group.pins.store .func).Written .func :=
    WriteBack.written_store GpioReg.func
  obtain ⟨flushed, written⟩ := (invariant.shows.store .func).flushAll [.pull, .dlevel, .data]
  refine flushed.memory_eq fun reg => written reg ?_
  cases reg with
  | func => exact .inl stored
  | pull | dlevel | data => exact .inr (by decide)

end Invariant

/-! ### The whole list -/

/-- What is before the first pin does nothing. -/
theorem requestLoop_drop (bases : GpioBases) (list : List UserGpioSet) (index : Nat)
    (state : RequestState) :
    requestLoop bases (index + firstPort list) (list.drop (firstPort list)) state =
      requestLoop bases index list state := by
  induction list generalizing index with
  | nil => rfl
  | cons pin rest inductionHypothesis =>
    unfold firstPort at *
    rw [List.findIdx_cons]
    by_cases none : pin.port = 0
    · have skipped : requestPin bases index pin state = state := if_pos none
      have next : ∀ place, index + (place + 1) = index + 1 + place := fun place => by omega
      simp only [none, ne_eq, not_true_eq_false, decide_false, cond_false, List.drop_succ_cons]
      refine Eq.trans ?_ (congrArg (requestLoop bases (index + 1) rest) skipped.symm)
      rw [next]
      exact inductionHypothesis (index + 1)
    · simp only [ne_eq, none, not_false_eq_true, decide_true, cond_true, List.drop_zero,
        Nat.add_zero]

/-- Where there is no first pin, there is none. -/
theorem firstPort_eq_length {list : List UserGpioSet} (none : list.drop (firstPort list) = []) :
    ∀ pin ∈ list, pin.port = 0 := by
  intro pin member
  have all := List.findIdx_eq_length.mp (Nat.le_antisymm List.findIdx_le_length
    (List.drop_eq_nil_iff.mp none))
  simpa using all pin member

/-- The first pin is a pin. -/
theorem port_of_drop {list rest : List UserGpioSet} {pin : UserGpioSet}
    (first : list.drop (firstPort list) = pin :: rest) : pin.port ≠ 0 := by
  induction list with
  | nil => exact absurd first (by simp)
  | cons head tail inductionHypothesis =>
    unfold firstPort at *
    rw [List.findIdx_cons] at first
    by_cases none : head.port = 0
    · simp only [none, ne_eq, not_true_eq_false, decide_false, cond_false,
        List.drop_succ_cons] at first
      exact inductionHypothesis first
    · simp only [ne_eq, none, not_false_eq_true, decide_true, cond_true, List.drop_zero,
        List.cons.injEq] at first
      exact first.1 ▸ none

section Whole

variable (bases : GpioBases) (behind : Nat → SystemGpioSet) {list rest : List UserGpioSet}
  {pin : UserGpioSet} (regs : GpioRegisters)

/-- The record as it comes from the allocation: what belongs to it is zero. -/
def emptyRecord (list : List UserGpioSet) (index : Nat) : SystemGpioSet :=
  if index < list.countP fun pin => pin.port ≠ 0 then SystemGpioSet.zero else behind index

/-- The request goes through the whole list, from the words of the first pin. -/
theorem gpioRequest_eq (first : list.drop (firstPort list) = pin :: rest) :
    gpioRequest bases (some behind) list regs =
      (some ⟨list.countP fun pin => pin.port ≠ 0,
          (requestLoop bases 0 list ⟨.start bases id pin.port pin.portNum regs,
            emptyRecord behind list⟩).userGpioSet⟩,
        requestEnd (requestLoop bases 0 list ⟨.start bases id pin.port pin.portNum regs,
          emptyRecord behind list⟩).group) := by
  cases list with
  | nil => exact absurd first (by simp)
  | cons head tail =>
    rw [← requestLoop_drop, Nat.zero_add, first]
    unfold gpioRequest
    dsimp only
    rw [first]
    rfl

/-- Without a pin nothing is done. -/
theorem gpioRequest_of_no_pin (none : list.drop (firstPort list) = []) :
    gpioRequest bases (some behind) list regs = (.none, regs) ∧
      list.foldl (setPin bases) regs = regs := by
  cases list with
  | nil => exact ⟨rfl, rfl⟩
  | cons head tail =>
    refine ⟨?_, ?_⟩
    · unfold gpioRequest
      dsimp only
      rw [none]
    · refine pinByPin_keeps (fun kept => kept = regs) (head :: tail) rfl ?_
      exact fun pin member isPort => absurd (firstPort_eq_length none pin member) isPort

variable {bases}

/-- The words of the first pin are kept at the start. -/
theorem requestInvariant_start (mapped : PinsMapped bases list)
    (first : list.drop (firstPort list) = pin :: rest) (userGpioSet : Nat → SystemGpioSet) :
    RequestInvariant bases regs ⟨.start bases id pin.port pin.portNum regs, userGpioSet⟩ := by
  have inList : pin ∈ list := List.mem_of_mem_drop (first ▸ List.mem_cons_self)
  have isMapped := mapped pin inList (port_of_drop first)
  exact GroupState.invariant_start Function.injective_id isMapped.inRange isMapped.notNull

theorem gpioRequest_regs (mapped : PinsMapped bases list) :
    (gpioRequest bases (some behind) list regs).2 = list.foldl (setPin bases) regs := by
  cases first : list.drop (firstPort list) with
  | nil =>
    obtain ⟨nothing, same⟩ := gpioRequest_of_no_pin bases behind regs first
    rw [nothing, same]
  | cons pin rest =>
    rw [gpioRequest_eq bases behind regs first]
    exact RequestInvariant.requestEnd (RequestInvariant.requestLoop list 0
      (requestInvariant_start regs mapped first _) mapped)

end Whole

/-- The registers are those that the pins leave one after the other, or as they were if there is no
memory for the record, and the bits of all other pins are kept. -/
theorem gpioRequest_eq_pinByPin (bases : GpioBases) (behind : Nat → SystemGpioSet)
    {list : List UserGpioSet} (mapped : PinsMapped bases list) (regs : GpioRegisters) :
    (gpioRequest bases (some behind) list regs).2 = list.foldl (setPin bases) regs ∧
      (gpioRequest bases none list regs).2 = regs ∧
      ∀ addr place, ¬ ListedBit bases list addr place →
        ((gpioRequest bases (some behind) list regs).2 addr).getLsbD place =
          (regs addr).getLsbD place := by
  have same := gpioRequest_regs behind regs mapped
  refine ⟨same, ?_, fun addr place beside => ?_⟩
  · unfold gpioRequest
    split
    · rfl
    · rfl
    next taken => exact absurd taken (by simp)
  · rw [same]
    exact getLsbD_pinByPin list beside

/-- The two pins of the serial port, with an empty entry between them -/
def serialPins : List UserGpioSet :=
  [⟨fun _ => 0, 2, 8, 4, 1, -1, -1⟩, ⟨fun _ => 0, 0, 0, 0, 0, 0, 0⟩,
    ⟨fun _ => 0, 2, 9, 4, 1, -1, -1⟩]

theorem serialPins_mapped : PinsMapped phoneGpio serialPins := by
  intro pin member isPort
  rcases List.mem_cons.mp member with rfl | member
  · exact mapped_phoneGpio (by decide) isPort (by decide)
  rcases List.mem_cons.mp member with rfl | member
  · exact absurd rfl isPort
  obtain rfl := List.mem_singleton.mp member
  exact mapped_phoneGpio (by decide) isPort (by decide)

theorem gpioRequest_eq_pinByPin_serial :
    (gpioRequest phoneGpio (some fun _ => SystemGpioSet.zero) serialPins fun _ => 0).2 =
      serialPins.foldl (setPin phoneGpio) fun _ => 0 :=
  (gpioRequest_eq_pinByPin phoneGpio _ serialPins_mapped _).1

end PinePhonePkg
