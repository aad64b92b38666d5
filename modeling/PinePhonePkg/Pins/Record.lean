/-
This file follows the record of a request: each entry has the place of its pin in
the caller's list, while the record has as many entries as there are pins. So it
is written inside exactly if no pin comes after an empty entry.

What a pin had before is saved as the registers show it when its turn comes, and
only where the pin asks for something else.
-/

import PinePhonePkg.Pins.Request

namespace PinePhonePkg

open Library

/-! ### One entry -/

section Entry

variable (bases : GpioBases) (regs : GpioRegisters) (pin : UserGpioSet)

/-- What the pin has in a register is saved if the pin asks for something else. -/
def SystemGpioSet.saveField (entry : SystemGpioSet) (reg : GpioReg) : SystemGpioSet :=
  match pin.asks reg with
  | some _ =>
    entry.saveHardware reg
      (getField reg pin.portNum (regs (groupAddr bases pin.port pin.portNum reg)))
  | none => entry

/-- The entry of a pin when its turn comes with these registers -/
def SystemGpioSet.savePin (entry : SystemGpioSet) : SystemGpioSet :=
  [.func, .pull, .dlevel, .data].foldl (SystemGpioSet.saveField bases regs pin)
    (entry.recordUser pin)

/-- The entry at a place of the list -/
def recordAt (list : List UserGpioSet) (place : Nat) (entry : SystemGpioSet) : SystemGpioSet :=
  match list[place]? with
  | some pin =>
    if pin.port = 0 then entry
    else entry.savePin bases ((list.take place).foldl (setPin bases) regs) pin
  | none => entry

/-- What was saved of a pull or a drive level -/
def SystemGpioSet.saved (entry : SystemGpioSet) : GpioReg → U32
  | .func => entry.hardwareGpioStatus.mulSel
  | .pull => entry.hardwareGpioStatus.pull
  | .dlevel => entry.hardwareGpioStatus.drvLevel
  | .data => entry.hardwareGpioStatus.data

variable {bases regs pin}

theorem saved_savePin (entry : SystemGpioSet) {reg : GpioReg} (notData : reg ≠ .data) :
    (entry.savePin bases regs pin).saved reg =
      if (pin.asks reg).isSome then
        getField reg pin.portNum (regs (groupAddr bases pin.port pin.portNum reg))
      else entry.saved reg := by
  unfold SystemGpioSet.savePin
  simp only [List.foldl_cons, List.foldl_nil]
  unfold SystemGpioSet.saveField
  cases reg with
  | func =>
    cases pin.asks .func <;> cases pin.asks .pull <;> cases pin.asks .dlevel <;>
      cases pin.asks .data <;> rfl
  | pull =>
    cases pin.asks .func <;> cases pin.asks .pull <;> cases pin.asks .dlevel <;>
      cases pin.asks .data <;> rfl
  | dlevel =>
    cases pin.asks .func <;> cases pin.asks .pull <;> cases pin.asks .dlevel <;>
      cases pin.asks .data <;> rfl
  | data => exact absurd rfl notData

/-- What the caller asked for is not touched when the hardware is saved. -/
theorem user_savePin (entry : SystemGpioSet) :
    (entry.savePin bases regs pin).gpioName = (entry.recordUser pin).gpioName ∧
      (entry.savePin bases regs pin).port = pin.port ∧
      (entry.savePin bases regs pin).portNum = pin.portNum ∧
      (entry.savePin bases regs pin).userGpioStatus =
        ⟨pin.mulSel, pin.pull, pin.drvLevel, pin.data⟩ := by
  have one : ∀ (entry : SystemGpioSet) (reg : GpioReg),
      (entry.saveField bases regs pin reg).gpioName = entry.gpioName ∧
        (entry.saveField bases regs pin reg).port = entry.port ∧
        (entry.saveField bases regs pin reg).portNum = entry.portNum ∧
        (entry.saveField bases regs pin reg).userGpioStatus = entry.userGpioStatus := by
    intro entry reg
    unfold SystemGpioSet.saveField
    cases pin.asks reg with
    | none => exact ⟨rfl, rfl, rfl, rfl⟩
    | some value => cases reg <;> exact ⟨rfl, rfl, rfl, rfl⟩
  have all : ∀ (kinds : List GpioReg) (entry : SystemGpioSet),
      (kinds.foldl (SystemGpioSet.saveField bases regs pin) entry).gpioName = entry.gpioName ∧
        (kinds.foldl (SystemGpioSet.saveField bases regs pin) entry).port = entry.port ∧
        (kinds.foldl (SystemGpioSet.saveField bases regs pin) entry).portNum = entry.portNum ∧
        (kinds.foldl (SystemGpioSet.saveField bases regs pin) entry).userGpioStatus =
          entry.userGpioStatus := by
    intro kinds
    induction kinds with
    | nil => exact fun entry => ⟨rfl, rfl, rfl, rfl⟩
    | cons reg rest inductionHypothesis =>
      intro entry
      obtain ⟨name, port, portNum, user⟩ := inductionHypothesis (entry.saveField bases regs pin reg)
      obtain ⟨name', port', portNum', user'⟩ := one entry reg
      exact ⟨name.trans name', port.trans port', portNum.trans portNum', user.trans user'⟩
  exact all _ (entry.recordUser pin)

end Entry

/-! ### The whole record -/

section Record

variable {bases : GpioBases} {target : GpioRegisters} {state : RequestState} {pin : UserGpioSet}

/-- The fields of a pin are in different registers, so each is saved as it was before all. -/
theorem record_requestFields (index : Nat) {kinds : List GpioReg} (distinct : kinds.Nodup)
    {before : GpioRegisters}
    (grouped : state.group.Grouped bases id pin.port pin.portNum target)
    (inRange : pin.portNum.toNat < 32)
    (agree : ∀ reg ∈ kinds, target (groupAddr bases pin.port pin.portNum reg) =
      before (groupAddr bases pin.port pin.portNum reg)) :
    (kinds.foldl (requestField index pin) state).userGpioSet =
      Function.update state.userGpioSet index
        (kinds.foldl (SystemGpioSet.saveField bases before pin) (state.userGpioSet index)) := by
  induction kinds generalizing state target with
  | nil => exact (Function.update_eq_self index _).symm
  | cons reg rest inductionHypothesis =>
    obtain ⟨notLater, distinctRest⟩ := List.nodup_cons.mp distinct
    have agreeRest : ∀ other ∈ rest, setPinField bases pin target reg
        (groupAddr bases pin.port pin.portNum other) =
          before (groupAddr bases pin.port pin.portNum other) := by
      intro other member
      have elsewhere : groupAddr bases pin.port pin.portNum other ≠
          groupAddr bases pin.port pin.portNum reg :=
        fun same => notLater (groupAddr_injective inRange same ▸ member)
      refine Eq.trans ?_ (agree other (List.mem_cons_of_mem _ member))
      unfold setPinField
      cases pin.asks reg with
      | none => rfl
      | some value => exact Function.update_of_ne elsewhere _ _
    have kept : (state.group.pins.kept reg).data =
        before (groupAddr bases pin.port pin.portNum reg) :=
      (grouped.shows.inside reg).symm.trans
        ((congrArg target (grouped.addr reg)).trans (agree reg List.mem_cons_self))
    have one : (requestField index pin state reg).userGpioSet =
        Function.update state.userGpioSet index
          ((state.userGpioSet index).saveField bases before pin reg) := by
      unfold requestField SystemGpioSet.saveField
      cases pin.asks reg with
      | none => exact (Function.update_eq_self index _).symm
      | some value =>
        dsimp only
        rw [kept]
    rw [List.foldl_cons, List.foldl_cons,
      inductionHypothesis distinctRest (grouped_requestField index reg grouped) agreeRest, one,
      Function.update_self, Function.update_idem]

theorem record_requestPin (index : Nat) (invariant : RequestInvariant bases target state)
    (isPort : pin.port ≠ 0) (mapped : pin.Mapped bases) :
    (requestPin bases index pin state).userGpioSet =
      Function.update state.userGpioSet index
        ((state.userGpioSet index).savePin bases target pin) := by
  unfold requestPin SystemGpioSet.savePin
  rw [if_neg isPort, record_requestFields index (by decide)
    (grouped_requestRegroup invariant mapped.inRange) mapped.inRange fun _ _ => rfl]
  dsimp only
  rw [Function.update_self, Function.update_idem]

theorem record_requestPin_of_ne {index place : Nat} (elsewhere : place ≠ index)
    (invariant : RequestInvariant bases target state) (mapped : pin.port ≠ 0 → pin.Mapped bases) :
    (requestPin bases index pin state).userGpioSet place = state.userGpioSet place := by
  by_cases none : pin.port = 0
  · unfold requestPin
    rw [if_pos none]
  · rw [record_requestPin index invariant none (mapped none)]
    exact Function.update_of_ne elsewhere _ _

/-- What is before the list in the record stays. -/
theorem record_requestLoop_before (list : List UserGpioSet) {index place : Nat}
    (before : place < index) (invariant : RequestInvariant bases target state)
    (mapped : PinsMapped bases list) :
    (requestLoop bases index list state).userGpioSet place = state.userGpioSet place := by
  induction list generalizing index target state with
  | nil => rfl
  | cons pin rest inductionHypothesis =>
    have isMapped := mapped pin List.mem_cons_self
    exact (inductionHypothesis (Nat.lt_succ_of_lt before)
      (RequestInvariant.requestPin invariant index isMapped)
      fun other member => mapped other (List.mem_cons_of_mem _ member)).trans
      (record_requestPin_of_ne (Nat.ne_of_lt before) invariant isMapped)

/-- Each entry is written in its turn and then kept. -/
theorem record_requestLoop (list : List UserGpioSet) (index place : Nat)
    (invariant : RequestInvariant bases target state) (mapped : PinsMapped bases list) :
    (requestLoop bases index list state).userGpioSet (index + place) =
      recordAt bases target list place (state.userGpioSet (index + place)) := by
  induction list generalizing index target state place with
  | nil => rfl
  | cons pin rest inductionHypothesis =>
    have isMapped := mapped pin List.mem_cons_self
    have others : PinsMapped bases rest :=
      fun other member => mapped other (List.mem_cons_of_mem _ member)
    have next := RequestInvariant.requestPin invariant index isMapped
    unfold requestLoop
    cases place with
    | zero =>
      rw [Nat.add_zero index, record_requestLoop_before rest (Nat.lt_add_one index) next others]
      unfold recordAt
      rw [List.getElem?_cons_zero]
      dsimp only
      by_cases none : pin.port = 0
      · unfold requestPin
        rw [if_pos none, if_pos none]
      · rw [record_requestPin index invariant none (isMapped none), Function.update_self,
          if_neg none, List.take_zero, List.foldl_nil]
    | succ place =>
      have behind : index + (place + 1) = index + 1 + place := by omega
      rw [behind, inductionHypothesis (index + 1) place next others,
        record_requestPin_of_ne (by omega) invariant isMapped]
      unfold recordAt
      rw [List.getElem?_cons_succ, List.take_succ_cons, List.foldl_cons]

theorem gpioRequest_record (behind : Nat → SystemGpioSet) {list rest : List UserGpioSet}
    (regs : GpioRegisters) (mapped : PinsMapped bases list)
    (first : list.drop (firstPort list) = pin :: rest) :
    ∃ record, (gpioRequest bases (some behind) list regs).1 = some record ∧
      record.realGpioCount = list.countP (fun pin => pin.port ≠ 0) ∧
      ∀ place, record.userGpioSet place =
        recordAt bases regs list place (emptyRecord behind list place) := by
  rw [gpioRequest_eq bases behind regs first]
  refine ⟨_, rfl, rfl, fun place => ?_⟩
  have entry := record_requestLoop list 0 place
    (requestInvariant_start regs mapped first (emptyRecord behind list)) mapped
  rwa [Nat.zero_add] at entry

end Record

/-! ### Inside the record -/

/-- An entry has the name, the place and the settings of a pin. -/
structure RecordsPin (pin : UserGpioSet) (entry : SystemGpioSet) : Prop where
  gpioName : ∀ name : List U8, 0 ∉ name → name.length < sizeofGpioName →
    NameIs pin.gpioName name → NameIs entry.gpioName name
  port : entry.port = pin.port
  portNum : entry.portNum = pin.portNum
  userGpioStatus : entry.userGpioStatus = ⟨pin.mulSel, pin.pull, pin.drvLevel, pin.data⟩

/-- The record has the pins in their order, and what is behind it is as it was; without a pin there
is no record. -/
def RecordRight (list : List UserGpioSet) (behind : Nat → SystemGpioSet) :
    Option GpioRecord → Prop
  | none => ∀ pin ∈ list, pin.port = 0
  | some record =>
    record.realGpioCount = (list.filter fun pin => pin.port ≠ 0).length ∧
      (∀ place pin, (list.filter fun pin => pin.port ≠ 0)[place]? = some pin →
        RecordsPin pin (record.userGpioSet place)) ∧
      ∀ place, record.realGpioCount ≤ place → record.userGpioSet place = behind place

/-- No pin comes after an empty entry. -/
def PinsFirst (list : List UserGpioSet) : Prop :=
  list.Pairwise fun pin other => other.port ≠ 0 → pin.port ≠ 0

theorem recordsPin_savePin (bases : GpioBases) (regs : GpioRegisters) (pin : UserGpioSet)
    (entry : SystemGpioSet) : RecordsPin pin (entry.savePin bases regs pin) := by
  refine ⟨fun text noZero short nameIs => ?_, (user_savePin entry).2.1, (user_savePin entry).2.2.1,
    (user_savePin entry).2.2.2⟩
  rw [(user_savePin entry).1]
  exact nameIs_asciiStrCpySFrom entry.gpioName nameIs noZero short

/-- Where no pin comes after an empty entry, the pins are at the front. -/
theorem PinsFirst.getElem?_iff {list : List UserGpioSet} (pinsFirst : PinsFirst list) (place : Nat)
    (pin : UserGpioSet) :
    (list[place]? = some pin ∧ pin.port ≠ 0) ↔
      (list.filter fun pin => pin.port ≠ 0)[place]? = some pin := by
  induction list generalizing place with
  | nil => simp
  | cons head rest inductionHypothesis =>
    obtain ⟨later, restFirst⟩ := List.pairwise_cons.mp pinsFirst
    by_cases none : head.port = 0
    · have noPin : ∀ other ∈ rest, other.port = 0 :=
        fun other member => not_not.mp fun isPort => later other member isPort none
      have empty : (head :: rest).filter (fun pin => pin.port ≠ 0) = [] := by
        refine List.filter_eq_nil_iff.mpr fun other member => ?_
        rcases List.mem_cons.mp member with rfl | member
        · simp [none]
        · simp [noPin other member]
      rw [empty]
      refine ⟨fun found => ?_, fun found => absurd found (by simp)⟩
      have member : pin ∈ head :: rest := List.mem_of_getElem? found.1
      rcases List.mem_cons.mp member with rfl | member
      · exact absurd none found.2
      · exact absurd (noPin pin member) found.2
    · have kept : (head :: rest).filter (fun pin => pin.port ≠ 0) =
          head :: rest.filter fun pin => pin.port ≠ 0 := List.filter_cons_of_pos (by simpa using none)
      rw [kept]
      cases place with
      | zero =>
        rw [List.getElem?_cons_zero, List.getElem?_cons_zero]
        exact ⟨fun found => found.1, fun found => ⟨found, Option.some.inj found ▸ none⟩⟩
      | succ place => exact inductionHypothesis restFirst place

/-- That is so exactly if the place of each pin is below the number of the pins. -/
theorem pinsFirst_iff {list : List UserGpioSet} :
    PinsFirst list ↔ ∀ place pin, list[place]? = some pin → pin.port ≠ 0 →
      place < list.countP fun pin => pin.port ≠ 0 := by
  constructor
  · intro pinsFirst place pin found isPort
    have inFilter := (pinsFirst.getElem?_iff place pin).mp ⟨found, isPort⟩
    rw [List.countP_eq_length_filter]
    exact (List.getElem?_eq_some_iff.mp inFilter).1
  · intro below
    generalize isCount : list.countP (fun pin => pin.port ≠ 0) = count at below
    have noneBehind : (list.drop count).countP (fun pin => pin.port ≠ 0) = 0 := by
      refine List.countP_eq_zero.mpr fun pin member => ?_
      obtain ⟨place, found⟩ := List.mem_iff_getElem?.mp member
      rw [List.getElem?_drop] at found
      simp only [ne_eq, decide_eq_true_eq, not_not]
      by_contra isPort
      have inside := below _ pin found isPort
      omega
    have allInFront : ∀ pin ∈ list.take count, pin.port ≠ 0 := by
      have inFront : (list.take count).countP (fun pin => pin.port ≠ 0) = count := by
        rw [← Nat.add_zero (List.countP _ _), ← noneBehind, ← List.countP_append,
          List.take_append_drop, isCount]
      have enough : (list.take count).length ≤ (list.take count).countP fun pin => pin.port ≠ 0 :=
        inFront.symm ▸ List.length_take_le _ _
      have all := List.countP_eq_length.mp (Nat.le_antisymm List.countP_le_length enough)
      exact fun pin member => of_decide_eq_true (all pin member)
    refine List.pairwise_iff_getElem.mpr fun first second inFirst inSecond before isPort => ?_
    have inside := below second list[second] (List.getElem?_eq_getElem inSecond) isPort
    have found : (list.take count)[first]? = some list[first] := by
      rw [List.getElem?_take_of_lt (before.trans inside)]
      exact List.getElem?_eq_getElem inFirst
    exact allInFront list[first] (List.mem_of_getElem? found)

/-- The record is written inside, whatever is behind it, exactly if no pin comes after an empty
entry. -/
theorem recordRight_iff {bases : GpioBases} {list : List UserGpioSet}
    (mapped : PinsMapped bases list) (regs : GpioRegisters) :
    (∀ behind, RecordRight list behind (gpioRequest bases (some behind) list regs).1) ↔
      PinsFirst list := by
  cases first : list.drop (firstPort list) with
  | nil =>
    have noPort := firstPort_eq_length first
    refine ⟨fun _ => ?_, fun _ behind => ?_⟩
    · refine List.pairwise_of_forall_mem_list fun pin _ other member isPort => ?_
      exact absurd (noPort other member) isPort
    · rw [(gpioRequest_of_no_pin bases behind regs first).1]
      exact noPort
  | cons pin rest =>
    constructor
    · intro right
      refine pinsFirst_iff.mpr fun place pin found isPort => ?_
      by_contra beyond
      obtain ⟨record, same, count, entries⟩ :=
        gpioRequest_record (fun _ => SystemGpioSet.zero) regs mapped first
      have kept := right fun _ => SystemGpioSet.zero
      rw [same] at kept
      have zero := kept.2.2 place (count ▸ Nat.le_of_not_lt beyond)
      rw [entries place] at zero
      unfold recordAt at zero
      rw [found] at zero
      dsimp only at zero
      rw [if_neg isPort] at zero
      have port := congrArg SystemGpioSet.port zero
      rw [(user_savePin _).2.1] at port
      exact isPort port
    · intro pinsFirst behind
      obtain ⟨record, same, count, entries⟩ := gpioRequest_record behind regs mapped first
      rw [same]
      refine ⟨count.trans List.countP_eq_length_filter, fun place pin found => ?_,
        fun place beyond => ?_⟩
      · obtain ⟨inList, isPort⟩ := (pinsFirst.getElem?_iff place pin).mpr found
        rw [entries place]
        unfold recordAt
        rw [inList]
        dsimp only
        rw [if_neg isPort]
        exact recordsPin_savePin _ _ _ _
      · rw [entries place]
        rw [count] at beyond
        have outside : emptyRecord behind list place = behind place :=
          if_neg (Nat.not_lt.mpr beyond)
        rw [outside]
        unfold recordAt
        split
        next pin found =>
          split
          next => rfl
          next isPort =>
            exact absurd (pinsFirst_iff.mp pinsFirst place pin found isPort)
              (Nat.not_lt.mpr beyond)
        next => rfl

end PinePhonePkg
