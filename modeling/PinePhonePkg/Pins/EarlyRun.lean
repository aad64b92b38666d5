/-
This file compares the early request of pins with the other one. What the early
request leaves is what its settings give one after the other, the cleared registers
among them; so both leave the same exactly if the settings that no pin asked for do
no harm.
-/

import PinePhonePkg.Pins.Early

namespace PinePhonePkg

open Library

/-! ### Registers in a row -/

section Row

variable {bases : GpioBases} {port portNum other : U32}

theorem groupAddr_add_four (small : portNum.toNat < 32) (small' : other.toNat < 32)
    {reg reg' : GpioReg}
    (same : groupAddr bases port portNum reg + 4 = groupAddr bases port other reg') :
    regOffset portNum.toNat reg + 4 = regOffset other.toNat reg' := by
  have behind : ∀ offset : U32, pioReg bases port offset + 4 = pioReg bases port (offset + 4) := by
    intro offset
    unfold pioReg
    split
    · exact BitVec.add_assoc _ _ _
    · exact BitVec.add_assoc _ _ _
  rw [groupAddr_eq small, groupAddr_eq small', behind] at same
  have numbers := congrArg BitVec.toNat (pioReg_injective same)
  have inside := regOffset_lt small reg
  have inside' := regOffset_lt small' reg'
  have four : (4 : U32).toNat = 4 := rfl
  have first : regOffset portNum.toNat reg % 2 ^ 32 = regOffset portNum.toNat reg :=
    Nat.mod_eq_of_lt (by omega)
  have second : regOffset other.toNat reg' % 2 ^ 32 = regOffset other.toNat reg' :=
    Nat.mod_eq_of_lt (by omega)
  rw [BitVec.toNat_add, BitVec.toNat_ofNat, BitVec.toNat_ofNat, first, second, four,
    Nat.mod_eq_of_lt (by omega)] at numbers
  exact numbers

/-- What is behind a register of a group is no other one of it, apart from the data behind the last
functions and the drive levels behind the data. -/
theorem groupAddr_behind (small : portNum.toNat < 32) {reg reg' : GpioReg}
    (same : groupAddr bases port portNum reg + 4 = groupAddr bases port portNum reg') :
    reg = .func ∧ reg' = .data ∨ reg = .data ∧ reg' = .dlevel := by
  have numbers := groupAddr_add_four small small same
  unfold regOffset at numbers
  cases reg <;> cases reg' <;> dsimp only at numbers <;> first | omega | decide

end Row

/-! ### What is kept -/

/-- The words that are kept are those of the schedule's group, and the registers with them are those
that its settings give. The data may have been cleared below the word that is kept. -/
structure EarlyInvariant (bases : GpioBases) (target : GpioRegisters) (schedule : EarlySchedule)
    (group : GroupState GpioReg) : Prop where
  inRange : schedule.portNum.toNat < 32
  notNull : ∀ reg, schedule.addr bases reg ≠ 0
  addr : ∀ reg, (group.pins.kept reg).addr = schedule.addr bases reg
  inside : ∀ reg, target (schedule.addr bases reg) = (group.pins.kept reg).data
  outside : ∀ place, (∀ reg, place ≠ schedule.addr bases reg) →
    target place = group.pins.memory place
  dataChange : (group.pins.kept .data).change = schedule.dataChange
  data : schedule.dataChange = false → group.pins.memory (schedule.addr bases .data) =
    if schedule.cleared then 0 else (group.pins.kept .data).data
  prePort : group.prePort = schedule.port
  prePortNumFunc : group.prePortNumFunc = schedule.portNum >>> 3
  prePortNumPull : group.prePortNumPull = schedule.portNum >>> 4

section Flush

/-- Words that are written with the register behind each, as they come to stand -/
theorem flush_words {Address Word : Type} [DecidableEq Address] {zero : Word}
    {addr behind : GpioReg → Address} {memory target : Address → Word}
    {dataChange cleared : Bool} (apart : ∀ reg reg', addr reg = addr reg' → reg = reg')
    (isBehind : ∀ reg reg', behind reg = addr reg' →
      reg = .func ∧ reg' = .data ∨ reg = .data ∧ reg' = .dlevel)
    (outside : ∀ place, (∀ reg, place ≠ addr reg) → target place = memory place)
    (data : dataChange = false →
      memory (addr .data) = if cleared then zero else target (addr .data))
    (place : Address) :
    (if dataChange then
      [GpioReg.func, .pull, .dlevel, .data].foldl (fun memory reg => Function.update
        (Function.update memory (addr reg) (target (addr reg))) (behind reg) zero) memory place
    else
      [GpioReg.func, .pull, .dlevel].foldl (fun memory reg => Function.update
        (Function.update memory (addr reg) (target (addr reg))) (behind reg) zero) memory place) =
    if place ∈ (if behind .func = addr .data then [] else [behind .func]) ++
        [behind .pull, behind .dlevel] ++
        (if dataChange then [behind .data]
        else if behind .func = addr .data ∨ cleared then [addr .data] else []) then zero
    else target place := by
  have kept : place = addr .func ∨ place = addr .pull ∨ place = addr .dlevel ∨
      place = addr .data ∨ target place = memory place := by
    by_cases some : ∃ reg, place = addr reg
    · obtain ⟨reg, rfl⟩ := some
      cases reg <;> simp
    · exact .inr (.inr (.inr (.inr (outside place fun reg same => some ⟨reg, same⟩))))
  clear outside
  simp only [List.foldl_cons, List.foldl_nil, Function.update_apply]
  by_cases clearsData : behind .func = addr .data
  · cases dataChange with
    | true => grind
    | false => grind
  · cases dataChange with
    | true => grind
    | false => grind

variable {bases : GpioBases} {target : GpioRegisters} {schedule : EarlySchedule}
  {group : GroupState GpioReg}

/-- When everything is written, the registers are those of the settings and of what is cleared
then. -/
theorem memory_earlyFlush (invariant : EarlyInvariant bases target schedule group) :
    (earlyFlush group.pins).memory =
      FieldWrite.setAll (clearRegs (schedule.flushClears bases)) target := by
  obtain ⟨inRange, -, addr, inside, outside, dataChange, data, -, -, -⟩ := invariant
  have apart : ∀ reg reg', schedule.addr bases reg = schedule.addr bases reg' → reg = reg' :=
    fun reg reg' => groupAddr_injective inRange
  have isBehind : ∀ reg reg', schedule.behind bases reg = schedule.addr bases reg' →
      reg = .func ∧ reg' = .data ∨ reg = .data ∧ reg' = .dlevel :=
    fun reg reg' => groupAddr_behind inRange
  rw [← inside] at data
  funext place
  have words := flush_words apart isBehind outside data place
  rw [setAll_clearRegs]
  unfold EarlySchedule.flushClears EarlySchedule.funcClears EarlySchedule.clearsData
  simp only [decide_eq_true_eq, Bool.or_eq_true]
  rw [← words]
  unfold earlyFlush gpioRegWrite
  dsimp only
  rw [dataChange]
  cases schedule.dataChange with
  | true =>
    simp only [if_true, List.foldl_cons, List.foldl_nil, Function.update_self, addr, ← inside]
    rfl
  | false =>
    simp only [Bool.false_eq_true, if_false, List.foldl_cons, List.foldl_nil, addr, ← inside]
    rfl

theorem change_earlyFlush (pins : WriteBack GpioReg U32 U32) :
    ((earlyFlush pins).kept .data).change = false := by
  unfold earlyFlush
  dsimp only
  split
  next =>
    unfold gpioRegWrite
    dsimp only
    rw [Function.update_self]
  next unchanged => exact eq_false_of_ne_true unchanged

/-- When the functions are written alone, the registers beside what is still kept are as they are
to be. -/
theorem memory_gpioRegWrite_func (invariant : EarlyInvariant bases target schedule group)
    {place : U32} (beside : ∀ reg, reg ≠ .func → place ≠ schedule.addr bases reg) :
    (gpioRegWrite .func group.pins).memory place =
      FieldWrite.setAll (clearRegs (schedule.funcClears bases)) target place := by
  have isFunc : schedule.addr bases .func = schedule.addr bases .func := rfl
  rw [setAll_clearRegs]
  unfold gpioRegWrite EarlySchedule.funcClears EarlySchedule.clearsData
  dsimp only
  rw [invariant.addr, ← invariant.inside]
  show Function.update (Function.update _ (schedule.addr bases .func) _)
    (schedule.behind bases .func) 0 place = _
  by_cases here : place = schedule.behind bases .func
  · rw [here, Function.update_self]
    have notData : schedule.behind bases .func ≠ schedule.addr bases .data :=
      here ▸ beside .data (by decide)
    simp [notData]
  · have notCleared : place ∉ (if decide (schedule.behind bases .func = schedule.addr bases .data)
        then [] else [schedule.behind bases .func]) := by
      split
      · exact List.not_mem_nil
      · exact fun member => here (List.mem_singleton.mp member)
    rw [if_neg notCleared, Function.update_of_ne here]
    by_cases func : place = schedule.addr bases .func
    · rw [func, Function.update_self]
    · rw [Function.update_of_ne func]
      refine (invariant.outside place fun reg same => ?_).symm
      by_cases isFunc : reg = .func
      · exact func (isFunc ▸ same)
      · exact beside reg isFunc same

/-- What is still kept is not touched by that, but for the data below. -/
theorem setAll_funcClears_of_ne (invariant : EarlyInvariant bases target schedule group)
    {reg : GpioReg} (notFunc : reg ≠ .func) :
    FieldWrite.setAll (clearRegs (schedule.funcClears bases)) target (schedule.addr bases reg) =
      target (schedule.addr bases reg) := by
  rw [setAll_clearRegs]
  refine if_neg fun member => ?_
  unfold EarlySchedule.funcClears EarlySchedule.clearsData at member
  split at member
  next => exact absurd member List.not_mem_nil
  next notData =>
    have same := (List.mem_singleton.mp member).symm
    rcases groupAddr_behind invariant.inRange same with ⟨-, rfl⟩ | ⟨isData, -⟩
    · exact notData (decide_eq_true same)
    · exact absurd isData (by decide)

/-- The data is cleared below the word that is kept where it comes behind the functions. -/
theorem data_gpioRegWrite_func (invariant : EarlyInvariant bases target schedule group)
    (unchanged : schedule.dataChange = false) :
    (gpioRegWrite .func group.pins).memory (schedule.addr bases .data) =
      if schedule.cleared || schedule.clearsData bases then 0 else (group.pins.kept .data).data := by
  have notFunc : schedule.addr bases .data ≠ schedule.addr bases .func := fun same =>
    absurd (groupAddr_injective invariant.inRange same) (by decide)
  have before := invariant.data unchanged
  unfold gpioRegWrite EarlySchedule.clearsData
  dsimp only
  rw [invariant.addr]
  show Function.update (Function.update _ (schedule.addr bases .func) _)
    (schedule.behind bases .func) 0 (schedule.addr bases .data) = _
  by_cases clearsData : schedule.behind bases .func = schedule.addr bases .data
  · rw [clearsData, Function.update_self, decide_eq_true rfl, Bool.or_true, if_pos rfl]
  · rw [Function.update_of_ne (Ne.symm clearsData), Function.update_of_ne notFunc, before,
      decide_eq_false clearsData, Bool.or_false]

/-- When a pin comes, its group is kept, and the registers are those with what is cleared. -/
theorem EarlyInvariant.earlyRegroup {pin : UserGpioSet}
    (invariant : EarlyInvariant bases target schedule group) (mapped : pin.Mapped bases) :
    EarlyInvariant bases (FieldWrite.setAll (clearRegs (schedule.enterClears bases pin)) target)
      (schedule.enter bases pin) (earlyRegroup bases pin group) ∧
      (schedule.enter bases pin).port = pin.port ∧
      (schedule.enter bases pin).portNum = pin.portNum := by
  have prePort := invariant.prePort
  have prePull := invariant.prePortNumPull
  have preFunc := invariant.prePortNumFunc
  unfold PinePhonePkg.earlyRegroup GroupState.regroup EarlySchedule.enterClears EarlySchedule.enter
  rw [prePull, prePort, preFunc]
  by_cases other : pin.portNum >>> 4 ≠ schedule.portNum >>> 4 ∨ pin.port ≠ schedule.port
  · rw [if_pos other, if_pos other, if_pos other]
    have memory := memory_earlyFlush invariant
    refine ⟨⟨mapped.inRange, mapped.notNull, fun _ => rfl, fun reg => ?_, fun place _ => ?_,
      change_earlyFlush _, fun _ => rfl, rfl, rfl, rfl⟩, rfl, rfl⟩
    · exact (congrFun memory _).symm
    · exact (congrFun memory place).symm
  · obtain ⟨samePull, samePort⟩ := not_or.mp other
    replace samePull := not_not.mp samePull
    replace samePort := not_not.mp samePort
    rw [if_neg other, if_neg other, if_neg other]
    have others : ∀ reg, reg ≠ .func → groupAddr bases schedule.port pin.portNum reg =
        schedule.addr bases reg := fun reg notFunc =>
      groupAddr_congr mapped.inRange invariant.inRange (fun isFunc => absurd isFunc notFunc)
        fun _ => samePull
    have notNull : ∀ reg, groupAddr bases schedule.port pin.portNum reg ≠ 0 :=
      samePort ▸ mapped.notNull
    by_cases otherFunc : schedule.portNum >>> 3 ≠ pin.portNum >>> 3
    · rw [if_pos otherFunc, if_pos otherFunc, if_pos otherFunc]
      have apart : ∀ reg, reg ≠ .func →
          groupAddr bases schedule.port pin.portNum .func ≠ schedule.addr bases reg := by
        intro reg notFunc same
        exact notFunc (groupAddr_injective mapped.inRange (same.trans (others reg notFunc).symm)).symm
      have address : getGroupFuncAddrByPort bases pin.port pin.portNum =
          groupAddr bases schedule.port pin.portNum .func := by rw [samePort]; rfl
      rw [address]
      refine ⟨⟨mapped.inRange, notNull, fun reg => ?_, fun reg => ?_, fun place beside => ?_, ?_,
        fun unchanged => ?_, samePort, rfl, rfl⟩, samePort.symm, rfl⟩
      · by_cases isFunc : reg = .func
        · rw [isFunc, WriteBack.kept_load_self]
          rfl
        · rw [WriteBack.kept_load_of_ne _ isFunc]
          exact (invariant.addr reg).trans (others reg isFunc).symm
      · by_cases isFunc : reg = .func
        · rw [isFunc, WriteBack.kept_load_self]
          exact (memory_gpioRegWrite_func invariant apart).symm
        · rw [WriteBack.kept_load_of_ne _ isFunc]
          show FieldWrite.setAll _ target (groupAddr bases schedule.port pin.portNum reg) = _
          rw [others reg isFunc, setAll_funcClears_of_ne invariant isFunc]
          exact invariant.inside reg
      · refine (memory_gpioRegWrite_func invariant fun reg notFunc same => ?_).symm
        exact beside reg (same.trans (others reg notFunc).symm)
      · rw [WriteBack.kept_load_of_ne _ (by decide)]
        exact invariant.dataChange
      · refine (congrArg (gpioRegWrite .func group.pins).memory (others .data (by decide))).trans ?_
        rw [WriteBack.kept_load_of_ne _ (by decide)]
        exact data_gpioRegWrite_func invariant unchanged
    · rw [if_neg otherFunc, if_neg otherFunc, if_neg otherFunc]
      have same : ∀ reg, groupAddr bases schedule.port pin.portNum reg =
          schedule.addr bases reg := by
        intro reg
        by_cases isFunc : reg = .func
        · exact groupAddr_congr mapped.inRange invariant.inRange
            (fun _ => (not_not.mp otherFunc).symm) fun notFunc => absurd isFunc notFunc
        · exact others reg isFunc
      refine ⟨⟨mapped.inRange, notNull, fun reg => (invariant.addr reg).trans (same reg).symm,
        fun reg => ?_, fun place beside => ?_, invariant.dataChange, fun unchanged => ?_, samePort,
        rfl, rfl⟩, samePort.symm, rfl⟩
      · exact (congrArg target (same reg)).trans (invariant.inside reg)
      · exact invariant.outside place fun reg isReg => beside reg (isReg.trans (same reg).symm)
      · exact (congrArg group.pins.memory (same .data)).trans (invariant.data unchanged)

end Flush

/-! ### The run -/

section Run

variable {bases : GpioBases} {target : GpioRegisters} {schedule : EarlySchedule}
  {group : GroupState GpioReg} {pin : UserGpioSet}

/-- A field is changed in the word that is kept; the data is to be written then. -/
theorem EarlyInvariant.setField (invariant : EarlyInvariant bases target schedule group)
    (reg : GpioReg) (value : U32) :
    EarlyInvariant bases
      ((pinField bases schedule.port schedule.portNum reg).put
        (value <<< fieldShift schedule.portNum reg) target)
      { schedule with dataChange := schedule.dataChange || decide (reg = .data) }
      (group.setField id schedule.portNum reg value) := by
  obtain ⟨inRange, notNull, addr, inside, outside, dataChange, data, prePort, preFunc, prePull⟩ :=
    invariant
  unfold GroupState.setField
  rw [put_pinField]
  refine ⟨inRange, notNull, fun other => (WriteBack.addr_set reg _ other).trans (addr other),
    fun other => ?_, fun place beside => ?_, ?_, fun unchanged => ?_, prePort, preFunc, prePull⟩
  · by_cases same : other = reg
    · rw [same, WriteBack.kept_set_self]
      refine (Function.update_self _ _ _).trans ?_
      exact congrArg (PinePhonePkg.setField reg schedule.portNum value) (inside reg)
    · rw [WriteBack.kept_set_of_ne _ same]
      refine (Function.update_of_ne (fun sameAddr => same ?_) _ _).trans (inside other)
      exact groupAddr_injective inRange sameAddr
  · exact (Function.update_of_ne (beside reg) _ _).trans (outside place beside)
  · by_cases isData : reg = .data
    · rw [isData, WriteBack.kept_set_self, decide_eq_true rfl, Bool.or_true]
    · rw [WriteBack.kept_set_of_ne _ (Ne.symm isData), dataChange, decide_eq_false isData,
        Bool.or_false]
  · obtain ⟨before, notData⟩ := Bool.or_eq_false_iff.mp unchanged
    rw [WriteBack.kept_set_of_ne _ (Ne.symm (of_decide_eq_false notData))]
    exact data before

/-- The schedule after some fields of a pin -/
def EarlySchedule.askedFor (pin : UserGpioSet) (schedule : EarlySchedule) (reg : GpioReg) :
    EarlySchedule :=
  { schedule with
    dataChange := schedule.dataChange || (decide (reg = .data) && (pin.asks reg).isSome) }

theorem EarlyInvariant.earlyField (invariant : EarlyInvariant bases target schedule group)
    (samePort : schedule.port = pin.port) (sameNum : schedule.portNum = pin.portNum)
    (reg : GpioReg) :
    EarlyInvariant bases (setPinField bases pin target reg) (schedule.askedFor pin reg)
      (earlyField 1 pin group reg) := by
  unfold PinePhonePkg.earlyField setPinField EarlySchedule.askedFor
  cases asked : pin.asks reg with
  | none =>
    rw [Option.isSome_none, Bool.and_false, Bool.or_false]
    exact invariant
  | some value =>
    have isValue : earlyValue 1 reg value = value := if_neg fun cleared => absurd cleared.2 (by decide)
    have set := invariant.setField reg value
    rw [samePort, sameNum] at set
    rw [Option.isSome_some, Bool.and_true]
    dsimp only
    rw [isValue, samePort, sameNum]
    exact set

theorem EarlyInvariant.earlyFields (kinds : List GpioReg)
    (invariant : EarlyInvariant bases target schedule group)
    (samePort : schedule.port = pin.port) (sameNum : schedule.portNum = pin.portNum) :
    EarlyInvariant bases (FieldWrite.setAll (ownSettings bases pin kinds) target)
      (kinds.foldl (EarlySchedule.askedFor pin) schedule)
      (kinds.foldl (PinePhonePkg.earlyField 1 pin) group) := by
  rw [setAll_ownSettings]
  induction kinds generalizing target schedule group with
  | nil => exact invariant
  | cons reg rest inductionHypothesis =>
    exact inductionHypothesis (invariant.earlyField samePort sameNum reg) samePort sameNum

/-- Of the fields of a pin, the data alone matters to the schedule. -/
theorem askedFor_all (pin : UserGpioSet) (schedule : EarlySchedule) :
    [.pull, .dlevel, .data].foldl (EarlySchedule.askedFor pin) schedule = schedule.asked pin ∧
      [.func, .pull, .dlevel, .data].foldl (EarlySchedule.askedFor pin) schedule =
        schedule.asked pin := by
  unfold EarlySchedule.askedFor EarlySchedule.asked
  simp

theorem EarlyInvariant.earlyPin (invariant : EarlyInvariant bases target schedule group)
    (mapped : pin.Mapped bases) :
    EarlyInvariant bases
      (FieldWrite.setAll (clearRegs (schedule.enterClears bases pin) ++
        ownSettings bases pin [.func, .pull, .dlevel, .data]) target)
      ((schedule.enter bases pin).asked pin) (earlyPin bases 1 group pin) := by
  obtain ⟨entered, samePort, sameNum⟩ := invariant.earlyRegroup mapped
  rw [setAll_append, ← (askedFor_all pin _).2]
  exact entered.earlyFields [.func, .pull, .dlevel, .data] samePort sameNum

/-- In the end the registers are those that all settings give. -/
theorem EarlyInvariant.earlyLoop (list : List UserGpioSet)
    (invariant : EarlyInvariant bases target schedule group) (mapped : PinsMapped bases list)
    (isPin : ∀ pin ∈ list, pin.port ≠ 0) :
    earlyEnd (earlyLoop bases 1 list group) =
      FieldWrite.setAll (schedule.settings bases list) target := by
  induction list generalizing target schedule group with
  | nil =>
    have notNull : ((PinePhonePkg.earlyLoop bases 1 [] group).pins.kept .func).addr ≠ 0 := by
      unfold PinePhonePkg.earlyLoop
      rw [invariant.addr]
      exact invariant.notNull .func
    unfold earlyEnd
    rw [if_pos notNull]
    exact memory_earlyFlush invariant
  | cons pin rest inductionHypothesis =>
    have isPort := isPin pin List.mem_cons_self
    have next := invariant.earlyPin (mapped pin List.mem_cons_self isPort)
    unfold PinePhonePkg.earlyLoop EarlySchedule.settings
    rw [if_neg isPort, setAll_append]
    exact inductionHypothesis next (fun other member => mapped other (List.mem_cons_of_mem _ member))
      fun other member => isPin other (List.mem_cons_of_mem _ member)

theorem earlyInvariant_earlyFirst (mapped : pin.Mapped bases) (regs : GpioRegisters) :
    EarlyInvariant bases (FieldWrite.setAll (firstSettings bases pin) regs)
      ⟨pin.port, pin.portNum, (pin.asks .data).isSome, false⟩ (earlyFirst bases 1 pin regs) := by
  have start : EarlyInvariant bases regs ⟨pin.port, pin.portNum, false, false⟩
      { GroupState.start bases id pin.port pin.portNum regs with
        prePort := pin.port
        prePortNumFunc := pin.portNum >>> 3
        prePortNumPull := pin.portNum >>> 4 } :=
    ⟨mapped.inRange, mapped.notNull, fun _ => rfl, fun _ => rfl, fun _ _ => rfl, rfl, fun _ => rfl,
      rfl, rfl, rfl⟩
  have func := start.setField .func pin.mulSel
  have isValue : earlyValue 1 .func pin.mulSel = pin.mulSel :=
    if_neg fun cleared => absurd cleared.2 (by decide)
  unfold earlyFirst
  dsimp only
  rw [isValue]
  have schedule := (askedFor_all pin ⟨pin.port, pin.portNum, false, false⟩).1
  unfold EarlySchedule.asked at schedule
  rw [Bool.false_or] at schedule
  rw [← schedule]
  exact func.earlyFields [.pull, .dlevel, .data] rfl rfl

/-- The early request sets its settings. -/
theorem regs_gpioRequestEarly {list : List UserGpioSet} (mapped : PinsMapped bases list)
    (isPin : ∀ pin ∈ list, pin.port ≠ 0) (regs : GpioRegisters) :
    (gpioRequestEarly bases 1 list regs).2 = FieldWrite.setAll (earlySettings bases list) regs := by
  cases list with
  | nil => rfl
  | cons pin rest =>
    have isPort := isPin pin List.mem_cons_self
    have first : (pin :: rest).drop (firstPort (pin :: rest)) = pin :: rest := by
      unfold firstPort
      rw [List.findIdx_cons, decide_eq_true isPort]
      rfl
    unfold gpioRequestEarly earlySettings
    rw [first, setAll_append]
    exact (earlyInvariant_earlyFirst (mapped pin List.mem_cons_self isPort) regs).earlyLoop rest
      (fun other member => mapped other (List.mem_cons_of_mem _ member))
      fun other member => isPin other (List.mem_cons_of_mem _ member)

end Run

/-! ### Both requests -/

/-- The early request leaves what the other one does exactly if each bit that it sets without a
pin's wish, and not again afterwards, is as the pins leave it one after the other. -/
theorem gpioRequestEarly_eq_iff (bases : GpioBases) (behind : Nat → SystemGpioSet)
    {list : List UserGpioSet} (mapped : PinsMapped bases list)
    (isPin : ∀ pin ∈ list, pin.port ≠ 0) (regs : GpioRegisters) :
    (gpioRequestEarly bases 1 list regs).2 = (gpioRequest bases (some behind) list regs).2 ↔
      FieldWrite.Harmless (earlySettings bases list) regs := by
  rw [regs_gpioRequestEarly mapped isPin, gpioRequest_regs behind regs mapped,
    ← setOwn_earlySettings list isPin]
  exact FieldWrite.setAll_eq_setOwn_iff _ _

/-- The two pins of the serial port, with their functions and pulls -/
def uartPins : List UserGpioSet :=
  [⟨fun _ => 0, 2, 8, 4, 1, -1, -1⟩, ⟨fun _ => 0, 2, 9, 4, 1, -1, -1⟩]

theorem uartPins_mapped : PinsMapped phoneGpio uartPins := by
  refine PhonePins.mapped fun pin member _ => ?_
  rcases List.mem_cons.mp member with rfl | member
  · exact ⟨by decide, by decide⟩
  · obtain rfl := List.mem_singleton.mp member
    exact ⟨by decide, by decide⟩

/-- Where all registers are zero, it does no harm that some are cleared. -/
theorem gpioRequestEarly_eq_iff_uartPins :
    (gpioRequestEarly phoneGpio 1 uartPins fun _ => 0).2 =
      (gpioRequest phoneGpio (some fun _ => SystemGpioSet.zero) uartPins fun _ => 0).2 := by
  have isPin : ∀ pin ∈ uartPins, pin.port ≠ 0 := by decide
  refine (gpioRequestEarly_eq_iff phoneGpio _ uartPins_mapped isPin _).mpr ?_
  refine FieldWrite.harmless_of_content ?_
  decide +kernel

/-- The functions of the pins 16 to 23 are lost with those of the serial port. -/
theorem not_gpioRequestEarly_eq :
    ¬ ∀ (behind : Nat → SystemGpioSet) (list : List UserGpioSet) (regs : GpioRegisters),
      PinsMapped phoneGpio list → (∀ pin ∈ list, pin.port ≠ 0) →
      (gpioRequestEarly phoneGpio 1 list regs).2 =
        (gpioRequest phoneGpio (some behind) list regs).2 := by
  intro claim
  have same := claim (fun _ => SystemGpioSet.zero) uartPins (fun _ => 0x77777777) uartPins_mapped
    (by decide)
  have place := congrFun same 0x01c2082c
  revert place
  decide +kernel

end PinePhonePkg
