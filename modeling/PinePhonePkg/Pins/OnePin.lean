/-
This file models the operations on the pins of a handle: the state of one pin or of
all of them is read, and the fields of one pin are changed. A pin is found by its
name; the operations that change or read one field take the only pin of a handle
whatever its name is.

The reading of all pins keeps the addresses of a group of pins. It proves that each
entry nevertheless gets what the registers of its own pin hold.
-/

import PinePhonePkg.Pins.Release

namespace PinePhonePkg

open Library

/-- What a caller gives as a name, or a null pointer -/
abbrev GpioName : Type := Option (List U8)

/-! ### The pin of a handle -/

/-- The first entry with the name -/
def GpioRecord.named (record : GpioRecord) (gpioName : List U8) : Option SystemGpioSet :=
  record.entries.find? fun entry => asciiStrEq gpioName entry.gpioName

/-- `user_gpio_set` of the operations on one field -/
def GpioRecord.select (record : GpioRecord) (gpioName : GpioName) : Option SystemGpioSet :=
  if record.realGpioCount = 0 then none
  else if record.realGpioCount = 1 then some (record.userGpioSet 0)
  else gpioName.bind record.named

/-! ### Registers -/

/-- The place of a register in its port, as the macros have it -/
def pioOffset (portNum : U32) : GpioReg → U32
  | .func => (portNum >>> 3 <<< 2) + 0x00
  | .dlevel => (portNum >>> 4 <<< 2) + 0x14
  | .pull => (portNum >>> 4 <<< 2) + 0x1c
  | .data => 0x10

section Registers

variable (bases : GpioBases)

/-- `PIO_REG_*_VALUE` and `R_PIO_REG_*_VALUE`; here the port has no sign. -/
def pioRegValue (port portNum : U32) (reg : GpioReg) (regs : GpioRegisters) : U32 :=
  if port < 12 then regs (bases.sunxiPioBase + (port - 1) * 0x24 + pioOffset portNum reg)
  else regs (bases.sunxiCpusPioBase + (port - 12) * 0x24 + pioOffset portNum reg)

/-- A field of a pin, by the macros -/
def readField (port portNum : U32) (reg : GpioReg) (regs : GpioRegisters) : U32 :=
  getField reg portNum (pioRegValue bases port portNum reg regs)

/-- A read, a change and a write; the value is not cut to the field. -/
def writeField (port portNum : U32) (reg : GpioReg) (value : U32) (regs : GpioRegisters) :
    GpioRegisters :=
  Function.update regs (groupAddr bases port portNum reg)
    ((regs (groupAddr bases port portNum reg) &&& ~~~(fieldMask reg <<< fieldShift portNum reg)) |||
      value <<< fieldShift portNum reg)

end Registers

/-! ### One field of a pin -/

section OneField

variable (bases : GpioBases)

/-- What the three setters have in common -/
def setOnePinField (reg : GpioReg) (refused : U32 → Bool) (handle : Option GpioRecord) (value : U32)
    (gpioName : GpioName) (regs : GpioRegisters) : Int × GpioRegisters :=
  match handle with
  | none => (egpioFail, regs)
  | some record =>
    if refused value then (egpioFail, regs)
    else
      match record.select gpioName with
      | none => (egpioFail, regs)
      | some entry => (egpioSuccess, writeField bases entry.port entry.portNum reg value regs)

/-- Makes a pin an input or an output. -/
def gpioSetOnePinIoStatus (handle : Option GpioRecord) (ifSetToOutputStatus : U32)
    (gpioName : GpioName) (regs : GpioRegisters) : Int × GpioRegisters :=
  setOnePinField bases .func (fun status => status > 1) handle ifSetToOutputStatus gpioName regs

/-- Sets the pull of a pin. -/
def gpioSetOnePinPull (handle : Option GpioRecord) (setPullStatus : U32) (gpioName : GpioName)
    (regs : GpioRegisters) : Int × GpioRegisters :=
  setOnePinField bases .pull (fun status => status ≥ 4) handle setPullStatus gpioName regs

/-- Sets the drive of a pin. -/
def gpioSetOnePinDriverLevel (handle : Option GpioRecord) (setDriverLevel : U32)
    (gpioName : GpioName) (regs : GpioRegisters) : Int × GpioRegisters :=
  setOnePinField bases .dlevel (fun level => level ≥ 4) handle setDriverLevel gpioName regs

/-- The level of a pin that is an input -/
def gpioReadOnePinValue (handle : Option GpioRecord) (gpioName : GpioName) (regs : GpioRegisters) :
    Int :=
  match handle with
  | none => egpioFail
  | some record =>
    match record.select gpioName with
    | none => egpioFail
    | some entry =>
      if readField bases entry.port entry.portNum .func regs = 0 then
        (readField bases entry.port entry.portNum .data regs).toInt
      else egpioFail

/-- The level of a pin that is an output is set. -/
def gpioWriteOnePinValue (handle : Option GpioRecord) (valueToGpio : U32) (gpioName : GpioName)
    (regs : GpioRegisters) : Int × GpioRegisters :=
  match handle with
  | none => (egpioFail, regs)
  | some record =>
    if valueToGpio ≥ 2 then (egpioFail, regs)
    else
      match record.select gpioName with
      | none => (egpioFail, regs)
      | some entry =>
        if readField bases entry.port entry.portNum .func regs = 1 then
          (egpioSuccess, writeField bases entry.port entry.portNum .data valueToGpio regs)
        else (egpioFail, regs)

end OneField

/-! ### The state of one pin -/

section Status

variable (bases : GpioBases)

/-- What is asked for with a state of four values: a negative one asks for nothing, and only an
output has data. -/
def GpioStatusSet.asks (status : GpioStatusSet) : GpioReg → Option U32
  | .func => if 0 ≤ status.mulSel.toInt then some status.mulSel else none
  | .pull => if 0 ≤ status.pull.toInt then some status.pull else none
  | .dlevel => if 0 ≤ status.drvLevel.toInt then some status.drvLevel else none
  | .data =>
    if status.mulSel = 1 ∧ 0 ≤ status.data.toInt then some (status.data &&& 0x01) else none

/-- A field that is asked for is written. -/
def writeAsked (port portNum : U32) (status : GpioStatusSet) (regs : GpioRegisters)
    (reg : GpioReg) : GpioRegisters :=
  match status.asks reg with
  | some value => writeField bases port portNum reg value regs
  | none => regs

/-- The settings that are asked for -/
def UserGpioSet.status (pin : UserGpioSet) : GpioStatusSet :=
  ⟨pin.mulSel, pin.pull, pin.drvLevel, pin.data⟩

/-- A name that no pin has is no error. -/
def gpioSetOnePinStatus (handle : Option GpioRecord) (gpioStatus : Option UserGpioSet)
    (gpioName : GpioName) (ifSetToCurrentInputStatus : U32) (regs : GpioRegisters) :
    Int × GpioRegisters :=
  match handle, gpioName with
  | none, _ | _, none => (egpioFail, regs)
  | some record, some name =>
    if ifSetToCurrentInputStatus ≠ 0 ∧ gpioStatus.isNone then (egpioFail, regs)
    else if record.realGpioCount = 0 then (egpioFail, regs)
    else
      match record.named name with
      | none => (egpioSuccess, regs)
      | some entry =>
        let scriptGpio :=
          match gpioStatus with
          | some pin =>
            if ifSetToCurrentInputStatus ≠ 0 then pin.status else entry.userGpioStatus
          | none => entry.userGpioStatus
        (egpioSuccess,
          [.func, .pull, .dlevel, .data].foldl (writeAsked bases entry.port entry.portNum scriptGpio)
            regs)

/-- The name and the place of an entry -/
def UserGpioSet.fromEntry (entry : SystemGpioSet) (pin : UserGpioSet) : UserGpioSet :=
  { pin with
    gpioName := asciiStrCpySFrom pin.gpioName sizeofGpioName entry.gpioName
    port := entry.port
    portNum := entry.portNum }

/-- The state that an entry was set up with -/
def UserGpioSet.fromUser (entry : SystemGpioSet) (pin : UserGpioSet) : UserGpioSet :=
  { pin.fromEntry entry with
    mulSel := entry.userGpioStatus.mulSel
    pull := entry.userGpioStatus.pull
    drvLevel := entry.userGpioStatus.drvLevel
    data := entry.userGpioStatus.data }

/-- The state that the registers show, where a reading is given -/
def UserGpioSet.fromHardware (value : GpioReg → U32) (entry : SystemGpioSet) (pin : UserGpioSet) :
    UserGpioSet :=
  { pin.fromEntry entry with
    mulSel := value .func
    pull := value .pull
    drvLevel := value .dlevel
    data := if (value .func).toInt ≤ 1 then value .data else -1 }

/-- Nothing stands for the assertion of `AsciiStrCmp`, which gets a null name from a caller that
gives none for the only pin. -/
def gpioGetOnePinStatus (handle : Option GpioRecord) (gpioStatus : Option UserGpioSet)
    (gpioName : GpioName) (ifGetFromHardware : U32) (regs : GpioRegisters) :
    Option (Int × Option UserGpioSet) :=
  match handle, gpioStatus with
  | none, _ | _, none => some (egpioFail, gpioStatus)
  | some record, some pin =>
    if record.realGpioCount = 0 then some (egpioFail, pin)
    else
      match gpioName with
      | none => if record.realGpioCount > 1 then some (egpioFail, pin) else none
      | some name =>
        match record.named name with
        | none => some (egpioSuccess, pin)
        | some entry =>
          some (egpioSuccess,
            if ifGetFromHardware = 0 then pin.fromUser entry
            else
              pin.fromHardware (fun reg => readField bases entry.port entry.portNum reg regs) entry)

end Status

/-! ### The state of all pins -/

/-- The addresses of a group, and the group of the pin before; 0x7fffffff stands for none. -/
structure GroupAddrs : Type where
  addr : GpioReg → U32
  prePort : U32
  prePortNumFunc : U32
  prePortNumPull : U32

section All

variable (bases : GpioBases)

/-- The addresses for a pin -/
def GroupAddrs.regroup (port portNum : U32) (group : GroupAddrs) : GroupAddrs where
  addr :=
    if portNum >>> 4 ≠ group.prePortNumPull ∨ port ≠ group.prePort then
      groupAddr bases port portNum
    else if group.prePortNumFunc ≠ portNum >>> 3 then
      Function.update group.addr .func (getGroupFuncAddrByPort bases port portNum)
    else group.addr
  prePort := port
  prePortNumFunc := portNum >>> 3
  prePortNumPull := portNum >>> 4

/-- The entries have the places of the pins in the caller's memory. -/
def readAllLoop (regs : GpioRegisters) : Nat → List SystemGpioSet → GroupAddrs →
    (Nat → UserGpioSet) → Nat → UserGpioSet
  | _, [], _, gpioStatus => gpioStatus
  | index, entry :: rest, group, gpioStatus =>
    let group := group.regroup bases entry.port entry.portNum
    readAllLoop regs (index + 1) rest group
      (Function.update gpioStatus index
        ((gpioStatus index).fromHardware
          (fun reg => getField reg entry.portNum (regs (group.addr reg))) entry))

/-- Here an entry without a port is left out only where it comes before all pins. -/
def gpioGetAllPinStatus (handle : Option GpioRecord) (gpioStatus : Option (Nat → UserGpioSet))
    (gpioCountMax : Nat) (ifGetFromHardware : U32) (regs : GpioRegisters) :
    Int × Option (Nat → UserGpioSet) :=
  match handle, gpioStatus with
  | none, _ | _, none => (egpioFail, gpioStatus)
  | some record, some status =>
    if gpioCountMax = 0 then (egpioFail, status)
    else if record.realGpioCount = 0 then (egpioFail, status)
    else
      let entries := record.entries.take gpioCountMax
      if ifGetFromHardware = 0 then
        (egpioSuccess, some fun index =>
          match entries[index]? with
          | some entry => (status index).fromUser entry
          | none => status index)
      else
        let firstPort := entries.findIdx fun entry => entry.port ≠ 0
        match entries.drop firstPort with
        | [] => (0, status)
        | entry :: rest =>
          (egpioSuccess, readAllLoop bases regs firstPort (entry :: rest)
            ⟨groupAddr bases entry.port entry.portNum, 0x7fffffff, 0x7fffffff, 0x7fffffff⟩ status)

end All

/-! ### The addresses that are kept -/

section Addresses

variable {bases : GpioBases} {group : GroupAddrs}

theorem sshiftRight_congr {first second : U32} {count : Nat}
    (same : first >>> count = second >>> count) (small : count < 32) :
    first.sshiftRight count = second.sshiftRight count := by
  have bit : ∀ place, count + place < 32 →
      first.getLsbD (count + place) = second.getLsbD (count + place) := by
    intro place _
    have shifted := congrArg (fun word => word.getLsbD place) same
    simpa only [BitVec.getLsbD_ushiftRight] using shifted
  have sign : first.msb = second.msb := by
    rw [BitVec.msb_eq_getLsbD_last, BitVec.msb_eq_getLsbD_last]
    have last := bit (31 - count) (by omega)
    rwa [Nat.add_sub_of_le (Nat.le_of_lt_succ small)] at last
  ext place inside
  rw [BitVec.getElem_sshiftRight, BitVec.getElem_sshiftRight, sign]
  split
  next before => exact bit place before
  next => rfl

/-- Pins of a port and a group have the same registers, whatever their numbers are. -/
theorem groupAddr_eq_of_group {port first second : U32} {reg : GpioReg}
    (func : reg = .func → first >>> 3 = second >>> 3)
    (pull : reg ≠ .func → first >>> 4 = second >>> 4) :
    groupAddr bases port first reg = groupAddr bases port second reg := by
  cases reg with
  | func =>
    unfold groupAddr getGroupFuncAddrByPort
    simp only [sshiftRight_congr (func rfl) (show 3 < 32 by decide)]
  | pull =>
    unfold groupAddr getGroupPullAddrByPort
    simp only [sshiftRight_congr (pull (by decide)) (show 4 < 32 by decide)]
  | dlevel =>
    unfold groupAddr getGroupDlevelAddrByPort
    simp only [sshiftRight_congr (pull (by decide)) (show 4 < 32 by decide)]
  | data => rfl

/-- The addresses are those of the pin before, if there was one. -/
def GroupAddrs.Right (bases : GpioBases) (group : GroupAddrs) : Prop :=
  group.prePortNumPull = 0x7fffffff ∨ ∃ portNum,
    group.addr = groupAddr bases group.prePort portNum ∧
      group.prePortNumFunc = portNum >>> 3 ∧ group.prePortNumPull = portNum >>> 4

theorem GroupAddrs.Right.addr_regroup (right : group.Right bases) (port portNum : U32) :
    (group.regroup bases port portNum).addr = groupAddr bases port portNum := by
  unfold GroupAddrs.regroup
  dsimp only
  split
  next => rfl
  next same =>
    obtain ⟨samePull, samePort⟩ := not_or.mp same
    replace samePull := not_not.mp samePull
    replace samePort := not_not.mp samePort
    have real : group.prePortNumPull ≠ 0x7fffffff := by
      rw [← samePull]
      intro none
      have shifted := congrArg (fun word => word.getLsbD 30) none
      simp at shifted
    obtain ⟨before, addr, isFunc, isPull⟩ := right.resolve_left real
    rw [← samePort] at addr
    rw [isPull] at samePull
    split
    next =>
      funext reg
      by_cases func : reg = .func
      · rw [func, Function.update_self]
        rfl
      · rw [Function.update_of_ne func, addr]
        exact groupAddr_eq_of_group (fun same => absurd same func) fun _ => samePull.symm
    next sameFunc =>
      rw [isFunc] at sameFunc
      rw [addr]
      funext reg
      exact groupAddr_eq_of_group (fun _ => not_not.mp sameFunc) fun _ => samePull.symm

theorem GroupAddrs.Right.regroup (right : group.Right bases) (port portNum : U32) :
    (group.regroup bases port portNum).Right bases :=
  .inr ⟨portNum, right.addr_regroup port portNum, rfl, rfl⟩

end Addresses

/-! ### All pins and one pin -/

section AllAndOne

variable {bases : GpioBases} {regs : GpioRegisters}

/-- What the registers of an entry's own pin show -/
def UserGpioSet.fromPin (bases : GpioBases) (regs : GpioRegisters) (entry : SystemGpioSet)
    (pin : UserGpioSet) : UserGpioSet :=
  pin.fromHardware
    (fun reg => getField reg entry.portNum (regs (groupAddr bases entry.port entry.portNum reg)))
    entry

/-- Each entry gets the state of its own pin, and what is before or behind them is kept. -/
theorem readAllLoop_eq {group : GroupAddrs} (right : group.Right bases) (index : Nat)
    (entries : List SystemGpioSet) (gpioStatus : Nat → UserGpioSet) (place : Nat) :
    readAllLoop bases regs index entries group gpioStatus place =
      if index ≤ place then
        match entries[place - index]? with
        | some entry => (gpioStatus place).fromPin bases regs entry
        | none => gpioStatus place
      else gpioStatus place := by
  induction entries generalizing index group gpioStatus with
  | nil => exact (ite_self _).symm
  | cons entry rest inductionHypothesis =>
    unfold readAllLoop
    dsimp only
    rw [inductionHypothesis (right.regroup entry.port entry.portNum),
      right.addr_regroup entry.port entry.portNum]
    rcases Nat.lt_trichotomy place index with before | rfl | behind
    · rw [if_neg (by omega), if_neg (by omega), Function.update_of_ne (Nat.ne_of_lt before)]
    · rw [if_neg (by omega), if_pos (Nat.le_refl _), Function.update_self, Nat.sub_self,
        List.getElem?_cons_zero]
      rfl
    · have next : place - index = place - (index + 1) + 1 := by omega
      rw [if_pos (Nat.succ_le_of_lt behind), if_pos (Nat.le_of_lt behind), next, List.getElem?_cons_succ,
        Function.update_of_ne (Nat.ne_of_gt behind)]

/-- The places of the entries are places of a port. -/
def GpioRecord.InPorts (record : GpioRecord) : Prop :=
  ∀ entry ∈ record.entries, entry.port.msb = false ∧ entry.portNum.toNat < 32

/-- The macros have the registers of the functions. -/
theorem pioRegValue_eq {port portNum : U32} (noSign : port.msb = false)
    (inRange : portNum.toNat < 32) (reg : GpioReg) :
    pioRegValue bases port portNum reg regs = regs (groupAddr bases port portNum reg) := by
  have same : port < 12 ↔ port.toInt < 12 := by
    have twelve : (12 : U32).toNat = 12 := rfl
    rw [BitVec.lt_def, BitVec.toInt_eq_toNat_of_msb noSign, twelve]
    omega
  have offset : groupAddr bases port portNum reg = pioReg bases port (pioOffset portNum reg) := by
    cases reg with
    | func =>
      unfold groupAddr getGroupFuncAddrByPort pioOffset
      simp only [sshiftRight_eq inRange]
    | pull =>
      unfold groupAddr getGroupPullAddrByPort pioOffset
      simp only [sshiftRight_eq inRange]
    | dlevel =>
      unfold groupAddr getGroupDlevelAddrByPort pioOffset
      simp only [sshiftRight_eq inRange]
    | data => rfl
  rw [offset]
  unfold pioRegValue pioReg
  by_cases first : port < 12
  · rw [if_pos first, if_pos (same.mp first)]
  · rw [if_neg first, if_neg (mt same.mpr first)]

theorem fromHardware_readField {entry : SystemGpioSet} (noSign : entry.port.msb = false)
    (inRange : entry.portNum.toNat < 32) (pin : UserGpioSet) :
    pin.fromHardware (fun reg => readField bases entry.port entry.portNum reg regs) entry =
      pin.fromPin bases regs entry := by
  unfold UserGpioSet.fromPin readField
  simp only [pioRegValue_eq noSign inRange]

/-- An entry is found by its name if none before it has that name. -/
theorem GpioRecord.named_eq_some {record : GpioRecord} {index : Nat} {name : List U8}
    (inside : index < record.realGpioCount)
    (nameIs : NameIs (record.userGpioSet index).gpioName name)
    (first : ∀ earlier < index, ¬ NameIs (record.userGpioSet earlier).gpioName name) :
    record.named name = some (record.userGpioSet index) := by
  unfold GpioRecord.named GpioRecord.entries
  refine List.find?_eq_some_iff_getElem.mpr ⟨(asciiStrEq_iff _ _).mpr nameIs, index, ?_, ?_, ?_⟩
  · simpa using inside
  · simp
  · intro earlier before
    have notNamed := mt (asciiStrEq_iff _ _).mp (first earlier before)
    simpa using notNamed

/-- The entries that are read -/
theorem getElem?_entries_take (record : GpioRecord) (limit index : Nat) :
    (record.entries.take limit)[index]? =
      if index < record.realGpioCount ∧ index < limit then some (record.userGpioSet index)
      else none := by
  unfold GpioRecord.entries
  by_cases below : index < limit
  · rw [List.getElem?_take_of_lt below, List.getElem?_map]
    by_cases inside : index < record.realGpioCount
    · simp [inside, below]
    · simp [inside]
  · rw [if_neg (fun both => below both.2)]
    exact List.getElem?_eq_none (Nat.le_trans (List.length_take_le _ _) (Nat.le_of_not_lt below))

/-- Whether an entry is read: from the registers, only from the first pin on -/
def GpioRecord.Reads (record : GpioRecord) (gpioCountMax : Nat) (ifGetFromHardware : U32)
    (index : Nat) : Prop :=
  index < record.realGpioCount ∧ index < gpioCountMax ∧
    (ifGetFromHardware = 0 ∨ ∃ earlier ≤ index, (record.userGpioSet earlier).port ≠ 0)

/-- What an entry that is read gets -/
def UserGpioSet.fromSource (bases : GpioBases) (regs : GpioRegisters) (ifGetFromHardware : U32)
    (entry : SystemGpioSet) (pin : UserGpioSet) : UserGpioSet :=
  if ifGetFromHardware = 0 then pin.fromUser entry else pin.fromPin bases regs entry

variable {record : GpioRecord} {gpioCountMax : Nat}

/-- An entry is behind the first pin if it or one before it is a pin. -/
theorem firstPort_le_iff {index : Nat} (inside : index < record.realGpioCount)
    (below : index < gpioCountMax) :
    (record.entries.take gpioCountMax).findIdx (fun entry => entry.port ≠ 0) ≤ index ↔
      ∃ earlier ≤ index, (record.userGpioSet earlier).port ≠ 0 := by
  have inTake : index < (record.entries.take gpioCountMax).length := by
    unfold GpioRecord.entries
    simp [inside, below]
  have entry : ∀ earlier (within : earlier < (record.entries.take gpioCountMax).length),
      (record.entries.take gpioCountMax)[earlier] = record.userGpioSet earlier := by
    intro earlier within
    rw [List.getElem_take]
    simp [GpioRecord.entries]
  rw [← Nat.not_lt, List.lt_findIdx_iff]
  constructor
  · intro notBefore
    by_contra noPin
    refine notBefore ⟨inTake, fun earlier le => ?_⟩
    rw [entry earlier (Nat.lt_of_le_of_lt le inTake)]
    simpa using fun isPort => noPin ⟨earlier, le, isPort⟩
  · rintro ⟨earlier, le, isPort⟩ ⟨_, noPin⟩
    have noPort := noPin earlier le
    rw [entry earlier (Nat.lt_of_le_of_lt le inTake)] at noPort
    exact isPort (by simpa using noPort)

/-- Each entry that is read gets the state of its own pin, and the others are kept. -/
theorem gpioGetAllPinStatus_eq (some : record.realGpioCount ≠ 0) (any : gpioCountMax ≠ 0)
    (gpioStatus : Nat → UserGpioSet) (ifGetFromHardware : U32) :
    ∃ after, gpioGetAllPinStatus bases record gpioStatus gpioCountMax ifGetFromHardware regs =
        (egpioSuccess, .some after) ∧
      ∀ index,
        (record.Reads gpioCountMax ifGetFromHardware index → after index =
          (gpioStatus index).fromSource bases regs ifGetFromHardware (record.userGpioSet index)) ∧
        (¬ record.Reads gpioCountMax ifGetFromHardware index → after index = gpioStatus index) := by
  unfold gpioGetAllPinStatus
  dsimp only
  rw [if_neg any, if_neg some]
  by_cases user : ifGetFromHardware = 0
  · rw [if_pos user]
    refine ⟨_, rfl, fun index => ⟨fun reads => ?_, fun notRead => ?_⟩⟩
    · rw [getElem?_entries_take, if_pos ⟨reads.1, reads.2.1⟩]
      exact (if_pos user).symm
    · rw [getElem?_entries_take, if_neg fun both => notRead ⟨both.1, both.2, .inl user⟩]
  · rw [if_neg user]
    generalize isFirst : (record.entries.take gpioCountMax).findIdx
      (fun entry => entry.port ≠ 0) = firstPort
    have notBefore : ∀ index, ¬ record.Reads gpioCountMax ifGetFromHardware index →
        index < record.realGpioCount → index < gpioCountMax → index < firstPort := by
      intro index notRead inside below
      rw [← isFirst]
      by_contra behind
      have first := (firstPort_le_iff inside below).mp (Nat.le_of_not_lt behind)
      exact notRead ⟨inside, below, .inr first⟩
    have behind : ∀ index, record.Reads gpioCountMax ifGetFromHardware index →
        firstPort ≤ index := by
      rintro index ⟨inside, below, isUser | first⟩
      · exact absurd isUser user
      · rw [← isFirst]
        exact (firstPort_le_iff inside below).mpr first
    have entryAt : ∀ index, firstPort ≤ index →
        ((record.entries.take gpioCountMax).drop firstPort)[index - firstPort]? =
          if index < record.realGpioCount ∧ index < gpioCountMax then
            .some (record.userGpioSet index) else none := by
      intro index le
      rw [List.getElem?_drop, Nat.add_sub_of_le le, getElem?_entries_take]
    cases rest : (record.entries.take gpioCountMax).drop firstPort with
    | nil =>
      refine ⟨_, rfl, fun index => ⟨fun reads => ?_, fun _ => rfl⟩⟩
      have none := entryAt index (behind index reads)
      rw [rest, if_pos ⟨reads.1, reads.2.1⟩] at none
      exact absurd none (by simp)
    | cons entry others =>
      refine ⟨_, rfl, fun index => ?_⟩
      rw [readAllLoop_eq (.inl rfl), ← rest]
      refine ⟨fun reads => ?_, fun notRead => ?_⟩
      · rw [if_pos (behind index reads), entryAt index (behind index reads),
          if_pos ⟨reads.1, reads.2.1⟩]
        exact (if_neg user).symm
      · by_cases le : firstPort ≤ index
        · rw [if_pos le, entryAt index le, if_neg]
          exact fun both => absurd (notBefore index notRead both.1 both.2) (Nat.not_lt_of_le le)
        · rw [if_neg le]

/-- The state of one pin is read from the registers or the record. -/
theorem gpioGetOnePinStatus_eq (some : record.realGpioCount ≠ 0) (inPorts : record.InPorts)
    {name : List U8} {entry : SystemGpioSet} (named : record.named name = .some entry)
    (gpioStatus : UserGpioSet) (ifGetFromHardware : U32) :
    gpioGetOnePinStatus bases record gpioStatus (.some name) ifGetFromHardware regs =
      .some (egpioSuccess, gpioStatus.fromSource bases regs ifGetFromHardware entry) := by
  obtain ⟨noSign, inRange⟩ := inPorts entry (List.mem_of_find?_eq_some named)
  unfold gpioGetOnePinStatus UserGpioSet.fromSource
  dsimp only
  rw [if_neg some, named]
  dsimp only
  rw [fromHardware_readField noSign inRange]
  split <;> rfl

/-- The reading of all pins is the reading of each one by its name: from the record of all, from the
registers of those from the first pin on. -/
theorem gpioGetAllPinStatus_eq_onePin (some : record.realGpioCount ≠ 0) (any : gpioCountMax ≠ 0)
    (inPorts : record.InPorts) (gpioStatus : Nat → UserGpioSet) (ifGetFromHardware : U32) :
    ∃ after, gpioGetAllPinStatus bases record gpioStatus gpioCountMax ifGetFromHardware regs =
        (egpioSuccess, .some after) ∧
      ∀ index,
        (record.Reads gpioCountMax ifGetFromHardware index → ∀ name,
          NameIs (record.userGpioSet index).gpioName name →
          (∀ earlier < index, ¬ NameIs (record.userGpioSet earlier).gpioName name) →
          gpioGetOnePinStatus bases record (gpioStatus index) (.some name) ifGetFromHardware regs =
            .some (egpioSuccess, after index)) ∧
        (¬ record.Reads gpioCountMax ifGetFromHardware index → after index = gpioStatus index) := by
  obtain ⟨after, all, each⟩ :=
    @gpioGetAllPinStatus_eq bases regs record gpioCountMax some any gpioStatus ifGetFromHardware
  refine ⟨after, all, fun index => ⟨fun reads name nameIs first => ?_, (each index).2⟩⟩
  have named := GpioRecord.named_eq_some reads.1 nameIs first
  rw [gpioGetOnePinStatus_eq some inPorts named, (each index).1 reads]

/-- The record of a pin of the card slot and one of the serial port -/
def twoPins : GpioRecord where
  realGpioCount := 2
  userGpioSet := fun index =>
    { SystemGpioSet.zero with
      gpioName := fun place => if place = 0 then (if index = 0 then 0x63 else 0x73) else 0
      port := if index = 0 then 6 else 2
      portNum := if index = 0 then 2 else 0 }

theorem inPorts_twoPins : twoPins.InPorts := by
  intro entry member
  obtain ⟨index, -, rfl⟩ := List.mem_map.mp member
  unfold twoPins
  dsimp only
  split <;> exact ⟨by decide, by decide⟩

/-- What a caller's buffer holds before it is read into -/
def blankPin : UserGpioSet := ⟨fun _ => 0, 0, 0, 0, 0, 0, 0⟩

theorem gpioGetAllPinStatus_eq_twoPins :
    ∃ after, gpioGetAllPinStatus phoneGpio (some twoPins) (some fun _ => blankPin) 5 1
        (fun _ => 0) = (egpioSuccess, some after) ∧
      gpioGetOnePinStatus phoneGpio (some twoPins) (some blankPin) (some [0x73]) 1
        (fun _ => 0) = some (egpioSuccess, some (after 1)) := by
  obtain ⟨after, all, each⟩ := @gpioGetAllPinStatus_eq_onePin phoneGpio (fun _ => 0) twoPins 5
    (by decide) (by decide) inPorts_twoPins (fun _ => blankPin) 1
  have isNamed : NameIs (twoPins.userGpioSet 1).gpioName [0x73] :=
    (asciiStrEq_iff _ _).mp (by decide)
  refine ⟨after, all, (each 1).1 ⟨by decide, by decide, .inr ⟨0, by decide, by decide⟩⟩ [0x73]
    isNamed fun earlier before nameIs => ?_⟩
  obtain rfl : earlier = 0 := by omega
  exact absurd ((asciiStrEq_iff _ _).mpr nameIs) (by decide)

end AllAndOne

end PinePhonePkg
