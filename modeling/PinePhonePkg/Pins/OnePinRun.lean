/-
This file says what the operations on the pins of handles are for: each pin of the
phone has four values of its own, a function, a pull, a drive level and a data bit,
and an operation looks at or changes the values of the one pin that it names.

It proves that sessions of operations on the registers, with changes of the levels
from outside between them, answer as sessions on these values do. So pins that share
registers do not disturb each other, and no other bit is changed. A state that was
read from the registers can be restored later, whatever was done in between.
-/

import Mathlib.Data.List.Forall2
import PinePhonePkg.Library.Sessions
import PinePhonePkg.Pins.OnePin

namespace PinePhonePkg

open Library

/-! ### The pins of the phone -/

/-- A pin of the board -/
structure PhonePin : Type where
  port : U32
  portNum : U32
  isPort : port ≠ 0
  small : port.toNat < 2 ^ 16
  inRange : portNum.toNat < 32
deriving DecidableEq

/-- The four values of each pin -/
abbrev PinValues : Type := PhonePin → GpioReg → U32

namespace PhonePin

/-- A field of the pin -/
def field (pin : PhonePin) (reg : GpioReg) : Field U32 32 :=
  pinField phoneGpio pin.port pin.portNum reg

/-- The entry of a list of pins -/
def entry (pin : PhonePin) : UserGpioSet := ⟨fun _ => 0, pin.port, pin.portNum, 0, 0, 0, 0⟩

/-- Different values have no bit in common. -/
theorem field_apart {pin other : PhonePin} {reg reg' : GpioReg}
    (different : pin = other → reg ≠ reg') : (pin.field reg).Apart (other.field reg') := by
  by_cases same : pin = other
  · subst same
    exact .inl fun address => different rfl (groupAddr_injective pin.inRange address)
  · have pins : PhonePins [pin.entry, other.entry] := by
      intro entry member _
      rcases List.mem_cons.mp member with rfl | member
      · exact ⟨pin.inRange, pin.small⟩
      · obtain rfl := List.mem_singleton.mp member
        exact ⟨other.inRange, other.small⟩
    have distinct : DistinctPins [pin.entry, other.entry] := by
      refine List.pairwise_pair.mpr fun _ _ places => same ?_
      obtain ⟨port, portNum⟩ := Prod.mk.inj places
      cases pin
      cases other
      congr
    have apart := List.pairwise_pair.mp (pins.apart distinct)
    exact apart pin.isPort other.isPort reg reg'

end PhonePin

/-- What the registers hold for the pins -/
def pinValues (regs : GpioRegisters) : PinValues := fun pin reg =>
  getField reg pin.portNum (regs (groupAddr phoneGpio pin.port pin.portNum reg))

/-- A field holds another value. -/
def PinValues.set (values : PinValues) (pin : PhonePin) (reg : GpioReg) (value : U32) : PinValues :=
  Function.update values pin (Function.update (values pin) reg value)

@[simp]
theorem PinValues.set_self (values : PinValues) (pin : PhonePin) (reg : GpioReg) (value : U32) :
    values.set pin reg value pin reg = value := by
  simp [PinValues.set]

theorem PinValues.set_of_ne (values : PinValues) {pin other : PhonePin} {reg reg' : GpioReg}
    (value : U32) (different : other = pin → reg' ≠ reg) :
    values.set pin reg value other reg' = values other reg' := by
  unfold PinValues.set
  by_cases same : other = pin
  · rw [same, Function.update_self, Function.update_of_ne (different same)]
  · rw [Function.update_of_ne same]

/-! ### One value -/

section OneValue

variable {regs : GpioRegisters}

/-- The mask of a field stays whole at its place. -/
theorem fieldMask_shift {portNum : U32} (inRange : portNum.toNat < 32) (reg : GpioReg)
    (value : U32) :
    (value &&& fieldMask reg) <<< fieldShift portNum reg >>> fieldShift portNum reg =
      value &&& fieldMask reg := by
  have place : fieldShift portNum reg + fieldStride reg ≤ 32 := by
    rw [fieldShift_eq inRange]
    cases reg <;> simp only [groupSize, fieldStride] <;> omega
  ext bit inside
  simp only [BitVec.getElem_ushiftRight, BitVec.getLsbD_shiftLeft, BitVec.getElem_and,
    BitVec.getLsbD_and, Nat.add_sub_cancel_left]
  cases isMask : (fieldMask reg).getLsbD bit with
  | false => simp [← BitVec.getLsbD_eq_getElem, isMask]
  | true =>
    have below := getLsbD_fieldMask isMask
    have inWord : fieldShift portNum reg + bit < 32 := by omega
    simp [← BitVec.getLsbD_eq_getElem, isMask, inWord]

/-- The value of a pin is the content of its field. -/
theorem pinValues_eq (regs : GpioRegisters) (pin : PhonePin) (reg : GpioReg) :
    pinValues regs pin reg = (pin.field reg).content regs >>> fieldShift pin.portNum reg := by
  have content := content_getField reg pin.portNum
    (regs (groupAddr phoneGpio pin.port pin.portNum reg))
  unfold PhonePin.field Field.content pinField
  dsimp only
  rw [← content, ← BitVec.shiftLeft_and_distrib, fieldMask_shift pin.inRange]
  unfold pinValues getField
  rw [BitVec.and_assoc, BitVec.and_self]

/-- A value that fits its field -/
def FitsField (reg : GpioReg) (value : U32) : Prop := value &&& fieldMask reg = value

instance (reg : GpioReg) (value : U32) : Decidable (FitsField reg value) :=
  inferInstanceAs (Decidable (_ = _))

theorem writeField_eq_put (pin : PhonePin) {reg : GpioReg} {value : U32}
    (fits : FitsField reg value) (regs : GpioRegisters) :
    writeField phoneGpio pin.port pin.portNum reg value regs =
      (pin.field reg).put (value <<< fieldShift pin.portNum reg) regs := by
  unfold PhonePin.field
  rw [put_pinField]
  unfold writeField setField
  rw [show value &&& fieldMask reg = value from fits]

theorem pinValues_put (pin : PhonePin) (reg : GpioReg) (value : U32) (regs : GpioRegisters) :
    pinValues ((pin.field reg).put (value <<< fieldShift pin.portNum reg) regs) =
      (pinValues regs).set pin reg (value &&& fieldMask reg) := by
  funext other reg'
  rw [pinValues_eq]
  by_cases same : other = pin ∧ reg' = reg
  · obtain ⟨rfl, rfl⟩ := same
    rw [Field.content_put_self, PinValues.set_self]
    unfold PhonePin.field pinField
    dsimp only
    rw [← BitVec.shiftLeft_and_distrib, fieldMask_shift other.inRange]
  · have different : other = pin → reg' ≠ reg := fun isPin isReg => same ⟨isPin, isReg⟩
    rw [Field.content_put_apart _ _ (PhonePin.field_apart different), ← pinValues_eq,
      PinValues.set_of_ne _ _ different]

/-- The bit is one of a pin of the phone. -/
def PinBit (addr : U32) (place : Nat) : Prop :=
  ∃ (pin : PhonePin) (reg : GpioReg), (pin.field reg).Holds addr place

/-- The registers hold the values, and what is not of a pin is as at the start. -/
structure ShowsPins (start regs : GpioRegisters) (values : PinValues) : Prop where
  values : pinValues regs = values
  beside : ∀ addr place, ¬ PinBit addr place →
    (regs addr).getLsbD place = (start addr).getLsbD place

variable {start : GpioRegisters} {values : PinValues}

theorem ShowsPins.put (shows : ShowsPins start regs values) (pin : PhonePin) (reg : GpioReg)
    (value : U32) :
    ShowsPins start ((pin.field reg).put (value <<< fieldShift pin.portNum reg) regs)
      (values.set pin reg (value &&& fieldMask reg)) := by
  refine ⟨?_, fun addr place beside => ?_⟩
  · rw [pinValues_put, shows.values]
  · refine (Field.getLsbD_put _ _ fun holds => beside ?_).trans (shows.beside addr place beside)
    exact ⟨pin, reg, holds⟩

theorem ShowsPins.write (shows : ShowsPins start regs values) (pin : PhonePin) {reg : GpioReg}
    {value : U32} (fits : FitsField reg value) :
    ShowsPins start (writeField phoneGpio pin.port pin.portNum reg value regs)
      (values.set pin reg value) := by
  have put := shows.put pin reg value
  rwa [show value &&& fieldMask reg = value from fits, ← writeField_eq_put pin fits] at put

theorem PhonePin.noSign (pin : PhonePin) : pin.port.msb = false := by
  rw [BitVec.msb_eq_false_iff_two_mul_lt]
  have small := pin.small
  omega

theorem ShowsPins.readField (shows : ShowsPins start regs values) (pin : PhonePin)
    (reg : GpioReg) :
    PinePhonePkg.readField phoneGpio pin.port pin.portNum reg regs = values pin reg := by
  unfold PinePhonePkg.readField
  rw [pioRegValue_eq pin.noSign pin.inRange, ← shows.values]
  rfl

end OneValue

/-! ### Handles -/

/-- A pin of a handle, with the name and the values that were asked for -/
structure NamedPin : Type where
  name : List U8
  noZero : 0 ∉ name
  pin : PhonePin
  user : GpioStatusSet

/-- The entry of the handle is that of the pin with the name. -/
structure Represents (entry : SystemGpioSet) (named : NamedPin) : Prop where
  gpioName : NameIs entry.gpioName named.name
  port : entry.port = named.pin.port
  portNum : entry.portNum = named.pin.portNum
  userGpioStatus : entry.userGpioStatus = named.user

/-- A record of pins of the phone -/
structure PhoneHandle : Type where
  record : GpioRecord
  pins : List NamedPin
  represents : List.Forall₂ Represents record.entries pins

/-- A name has no zero byte. -/
abbrev PinName : Type := {name : List U8 // 0 ∉ name}

section Handles

variable {Entry Named : Type} {related : Entry → Named → Prop}

/-- Lists whose elements are related find related elements. -/
theorem find?_related {first : Entry → Bool} {second : Named → Bool} {entries : List Entry}
    {pins : List Named} (all : List.Forall₂ related entries pins)
    (same : ∀ entry named, related entry named → first entry = second named) :
    Option.Rel related (entries.find? first) (pins.find? second) := by
  induction all with
  | nil => exact .none
  | @cons entry named entries pins one rest inductionHypothesis =>
    have agree := same entry named one
    cases found : second named with
    | true =>
      rw [List.find?_cons_of_pos (agree.trans found), List.find?_cons_of_pos found]
      exact .some one
    | false =>
      rw [List.find?_cons_of_neg (by simp [agree, found]), List.find?_cons_of_neg (by simp [found])]
      exact inductionHypothesis

/-- The pin with a name -/
def PhoneHandle.find (handle : PhoneHandle) (gpioName : PinName) : Option NamedPin :=
  handle.pins.find? fun named => named.name = gpioName.val

/-- The only pin, or the one with the name -/
def PhoneHandle.lookup (handle : PhoneHandle) (gpioName : Option PinName) : Option NamedPin :=
  match handle.pins with
  | [] => none
  | [only] => some only
  | _ => gpioName.bind handle.find

variable (handle : PhoneHandle)

theorem PhoneHandle.named (gpioName : PinName) :
    Option.Rel Represents (handle.record.named gpioName.val) (handle.find gpioName) := by
  refine find?_related handle.represents fun entry named represents => ?_
  refine Bool.eq_iff_iff.mpr ((asciiStrEq_iff _ _).trans ?_)
  rw [decide_eq_true_eq]
  constructor
  · exact fun nameIs => represents.gpioName.unique nameIs named.noZero gpioName.property
  · exact fun same => same ▸ represents.gpioName

theorem PhoneHandle.realGpioCount : handle.record.realGpioCount = handle.pins.length := by
  have same := handle.represents.length_eq
  unfold GpioRecord.entries at same
  simpa using same

theorem PhoneHandle.select (gpioName : Option PinName) :
    Option.Rel Represents (handle.record.select (gpioName.map Subtype.val))
      (handle.lookup gpioName) := by
  have count := handle.realGpioCount
  have represents := handle.represents
  unfold GpioRecord.select PhoneHandle.lookup
  cases pins : handle.pins with
  | nil =>
    rw [pins] at count
    have none : handle.record.realGpioCount = 0 := count
    rw [if_pos none]
    exact .none
  | cons first rest =>
    cases rest with
    | nil =>
      rw [pins] at count represents
      have one : handle.record.realGpioCount = 1 := count
      unfold GpioRecord.entries at represents
      rw [one] at represents
      rw [one, if_neg (by decide), if_pos rfl]
      exact .some (List.forall₂_cons.mp represents).1
    | cons second others =>
      rw [pins] at count
      have several : handle.record.realGpioCount = others.length + 1 + 1 := count
      rw [if_neg (by omega), if_neg (by omega)]
      cases gpioName with
      | none => exact .none
      | some name => exact handle.named name

end Handles

/-! ### Operations -/

/-- An operation of a driver, or another level of a pin -/
inductive PinCall : Type where
  | setStatus (handle : Option PhoneHandle) (gpioStatus : Option UserGpioSet)
      (gpioName : Option PinName) (ifSetToCurrentInputStatus : U32)
  | setIoStatus (handle : Option PhoneHandle) (ifSetToOutputStatus : U32)
      (gpioName : Option PinName)
  | setPull (handle : Option PhoneHandle) (setPullStatus : U32) (gpioName : Option PinName)
  | setDriverLevel (handle : Option PhoneHandle) (setDriverLevel : U32) (gpioName : Option PinName)
  | readValue (handle : Option PhoneHandle) (gpioName : Option PinName)
  | writeValue (handle : Option PhoneHandle) (valueToGpio : U32) (gpioName : Option PinName)
  | getStatus (handle : Option PhoneHandle) (gpioStatus : Option UserGpioSet)
      (gpioName : Option PinName) (ifGetFromHardware : U32)
  | level (pin : PhonePin) (high : Bool)

/-- What a caller sees of a state -/
structure ShownPin : Type where
  port : U32
  portNum : U32
  status : GpioStatusSet

/-- The pin with what is asked of it -/
def UserGpioSet.shown (pin : UserGpioSet) : ShownPin := ⟨pin.port, pin.portNum, pin.status⟩

/-- What comes back from a call -/
inductive PinReply : Type where
  | value (status : Int)
  | state (result : Option (Int × Option ShownPin))
  | nothing

/-- An operation on the registers. The level of an output does not come from outside. -/
def pinStep (regs : GpioRegisters) : PinCall → PinReply × GpioRegisters
  | .setStatus handle gpioStatus gpioName flag =>
    let result := gpioSetOnePinStatus phoneGpio (handle.map PhoneHandle.record) gpioStatus
      (gpioName.map Subtype.val) flag regs
    (.value result.1, result.2)
  | .setIoStatus handle status gpioName =>
    let result := gpioSetOnePinIoStatus phoneGpio (handle.map PhoneHandle.record) status
      (gpioName.map Subtype.val) regs
    (.value result.1, result.2)
  | .setPull handle status gpioName =>
    let result := gpioSetOnePinPull phoneGpio (handle.map PhoneHandle.record) status
      (gpioName.map Subtype.val) regs
    (.value result.1, result.2)
  | .setDriverLevel handle level gpioName =>
    let result := gpioSetOnePinDriverLevel phoneGpio (handle.map PhoneHandle.record) level
      (gpioName.map Subtype.val) regs
    (.value result.1, result.2)
  | .readValue handle gpioName =>
    (.value (gpioReadOnePinValue phoneGpio (handle.map PhoneHandle.record)
      (gpioName.map Subtype.val) regs), regs)
  | .writeValue handle value gpioName =>
    let result := gpioWriteOnePinValue phoneGpio (handle.map PhoneHandle.record) value
      (gpioName.map Subtype.val) regs
    (.value result.1, result.2)
  | .getStatus handle gpioStatus gpioName flag =>
    let result := gpioGetOnePinStatus phoneGpio (handle.map PhoneHandle.record) gpioStatus
      (gpioName.map Subtype.val) flag regs
    (.state (result.map fun result => (result.1, result.2.map UserGpioSet.shown)), regs)
  | .level pin high =>
    (.nothing,
      if pinValues regs pin .func = 1 then regs
      else
        (pin.field .data).put ((if high then (1 : U32) else 0) <<< fieldShift pin.portNum .data)
          regs)

namespace PinValues

variable (values : PinValues)

/-- A value of the pin that is named is set. -/
def setOne (reg : GpioReg) (refused : Bool) (handle : Option PhoneHandle) (value : U32)
    (gpioName : Option PinName) : PinReply × PinValues :=
  match refused, handle.bind fun handle => handle.lookup gpioName with
  | false, some named => (.value egpioSuccess, values.set named.pin reg value)
  | _, _ => (.value egpioFail, values)

/-- The level of an input -/
def readOne (handle : Option PhoneHandle) (gpioName : Option PinName) : Int :=
  match handle.bind fun handle => handle.lookup gpioName with
  | some named =>
    if values named.pin .func = 0 then (values named.pin .data).toInt else egpioFail
  | none => egpioFail

/-- The level of an output -/
def writeOne (handle : Option PhoneHandle) (valueToGpio : U32) (gpioName : Option PinName) :
    PinReply × PinValues :=
  match handle.bind fun handle => handle.lookup gpioName with
  | some named =>
    if valueToGpio < 2 ∧ values named.pin .func = 1 then
      (.value egpioSuccess, values.set named.pin .data valueToGpio)
    else (.value egpioFail, values)
  | none => (.value egpioFail, values)

/-- The values of a state that ask for something -/
def setAsked (pin : PhonePin) (status : GpioStatusSet) (values : PinValues) (reg : GpioReg) :
    PinValues :=
  match status.asks reg with
  | some value => values.set pin reg value
  | none => values

/-- What `gpio_set_one_pin_status` does to the values -/
def setStatus (handle : Option PhoneHandle) (gpioStatus : Option GpioStatusSet)
    (gpioName : Option PinName) (given : Bool) : PinReply × PinValues :=
  match handle, gpioName with
  | none, _ | _, none => (.value egpioFail, values)
  | some handle, some name =>
    if given ∧ gpioStatus.isNone ∨ handle.pins = [] then (.value egpioFail, values)
    else
      (.value egpioSuccess,
        match handle.find name with
        | none => values
        | some named =>
          [.func, .pull, .dlevel, .data].foldl
            (setAsked named.pin (if given then gpioStatus.getD named.user else named.user)) values)

/-- The values of a pin; only an input or an output has data. -/
def status (pin : PhonePin) : GpioStatusSet :=
  ⟨values pin .func, values pin .pull, values pin .dlevel,
    if (values pin .func).toInt ≤ 1 then values pin .data else -1⟩

/-- What `gpio_get_one_pin_status` reads of the values -/
def getStatus (handle : Option PhoneHandle) (gpioStatus : Option ShownPin)
    (gpioName : Option PinName) (hardware : Bool) : Option (Int × Option ShownPin) :=
  match handle, gpioStatus with
  | none, _ | _, none => some (egpioFail, gpioStatus)
  | some handle, some shown =>
    if handle.pins = [] then some (egpioFail, shown)
    else
      match gpioName with
      | none => if handle.pins.length > 1 then some (egpioFail, shown) else none
      | some name =>
        match handle.find name with
        | none => some (egpioSuccess, shown)
        | some named =>
          some (egpioSuccess, some ⟨named.pin.port, named.pin.portNum,
            if hardware then values.status named.pin else named.user⟩)

/-- The same operations on the values of the pins -/
def step : PinCall → PinReply × PinValues
  | .setStatus handle gpioStatus gpioName flag =>
    values.setStatus handle (gpioStatus.map UserGpioSet.status) gpioName (flag ≠ 0)
  | .setIoStatus handle status gpioName =>
    values.setOne .func (status > 1) handle status gpioName
  | .setPull handle status gpioName => values.setOne .pull (status ≥ 4) handle status gpioName
  | .setDriverLevel handle level gpioName =>
    values.setOne .dlevel (level ≥ 4) handle level gpioName
  | .readValue handle gpioName => (.value (values.readOne handle gpioName), values)
  | .writeValue handle value gpioName => values.writeOne handle value gpioName
  | .getStatus handle gpioStatus gpioName flag =>
    (.state (values.getStatus handle (gpioStatus.map UserGpioSet.shown) gpioName (flag ≠ 0)),
      values)
  | .level pin high =>
    (.nothing,
      if values pin .func = 1 then values else values.set pin .data (if high then 1 else 0))

end PinValues

/-! ### Each operation -/

theorem fitsField_of_lt {reg : GpioReg} {value : U32} {count : Nat}
    (mask : fieldMask reg = BitVec.ofNat 32 (2 ^ count - 1)) (small : count < 32)
    (below : value.toNat < 2 ^ count) : FitsField reg value := by
  have few : 2 ^ count < 2 ^ 32 := Nat.pow_lt_pow_right (by decide) small
  refine BitVec.eq_of_toNat_eq ?_
  rw [mask, BitVec.toNat_and, BitVec.toNat_ofNat, Nat.mod_eq_of_lt (by omega),
    Nat.and_two_pow_sub_one_eq_mod, Nat.mod_eq_of_lt below]

/-- What is asked for fits the fields. -/
def GpioStatusSet.Fits (status : GpioStatusSet) : Prop :=
  ∀ reg value, status.asks reg = some value → FitsField reg value

/-- The states that a setting may use fit the fields: the caller's, or those of the handle. The
setting of a state does not check that as the settings of one value do, and does not cut them. -/
def PinCall.Fits : PinCall → Prop
  | .setStatus handle gpioStatus _ ifSetToCurrentInputStatus =>
    if ifSetToCurrentInputStatus ≠ 0 then ∀ pin ∈ gpioStatus, pin.status.Fits
    else ∀ handle' ∈ handle, ∀ named ∈ handle'.pins, named.user.Fits
  | _ => True

/-- An operation answers as the one on the values does, and the registers hold the new values. -/
structure Answers (start : GpioRegisters) (result : PinReply × GpioRegisters)
    (model : PinReply × PinValues) : Prop where
  reply : result.1 = model.1
  shows : ShowsPins start result.2 model.2

section Operations

variable {start regs : GpioRegisters} {values : PinValues} (shows : ShowsPins start regs values)
include shows

theorem answers_setOne {reg : GpioReg} {refused : U32 → Bool} (handle : Option PhoneHandle)
    (value : U32) (gpioName : Option PinName) (fits : refused value = false → FitsField reg value) :
    Answers start
      (.value (setOnePinField phoneGpio reg refused (handle.map PhoneHandle.record) value
          (gpioName.map Subtype.val) regs).1,
        (setOnePinField phoneGpio reg refused (handle.map PhoneHandle.record) value
          (gpioName.map Subtype.val) regs).2)
      (values.setOne reg (refused value) handle value gpioName) := by
  unfold setOnePinField PinValues.setOne
  cases handle with
  | none => cases refused value <;> exact ⟨rfl, shows⟩
  | some handle =>
    dsimp only [Option.map_some, Option.bind_some]
    cases isRefused : refused value with
    | true => exact ⟨rfl, shows⟩
    | false =>
      have select := handle.select gpioName
      generalize handle.record.select (gpioName.map Subtype.val) = selected at select
      generalize handle.lookup gpioName = found at select
      cases select with
      | none => exact ⟨rfl, shows⟩
      | @some entry named represents =>
        refine ⟨rfl, ?_⟩
        dsimp only
        rw [represents.port, represents.portNum]
        exact shows.write named.pin (fits isRefused)

theorem readOne_eq (handle : Option PhoneHandle) (gpioName : Option PinName) :
    gpioReadOnePinValue phoneGpio (handle.map PhoneHandle.record) (gpioName.map Subtype.val) regs =
      values.readOne handle gpioName := by
  unfold gpioReadOnePinValue PinValues.readOne
  cases handle with
  | none => rfl
  | some handle =>
    dsimp only [Option.map_some, Option.bind_some]
    have select := handle.select gpioName
    generalize handle.record.select (gpioName.map Subtype.val) = selected at select
    generalize handle.lookup gpioName = found at select
    cases select with
    | none => rfl
    | @some entry named represents =>
      dsimp only
      rw [represents.port, represents.portNum, shows.readField, shows.readField]

theorem answers_writeOne (handle : Option PhoneHandle) (value : U32)
    (gpioName : Option PinName) :
    Answers start
      (.value (gpioWriteOnePinValue phoneGpio (handle.map PhoneHandle.record) value
          (gpioName.map Subtype.val) regs).1,
        (gpioWriteOnePinValue phoneGpio (handle.map PhoneHandle.record) value
          (gpioName.map Subtype.val) regs).2)
      (values.writeOne handle value gpioName) := by
  unfold gpioWriteOnePinValue PinValues.writeOne
  cases handle with
  | none => exact ⟨rfl, shows⟩
  | some handle =>
    dsimp only [Option.map_some, Option.bind_some]
    have select := handle.select gpioName
    generalize handle.record.select (gpioName.map Subtype.val) = selected at select
    generalize handle.lookup gpioName = found at select
    cases select with
    | none => split <;> exact ⟨rfl, shows⟩
    | @some entry named represents =>
      dsimp only
      rw [represents.port, represents.portNum, shows.readField]
      by_cases large : value ≥ 2
      · rw [if_pos large, if_neg fun both => absurd both.1 (BitVec.not_lt.mpr large)]
        exact ⟨rfl, shows⟩
      · have small : value < 2 := BitVec.not_le.mp large
        rw [if_neg large]
        by_cases output : values named.pin .func = 1
        · rw [if_pos output, if_pos ⟨small, output⟩]
          have two : (2 : U32).toNat = 2 := rfl
          have below : value.toNat < 2 ^ 1 := two ▸ BitVec.lt_def.mp small
          exact ⟨rfl, shows.write named.pin (fitsField_of_lt (by decide) (by decide) below)⟩
        · rw [if_neg output, if_neg fun both => output both.2]
          exact ⟨rfl, shows⟩

theorem ShowsPins.writeAsked (pin : PhonePin) {status : GpioStatusSet} (fits : status.Fits)
    (reg : GpioReg) :
    ShowsPins start (PinePhonePkg.writeAsked phoneGpio pin.port pin.portNum status regs reg)
      (PinValues.setAsked pin status values reg) := by
  unfold PinePhonePkg.writeAsked PinValues.setAsked
  cases asks : status.asks reg with
  | none => exact shows
  | some value => exact shows.write pin (fits reg value asks)

theorem ShowsPins.writeAll (pin : PhonePin) {status : GpioStatusSet} (fits : status.Fits)
    (kinds : List GpioReg) :
    ShowsPins start
      (kinds.foldl (PinePhonePkg.writeAsked phoneGpio pin.port pin.portNum status) regs)
      (kinds.foldl (PinValues.setAsked pin status) values) := by
  induction kinds generalizing regs values with
  | nil => exact shows
  | cons reg rest inductionHypothesis =>
    exact inductionHypothesis (shows.writeAsked pin fits reg)

theorem answers_setStatus {handle : Option PhoneHandle} {gpioStatus : Option UserGpioSet}
    {gpioName : Option PinName} {flag : U32}
    (fits : (PinCall.setStatus handle gpioStatus gpioName flag).Fits) :
    Answers start
      (.value (gpioSetOnePinStatus phoneGpio (handle.map PhoneHandle.record) gpioStatus
          (gpioName.map Subtype.val) flag regs).1,
        (gpioSetOnePinStatus phoneGpio (handle.map PhoneHandle.record) gpioStatus
          (gpioName.map Subtype.val) flag regs).2)
      (values.setStatus handle (gpioStatus.map UserGpioSet.status) gpioName (flag ≠ 0)) := by
  unfold PinCall.Fits at fits
  dsimp only at fits
  unfold gpioSetOnePinStatus PinValues.setStatus
  cases handle with
  | none => exact ⟨rfl, shows⟩
  | some handle =>
    cases gpioName with
    | none => exact ⟨rfl, shows⟩
    | some name =>
      dsimp only [Option.map_some]
      have empty : handle.pins = [] ↔ handle.record.realGpioCount = 0 := by
        rw [handle.realGpioCount, List.length_eq_zero_iff]
      simp only [Option.isNone_map, decide_eq_true_eq]
      by_cases refused : flag ≠ 0 ∧ gpioStatus.isNone
      · rw [if_pos refused, if_pos (.inl refused)]
        exact ⟨rfl, shows⟩
      · rw [if_neg refused]
        by_cases none : handle.pins = []
        · rw [if_pos (empty.mp none), if_pos (.inr none)]
          exact ⟨rfl, shows⟩
        · rw [if_neg (mt empty.mpr none), if_neg (not_or.mpr ⟨refused, none⟩)]
          have named := handle.named name
          generalize handle.record.named name.val = selected at named
          cases found : handle.find name with
          | none =>
            rw [found] at named
            cases named
            exact ⟨rfl, shows⟩
          | some pin =>
            rw [found] at named
            cases named with
            | @some entry _ represents =>
              have inPins : pin ∈ handle.pins := List.mem_of_find?_eq_some found
              refine ⟨rfl, ?_⟩
              dsimp only
              rw [represents.port, represents.portNum, represents.userGpioStatus]
              by_cases given : flag = 0
              · rw [if_neg (not_not.mpr given)] at fits
                have user := fits handle rfl pin inPins
                simp only [given, ne_eq, not_true_eq_false, ↓reduceIte]
                cases gpioStatus <;> exact shows.writeAll pin.pin user _
              · rw [if_pos given] at fits
                cases gpioStatus with
                | none => exact absurd ⟨given, rfl⟩ refused
                | some status =>
                  simp only [given, ne_eq, not_false_eq_true, ↓reduceIte]
                  exact shows.writeAll pin.pin (fits status rfl) _

theorem getStatus_eq (handle : Option PhoneHandle) (gpioStatus : Option UserGpioSet)
    (gpioName : Option PinName) (flag : U32) :
    (gpioGetOnePinStatus phoneGpio (handle.map PhoneHandle.record) gpioStatus
        (gpioName.map Subtype.val) flag regs).map
        (fun result => (result.1, result.2.map UserGpioSet.shown)) =
      values.getStatus handle (gpioStatus.map UserGpioSet.shown) gpioName (flag ≠ 0) := by
  unfold gpioGetOnePinStatus PinValues.getStatus
  cases handle with
  | none => rfl
  | some handle =>
    cases gpioStatus with
    | none => rfl
    | some status =>
      dsimp only [Option.map_some]
      have count := handle.realGpioCount
      have empty : handle.pins = [] ↔ handle.record.realGpioCount = 0 := by
        rw [count, List.length_eq_zero_iff]
      by_cases none : handle.pins = []
      · rw [if_pos (empty.mp none), if_pos none]
        rfl
      · rw [if_neg (mt empty.mpr none), if_neg none]
        cases gpioName with
        | none =>
          dsimp only [Option.map_none]
          rw [count]
          split <;> rfl
        | some name =>
          dsimp only [Option.map_some]
          have named := handle.named name
          generalize handle.record.named name.val = selected at named
          generalize handle.find name = found at named
          cases named with
          | none => rfl
          | @some entry named represents =>
            by_cases hardware : flag = 0
            · simp only [hardware, ↓reduceIte, ne_eq, not_true_eq_false, decide_false,
                Option.map_some, Bool.false_eq_true]
              unfold UserGpioSet.shown UserGpioSet.fromUser UserGpioSet.fromEntry UserGpioSet.status
              simp only [represents.port, represents.portNum, represents.userGpioStatus]
            · simp only [hardware, ↓reduceIte, ne_eq, not_false_eq_true, decide_true,
                Option.map_some, represents.port, represents.portNum, shows.readField]
              unfold UserGpioSet.shown UserGpioSet.fromHardware UserGpioSet.fromEntry
                UserGpioSet.status PinValues.status
              simp only [represents.port, represents.portNum]

theorem answers_pinStep {call : PinCall} (fits : call.Fits) :
    Answers start (pinStep regs call) (values.step call) := by
  have four : (4 : U32).toNat = 4 := rfl
  cases call with
  | setStatus handle gpioStatus gpioName flag => exact answers_setStatus shows fits
  | setIoStatus handle status gpioName =>
    refine answers_setOne shows handle status gpioName fun allowed => ?_
    have one : (1 : U32).toNat = 1 := rfl
    have below := BitVec.le_def.mp (BitVec.not_lt.mp (of_decide_eq_false allowed))
    exact @fitsField_of_lt .func status 3 (by decide) (by decide) (by omega)
  | setPull handle status gpioName =>
    refine answers_setOne shows handle status gpioName fun allowed => ?_
    have below := BitVec.lt_def.mp (BitVec.not_le.mp (of_decide_eq_false allowed))
    exact @fitsField_of_lt .pull status 2 (by decide) (by decide) (by omega)
  | setDriverLevel handle level gpioName =>
    refine answers_setOne shows handle level gpioName fun allowed => ?_
    have below := BitVec.lt_def.mp (BitVec.not_le.mp (of_decide_eq_false allowed))
    exact @fitsField_of_lt .dlevel level 2 (by decide) (by decide) (by omega)
  | readValue handle gpioName =>
    exact ⟨congrArg PinReply.value (readOne_eq shows handle gpioName), shows⟩
  | writeValue handle value gpioName => exact answers_writeOne shows handle value gpioName
  | getStatus handle gpioStatus gpioName flag =>
    exact ⟨congrArg PinReply.state (getStatus_eq shows handle gpioStatus gpioName flag), shows⟩
  | level pin high =>
    refine ⟨rfl, ?_⟩
    unfold pinStep PinValues.step
    dsimp only
    rw [shows.values]
    split
    · exact shows
    · have level := shows.put pin .data (if high then 1 else 0)
      have fits : (if high then 1 else 0) &&& fieldMask .data = (if high then 1 else 0 : U32) := by
        cases high <;> decide
      rwa [fits] at level

end Operations

/-- Sessions on the registers answer as sessions on the values of the pins, the registers hold the
values at the end, and no bit is changed that is not of a pin. -/
theorem session_pinStep (regs : GpioRegisters) {calls : List PinCall}
    (fits : ∀ call ∈ calls, call.Fits) :
    (session pinStep regs calls).1 = (session PinValues.step (pinValues regs) calls).1 ∧
      pinValues (session pinStep regs calls).2 =
        (session PinValues.step (pinValues regs) calls).2 ∧
      ∀ addr place, ¬ PinBit addr place →
        ((session pinStep regs calls).2 addr).getLsbD place = (regs addr).getLsbD place := by
  have start : ShowsPins regs regs (pinValues regs) := ⟨rfl, fun _ _ _ => rfl⟩
  obtain ⟨replies, shows⟩ :=
    @session_refines _ _ _ pinStep _ PinValues.step (ShowsPins regs) PinCall.Fits
      (fun state values call shows fits => ⟨(answers_pinStep shows fits).reply,
        (answers_pinStep shows fits).shows⟩) regs (pinValues regs) start calls fits
  exact ⟨replies, shows.values, shows.beside⟩

/-- A handle of one pin, the power switch of the card slot -/
def switchPin : PhonePin := ⟨6, 2, by decide, by decide, by decide⟩

/-- A handle with one pin that has no name -/
def switchHandle : PhoneHandle where
  record := ⟨1, fun _ => { SystemGpioSet.zero with port := 6, portNum := 2 }⟩
  pins := [⟨[], by decide, switchPin, ⟨0, 0, 0, 0⟩⟩]
  represents := by
    refine .cons ⟨⟨fun index inside => absurd inside (Nat.not_lt_zero index), rfl⟩, rfl, rfl, rfl⟩ ?_
    exact .nil

/-- No name at all, as the switch has it -/
def switchName : PinName := ⟨[], List.not_mem_nil⟩

/-- The state of an output that is high, pulled down and at the highest level -/
def switchOutput : UserGpioSet := ⟨fun _ => 0, 6, 2, 1, 2, 3, 1⟩

/-- The switch is set with a state of the caller, read, set with the state of its handle, and read
again. -/
theorem session_pinStep_switch :
    (session pinStep (fun _ => 0)
        [.setStatus switchHandle switchOutput switchName 1,
          .getStatus switchHandle switchOutput switchName 1, .setStatus switchHandle none switchName 0,
          .setIoStatus switchHandle 1 none, .writeValue switchHandle 0 none,
          .readValue switchHandle none]).1 =
      [.value egpioSuccess, .state (some (egpioSuccess, some ⟨6, 2, ⟨1, 2, 3, 1⟩⟩)),
        .value egpioSuccess, .value egpioSuccess, .value egpioSuccess, .value egpioFail] := by
  have output : switchOutput.status.Fits := by
    intro reg value asked
    cases reg <;> (obtain rfl := Option.some.inj asked; decide)
  have input : (⟨0, 0, 0, 0⟩ : GpioStatusSet).Fits := by
    intro reg value asked
    cases reg with
    | data =>
      have none : (⟨0, 0, 0, 0⟩ : GpioStatusSet).asks .data = none := rfl
      exact absurd (asked.symm.trans none) (Option.some_ne_none value)
    | func | pull | dlevel => obtain rfl := Option.some.inj asked; decide
  refine (session_pinStep (fun _ => 0) fun call member => ?_).1.trans rfl
  simp only [List.mem_cons, List.not_mem_nil, or_false] at member
  obtain rfl | rfl | rfl | rfl | rfl | rfl := member
  · rintro _ ⟨⟩
    exact output
  · exact trivial
  · rintro _ ⟨⟩ named member
    obtain rfl := List.mem_singleton.mp member
    exact input
  · exact trivial
  · exact trivial
  · exact trivial

/-! ### A state that was read -/

section Restore

variable {handle : PhoneHandle} {name : PinName} {named : NamedPin}

theorem fitsField_pinValues (regs : GpioRegisters) (pin : PhonePin) (reg : GpioReg) :
    FitsField reg (pinValues regs pin reg) := by
  unfold FitsField pinValues getField
  rw [BitVec.and_assoc, BitVec.and_self]

theorem toInt_pinValues (regs : GpioRegisters) (pin : PhonePin) (reg : GpioReg) :
    0 ≤ (pinValues regs pin reg).toInt := by
  have small : (pinValues regs pin reg).toNat ≤ 7 := by
    unfold pinValues getField
    rw [BitVec.toNat_and]
    refine Nat.le_trans Nat.and_le_right ?_
    cases reg <;> decide
  rw [BitVec.toInt_eq_toNat_of_lt (by omega)]
  exact Int.natCast_nonneg _

/-- What is asked for with the values of a pin: all of them, the data if it is an output. -/
theorem asks_status (regs : GpioRegisters) (pin : PhonePin) (reg : GpioReg) :
    ((pinValues regs).status pin).asks reg =
      if reg = .data ∧ pinValues regs pin .func ≠ 1 then none
      else some (pinValues regs pin reg) := by
  unfold GpioStatusSet.asks PinValues.status
  cases reg with
  | func => simp [toInt_pinValues]
  | pull => simp [toInt_pinValues]
  | dlevel => simp [toInt_pinValues]
  | data =>
    dsimp only
    by_cases output : pinValues regs pin .func = 1
    · have one : (pinValues regs pin .func).toInt ≤ 1 := by
        rw [output]
        decide
      have data : pinValues regs pin .data &&& 1 = pinValues regs pin .data :=
        fitsField_pinValues regs pin .data
      rw [if_pos one, if_pos ⟨output, toInt_pinValues regs pin .data⟩, data,
        if_neg fun both => both.2 output]
    · rw [if_neg fun both => output both.1, if_pos ⟨rfl, output⟩]

/-- What a pin holds fits its fields. -/
theorem fits_status (regs : GpioRegisters) (pin : PhonePin) :
    ((pinValues regs).status pin).Fits := by
  intro reg value asks
  rw [asks_status] at asks
  split at asks
  · exact absurd asks (Option.some_ne_none value).symm
  · exact Option.some.inj asks ▸ fitsField_pinValues regs pin reg

/-- The values of one pin are set as they were read. -/
theorem setAsked_status (before : GpioRegisters) (pin : PhonePin) (values : PinValues)
    (other : PhonePin) (reg : GpioReg) :
    [.func, .pull, .dlevel, .data].foldl
        (PinValues.setAsked pin ((pinValues before).status pin)) values other reg =
      if other = pin ∧ (reg = .data → pinValues before other .func = 1) then
        pinValues before other reg
      else values other reg := by
  simp only [List.foldl_cons, List.foldl_nil, PinValues.setAsked, asks_status]
  by_cases isPin : other = pin
  · subst isPin
    by_cases output : pinValues before other .func = 1#32 <;> cases reg <;>
      simp [PinValues.set, output]
  · by_cases output : pinValues before pin .func = 1#32 <;> simp [PinValues.set, output, isPin]

theorem PhoneHandle.pins_ne_nil (found : handle.find name = some named) : handle.pins ≠ [] :=
  List.ne_nil_of_mem (List.mem_of_find?_eq_some found)

/-- The state of a pin is read from its values. -/
theorem gpioGetOnePinStatus_found (found : handle.find name = some named) (regs : GpioRegisters)
    (gpioStatus : UserGpioSet) :
    ∃ saved, gpioGetOnePinStatus phoneGpio (some handle.record) (some gpioStatus) (some name.val) 1
        regs = some (egpioSuccess, some saved) ∧
      saved.status = (pinValues regs).status named.pin := by
  have shows : ShowsPins regs regs (pinValues regs) := ⟨rfl, fun _ _ _ => rfl⟩
  have got := getStatus_eq shows (some handle) (some gpioStatus) (some name) 1
  unfold PinValues.getStatus at got
  simp only [Option.map_some] at got
  rw [if_neg (PhoneHandle.pins_ne_nil found), found] at got
  obtain ⟨⟨status, result⟩, isResult, same⟩ := Option.map_eq_some_iff.mp got
  obtain ⟨isSuccess, isShown⟩ := Prod.mk.inj same
  obtain ⟨saved, isSaved, shown⟩ := Option.map_eq_some_iff.mp isShown
  refine ⟨saved, ?_, congrArg ShownPin.status shown⟩
  rw [isResult]
  dsimp only at isSuccess isSaved
  rw [isSuccess, isSaved]

/-- A state that was read from the registers is restored when it is set, whatever the registers have
become: the pin's function, pull and drive level, and its data if it was an output. Nothing else is
changed. -/
theorem gpioSetOnePinStatus_restores (found : handle.find name = some named)
    (before later : GpioRegisters) (gpioStatus : UserGpioSet) :
    ∃ saved, gpioGetOnePinStatus phoneGpio (some handle.record) (some gpioStatus) (some name.val) 1
        before = some (egpioSuccess, some saved) ∧
      (gpioSetOnePinStatus phoneGpio (some handle.record) (some saved) (some name.val) 1
        later).1 = egpioSuccess ∧
      (∀ pin reg, pinValues (gpioSetOnePinStatus phoneGpio (some handle.record) (some saved)
          (some name.val) 1 later).2 pin reg =
        if pin = named.pin ∧ (reg = .data → pinValues before pin .func = 1) then
          pinValues before pin reg
        else pinValues later pin reg) ∧
      ∀ addr place, ¬ PinBit addr place →
        ((gpioSetOnePinStatus phoneGpio (some handle.record) (some saved) (some name.val) 1
          later).2 addr).getLsbD place = (later addr).getLsbD place := by
  obtain ⟨saved, got, isSaved⟩ := gpioGetOnePinStatus_found found before gpioStatus
  have start : ShowsPins later later (pinValues later) := ⟨rfl, fun _ _ _ => rfl⟩
  have fits : (PinCall.setStatus handle saved name 1).Fits := by
    intro pin member
    obtain rfl := Option.some.inj member
    exact isSaved ▸ fits_status before named.pin
  obtain ⟨reply, shows⟩ := answers_setStatus start fits
  unfold PinValues.setStatus at reply shows
  dsimp only [Option.map_some] at reply shows
  have accepted : ¬ (decide ((1 : U32) ≠ 0) = true ∧ (some saved.status).isNone = true ∨
      handle.pins = []) :=
    not_or.mpr ⟨fun both => absurd both.2 (by simp), PhoneHandle.pins_ne_nil found⟩
  rw [if_neg accepted] at reply shows
  rw [found] at shows
  refine ⟨saved, got, PinReply.value.inj reply, fun pin reg => ?_, shows.beside⟩
  refine (congrFun (congrFun shows.values pin) reg).trans ?_
  dsimp only [Option.getD_some]
  rw [if_pos (by decide), isSaved, setAsked_status]

theorem gpioSetOnePinStatus_restores_switch :
    ∃ saved, gpioGetOnePinStatus phoneGpio (some switchHandle.record)
        (some (UserGpioSet.mk (fun _ => 0) 0 0 0 0 0 0)) (some []) 1 (fun _ => 0xffffffff) =
        some (egpioSuccess, some saved) ∧
      pinValues (gpioSetOnePinStatus phoneGpio (some switchHandle.record) (some saved) (some []) 1
        (fun _ => 0)).2 switchPin .pull = 3 := by
  obtain ⟨saved, got, -, restored, -⟩ := @gpioSetOnePinStatus_restores switchHandle ⟨[], by decide⟩
    _ rfl (fun _ => 0xffffffff) (fun _ => 0) (UserGpioSet.mk (fun _ => 0) 0 0 0 0 0 0)
  refine ⟨saved, got, (restored switchPin .pull).trans ?_⟩
  rw [if_pos ⟨rfl, fun isData => absurd isData (by decide)⟩]
  decide

end Restore

end PinePhonePkg
