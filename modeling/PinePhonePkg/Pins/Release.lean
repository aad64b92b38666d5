/-
This file models the release of pins to what they had before the request. The
functions of the pins are cleared, and the pulls and drive levels are written back
from the record, also those that were never saved and are zero there.

It proves when a request and a release right after it leave the pulls and the
drive levels as they were.
-/

import PinePhonePkg.Pins.Record

namespace PinePhonePkg

open Library

/-! ### The release -/

/-- The registers that the release keeps -/
inductive ReleaseReg : Type where
  | func
  | pull
  | dlevel
deriving DecidableEq

/-- One of all registers -/
def ReleaseReg.gpioReg : ReleaseReg → GpioReg
  | .func => .func
  | .pull => .pull
  | .dlevel => .dlevel

theorem ReleaseReg.gpioReg_injective : Function.Injective ReleaseReg.gpioReg := by
  intro reg other same
  cases reg <;> cases other <;> first | rfl | exact absurd same (by decide)

/-- What a pin gets: function 0, and what was saved. -/
def SystemGpioSet.released (entry : SystemGpioSet) : ReleaseReg → U32
  | .func => 0
  | .pull => entry.hardwareGpioStatus.pull
  | .dlevel => entry.hardwareGpioStatus.drvLevel

/-- The entries of the record -/
def GpioRecord.entries (record : GpioRecord) : List SystemGpioSet :=
  (List.range record.realGpioCount).map record.userGpioSet

def egpioFail : Int := -1

def egpioSuccess : Int := 0

/-- The value that is returned, whether the record was freed, and the registers -/
structure ReleaseResult : Type where
  status : Int
  freed : Bool
  regs : GpioRegisters

section Release

variable (bases : GpioBases)

/-- What another group makes be written: with another port or pull group, all that is kept -/
def releaseRegroup (entry : SystemGpioSet) (group : GroupState ReleaseReg) :
    GroupState ReleaseReg :=
  group.regroup bases ReleaseReg.gpioReg entry.port entry.portNum .func
    (WriteBack.storeAll [.func, .pull, .dlevel]) (WriteBack.store .func)

/-- Here an entry without a port is not left out. -/
def releaseEntry (group : GroupState ReleaseReg) (entry : SystemGpioSet) :
    GroupState ReleaseReg :=
  [.func, .pull, .dlevel].foldl
    (fun group reg => group.setField ReleaseReg.gpioReg entry.portNum reg (entry.released reg))
    (releaseRegroup bases entry group)

/-- What has changed is written in the end. -/
def releaseEnd (group : GroupState ReleaseReg) : GpioRegisters :=
  WriteBack.memory
    ([.func, .pull, .dlevel].foldl
      (fun pins reg => if (pins.kept reg).addr ≠ 0 then pins.store reg else pins) group.pins)

/-- Gives the pins of a handle back: function 0 and what was saved, unless they are to stay. -/
def gpioRelease (handle : Option GpioRecord) (ifReleaseToDefaultStatus : Int)
    (regs : GpioRegisters) : ReleaseResult :=
  match handle with
  | none => ⟨egpioFail, false, regs⟩
  | some record =>
    if record.realGpioCount = 0 then ⟨egpioFail, false, regs⟩
    else if ifReleaseToDefaultStatus = 2 then ⟨egpioSuccess, true, regs⟩
    else
      match record.entries.dropWhile fun entry => entry.port = 0 with
      | [] => ⟨egpioSuccess, false, regs⟩
      | entry :: rest =>
        ⟨egpioSuccess, true, releaseEnd ((entry :: rest).foldl (releaseEntry bases)
          (.start bases ReleaseReg.gpioReg entry.port entry.portNum regs))⟩

end Release

/-! ### One entry after the other -/

/-- The fields of an entry and what they get -/
def SystemGpioSet.releaseFields (bases : GpioBases) (entry : SystemGpioSet) :
    List (Field U32 32 × U32) :=
  [ReleaseReg.func, .pull, .dlevel].map fun reg =>
    (pinField bases entry.port entry.portNum reg.gpioReg,
      entry.released reg <<< fieldShift entry.portNum reg.gpioReg)

/-- An entry of the record is a pin. -/
structure SystemGpioSet.Mapped (bases : GpioBases) (entry : SystemGpioSet) : Prop where
  inRange : entry.portNum.toNat < 32
  notNull : ∀ reg, groupAddr bases entry.port entry.portNum reg ≠ 0

section Run

variable {bases : GpioBases} {target : GpioRegisters} {group : GroupState ReleaseReg}

theorem invariant_releaseEntry {entry : SystemGpioSet} (mapped : entry.Mapped bases)
    (invariant : group.Invariant bases ReleaseReg.gpioReg target) :
    (releaseEntry bases group entry).Invariant bases ReleaseReg.gpioReg
      (Field.putAll (entry.releaseFields bases) target) := by
  obtain ⟨shows, written⟩ := invariant.shows.storeAll [.func, .pull, .dlevel]
  have all : ∀ reg, (WriteBack.storeAll [.func, .pull, .dlevel] group.pins).Written reg := by
    intro reg
    refine written reg (.inr ?_)
    cases reg <;> decide
  have grouped : (releaseRegroup bases entry group).Grouped bases ReleaseReg.gpioReg entry.port
      entry.portNum target :=
    invariant.regroup ReleaseReg.gpioReg_injective rfl ⟨shows, all⟩ mapped.inRange
  have set := ((grouped.setField .func (entry.released .func)).setField .pull
    (entry.released .pull)).setField .dlevel (entry.released .dlevel)
  exact set.invariant mapped.inRange mapped.notNull

theorem invariant_releaseEntries (entries : List SystemGpioSet)
    (mapped : ∀ entry ∈ entries, entry.Mapped bases)
    (invariant : group.Invariant bases ReleaseReg.gpioReg target) :
    (entries.foldl (releaseEntry bases) group).Invariant bases ReleaseReg.gpioReg
      (Field.putAll (entries.flatMap (SystemGpioSet.releaseFields bases)) target) := by
  induction entries generalizing group target with
  | nil => exact invariant
  | cons entry rest inductionHypothesis =>
    rw [List.flatMap_cons]
    unfold Field.putAll
    rw [List.foldl_append]
    exact inductionHypothesis (fun other member => mapped other (List.mem_cons_of_mem _ member))
      (invariant_releaseEntry (mapped entry List.mem_cons_self) invariant)

theorem releaseEnd_eq (invariant : group.Invariant bases ReleaseReg.gpioReg target) :
    releaseEnd group = target := by
  obtain ⟨shows, written⟩ := invariant.shows.storeAll [.func, .pull, .dlevel]
  have stored : releaseEnd group =
      (WriteBack.storeAll [.func, .pull, .dlevel] group.pins).memory := by
    have pull : ((group.pins.store .func).kept .pull).addr ≠ 0 := invariant.notNull .pull
    have dlevel : (((group.pins.store .func).store .pull).kept .dlevel).addr ≠ 0 :=
      invariant.notNull .dlevel
    unfold releaseEnd WriteBack.storeAll
    simp only [List.foldl_cons, List.foldl_nil]
    rw [if_pos (invariant.notNull .func), if_pos pull, if_pos dlevel]
  rw [stored]
  refine shows.memory_eq fun reg => written reg (.inr ?_)
  cases reg <;> decide

/-- Where the record has only pins, the registers are those with their fields set one after the
other. -/
theorem regs_gpioRelease {record : GpioRecord} (some : record.realGpioCount ≠ 0)
    (isPort : ∀ entry ∈ record.entries, entry.port ≠ 0)
    (mapped : ∀ entry ∈ record.entries, entry.Mapped bases) (regs : GpioRegisters) :
    (gpioRelease bases (.some record) 1 regs).regs =
      Field.putAll (record.entries.flatMap (SystemGpioSet.releaseFields bases)) regs := by
  unfold gpioRelease
  dsimp only
  rw [if_neg some, if_neg (by decide)]
  cases entries : record.entries with
  | nil =>
    have none := congrArg List.length entries
    unfold GpioRecord.entries at none
    rw [List.length_map, List.length_range] at none
    exact absurd none some
  | cons entry rest =>
    have notDropped : (entry :: rest).dropWhile (fun entry => entry.port = 0) = entry :: rest :=
      List.dropWhile_cons_of_neg (by simpa using isPort entry (entries ▸ List.mem_cons_self))
    rw [notDropped]
    have isMapped := mapped entry (entries ▸ List.mem_cons_self)
    exact releaseEnd_eq (invariant_releaseEntries (entry :: rest)
      (fun other member => mapped other (entries ▸ member))
      (GroupState.invariant_start ReleaseReg.gpioReg_injective isMapped.inRange isMapped.notNull))

end Run

/-! ### Request and release -/

section Restore

variable {bases : GpioBases} {regs : GpioRegisters} {list : List UserGpioSet}
  {record : GpioRecord}

/-- What a request saved where no pin comes after an empty entry -/
structure Recorded (bases : GpioBases) (regs : GpioRegisters) (list : List UserGpioSet)
    (record : GpioRecord) : Prop where
  some : record.realGpioCount ≠ 0
  entry : ∀ place < record.realGpioCount, ∃ pin, list[place]? = .some pin ∧ pin.port ≠ 0 ∧
    record.userGpioSet place =
      SystemGpioSet.zero.savePin bases ((list.take place).foldl (setPin bases) regs) pin
  place : ∀ pin ∈ list, pin.port ≠ 0 → ∃ place < record.realGpioCount, list[place]? = .some pin

theorem recorded_gpioRequest {rest : List UserGpioSet} {pin : UserGpioSet}
    (behind : Nat → SystemGpioSet) (mapped : PinsMapped bases list) (pinsFirst : PinsFirst list)
    (first : list.drop (firstPort list) = pin :: rest) :
    ∃ record, (gpioRequest bases (.some behind) list regs).1 = .some record ∧
      Recorded bases regs list record := by
  obtain ⟨record, same, count, entries⟩ := gpioRequest_record behind regs mapped first
  have below := pinsFirst_iff.mp pinsFirst
  have inList : pin ∈ list := List.mem_of_mem_drop (first ▸ List.mem_cons_self)
  refine ⟨record, same, ?_, fun place inside => ?_, fun other member isPort => ?_⟩
  · rw [count]
    exact Nat.pos_iff_ne_zero.mp
      (List.countP_pos_iff.mpr ⟨pin, inList, decide_eq_true (port_of_drop first)⟩)
  · have inFilter : place < (list.filter fun pin => pin.port ≠ 0).length := by
      rw [← List.countP_eq_length_filter, ← count]
      exact inside
    obtain ⟨found, isPort⟩ := (pinsFirst.getElem?_iff place _).mpr
      (List.getElem?_eq_getElem inFilter)
    refine ⟨_, found, isPort, (entries place).trans ?_⟩
    have empty : emptyRecord behind list place = SystemGpioSet.zero := if_pos (count ▸ inside)
    unfold recordAt
    rw [found, empty]
    exact if_neg isPort
  · obtain ⟨place, found⟩ := List.mem_iff_getElem?.mp member
    exact ⟨place, count ▸ below place other found isPort, found⟩

/-- The entries are pins of the list. -/
theorem Recorded.of_mem (recorded : Recorded bases regs list record) {entry : SystemGpioSet}
    (member : entry ∈ record.entries) :
    ∃ pin ∈ list, pin.port ≠ 0 ∧ entry.port = pin.port ∧ entry.portNum = pin.portNum := by
  obtain ⟨place, inRange, rfl⟩ := List.mem_map.mp member
  obtain ⟨pin, found, isPort, same⟩ := recorded.entry place (List.mem_range.mp inRange)
  refine ⟨pin, List.mem_of_getElem? found, isPort, ?_⟩
  rw [same]
  exact ⟨(user_savePin _).2.1, (user_savePin _).2.2.1⟩

theorem Recorded.regs_gpioRelease (recorded : Recorded bases regs list record)
    (mapped : PinsMapped bases list) (after : GpioRegisters) :
    (gpioRelease bases (.some record) 1 after).regs =
      Field.putAll (record.entries.flatMap (SystemGpioSet.releaseFields bases)) after := by
  refine PinePhonePkg.regs_gpioRelease recorded.some (fun entry member => ?_)
    (fun entry member => ?_) after
  · obtain ⟨pin, -, isPort, port, -⟩ := recorded.of_mem member
    exact port ▸ isPort
  · obtain ⟨pin, inList, isPort, port, portNum⟩ := recorded.of_mem member
    obtain ⟨inRange, notNull⟩ := mapped pin inList isPort
    exact ⟨portNum ▸ inRange, port ▸ portNum ▸ notNull⟩

/-- The fields that are released are those of different pins. -/
theorem Recorded.pairwise (recorded : Recorded bases regs list record)
    (mapped : PinsMapped bases list) (apart : ApartPins bases list) :
    (record.entries.flatMap (SystemGpioSet.releaseFields bases)).Pairwise
      fun entry next => entry.1.Apart next.1 := by
  refine List.pairwise_flatMap.mpr ⟨fun entry member => ?_, ?_⟩
  · obtain ⟨pin, inList, isPort, port, portNum⟩ := recorded.of_mem member
    refine List.pairwise_map.mpr (List.Pairwise.imp ?_ (by decide :
      [ReleaseReg.func, .pull, .dlevel].Pairwise fun reg other => reg ≠ other))
    intro reg other different
    refine .inl fun same => different (ReleaseReg.gpioReg_injective ?_)
    exact groupAddr_injective (portNum ▸ (mapped pin inList isPort).inRange) same
  · refine List.pairwise_map.mpr (List.Pairwise.imp_of_mem ?_ List.pairwise_lt_range)
    intro first second inFirst inSecond before one isOne other isOther
    obtain ⟨pin, found, isPort, same⟩ := recorded.entry first (List.mem_range.mp inFirst)
    obtain ⟨pin', found', isPort', same'⟩ := recorded.entry second (List.mem_range.mp inSecond)
    obtain ⟨reg, -, rfl⟩ := List.mem_map.mp isOne
    obtain ⟨reg', -, rfl⟩ := List.mem_map.mp isOther
    obtain ⟨inList, isPin⟩ := List.getElem?_eq_some_iff.mp found
    obtain ⟨inList', isPin'⟩ := List.getElem?_eq_some_iff.mp found'
    have fields := List.pairwise_iff_getElem.mp apart first second inList inList' before
      (isPin ▸ isPort) (isPin' ▸ isPort') reg.gpioReg reg'.gpioReg
    rw [isPin, isPin'] at fields
    rw [same, same', (user_savePin _).2.1, (user_savePin _).2.2.1, (user_savePin _).2.1,
      (user_savePin _).2.2.1]
    exact fields

/-- What is written back is what was saved, or zero. -/
theorem released_savePin (pin : UserGpioSet) {reg : ReleaseReg} (notFunc : reg ≠ .func) :
    (SystemGpioSet.zero.savePin bases regs pin).released reg =
      if (pin.asks reg.gpioReg).isSome then
        getField reg.gpioReg pin.portNum (regs (groupAddr bases pin.port pin.portNum reg.gpioReg))
      else 0 := by
  cases reg with
  | func => exact absurd rfl notFunc
  | pull => exact saved_savePin SystemGpioSet.zero (show GpioReg.pull ≠ .data by decide)
  | dlevel => exact saved_savePin SystemGpioSet.zero (show GpioReg.dlevel ≠ .data by decide)

/-- A field that the pin asked for has what it had; one that it did not ask for is zero. -/
theorem Recorded.content (recorded : Recorded bases regs list record)
    (mapped : PinsMapped bases list) (apart : ApartPins bases list) {pin : UserGpioSet}
    (member : pin ∈ list) (isPort : pin.port ≠ 0) {reg : ReleaseReg} (notFunc : reg ≠ .func)
    (after : GpioRegisters) :
    (pinField bases pin.port pin.portNum reg.gpioReg).content
        (gpioRelease bases (.some record) 1 after).regs =
      if (pin.asks reg.gpioReg).isSome then
        (pinField bases pin.port pin.portNum reg.gpioReg).content regs
      else 0 := by
  obtain ⟨place, inside, found⟩ := recorded.place pin member isPort
  obtain ⟨pin', found', -, same⟩ := recorded.entry place inside
  obtain rfl : pin = pin' := Option.some.inj (found.symm.trans found')
  rw [recorded.regs_gpioRelease mapped]
  have inEntries : record.userGpioSet place ∈ record.entries :=
    List.mem_map.mpr ⟨place, List.mem_range.mpr inside, rfl⟩
  have field : (pinField bases pin.port pin.portNum reg.gpioReg,
      (record.userGpioSet place).released reg <<< fieldShift pin.portNum reg.gpioReg) ∈
      record.entries.flatMap (SystemGpioSet.releaseFields bases) := by
    refine List.mem_flatMap.mpr ⟨_, inEntries, List.mem_map.mpr ⟨reg, ?_, ?_⟩⟩
    · cases reg <;> decide
    · rw [same, (user_savePin _).2.1, (user_savePin _).2.2.1]
  rw [Field.content_putAll_of_mem _ (recorded.pairwise mapped apart) field, same,
    released_savePin pin notFunc]
  split
  · have before : (pinField bases pin.port pin.portNum reg.gpioReg).content
        ((list.take place).foldl (setPin bases) regs) =
        (pinField bases pin.port pin.portNum reg.gpioReg).content regs := by
      refine content_pinByPin fun other inTake isPort' reg' => ?_
      obtain ⟨index, found''⟩ := List.mem_iff_getElem?.mp inTake
      obtain ⟨inList, isPin⟩ := List.getElem?_eq_some_iff.mp found
      rw [List.getElem?_take] at found''
      split at found''
      next earlier =>
        obtain ⟨inList', isPin'⟩ := List.getElem?_eq_some_iff.mp found''
        have fields := List.pairwise_iff_getElem.mp apart index place inList' inList earlier
          (isPin' ▸ isPort') (isPin ▸ isPort) reg' reg.gpioReg
        rw [isPin, isPin'] at fields
        exact fields.symm
      next => exact absurd found'' (by simp)
    exact (content_getField _ _ _).trans before
  · simp

theorem Recorded.getLsbD (recorded : Recorded bases regs list record)
    (mapped : PinsMapped bases list) {addr : U32} {place : Nat}
    (beside : ¬ ListedBit bases list addr place) (after : GpioRegisters) :
    ((gpioRelease bases (.some record) 1 after).regs addr).getLsbD place =
      (after addr).getLsbD place := by
  rw [recorded.regs_gpioRelease mapped]
  refine Field.getLsbD_putAll _ fun field member holds => beside ?_
  obtain ⟨entry, inEntries, isField⟩ := List.mem_flatMap.mp member
  obtain ⟨reg, -, rfl⟩ := List.mem_map.mp isField
  obtain ⟨pin, inList, isPort, port, portNum⟩ := recorded.of_mem inEntries
  refine ⟨pin, inList, isPort, reg.gpioReg, ?_⟩
  rw [← port, ← portNum]
  exact holds

end Restore

/-! ### The handle -/

/-- The pulls and drive levels of the pins, and all that is not theirs, are as they were. -/
def Restores (list : List UserGpioSet) (regs after : GpioRegisters) : Prop :=
  (∀ pin ∈ list, pin.port ≠ 0 → ∀ reg, reg = .pull ∨ reg = .dlevel →
    (pinField phoneGpio pin.port pin.portNum reg).content after =
      (pinField phoneGpio pin.port pin.portNum reg).content regs) ∧
  ∀ addr place, ¬ ListedBit phoneGpio list addr place →
    (after addr).getLsbD place = (regs addr).getLsbD place

/-- The record is written inside and has the pins, and different pins are restored by a release
right after the request. -/
def HandleRight (list : List UserGpioSet) (regs : GpioRegisters) : Prop :=
  ∀ behind,
    RecordRight list behind (gpioRequest phoneGpio (some behind) list regs).1 ∧
    (DistinctPins list → Restores list regs
      (gpioRelease phoneGpio (gpioRequest phoneGpio (some behind) list regs).1 1
        (gpioRequest phoneGpio (some behind) list regs).2).regs)

section Handle

variable {list : List UserGpioSet} (regs : GpioRegisters)

/-- A pull or drive level that the pin did not ask for was zero. -/
def SavesEnough (list : List UserGpioSet) (regs : GpioRegisters) : Prop :=
  ∀ pin ∈ list, pin.port ≠ 0 → ∀ reg, reg = .pull ∨ reg = .dlevel →
    (pin.asks reg).isSome ∨ (pinField phoneGpio pin.port pin.portNum reg).content regs = 0

theorem restores_iff (behind : Nat → SystemGpioSet) (pins : PhonePins list)
    (pinsFirst : PinsFirst list) (distinct : DistinctPins list) :
    Restores list regs
        (gpioRelease phoneGpio (gpioRequest phoneGpio (some behind) list regs).1 1
          (gpioRequest phoneGpio (some behind) list regs).2).regs ↔
      SavesEnough list regs := by
  cases first : list.drop (firstPort list) with
  | nil =>
    rw [(gpioRequest_of_no_pin phoneGpio behind regs first).1]
    refine ⟨fun _ pin member isPort => ?_, fun _ => ⟨fun _ _ _ _ _ => rfl, fun _ _ _ => rfl⟩⟩
    exact absurd (firstPort_eq_length first pin member) isPort
  | cons pin rest =>
    have saved : ∃ record, (gpioRequest phoneGpio (some behind) list regs).1 = some record ∧
        Recorded phoneGpio regs list record :=
      recorded_gpioRequest behind pins.mapped pinsFirst first
    obtain ⟨record, same, recorded⟩ := saved
    rw [same, gpioRequest_regs behind regs pins.mapped]
    have apart := pins.apart distinct
    have isReleased : ∀ reg : GpioReg, reg = .pull ∨ reg = .dlevel →
        ∃ kept : ReleaseReg, kept ≠ .func ∧ kept.gpioReg = reg := by
      rintro reg (rfl | rfl)
      · exact ⟨.pull, by decide, rfl⟩
      · exact ⟨.dlevel, by decide, rfl⟩
    constructor
    · intro restores pin member isPort reg isReg
      obtain ⟨kept, notFunc, rfl⟩ := isReleased reg isReg
      have field := restores.1 pin member isPort kept.gpioReg isReg
      rw [recorded.content pins.mapped apart member isPort notFunc] at field
      split at field
      next asks => exact .inl asks
      next => exact .inr field.symm
    · intro enough
      refine ⟨fun pin member isPort reg isReg => ?_, fun addr place beside => ?_⟩
      · obtain ⟨kept, notFunc, rfl⟩ := isReleased reg isReg
        rw [recorded.content pins.mapped apart member isPort notFunc]
        split
        next => rfl
        next notAsked =>
          exact ((enough pin member isPort _ isReg).resolve_left notAsked).symm
      · rw [recorded.getLsbD pins.mapped beside]
        exact getLsbD_pinByPin list beside

/-- The handle is safe and the release restores the pins exactly if no pin comes after an empty
entry and, where the pins are different, a pull or drive level that a pin leaves alone was zero. -/
theorem handleRight_iff (pins : PhonePins list) :
    HandleRight list regs ↔
      PinsFirst list ∧ (DistinctPins list → SavesEnough list regs) := by
  constructor
  · intro right
    have pinsFirst := (recordRight_iff pins.mapped regs).mp fun behind => (right behind).1
    refine ⟨pinsFirst, fun distinct => ?_⟩
    exact (restores_iff regs (fun _ => SystemGpioSet.zero) pins pinsFirst distinct).mp
      ((right _).2 distinct)
  · rintro ⟨pinsFirst, enough⟩ behind
    refine ⟨(recordRight_iff pins.mapped regs).mpr pinsFirst behind, fun distinct => ?_⟩
    exact (restores_iff regs behind pins pinsFirst distinct).mpr (enough distinct)

/-- Two pins of the card slot that ask for a pull and a drive level -/
def cardPins : List UserGpioSet :=
  [⟨fun _ => 0, 6, 0, 2, 1, 1, -1⟩, ⟨fun _ => 0, 6, 1, 2, 1, 1, -1⟩]

theorem handleRight_iff_cardPins : HandleRight cardPins fun _ => 0xffffffff := by
  have pins : PhonePins cardPins := by
    intro pin member _
    rcases List.mem_cons.mp member with rfl | member
    · exact ⟨by decide, by decide⟩
    · obtain rfl := List.mem_singleton.mp member
      exact ⟨by decide, by decide⟩
  refine (handleRight_iff _ pins).mpr ⟨?_, fun _ pin member _ reg isReg => .inl ?_⟩
  · unfold PinsFirst
    decide
  · rcases List.mem_cons.mp member with rfl | member
    · rcases isReg with rfl | rfl <;> decide
    · obtain rfl := List.mem_singleton.mp member
      rcases isReg with rfl | rfl <;> decide

/-- The second pin of the serial port is saved behind the record of two. -/
theorem not_handleRight_serial : ¬ HandleRight serialPins fun _ => 0 := by
  intro right
  have pinsFirst := (recordRight_iff serialPins_mapped fun _ => 0).mp fun behind => (right behind).1
  unfold PinsFirst at pinsFirst
  revert pinsFirst
  decide

end Handle

end PinePhonePkg
