/-
This file gives what the request and the release of pins have in common: the words
of a group of pins are kept, and written back and read anew when a pin of another
group comes.
-/

import PinePhonePkg.Library.WriteBack
import PinePhonePkg.Pins.Registers

namespace PinePhonePkg

open Library

/-- The words of a group, and the group of the pin before; 0x7fffffff stands for none. -/
structure GroupState (Key : Type) : Type where
  pins : WriteBack Key U32 U32
  prePort : U32
  prePortNumFunc : U32
  prePortNumPull : U32

namespace GroupState

section Operations

variable {Key : Type} (bases : GpioBases) (reg : Key → GpioReg) (port portNum : U32)

/-- The words of the first group -/
def start (regs : GpioRegisters) : GroupState Key where
  pins := {
    memory := regs
    kept := fun key =>
      { addr := groupAddr bases port portNum (reg key)
        data := regs (groupAddr bases port portNum (reg key))
        change := false } }
  prePort := 0x7fffffff
  prePortNumFunc := 0x7fffffff
  prePortNumPull := 0x7fffffff

variable [DecidableEq Key] (func : Key)
  (writeAll writeFunc : WriteBack Key U32 U32 → WriteBack Key U32 U32)

/-- The words of the pin's group are kept from here on. Another port or pull group is another group
altogether; else only the function register may be another one. -/
def regroup (state : GroupState Key) : GroupState Key where
  pins :=
    if portNum >>> 4 ≠ state.prePortNumPull ∨ port ≠ state.prePort then
      (writeAll state.pins).loadAll fun key => groupAddr bases port portNum (reg key)
    else if state.prePortNumFunc ≠ portNum >>> 3 then
      (writeFunc state.pins).load func (getGroupFuncAddrByPort bases port portNum)
    else state.pins
  prePort := port
  prePortNumFunc := portNum >>> 3
  prePortNumPull := portNum >>> 4

/-- A field of the pin is changed in the word that is kept. -/
def setField (key : Key) (value : U32) (state : GroupState Key) : GroupState Key :=
  { state with pins := state.pins.set key (PinePhonePkg.setField (reg key) portNum value) }

end Operations

/-! ### What is kept -/

variable {Key : Type}

/-- The words that are kept are those of one group, the one of the pin before, and the registers
with them are those that are to be reached. -/
structure Invariant (bases : GpioBases) (reg : Key → GpioReg) (target : GpioRegisters)
    (state : GroupState Key) : Prop where
  shows : state.pins.Shows target
  notNull : ∀ key, (state.pins.kept key).addr ≠ 0
  group : ∃ port portNum, portNum.toNat < 32 ∧
    (∀ key, (state.pins.kept key).addr = groupAddr bases port portNum (reg key)) ∧
    (state.prePortNumPull = 0x7fffffff ∨ state.prePort = port ∧
      state.prePortNumFunc = portNum >>> 3 ∧ state.prePortNumPull = portNum >>> 4)

/-- The same with the group of a pin -/
structure Grouped (bases : GpioBases) (reg : Key → GpioReg) (port portNum : U32)
    (target : GpioRegisters) (state : GroupState Key) : Prop where
  shows : state.pins.Shows target
  addr : ∀ key, (state.pins.kept key).addr = groupAddr bases port portNum (reg key)
  prePort : state.prePort = port
  prePortNumFunc : state.prePortNumFunc = portNum >>> 3
  prePortNumPull : state.prePortNumPull = portNum >>> 4

variable {bases : GpioBases} {reg : Key → GpioReg} {port portNum : U32} {target : GpioRegisters}
  {state : GroupState Key}

theorem Grouped.invariant (grouped : Grouped bases reg port portNum target state)
    (inRange : portNum.toNat < 32) (notNull : ∀ kind, groupAddr bases port portNum kind ≠ 0) :
    Invariant bases reg target state := by
  refine ⟨grouped.shows, fun key => ?_, port, portNum, inRange, grouped.addr,
    .inr ⟨grouped.prePort, grouped.prePortNumFunc, grouped.prePortNumPull⟩⟩
  rw [grouped.addr key]
  exact notNull (reg key)

variable (injective : Function.Injective reg)
include injective

theorem invariant_start {regs : GpioRegisters} (inRange : portNum.toNat < 32)
    (notNull : ∀ kind, groupAddr bases port portNum kind ≠ 0) :
    Invariant bases reg regs (start bases reg port portNum regs) := by
  refine ⟨⟨fun key other same => ?_, fun _ => rfl, fun _ _ => rfl, fun _ _ => rfl⟩,
    fun key => notNull (reg key), port, portNum, inRange, fun _ => rfl, .inl rfl⟩
  exact injective (groupAddr_injective inRange same)

variable [DecidableEq Key] {func : Key} (isFunc : reg func = .func)
include isFunc

/-- The words of the pin's group are kept, and nothing is lost. -/
theorem Invariant.regroup {writeAll : WriteBack Key U32 U32 → WriteBack Key U32 U32}
    (writes : (writeAll state.pins).Shows target ∧ ∀ key, (writeAll state.pins).Written key)
    (invariant : Invariant bases reg target state) (inRange : portNum.toNat < 32) :
    Grouped bases reg port portNum target
      (state.regroup bases reg port portNum func writeAll (WriteBack.store func)) := by
  obtain ⟨shows, -, port', portNum', inRange', addr, before⟩ := invariant
  have apart : ∀ key other, groupAddr bases port portNum (reg key) =
      groupAddr bases port portNum (reg other) → key = other :=
    fun _ _ same => injective (groupAddr_injective inRange same)
  suffices kept : (state.regroup bases reg port portNum func writeAll
      (WriteBack.store func)).pins.Shows target ∧
      ∀ key, ((state.regroup bases reg port portNum func writeAll
        (WriteBack.store func)).pins.kept key).addr = groupAddr bases port portNum (reg key) from
    ⟨kept.1, kept.2, rfl, rfl, rfl⟩
  unfold GroupState.regroup
  dsimp only
  split
  next => exact ⟨writes.1.loadAll writes.2 apart, fun _ => rfl⟩
  next sameGroup =>
    obtain ⟨samePull, samePort⟩ := not_or.mp sameGroup
    replace samePull := not_not.mp samePull
    replace samePort := not_not.mp samePort
    have real : state.prePortNumPull ≠ 0x7fffffff := by
      rw [← samePull]
      intro none
      have shifted := congrArg BitVec.toNat none
      have mark : (0x7fffffff : U32).toNat = 0x7fffffff := rfl
      rw [BitVec.toNat_ushiftRight, Nat.shiftRight_eq_div_pow, mark] at shifted
      omega
    obtain ⟨isPort, isFuncGroup, isPull⟩ := before.resolve_left real
    have port'' : port' = port := isPort.symm.trans samePort.symm
    have others : ∀ key, key ≠ func → (state.pins.kept key).addr =
        groupAddr bases port portNum (reg key) := by
      intro key other
      have notFunc : reg key ≠ .func := fun same => other (injective (same.trans isFunc.symm))
      rw [addr key, port'']
      exact groupAddr_congr inRange' inRange (fun same => absurd same notFunc)
        fun _ => isPull.symm.trans samePull.symm
    split
    next =>
      have address : groupAddr bases port portNum (reg func) =
          getGroupFuncAddrByPort bases port portNum := by
        rw [isFunc]
        rfl
      refine ⟨(shows.store func).load (WriteBack.written_store func) fun key other same => ?_,
        fun key => ?_⟩
      · exact other (apart _ _ ((others key other).symm.trans (same.trans address.symm)))
      · by_cases same : key = func
        · rw [same, WriteBack.kept_load_self]
          exact address.symm
        · rw [WriteBack.kept_load_of_ne _ same]
          exact others key same
    next sameFunc =>
      refine ⟨shows, fun key => ?_⟩
      by_cases same : key = func
      · rw [addr key, port'', same, isFunc]
        exact groupAddr_congr inRange' inRange
          (fun _ => isFuncGroup.symm.trans (not_not.mp sameFunc)) fun other => absurd rfl other
      · exact others key same

omit injective isFunc in
/-- A field of the pin -/
theorem Grouped.setField (grouped : Grouped bases reg port portNum target state) (key : Key)
    (value : U32) :
    Grouped bases reg port portNum
      ((pinField bases port portNum (reg key)).put (value <<< fieldShift portNum (reg key)) target)
      (state.setField reg portNum key value) := by
  refine ⟨?_, fun other => ?_, grouped.prePort, grouped.prePortNumFunc, grouped.prePortNumPull⟩
  · have set := grouped.shows.set key (PinePhonePkg.setField (reg key) portNum value)
    rw [grouped.addr key, ← put_pinField] at set
    exact set
  · exact (WriteBack.addr_set key _ other).trans (grouped.addr other)

end GroupState

end PinePhonePkg
