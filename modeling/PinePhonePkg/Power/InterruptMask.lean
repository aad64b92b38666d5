/-
This file follows the interrupts that are enabled through a run of calls that
enable, disable or report them. The bits that are cleared for an interrupt are its
own and all below it, and the report misses what stands behind another interrupt
of its byte, so the driver keeps the set it should only as long as no interrupt is
below one that is disabled, or behind one that is reported.
-/

import PinePhonePkg.Library.Runs
import PinePhonePkg.Power.Interrupts

namespace PinePhonePkg

open Library Program

/-! ### Five registers of a bus that carries out every access -/

/-- The bytes of the enable registers -/
def intBytes (registers : Registers) : List U8 :=
  [registers 0x40, registers 0x41, registers 0x42, registers 0x43, registers 0x44]

@[simp]
theorem length_intBytes (registers : Registers) : (intBytes registers).length = 5 := rfl

theorem exec_probeInts (registers : Registers) :
    exec servePmu rawAxp81XProbeIntEnable registers =
      ((efiSuccess, intBytes registers), registers) := by
  unfold rawAxp81XProbeIntEnable
  simp only [readEach, exec_readOr, exec_bind, exec_pure]
  rfl

/-- Five bytes are written to the registers in order, and read back. -/
theorem exec_setInts (bytes : List U8) (length : bytes.length = 5) (registers : Registers) :
    ∃ next, exec servePmu (rawAxp81XSetIntEnable bytes) registers = (efiSuccess, next) ∧
      intBytes next = bytes := by
  obtain ⟨zeroth, first, second, third, fourth, rfl⟩ : ∃ zeroth first second third fourth,
      bytes = [zeroth, first, second, third, fourth] := by
    match bytes, length with
    | [zeroth, first, second, third, fourth], _ => exact ⟨_, _, _, _, _, rfl⟩
  unfold rawAxp81XSetIntEnable
  simp only [writeEach, exec_writeOr, exec_pure]
  exact ⟨_, rfl, rfl⟩

/-- What is read is changed and written back. -/
theorem exec_changeInts {change : List U8 → List U8} (registers : Registers)
    (length : (change (intBytes registers)).length = 5) :
    ∃ next, exec servePmu (do
          let (status, intEnable) ← rawAxp81XProbeIntEnable
          if status ≠ 0 then
            return status
          rawAxp81XSetIntEnable (change intEnable)) registers = (efiSuccess, next) ∧
      intBytes next = change (intBytes registers) := by
  rw [exec_bind, exec_probeInts]
  exact exec_setInts _ length registers

theorem exec_probeIntEnable (intMask : Ulong) (registers : Registers) :
    exec servePmu (axp81XProbeIntEnable intMask) registers =
      ((efiSuccess, reportInts (intBytes registers) intMask), registers) := by
  unfold axp81XProbeIntEnable
  rw [exec_bind, exec_probeInts]
  rfl

/-! ### The calls -/

/-- A call, with `*IntMask` as it is before a report. -/
inductive IntCall : Type where
  | setIntEnable (mask : Ulong)
  | setIntDisable (mask : Ulong)
  | probeIntEnable (intMask : Ulong)

/-- The status of a call, and `*IntMask` after a report -/
abbrev IntAnswer : Type := Ulong × Option Ulong

/-- What the call runs -/
def IntCall.program : IntCall → Pmu IntAnswer
  | .setIntEnable mask => do return (← axp81XSetIntEnable mask, none)
  | .setIntDisable mask => do return (← axp81XSetIntDisable mask, none)
  | .probeIntEnable intMask => do
    let (status, intMask) ← axp81XProbeIntEnable intMask
    return (status, some intMask)

/-- The power chip, and what the last call returned -/
structure IntWorld : Type where
  answer : IntAnswer
  registers : Registers

/-- The answer and the registers after a call -/
def IntWorld.after (world : IntWorld) (call : IntCall) : IntWorld :=
  let (answer, registers) := exec servePmu call.program world.registers
  ⟨answer, registers⟩

/-- The interrupts that should be enabled, and what the last call should have returned -/
structure IntModel : Type where
  answer : IntAnswer
  enabled : IntSet

/-- The same in terms of the kinds that are enabled -/
def IntModel.after (model : IntModel) : IntCall → IntModel
  | .setIntEnable mask => ⟨(efiSuccess, none), fun kind => model.enabled kind || kind.In mask⟩
  | .setIntDisable mask => ⟨(efiSuccess, none), fun kind => model.enabled kind && !kind.In mask⟩
  | .probeIntEnable _ => ⟨(efiSuccess, some (IntSet.mask model.enabled)), model.enabled⟩

/-- The interrupts whose bits are set -/
def enabledInts (registers : Registers) : IntSet :=
  fun kind => bitAt (intBytes registers) kind.index kind.place

/-- The bit stands for no interrupt of the masks. -/
def Unnamed (index place : Nat) : Prop :=
  ∀ kind : AxpInt, ¬(index = kind.index ∧ place = kind.place)

/-- The chip has the interrupts enabled that it should, and the bits of no interrupt as they were
at the start; what was returned is what should have been. -/
structure Follows (start : Registers) (world : IntWorld) (model : IntModel) : Prop where
  answer : world.answer = model.answer
  enabled : enabledInts world.registers = model.enabled
  others : ∀ index place, Unnamed index place →
    bitAt (intBytes world.registers) index place = bitAt (intBytes start) index place

/-- A call that does what it should: one that disables clears no set bit below, and a report has
nothing behind another interrupt, unless `*IntMask` has it before, and nothing else there. -/
def IntCall.Clean (world : IntWorld) : IntCall → Prop
  | .setIntEnable _ => True
  | .setIntDisable mask => ∀ index place, bitAt (intBytes world.registers) index place = true →
      clears mask index place = true → asksFor mask index place = true
  | .probeIntEnable intMask =>
    (∀ number, intMask.getLsbD number = true →
        ∃ kind : AxpInt, number = kind.number ∧ enabledInts world.registers kind = true) ∧
      ∀ kind, enabledInts world.registers kind = true → kind.Visible ∨ kind.In intMask

/-! ### One call -/

theorem after_setIntEnable (mask : Ulong) (world : IntWorld) :
    ∃ next, world.after (.setIntEnable mask) = ⟨(efiSuccess, none), next⟩ ∧
      intBytes next = enableInts mask (intBytes world.registers) := by
  obtain ⟨next, done, bytes⟩ := exec_changeInts world.registers (@length_enableInts mask _)
  refine ⟨next, ?_, bytes⟩
  unfold IntWorld.after IntCall.program axp81XSetIntEnable
  rw [exec_bind, done]
  rfl

theorem after_setIntDisable (mask : Ulong) (world : IntWorld) :
    ∃ next, world.after (.setIntDisable mask) = ⟨(efiSuccess, none), next⟩ ∧
      intBytes next = disableInts mask (intBytes world.registers) := by
  obtain ⟨next, done, bytes⟩ := exec_changeInts world.registers (@length_disableInts mask _)
  refine ⟨next, ?_, bytes⟩
  unfold IntWorld.after IntCall.program axp81XSetIntDisable
  rw [exec_bind, done]
  rfl

theorem after_probeIntEnable (intMask : Ulong) (world : IntWorld) :
    world.after (.probeIntEnable intMask) =
      ⟨(efiSuccess, some (reportInts (intBytes world.registers) intMask)), world.registers⟩ := by
  unfold IntWorld.after IntCall.program
  rw [exec_bind, exec_probeIntEnable]
  rfl

theorem asksFor_eq_true_iff (mask : Ulong) (index place : Nat) :
    asksFor mask index place = true ↔
      ∃ kind : AxpInt, kind.In mask = true ∧ index = kind.index ∧ place = kind.place := by
  simp only [asksFor, List.any_eq_true, AxpInt.mem_all, true_and, Bool.and_eq_true,
    decide_eq_true_eq]

@[simp]
theorem asksFor_bit (mask : Ulong) (kind : AxpInt) :
    asksFor mask kind.index kind.place = kind.In mask := by
  refine Bool.eq_iff_iff.mpr ((asksFor_eq_true_iff mask _ _).trans ⟨?_, fun asked => ?_⟩)
  · rintro ⟨other, asked, same⟩
    rwa [AxpInt.bit_inj same]
  · exact ⟨kind, asked, rfl, rfl⟩

theorem asksFor_unnamed (mask : Ulong) {index place : Nat} (unnamed : Unnamed index place) :
    asksFor mask index place = false := by
  refine Bool.eq_false_iff.mpr fun asked => ?_
  obtain ⟨kind, -, same⟩ := (asksFor_eq_true_iff mask index place).mp asked
  exact unnamed kind same

/-- The bits that are asked for are among those that are cleared. -/
theorem clears_of_asksFor {mask : Ulong} {index place : Nat}
    (asked : asksFor mask index place = true) : clears mask index place = true := by
  obtain ⟨kind, inMask, rfl, rfl⟩ := (asksFor_eq_true_iff mask index place).mp asked
  refine List.any_eq_true.mpr ⟨kind, kind.mem_all, ?_⟩
  rw [inMask, Bool.true_and]
  exact decide_eq_true ⟨rfl, Nat.le_refl _⟩

/-- The bits of the interrupts and the bits of none are all the bits. -/
theorem follows_iff_bits {start : Registers} {world : IntWorld} {model : IntModel}
    (wanted : Nat → Nat → Bool)
    (named : ∀ kind : AxpInt, wanted kind.index kind.place = model.enabled kind)
    (unnamed : ∀ index place, Unnamed index place →
      wanted index place = bitAt (intBytes start) index place) :
    Follows start world model ↔
      world.answer = model.answer ∧
        ∀ index place, bitAt (intBytes world.registers) index place = wanted index place := by
  constructor
  · rintro ⟨answer, enabled, others⟩
    refine ⟨answer, fun index place => ?_⟩
    by_cases none : Unnamed index place
    · exact (others index place none).trans (unnamed index place none).symm
    · obtain ⟨kind, bit⟩ := not_forall.mp none
      obtain ⟨rfl, rfl⟩ := not_not.mp bit
      exact (congrFun enabled kind).trans (named kind).symm
  · rintro ⟨answer, bits⟩
    exact ⟨answer, funext fun kind => (bits _ _).trans (named kind),
      fun index place none => (bits _ _).trans (unnamed index place none)⟩

section Step

variable {start : Registers} {world : IntWorld} {model : IntModel}
  (follows : Follows start world model)

/-- A bit that is set is in its byte. -/
theorem place_lt_of_bitAt {bytes : List U8} {index place : Nat}
    (set : bitAt bytes index place = true) : place < 8 :=
  BitVec.lt_of_getLsbD set

include follows in
theorem follows_setIntEnable (mask : Ulong) :
    Follows start (world.after (.setIntEnable mask)) (model.after (.setIntEnable mask)) := by
  obtain ⟨next, after, bytes⟩ := after_setIntEnable mask world
  rw [after]
  refine (follows_iff_bits
    (fun index place => bitAt (intBytes world.registers) index place || asksFor mask index place)
    (fun kind => ?_) fun index place none => ?_).mpr ⟨rfl, fun index place => ?_⟩
  · rw [asksFor_bit]
    exact congrArg (· || kind.In mask) (congrFun follows.enabled kind)
  · rw [asksFor_unnamed mask none, Bool.or_false]
    exact follows.others index place none
  · show bitAt (intBytes next) index place = _
    rw [bytes, bitAt_enableInts (length_intBytes _)]

include follows in
theorem follows_setIntDisable_iff (mask : Ulong) :
    Follows start (world.after (.setIntDisable mask)) (model.after (.setIntDisable mask)) ↔
      (IntCall.setIntDisable mask).Clean world := by
  obtain ⟨next, after, bytes⟩ := after_setIntDisable mask world
  rw [after]
  refine (follows_iff_bits
    (fun index place => bitAt (intBytes world.registers) index place && !asksFor mask index place)
    (fun kind => ?_) fun index place none => ?_).trans
      ((and_iff_right rfl).trans (forall₂_congr fun index place => ?_))
  · rw [asksFor_bit]
    exact congrArg (· && !kind.In mask) (congrFun follows.enabled kind)
  · rw [asksFor_unnamed mask none, Bool.not_false, Bool.and_true]
    exact follows.others index place none
  · show bitAt (intBytes next) index place = _ ↔ _
    by_cases inside : place < 8
    · rw [bytes, bitAt_disableInts (length_intBytes _) index inside]
      have below := @clears_of_asksFor mask index place
      revert below
      cases bitAt (intBytes world.registers) index place <;> cases clears mask index place <;>
        cases asksFor mask index place <;> decide
    · have outside : ∀ bytes, bitAt bytes index place = false :=
        fun bytes => Bool.eq_false_iff.mpr fun set => inside (place_lt_of_bitAt set)
      simp [outside]

/-- Bits are added to a mask that make it that of a set, of which they are part. -/
theorem or_mask_eq_mask_iff {shown ints : IntSet} (part : ∀ kind, shown kind = true → ints kind = true)
    (intMask : Ulong) :
    intMask ||| shown.mask = ints.mask ↔
      (∀ number, intMask.getLsbD number = true →
          ∃ kind : AxpInt, number = kind.number ∧ ints kind = true) ∧
        ∀ kind, ints kind = true → shown kind = true ∨ kind.In intMask = true := by
  have named : ∀ kind : AxpInt,
      kind.In (intMask ||| shown.mask) = (kind.In intMask || shown kind) := by
    intro kind
    rw [← shown.in_mask kind]
    exact BitVec.getLsbD_or
  rw [IntSet.eq_mask_iff]
  constructor
  · rintro ⟨same, none⟩
    refine ⟨fun number set => ?_, fun kind wanted => ?_⟩
    · by_contra other
      have clear := none number fun kind is => other ⟨kind, is, ?_⟩
      · rw [BitVec.getLsbD_or, set] at clear
        exact absurd clear Bool.noConfusion
      · rw [← same kind, named, Bool.or_eq_true]
        subst is
        exact .inl set
    · rw [← same kind, named, Bool.or_eq_true] at wanted
      exact wanted.symm
  · rintro ⟨inside, whole⟩
    refine ⟨fun kind => ?_, fun number none => ?_⟩
    · rw [named]
      refine Bool.eq_iff_iff.mpr ?_
      rw [Bool.or_eq_true]
      refine ⟨?_, fun wanted => (whole kind wanted).symm⟩
      rintro (set | set)
      · obtain ⟨other, is, wanted⟩ := inside kind.number set
        rwa [AxpInt.number_inj.mp is]
      · exact part kind set
    · rw [BitVec.getLsbD_or, Bool.or_eq_false_iff]
      refine ⟨Bool.eq_false_iff.mpr fun set => ?_, ?_⟩
      · obtain ⟨kind, is, -⟩ := inside number set
        exact none kind is
      · exact ((shown.eq_mask_iff _).mp rfl).2 number none

include follows in
theorem follows_probeIntEnable_iff (intMask : Ulong) :
    Follows start (world.after (.probeIntEnable intMask)) (model.after (.probeIntEnable intMask)) ↔
      (IntCall.probeIntEnable intMask).Clean world := by
  have reported : reportInts (intBytes world.registers) intMask =
      intMask ||| IntSet.mask fun kind => kind.Visible && enabledInts world.registers kind :=
    reportInts_eq _ _ _ _ _ intMask
  rw [after_probeIntEnable, reported]
  have told : intMask ||| (IntSet.mask fun kind =>
        kind.Visible && enabledInts world.registers kind) =
        IntSet.mask (enabledInts world.registers) ↔
      (IntCall.probeIntEnable intMask).Clean world := by
    refine (or_mask_eq_mask_iff (fun kind shown => (Bool.and_eq_true_iff.mp shown).2) intMask).trans
      (and_congr Iff.rfl (forall₂_congr fun kind enabled => or_congr ?_ Iff.rfl))
    rw [enabled, Bool.and_true]
  rw [← told, follows.enabled]
  refine ⟨fun next => ?_, fun same => ⟨?_, follows.enabled, follows.others⟩⟩
  · exact Option.some.inj (congrArg Prod.snd next.answer)
  · exact congrArg (fun mask => (efiSuccess, some mask)) same

include follows in
/-- What a call makes of the chip is what it should exactly if it is clean. -/
theorem follows_after_iff (call : IntCall) :
    Follows start (world.after call) (model.after call) ↔ call.Clean world := by
  cases call with
  | setIntEnable mask => exact iff_of_true (follows_setIntEnable follows mask) trivial
  | setIntDisable mask => exact follows_setIntDisable_iff follows mask
  | probeIntEnable intMask => exact follows_probeIntEnable_iff follows intMask

end Step

/-! ### Every run of calls -/

/-- The chip before the first call -/
def IntWorld.initially (registers : Registers) : IntWorld := ⟨(efiSuccess, none), registers⟩

/-- What is enabled before the first call -/
def IntModel.initially (registers : Registers) : IntModel :=
  ⟨(efiSuccess, none), enabledInts registers⟩

/-- After every call of a run the chip has the interrupts enabled that were asked for, reports them
and has no other bit changed, exactly if every call of the run is clean. -/
theorem int_mask_followed_iff (registers : Registers) (calls : List IntCall) :
    (∀ seen, seen <+: calls →
        Follows registers (run IntWorld.after (.initially registers) seen)
          (run IntModel.after (.initially registers) seen)) ↔
      Along IntWorld.after (fun world call => call.Clean world) (.initially registers) calls :=
  related_throughout_iff IntModel.after (Follows registers)
    (fun _ _ call follows => follows_after_iff follows call) ⟨rfl, rfl, fun _ _ _ => rfl⟩ calls

/-- Two interrupts are enabled, one of them is disabled, and the other one is not reported. -/
def clearedCalls : List IntCall :=
  [.setIntEnable (axpIntMaskAcRemove ||| axpIntMaskVbusInsert), .setIntDisable axpIntMaskAcRemove,
    .probeIntEnable 0]

theorem int_mask_not_followed :
    ¬∀ registers calls seen, seen <+: calls →
      Follows registers (run IntWorld.after (.initially registers) seen)
        (run IntModel.after (.initially registers) seen) := by
  intro followed
  have same := (followed (fun _ => 0) clearedCalls clearedCalls List.prefix_rfl).answer
  exact absurd same (by decide)

end PinePhonePkg
