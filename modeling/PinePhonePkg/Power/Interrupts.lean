/-
This file gives the interrupts of the power chip as bits of five bytes, and what
the driver's lines make of the bytes: which bits are set, which are cleared, and
which are reported. A test of a bit clears the rest of its byte, so that only the
first test of each byte can report an interrupt.
-/

import PinePhonePkg.Library.Bits
import PinePhonePkg.Power.Axp81X

namespace PinePhonePkg

open Library

/-! ### The seven interrupts -/

/-- The kinds of interrupts that the driver knows -/
inductive AxpInt : Type where
  | acRemove
  | acInsert
  | vbusRemove
  | vbusInsert
  | chargeDone
  | longKeyPress
  | shortKeyPress
deriving DecidableEq

namespace AxpInt

/-- All the kinds, in the order of their lines -/
def all : List AxpInt :=
  [.acRemove, .acInsert, .vbusRemove, .vbusInsert, .chargeDone, .longKeyPress, .shortKeyPress]

/-- The bit of a mask -/
def number : AxpInt → Nat
  | .acRemove => 0
  | .acInsert => 1
  | .vbusRemove => 2
  | .vbusInsert => 3
  | .chargeDone => 4
  | .longKeyPress => 5
  | .shortKeyPress => 6

/-- The byte of the interrupt -/
def index : AxpInt → Nat
  | .acRemove | .acInsert | .vbusRemove | .vbusInsert => 0
  | .chargeDone => 1
  | .longKeyPress | .shortKeyPress => 4

/-- The bit of the byte -/
def place : AxpInt → Nat
  | .acRemove => 5
  | .acInsert => 6
  | .vbusRemove => 2
  | .vbusInsert => 3
  | .chargeDone => 2
  | .longKeyPress => 3
  | .shortKeyPress => 4

/-- The line of the code for a kind -/
def line (kind : AxpInt) : IntLine :=
  ⟨BitVec.twoPow 64 kind.number, kind.index, kind.place⟩

theorem mem_all (kind : AxpInt) : kind ∈ all := by
  cases kind <;> decide

theorem map_line_all : all.map line = intLines := by decide

theorem index_lt (kind : AxpInt) : kind.index < 5 := by
  cases kind <;> decide

theorem place_lt (kind : AxpInt) : kind.place < 8 := by
  cases kind <;> decide

theorem number_lt (kind : AxpInt) : kind.number < 64 := by
  cases kind <;> decide

theorem number_inj {kind other : AxpInt} : kind.number = other.number ↔ kind = other := by
  refine ⟨fun same => ?_, congrArg number⟩
  revert same
  cases kind <;> cases other <;> decide

/-- Two interrupts have different bits. -/
theorem bit_inj {kind other : AxpInt}
    (same : kind.index = other.index ∧ kind.place = other.place) : kind = other := by
  revert same
  cases kind <;> cases other <;> decide

/-- The interrupt is in the mask. -/
def In (kind : AxpInt) (mask : Ulong) : Bool := mask.getLsbD kind.number

theorem in_iff (kind : AxpInt) (mask : Ulong) : mask &&& kind.line.flag ≠ 0 ↔ kind.In mask = true :=
  and_twoPow_ne_zero_iff mask kind.number_lt

end AxpInt

/-- Interrupts that are enabled, pending or reported -/
abbrev IntSet : Type := AxpInt → Bool

/-- The mask that has the interrupts and nothing else -/
def IntSet.mask (ints : IntSet) : Ulong :=
  AxpInt.all.foldl (fun mask kind => if ints kind then mask ||| kind.line.flag else mask) 0

theorem getLsbD_foldl_mask (ints : IntSet) (kinds : List AxpInt) (mask : Ulong) (number : Nat) :
    (kinds.foldl (fun mask kind => if ints kind then mask ||| kind.line.flag else mask)
        mask).getLsbD number =
      (mask.getLsbD number || kinds.any fun kind => ints kind && decide (number = kind.number)) := by
  induction kinds generalizing mask with
  | nil => simp
  | cons kind rest inductionHypothesis =>
    rw [List.foldl_cons, inductionHypothesis, List.any_cons, ← Bool.or_assoc]
    congr 1
    cases ints kind with
    | false => simp
    | true => exact getLsbD_or_twoPow mask kind.number_lt number

theorem IntSet.in_mask (ints : IntSet) (kind : AxpInt) : kind.In ints.mask = ints kind := by
  unfold AxpInt.In IntSet.mask
  rw [getLsbD_foldl_mask]
  cases kind <;> simp [AxpInt.all, AxpInt.number]

/-- A mask has the interrupts and nothing else exactly if it has each of them and no other bit. -/
theorem IntSet.eq_mask_iff (ints : IntSet) (mask : Ulong) :
    mask = ints.mask ↔
      (∀ kind : AxpInt, kind.In mask = ints kind) ∧
        ∀ number, (∀ kind : AxpInt, number ≠ kind.number) → mask.getLsbD number = false := by
  have bits : ∀ number, ints.mask.getLsbD number =
      AxpInt.all.any fun kind => ints kind && decide (number = kind.number) := by
    intro number
    unfold IntSet.mask
    rw [getLsbD_foldl_mask]
    simp
  have other : ∀ number, (∀ kind : AxpInt, number ≠ kind.number) →
      ints.mask.getLsbD number = false := by
    intro number unnamed
    rw [bits, List.any_eq_false]
    intro kind _
    simp [unnamed kind]
  constructor
  · rintro rfl
    exact ⟨ints.in_mask, other⟩
  · rintro ⟨named, unnamed⟩
    refine BitVec.eq_of_getLsbD_eq fun number _ => ?_
    by_cases kind : ∃ kind : AxpInt, number = kind.number
    · obtain ⟨kind, rfl⟩ := kind
      exact (named kind).trans (ints.in_mask kind).symm
    · have none : ∀ other : AxpInt, number ≠ other.number := fun other same => kind ⟨other, same⟩
      rw [unnamed number none, other number none]

/-! ### Bits of the bytes -/

/-- A bit of the registers, counted from the first -/
def bitAt (bytes : List U8) (index place : Nat) : Bool := (bytes.getD index 0).getLsbD place

theorem bitAt_set {bytes : List U8} {index : Nat} (inside : index < bytes.length) (value : U8)
    (other place : Nat) :
    bitAt (bytes.set index value) other place =
      if other = index then value.getLsbD place else bitAt bytes other place := by
  unfold bitAt
  by_cases same : other = index
  · subst same
    rw [if_pos rfl, List.getD_eq_getElem?_getD, List.getElem?_set_self inside, Option.getD_some]
  · rw [if_neg same, List.getD_eq_getElem?_getD, List.getElem?_set_ne (Ne.symm same),
      ← List.getD_eq_getElem?_getD]

section Lines

variable (mask : Ulong)

/-- The mask asks for the interrupt of the bit. -/
def asksFor (index place : Nat) : Bool :=
  AxpInt.all.any fun kind => kind.In mask && decide (index = kind.index ∧ place = kind.place)

/-- The bit is not above that of an interrupt in the mask. -/
def clears (index place : Nat) : Bool :=
  AxpInt.all.any fun kind => kind.In mask && decide (index = kind.index ∧ place ≤ kind.place)

/-- The complement of 1, shifted, is without all the bits up to that of the shift. -/
theorem getLsbD_notOne_shiftLeft {shift place : Nat} (small : shift < 8) (inside : place < 8) :
    ((~~~(1 : U8)) <<< shift).getLsbD place = !decide (place ≤ shift) := by
  have table : ∀ shift < 8, ∀ place < 8,
      ((~~~(1 : U8)) <<< shift).getLsbD place = !decide (place ≤ shift) := by decide
  exact table shift small place inside

/-- A line of the functions that change the interrupts -/
def changeLine (change : Nat → U8 → U8) (bytes : List U8) (kind : AxpInt) : List U8 :=
  if mask &&& kind.line.flag ≠ 0 then
    bytes.set kind.index (change kind.place (bytes.getD kind.index 0))
  else bytes

variable {mask} {change : Nat → U8 → U8} {bytes : List U8} (length : bytes.length = 5)

theorem length_changeLine (kind : AxpInt) :
    (changeLine mask change bytes kind).length = bytes.length := by
  unfold changeLine
  split
  · exact List.length_set
  · rfl

include length in
theorem bitAt_changeLine (kind : AxpInt) (index place : Nat) :
    bitAt (changeLine mask change bytes kind) index place =
      if kind.In mask = true ∧ index = kind.index then
        (change kind.place (bytes.getD index 0)).getLsbD place
      else bitAt bytes index place := by
  unfold changeLine
  by_cases named : kind.In mask = true
  · rw [if_pos ((kind.in_iff mask).mpr named), bitAt_set (length ▸ kind.index_lt)]
    by_cases same : index = kind.index
    · subst same
      rw [if_pos rfl, if_pos ⟨named, rfl⟩]
    · rw [if_neg same, if_neg fun both => same both.2]
  · rw [if_neg fun some => named ((kind.in_iff mask).mp some), if_neg fun both => named both.1]

include length in
/-- Lines that can only give a bit one value give it this value, if any of them touches it. -/
theorem bitAt_foldl_changeLine (touches : AxpInt → Bool) (given : Bool) {index place : Nat}
    (line : ∀ kind value, index = kind.index → (change kind.place value).getLsbD place =
      if touches kind then given else value.getLsbD place)
    (elsewhere : ∀ kind, index ≠ kind.index → touches kind = false) (kinds : List AxpInt) :
    bitAt (kinds.foldl (changeLine mask change) bytes) index place =
      if kinds.any fun kind => kind.In mask && touches kind then given
      else bitAt bytes index place := by
  induction kinds generalizing bytes with
  | nil => rfl
  | cons kind rest inductionHypothesis =>
    have first : bitAt (changeLine mask change bytes kind) index place =
        if kind.In mask && touches kind then given else bitAt bytes index place := by
      rw [bitAt_changeLine length]
      by_cases touched : kind.In mask = true ∧ index = kind.index
      · rw [if_pos touched, line kind _ touched.2, touched.1, Bool.true_and]
        rfl
      · rw [if_neg touched, if_neg]
        intro both
        obtain ⟨named, touch⟩ := Bool.and_eq_true_iff.mp both
        have other : index ≠ kind.index := fun same => touched ⟨named, same⟩
        exact Bool.false_ne_true ((elsewhere kind other).symm.trans touch)
    rw [List.foldl_cons, inductionHypothesis ((length_changeLine kind).trans length), first,
      List.any_cons]
    cases kind.In mask && touches kind with
    | false => rfl
    | true => exact ite_self given

theorem enableInts_eq :
    enableInts mask bytes =
      AxpInt.all.foldl (changeLine mask fun place value => value ||| BitVec.twoPow 8 place)
        bytes := by
  unfold enableInts
  rw [← AxpInt.map_line_all, List.foldl_map]
  rfl

theorem disableInts_eq :
    disableInts mask bytes =
      AxpInt.all.foldl (changeLine mask fun place value => value &&& (~~~(1 : U8)) <<< place)
        bytes := by
  unfold disableInts
  rw [← AxpInt.map_line_all, List.foldl_map]
  rfl

include length in
/-- What is enabled afterwards: what was enabled and what the mask asks for. -/
theorem bitAt_enableInts (index place : Nat) :
    bitAt (enableInts mask bytes) index place =
      (bitAt bytes index place || asksFor mask index place) := by
  rw [enableInts_eq, bitAt_foldl_changeLine length
    (fun kind => decide (index = kind.index ∧ place = kind.place)) true]
  · unfold asksFor
    split
    next asked => rw [asked, Bool.or_true]
    next none => rw [eq_false_of_ne_true none, Bool.or_false]
  · intro kind value same
    rw [getLsbD_or_twoPow _ kind.place_lt]
    by_cases here : place = kind.place <;> simp [same, here]
  · intro kind other
    exact decide_eq_false fun both => other both.1

include length in
/-- What is enabled afterwards: what was enabled and is above every bit that the mask asks for. -/
theorem bitAt_disableInts (index : Nat) {place : Nat} (inside : place < 8) :
    bitAt (disableInts mask bytes) index place =
      (bitAt bytes index place && !clears mask index place) := by
  rw [disableInts_eq, bitAt_foldl_changeLine length
    (fun kind => decide (index = kind.index ∧ place ≤ kind.place)) false]
  · unfold clears
    split
    next cleared => rw [cleared, Bool.not_true, Bool.and_false]
    next none => rw [eq_false_of_ne_true none, Bool.not_false, Bool.and_true]
  · intro kind value same
    rw [BitVec.getLsbD_and, getLsbD_notOne_shiftLeft kind.place_lt inside]
    by_cases below : place ≤ kind.place <;> simp [same, below]
  · intro kind other
    exact decide_eq_false fun both => other both.1

theorem length_foldl_changeLine (kinds : List AxpInt) (bytes : List U8) :
    (kinds.foldl (changeLine mask change) bytes).length = bytes.length := by
  induction kinds generalizing bytes with
  | nil => rfl
  | cons kind rest inductionHypothesis =>
    exact (inductionHypothesis _).trans (length_changeLine kind)

theorem length_enableInts : (enableInts mask bytes).length = bytes.length := by
  rw [enableInts_eq, length_foldl_changeLine]

theorem length_disableInts : (disableInts mask bytes).length = bytes.length := by
  rw [disableInts_eq, length_foldl_changeLine]

end Lines

/-! ### What is reported -/

/-- The interrupts whose tests find their byte whole -/
def AxpInt.Visible : AxpInt → Bool
  | .acRemove | .chargeDone | .longKeyPress => true
  | _ => false

/-- A byte that has been tested for one bit has none of the others. -/
theorem and_twoPow_and_twoPow (value : U8) {place other : Nat} (distinct : place ≠ other) :
    value &&& BitVec.twoPow 8 place &&& BitVec.twoPow 8 other = 0 := by
  refine (and_eq_zero_iff _ _).mpr fun bit inOther => ?_
  rw [BitVec.getLsbD_twoPow] at inOther
  rw [BitVec.getLsbD_and, BitVec.getLsbD_twoPow]
  have same : other = bit := by
    simp only [Bool.and_eq_true, decide_eq_true_eq] at inOther
    exact inOther.2
  simp [← same, distinct]

/-- What the seven lines report: the first interrupt of each byte, if it is there. -/
theorem reportInts_eq (zeroth first second third fourth : U8) (mask : Ulong) :
    reportInts [zeroth, first, second, third, fourth] mask =
      mask ||| IntSet.mask fun kind =>
        kind.Visible && bitAt [zeroth, first, second, third, fourth] kind.index kind.place := by
  have zero : ∀ place, (0 : U8) &&& BitVec.twoPow 8 place = 0 := fun _ => BitVec.zero_and
  have goneZeroth := and_twoPow_and_twoPow zeroth (show 5 ≠ 6 by decide)
  have goneFourth := and_twoPow_and_twoPow fourth (show 3 ≠ 4 by decide)
  have three : reportInts [zeroth, first, second, third, fourth] mask =
      (let mask := if zeroth.getLsbD 5 then mask ||| axpIntMaskAcRemove else mask
      let mask := if first.getLsbD 2 then mask ||| axpIntMaskChargeDone else mask
      if fourth.getLsbD 3 then mask ||| axpIntMaskLongKeyPress else mask) := by
    simp only [← and_twoPow_ne_zero_iff zeroth (show 5 < 8 by decide),
      ← and_twoPow_ne_zero_iff first (show 2 < 8 by decide),
      ← and_twoPow_ne_zero_iff fourth (show 3 < 8 by decide)]
    unfold reportInts intLines
    simp only [List.foldl_cons, List.foldl_nil, IntLine.report, List.getD_cons_zero,
      List.getD_cons_succ, List.set_cons_zero, List.set_cons_succ, goneZeroth, goneFourth, zero,
      ne_eq, not_true, if_false]
  have flags : (IntSet.mask fun kind =>
        kind.Visible && bitAt [zeroth, first, second, third, fourth] kind.index kind.place) =
      (let mask : Ulong := if zeroth.getLsbD 5 then 0 ||| axpIntMaskAcRemove else 0
      let mask := if first.getLsbD 2 then mask ||| axpIntMaskChargeDone else mask
      if fourth.getLsbD 3 then mask ||| axpIntMaskLongKeyPress else mask) := rfl
  rw [three, flags]
  cases zeroth.getLsbD 5 <;> cases first.getLsbD 2 <;> cases fourth.getLsbD 3 <;>
    simp [BitVec.or_assoc]

end PinePhonePkg
