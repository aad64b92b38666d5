/-
This file gives the fields of registers. A field is some bits of one register; a
driver sets it by reading the register, replacing the bits and writing it back.
Fields that share no bit do not disturb each other.
-/

import Mathlib.Logic.Function.Basic
import Mathlib.Tactic.Common

namespace Library

/-- The bits of the mask in one register -/
structure Field (Address : Type) (width : Nat) : Type where
  register : Address
  mask : BitVec width
deriving DecidableEq

namespace Field

variable {Address : Type} [DecidableEq Address] {width : Nat}

/-- What the field holds. -/
def content (field : Field Address width) (registers : Address → BitVec width) : BitVec width :=
  registers field.register &&& field.mask

/-- The registers after the field is set and the other bits of its register are kept. -/
def put (field : Field Address width) (value : BitVec width)
    (registers : Address → BitVec width) : Address → BitVec width :=
  Function.update registers field.register
    ((registers field.register &&& ~~~field.mask) ||| (value &&& field.mask))

/-- Two fields share no bit. -/
abbrev Apart (field other : Field Address width) : Prop :=
  field.register ≠ other.register ∨ field.mask &&& other.mask = 0

variable (field other : Field Address width) (value : BitVec width)
  (registers : Address → BitVec width)

@[simp]
theorem content_put_self : field.content (field.put value registers) = value &&& field.mask := by
  unfold content put
  rw [Function.update_self]
  ext place inside
  simp only [BitVec.getElem_and, BitVec.getElem_or, BitVec.getElem_not]
  cases field.mask[place] <;> simp

variable {field other}

theorem content_put_apart (apart : other.Apart field) :
    other.content (field.put value registers) = other.content registers := by
  unfold content put
  by_cases same : other.register = field.register
  · have none : other.mask &&& field.mask = 0 := apart.resolve_left fun distinct => distinct same
    rw [same, Function.update_self]
    ext place inside
    have shared : (other.mask[place] && field.mask[place]) = false := by
      rw [← BitVec.getElem_and]
      simp [none]
    simp only [BitVec.getElem_and, BitVec.getElem_or, BitVec.getElem_not]
    cases otherBit : other.mask[place] with
    | false => simp
    | true =>
      rw [otherBit, Bool.true_and] at shared
      simp [shared]
  · rw [Function.update_of_ne same]

/-- Where two fields are the same or apart, the one is set with the other or kept. -/
theorem content_put (layout : other = field ∨ other.Apart field) :
    other.content (field.put value registers) =
      if other = field then value &&& field.mask else other.content registers := by
  by_cases same : other = field
  · rw [if_pos same, same, content_put_self]
  · rw [if_neg same, content_put_apart value registers (layout.resolve_left same)]

/-- A field is kept by setting another exactly if that sets what it held, when the two are the same
field. -/
theorem content_put_eq_iff (layout : other = field ∨ other.Apart field) :
    other.content (field.put value registers) = other.content registers ↔
      (other = field → field.content registers = value &&& field.mask) := by
  rw [content_put value registers layout]
  by_cases same : other = field
  · rw [if_pos same, same]
    exact ⟨fun kept _ => kept.symm, fun kept => (kept rfl).symm⟩
  · rw [if_neg same]
    exact ⟨fun _ equal => absurd equal same, fun _ => rfl⟩

/-- The bit is one of the field's. -/
def Holds (field : Field Address width) (register : Address) (place : Nat) : Prop :=
  register = field.register ∧ field.mask.getLsbD place = true

/-- The bits beside the field are kept. -/
theorem getLsbD_put {register : Address} {place : Nat} (beside : ¬ field.Holds register place) :
    (field.put value registers register).getLsbD place = (registers register).getLsbD place := by
  unfold put
  by_cases same : register = field.register
  · have out : field.mask.getLsbD place = false :=
      eq_false_of_ne_true fun inside => beside ⟨same, inside⟩
    rw [same, Function.update_self, BitVec.getLsbD_or, BitVec.getLsbD_and, BitVec.getLsbD_and,
      BitVec.getLsbD_not, out]
    by_cases inside : place < width
    · simp [inside]
    · simp [BitVec.getLsbD_of_ge _ _ (Nat.le_of_not_lt inside)]
  · rw [Function.update_of_ne same]

/-- The bits of the field are those of the value. -/
theorem getLsbD_put_of_holds {register : Address} {place : Nat}
    (holds : field.Holds register place) :
    (field.put value registers register).getLsbD place = value.getLsbD place := by
  obtain ⟨rfl, inside⟩ := holds
  unfold put
  rw [Function.update_self, BitVec.getLsbD_or, BitVec.getLsbD_and, BitVec.getLsbD_and,
    BitVec.getLsbD_not, inside]
  simp

/-! ### Several fields -/

/-- Fields are set one after the other. -/
def putAll (list : List (Field Address width × BitVec width))
    (registers : Address → BitVec width) : Address → BitVec width :=
  list.foldl (fun registers entry => entry.1.put entry.2 registers) registers

variable {value} {list : List (Field Address width × BitVec width)}

theorem content_putAll_apart (apart : ∀ entry ∈ list, field.Apart entry.1) :
    field.content (putAll list registers) = field.content registers := by
  induction list generalizing registers with
  | nil => rfl
  | cons entry rest inductionHypothesis =>
    exact (inductionHypothesis _ fun next member => apart next (List.mem_cons_of_mem _ member)).trans
      (content_put_apart entry.2 registers (apart entry List.mem_cons_self))

omit [DecidableEq Address] in
theorem Apart.symm (apart : field.Apart other) : other.Apart field := by
  rcases apart with different | none
  · exact .inl different.symm
  · exact .inr ((BitVec.and_comm _ _).trans none)

/-- Each of the fields holds what it was set to. -/
theorem content_putAll_of_mem (apart : list.Pairwise fun entry next => entry.1.Apart next.1)
    (member : (field, value) ∈ list) :
    field.content (putAll list registers) = value &&& field.mask := by
  induction list generalizing registers with
  | nil => exact absurd member List.not_mem_nil
  | cons entry rest inductionHypothesis =>
    obtain ⟨head, tail⟩ := List.pairwise_cons.mp apart
    rcases List.mem_cons.mp member with rfl | later
    · exact (content_putAll_apart _ head).trans (content_put_self _ _ _)
    · exact inductionHypothesis _ tail later

theorem getLsbD_putAll {register : Address} {place : Nat}
    (beside : ∀ entry ∈ list, ¬ entry.1.Holds register place) :
    (putAll list registers register).getLsbD place = (registers register).getLsbD place := by
  induction list generalizing registers with
  | nil => rfl
  | cons entry rest inductionHypothesis =>
    exact (inductionHypothesis _ fun next member => beside next (List.mem_cons_of_mem _ member)).trans
      (getLsbD_put _ _ (beside entry List.mem_cons_self))

/-- The last field that holds a bit sets it. -/
theorem getLsbD_putAll_last {before after : List (Field Address width × BitVec width)}
    {entry : Field Address width × BitVec width} {register : Address} {place : Nat}
    (holds : entry.1.Holds register place)
    (beside : ∀ later ∈ after, ¬ later.1.Holds register place) :
    (putAll (before ++ entry :: after) registers register).getLsbD place =
      entry.2.getLsbD place := by
  unfold putAll
  rw [List.foldl_append, List.foldl_cons]
  exact (getLsbD_putAll _ beside).trans (getLsbD_put_of_holds _ _ holds)

end Field

end Library
