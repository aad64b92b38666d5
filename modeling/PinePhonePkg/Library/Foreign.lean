/-
This file compares the fields that a caller wants to be set with those that are set
in fact, some more of them in between. The ones that are foreign do no harm exactly
if each bit that one of them sets last is as the caller's own fields leave it.
-/

import PinePhonePkg.Library.Fields

namespace Library

/-- A field that is set, by the caller's wish or not -/
structure FieldWrite (Address : Type) (width : Nat) : Type where
  own : Bool
  field : Field Address width
  value : BitVec width

namespace FieldWrite

variable {Address : Type} {width : Nat}

/-- The field with its value -/
def pair (setting : FieldWrite Address width) : Field Address width × BitVec width :=
  (setting.field, setting.value)

variable [DecidableEq Address]

/-- All that is set -/
def setAll (list : List (FieldWrite Address width)) (registers : Address → BitVec width) :
    Address → BitVec width :=
  Field.putAll (list.map pair) registers

/-- What the caller wants -/
def setOwn (list : List (FieldWrite Address width)) (registers : Address → BitVec width) :
    Address → BitVec width :=
  setAll (list.filter own) registers

/-- Each bit that is last set by a foreign field is as the own fields leave it. -/
def Harmless (list : List (FieldWrite Address width)) (registers : Address → BitVec width) : Prop :=
  ∀ before setting after, list = before ++ setting :: after → setting.own = false →
    ∀ register place, setting.field.Holds register place →
      (∀ later ∈ after, ¬ later.field.Holds register place) →
        (setOwn list registers register).getLsbD place = setting.value.getLsbD place

variable {list before after : List (FieldWrite Address width)} {setting : FieldWrite Address width}
  {registers : Address → BitVec width} {register : Address} {place : Nat}

theorem getLsbD_setAll (beside : ∀ setting ∈ list, ¬ setting.field.Holds register place) :
    (setAll list registers register).getLsbD place = (registers register).getLsbD place := by
  refine Field.getLsbD_putAll _ fun entry member => ?_
  obtain ⟨setting, inList, rfl⟩ := List.mem_map.mp member
  exact beside setting inList

theorem getLsbD_setAll_last (holds : setting.field.Holds register place)
    (beside : ∀ later ∈ after, ¬ later.field.Holds register place) :
    (setAll (before ++ setting :: after) registers register).getLsbD place =
      setting.value.getLsbD place := by
  have isHeld : setting.pair.1.Holds register place := holds
  unfold setAll
  rw [List.map_append, List.map_cons]
  refine Field.getLsbD_putAll_last _ isHeld fun entry member => ?_
  obtain ⟨later, inAfter, rfl⟩ := List.mem_map.mp member
  exact beside later inAfter

omit [DecidableEq Address] in
/-- Either nothing sets a bit, or something sets it last. -/
theorem exists_last (list : List (FieldWrite Address width)) (register : Address) (place : Nat) :
    (∀ setting ∈ list, ¬ setting.field.Holds register place) ∨
      ∃ before setting after, list = before ++ setting :: after ∧
        setting.field.Holds register place ∧
        ∀ later ∈ after, ¬ later.field.Holds register place := by
  induction list with
  | nil => exact .inl fun setting member => absurd member List.not_mem_nil
  | cons head rest inductionHypothesis =>
    rcases inductionHypothesis with none | ⟨before, setting, after, rfl, holds, last⟩
    · by_cases holds : head.field.Holds register place
      · exact .inr ⟨[], head, rest, rfl, holds, none⟩
      · refine .inl fun setting member => ?_
        rcases List.mem_cons.mp member with rfl | later
        · exact holds
        · exact none setting later
    · exact .inr ⟨head :: before, setting, after, rfl, holds, last⟩

/-- What is set is what the caller wants exactly if the foreign fields do no harm. -/
theorem setAll_eq_setOwn_iff (list : List (FieldWrite Address width))
    (registers : Address → BitVec width) :
    setAll list registers = setOwn list registers ↔ Harmless list registers := by
  constructor
  · rintro same before setting after rfl - register place holds last
    rw [← same]
    exact getLsbD_setAll_last holds last
  · intro harmless
    funext register
    refine BitVec.eq_of_getLsbD_eq fun place _ => ?_
    rcases exists_last list register place with none | ⟨before, setting, after, isList, holds, last⟩
    · rw [getLsbD_setAll none]
      exact (getLsbD_setAll fun setting member => none setting (List.mem_filter.mp member).1).symm
    · have all : (setAll list registers register).getLsbD place = setting.value.getLsbD place := by
        rw [isList]
        exact getLsbD_setAll_last holds last
      rw [all]
      cases isOwn : setting.own with
      | false =>
        exact (harmless before setting after isList isOwn register place holds last).symm
      | true =>
        have ownList : list.filter own = before.filter own ++ setting :: after.filter own := by
          rw [isList, List.filter_append, List.filter_cons_of_pos isOwn]
        unfold setOwn
        rw [ownList]
        exact (getLsbD_setAll_last holds fun later member =>
          last later (List.mem_filter.mp member).1).symm

/-- Foreign fields that hold in the end what they were set to do no harm. -/
theorem harmless_of_content (held : ∀ setting ∈ list, setting.own = false →
    setting.field.content (setOwn list registers) = setting.value &&& setting.field.mask) :
    Harmless list registers := by
  rintro before setting after isList isForeign register place ⟨rfl, inside⟩ -
  have member : setting ∈ list := isList ▸ List.mem_append_right _ List.mem_cons_self
  have bits := congrArg (BitVec.getLsbD · place) (held setting member isForeign)
  unfold Field.content at bits
  rwa [BitVec.getLsbD_and, BitVec.getLsbD_and, inside, Bool.and_true, Bool.and_true] at bits

end FieldWrite

end Library
