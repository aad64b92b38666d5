/-
This file gives stores that keep a value in two copies, written one after the
other, where either write may fail and leave anything behind. What is known of
the copies follows from the writes and from how they went; it is enough to say
when a read that compares the copies returns a value that was written.
-/

import Mathlib.Data.List.Induction
import Mathlib.Tactic.Common

namespace Library

/-- How the two writes of a value went; after a failure the rest is not done. -/
inductive Outcome where
  | firstFailed
  | secondFailed
  | done
  deriving DecidableEq

/-- The value of the last write to each copy, unless that write failed. -/
structure Known (Value : Type) where
  first : Option Value
  second : Option Value

namespace Known

variable {Value : Type}

/-- Nothing is known of the copies. -/
def nothing : Known Value := ⟨none, none⟩

/-- What is known after a write -/
def after (known : Known Value) (value : Value) : Outcome → Known Value
  | .firstFailed => ⟨none, known.second⟩
  | .secondFailed => ⟨some value, none⟩
  | .done => ⟨some value, some value⟩

/-- What is known after these writes. -/
def ofWrites (writes : List (Value × Outcome)) : Known Value :=
  writes.foldl (fun known write => known.after write.1 write.2) nothing

@[simp]
theorem ofWrites_append (writes : List (Value × Outcome)) (value : Value) (outcome : Outcome) :
    ofWrites (writes ++ [(value, outcome)]) = (ofWrites writes).after value outcome := by
  simp only [ofWrites, List.foldl_append, List.foldl_cons, List.foldl_nil]

/-- What is known to be in a copy was written. -/
theorem mem_of_ofWrites (writes : List (Value × Outcome)) (value : Value)
    (known : (ofWrites writes).first = some value ∨ (ofWrites writes).second = some value) :
    value ∈ writes.map Prod.fst := by
  induction writes using List.reverseRecOn with
  | nil => rcases known with known | known <;> exact absurd known.symm (Option.some_ne_none _)
  | append_singleton writes last inductionHypothesis =>
    rw [ofWrites_append] at known
    rw [List.map_append, List.mem_append]
    cases outcome : last.2 with
    | firstFailed =>
      rw [outcome] at known
      rcases known with known | known
      · exact absurd known.symm (Option.some_ne_none _)
      · exact Or.inl (inductionHypothesis (Or.inr known))
    | secondFailed =>
      rw [outcome] at known
      rcases known with known | known
      · exact Or.inr (List.mem_singleton.mpr (Option.some.inj known).symm)
      · exact absurd known.symm (Option.some_ne_none _)
    | done =>
      rw [outcome] at known
      rcases known with known | known <;>
        exact Or.inr (List.mem_singleton.mpr (Option.some.inj known).symm)

/-! ### Copies that are as known -/

section Holds

variable {same : Value → Value → Prop}

/-- The copies are as known, up to a notion of being the same value. -/
def Holds (same : Value → Value → Prop) (known : Known Value) (first second : Value) : Prop :=
  (∀ value, known.first = some value → same first value) ∧
    ∀ value, known.second = some value → same second value

theorem holds_nothing (first second : Value) : Holds same nothing first second :=
  ⟨fun _ known => absurd known.symm (Option.some_ne_none _),
    fun _ known => absurd known.symm (Option.some_ne_none _)⟩

variable {known : Known Value} {first second newFirst newSecond : Value}

theorem Holds.kept (holds : known.Holds same first second)
    (trans : ∀ {one two three}, same one two → same two three → same one three)
    (firstKept : same newFirst first) (secondKept : same newSecond second) :
    known.Holds same newFirst newSecond :=
  ⟨fun value isKnown => trans firstKept (holds.1 value isKnown),
    fun value isKnown => trans secondKept (holds.2 value isKnown)⟩

/-- A write keeps the copies as known when each part that went well did what it should. -/
theorem Holds.after (holds : known.Holds same first second)
    (trans : ∀ {one two three}, same one two → same two three → same one three)
    {value : Value} {outcome : Outcome}
    (firstWritten : outcome ≠ .firstFailed → same newFirst value)
    (secondWritten : outcome = .done → same newSecond value)
    (secondKept : outcome = .firstFailed → same newSecond second) :
    (known.after value outcome).Holds same newFirst newSecond := by
  cases outcome with
  | firstFailed =>
    exact ⟨fun _ isKnown => absurd isKnown.symm (Option.some_ne_none _),
      fun other isKnown => trans (secondKept rfl) (holds.2 other isKnown)⟩
  | secondFailed =>
    refine ⟨fun other isKnown => ?_, fun _ isKnown => absurd isKnown.symm (Option.some_ne_none _)⟩
    rw [← Option.some.inj isKnown]
    exact firstWritten Outcome.noConfusion
  | done =>
    constructor
    · intro other isKnown
      rw [← Option.some.inj isKnown]
      exact firstWritten Outcome.noConfusion
    · intro other isKnown
      rw [← Option.some.inj isKnown]
      exact secondWritten rfl

/-- When the copies compare equal, what is known of either is the value of the first. -/
theorem Holds.compared (holds : known.Holds same first second)
    (trans : ∀ {one two three}, same one two → same two three → same one three)
    (equal : same first second) {value : Value}
    (isKnown : known.first = some value ∨ known.second = some value) : same first value := by
  rcases isKnown with isKnown | isKnown
  · exact holds.1 value isKnown
  · exact trans equal (holds.2 value isKnown)

end Holds

end Known

end Library
