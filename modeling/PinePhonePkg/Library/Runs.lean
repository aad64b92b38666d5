/-
This file gives the runs of a machine that takes one input after the other. What
each step keeps holds in every state of a run, and a property that a step has
exactly under a condition holds along a run exactly when the condition does.
-/

import Mathlib.Tactic.Common

namespace Library

variable {State Input : Type}

section Runs

variable (step : State → Input → State)

/-- The state after the inputs. -/
def run : State → List Input → State
  | state, [] => state
  | state, input :: rest => run (step state input) rest

/-- The property holds of every step of the run, in the state the step finds. -/
def Along (property : State → Input → Prop) : State → List Input → Prop
  | _, [] => True
  | state, input :: rest => property state input ∧ Along property (step state input) rest

variable {step}

/-- What every step keeps holds after a run. -/
theorem run_invariant (invariant : State → Prop)
    (kept : ∀ state input, invariant state → invariant (step state input)) {state : State}
    (holds : invariant state) (inputs : List Input) : invariant (run step state inputs) := by
  induction inputs generalizing state with
  | nil => exact holds
  | cons input rest inductionHypothesis => exact inductionHypothesis (kept state input holds)

variable {property : State → Input → Prop}

/-- What the steps with the property keep holds after a run of such steps. -/
theorem Along.invariant {invariant : State → Prop}
    (kept : ∀ state input, invariant state → property state input → invariant (step state input))
    {state : State} {inputs : List Input} (holds : invariant state)
    (along : Along step property state inputs) : invariant (run step state inputs) := by
  induction inputs generalizing state with
  | nil => exact holds
  | cons input rest inductionHypothesis =>
    exact inductionHypothesis (kept state input holds along.1) along.2

/-- Two properties of a step that are the same in every state a run can reach are the same along the
run. -/
theorem along_congr {invariant : State → Prop} {first second : State → Input → Prop}
    (kept : ∀ state input, invariant state → invariant (step state input))
    (same : ∀ state input, invariant state → (first state input ↔ second state input))
    {state : State} (holds : invariant state) (inputs : List Input) :
    Along step first state inputs ↔ Along step second state inputs := by
  induction inputs generalizing state with
  | nil => rfl
  | cons input rest inductionHypothesis =>
    exact and_congr (same state input holds) (inductionHypothesis (kept state input holds))

/-- A machine of places of which each input sets some: a place holds what it was last set to. -/
theorem run_set_eq {Place Value : Type} (sets : Input → Place → Option Value)
    (start : Place → Value) (inputs : List Input) (place : Place) :
    run (fun values input place => (sets input place).getD (values place)) start inputs place =
      ((inputs.filterMap fun input => sets input place).getLast?).getD (start place) := by
  induction inputs generalizing start with
  | nil => rfl
  | cons input rest inductionHypothesis =>
    refine (inductionHypothesis _).trans ?_
    cases set : sets input place with
    | none => simp only [List.filterMap_cons, set, Option.getD_none]
    | some value => simp only [List.filterMap_cons, set, List.getLast?_cons, Option.getD_some]

/-! ### Two machines side by side -/

variable {Model : Type} (modelStep : Model → Input → Model) (related : State → Model → Prop)
  {condition : State → Input → Prop}

/-- When a step keeps two machines related exactly under a condition, they are related after every
part of a run exactly if the condition holds at each of its steps. -/
theorem related_throughout_iff
    (exactly : ∀ state model input, related state model →
      (related (step state input) (modelStep model input) ↔ condition state input))
    {state : State} {model : Model} (start : related state model) (inputs : List Input) :
    (∀ seen, seen <+: inputs → related (run step state seen) (run modelStep model seen)) ↔
      Along step condition state inputs := by
  induction inputs generalizing state model with
  | nil =>
    refine ⟨fun _ => trivial, fun _ seen initial => ?_⟩
    obtain rfl := List.prefix_nil.mp initial
    exact start
  | cons input rest inductionHypothesis =>
    constructor
    · intro throughout
      have next : related (step state input) (modelStep model input) :=
        throughout [input] ⟨rest, rfl⟩
      refine ⟨(exactly state model input start).mp next, ?_⟩
      refine (inductionHypothesis next).mp fun seen initial => ?_
      exact throughout (input :: seen) ((List.prefix_cons_inj input).mpr initial)
    · rintro ⟨met, along⟩ seen initial
      have next := (exactly state model input start).mpr met
      cases seen with
      | nil => exact start
      | cons first seen =>
        obtain ⟨rfl, behind⟩ := List.cons_prefix_cons.mp initial
        exact (inductionHypothesis next).mpr along seen behind

/-- When a step keeps a property exactly under a condition, the property holds after every part of
a run exactly if the condition holds at each of its steps. -/
theorem throughout_iff (holds : State → Prop)
    (exactly : ∀ state input, holds state → (holds (step state input) ↔ condition state input))
    {state : State} (start : holds state) (inputs : List Input) :
    (∀ seen, seen <+: inputs → holds (run step state seen)) ↔ Along step condition state inputs :=
  @related_throughout_iff State Input step Unit (fun _ _ => ()) (fun state _ => holds state)
    condition (fun state _ input => exactly state input) state () start inputs

end Runs

end Library
