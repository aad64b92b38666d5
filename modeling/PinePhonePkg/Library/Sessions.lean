/-
This file gives the sessions of a machine that answers each input. Where every
step of one machine answers as the step of another and keeps the two related, whole
sessions do.
-/

import PinePhonePkg.Library.Runs

namespace Library

variable {State Input Reply : Type}

/-- The replies to the inputs, and the state after them -/
def session (step : State → Input → Reply × State) : State → List Input → List Reply × State
  | state, [] => ([], state)
  | state, input :: rest =>
    ((step state input).1 :: (session step (step state input).2 rest).1,
      (session step (step state input).2 rest).2)

section Sessions

variable {step : State → Input → Reply × State}

/-- What every step keeps is kept by a session. -/
theorem session_keeps {Kept : Type} (kept : State → Kept) {admitted : Input → Prop}
    (keeps : ∀ state input, admitted input → kept (step state input).2 = kept state)
    (state : State) {inputs : List Input} (all : ∀ input ∈ inputs, admitted input) :
    kept (session step state inputs).2 = kept state := by
  induction inputs generalizing state with
  | nil => rfl
  | cons input rest inductionHypothesis =>
    have first := keeps state input (all input List.mem_cons_self)
    exact (inductionHypothesis _ fun next member => all next (List.mem_cons_of_mem _ member)).trans
      first

variable {Model : Type} {modelStep : Model → Input → Reply × Model}
  {related : State → Model → Prop} {admitted : Input → Prop}

/-- A machine whose steps answer as those of the model, from related states to related states,
answers a session as the model does. -/
theorem session_refines
    (refines : ∀ state model input, related state model → admitted input →
      (step state input).1 = (modelStep model input).1 ∧
        related (step state input).2 (modelStep model input).2)
    {state : State} {model : Model} (start : related state model) {inputs : List Input}
    (all : ∀ input ∈ inputs, admitted input) :
    (session step state inputs).1 = (session modelStep model inputs).1 ∧
      related (session step state inputs).2 (session modelStep model inputs).2 := by
  induction inputs generalizing state model with
  | nil => exact ⟨rfl, start⟩
  | cons input rest inductionHypothesis =>
    obtain ⟨reply, next⟩ := refines state model input start (all input List.mem_cons_self)
    obtain ⟨replies, final⟩ :=
      inductionHypothesis next fun later member => all later (List.mem_cons_of_mem _ member)
    exact ⟨congrArg₂ List.cons reply replies, final⟩

/-- The same where what is asked of an input depends on the state the model is in. -/
theorem session_refines_along {allowed : Model → Input → Prop}
    (refines : ∀ state model input, related state model → allowed model input →
      (step state input).1 = (modelStep model input).1 ∧
        related (step state input).2 (modelStep model input).2)
    {state : State} {model : Model} (start : related state model) {inputs : List Input}
    (along : Along (fun model input => (modelStep model input).2) allowed model inputs) :
    (session step state inputs).1 = (session modelStep model inputs).1 ∧
      related (session step state inputs).2 (session modelStep model inputs).2 := by
  induction inputs generalizing state model with
  | nil => exact ⟨rfl, start⟩
  | cons input rest inductionHypothesis =>
    obtain ⟨reply, next⟩ := refines state model input start along.1
    obtain ⟨replies, final⟩ := inductionHypothesis next along.2
    exact ⟨congrArg₂ List.cons reply replies, final⟩

end Sessions

end Library
