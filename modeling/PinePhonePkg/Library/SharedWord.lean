/-
This file gives systems of components that have a state each and share one
value. A call is made to one component and may read and set both. A run visits
the calls one after the other until one of them halts the system.

A component runs as if it were alone when no call of it depends on what the
others left in the shared value: whenever the component would alone have found
a certain value there, its calls come to the same with the value they do find.
-/

import Mathlib.Logic.Function.Basic
import Mathlib.Data.List.Basic
import Mathlib.Tactic.Common

namespace Library

/-! ### Systems and their runs -/

/-- Components with states of their own and a shared word -/
structure System (Component Shared Own : Type) where
  shared : Shared
  part : Component → Own

/-- What a call comes to: its result, the shared value, and the state of its component. -/
structure Turn (Shared Own Result : Type) where
  result : Result
  shared : Shared
  own : Own

/-- One call of a run, with the system it found. -/
structure Visit (Component Shared Own Call Result : Type) where
  component : Component
  call : Call
  before : System Component Shared Own
  turn : Turn Shared Own Result

variable {Component Shared Own Call Result : Type} [DecidableEq Component]

/-- A component has had its turn. -/
def System.next (system : System Component Shared Own) (component : Component)
    (turn : Turn Shared Own Result) : System Component Shared Own :=
  ⟨turn.shared, Function.update system.part component turn.own⟩

@[simp]
theorem System.next_part_self (system : System Component Shared Own) (component : Component)
    (turn : Turn Shared Own Result) : (system.next component turn).part component = turn.own :=
  Function.update_self _ _ _

theorem System.next_part_of_ne (system : System Component Shared Own)
    {component other : Component} (distinct : other ≠ component)
    (turn : Turn Shared Own Result) :
    (system.next component turn).part other = system.part other :=
  Function.update_of_ne distinct _ _

section Runs

variable (step : Shared → Own → Call → Turn Shared Own Result) (halts : Result → Bool)

/-- The calls of a run in order, up to the first one that halts the system. -/
def System.visits : System Component Shared Own → List (Component × Call) →
    List (Visit Component Shared Own Call Result)
  | _, [] => []
  | system, (component, call) :: rest =>
      let turn := step system.shared (system.part component) call
      ⟨component, call, system, turn⟩ ::
        if halts turn.result then [] else System.visits (system.next component turn) rest

/-- What the calls of one component came to. -/
def resultsOf (component : Component) (visits : List (Visit Component Shared Own Call Result)) :
    List Result :=
  (visits.filter fun visit => visit.component = component).map fun visit => visit.turn.result

/-- The calls that are made to one component. -/
def callsOf (component : Component) (calls : List (Component × Call)) : List (Component × Call) :=
  calls.filter fun call => call.1 = component

theorem callsOf_cons_self (component : Component) (call : Call)
    (rest : List (Component × Call)) :
    callsOf component ((component, call) :: rest) =
      (component, call) :: callsOf component rest :=
  List.filter_cons_of_pos (decide_eq_true rfl)

theorem callsOf_cons_of_ne {component other : Component} (distinct : other ≠ component)
    (call : Call) (rest : List (Component × Call)) :
    callsOf component ((other, call) :: rest) = callsOf component rest :=
  List.filter_cons_of_neg (by simpa using distinct)

theorem resultsOf_cons_self (visit : Visit Component Shared Own Call Result)
    (rest : List (Visit Component Shared Own Call Result)) :
    resultsOf visit.component (visit :: rest) =
      visit.turn.result :: resultsOf visit.component rest := by
  unfold resultsOf
  rw [List.filter_cons_of_pos (by simp), List.map_cons]

theorem resultsOf_cons_of_ne {component : Component}
    {visit : Visit Component Shared Own Call Result} (distinct : visit.component ≠ component)
    (rest : List (Visit Component Shared Own Call Result)) :
    resultsOf component (visit :: rest) = resultsOf component rest := by
  unfold resultsOf
  rw [List.filter_cons_of_neg (by simpa using distinct)]

variable {step halts}

/-! ### Invariants of a run -/

/-- What holds of every component at first, and is kept by every call of the run, is met by
every visit. -/
theorem visits_invariant {invariant : Own → Prop} (system : System Component Shared Own)
    (calls : List (Component × Call)) (holds : ∀ component, invariant (system.part component))
    (keeps : ∀ visit ∈ system.visits step halts calls,
      invariant (visit.before.part visit.component) → invariant visit.turn.own) :
    ∀ visit ∈ system.visits step halts calls,
      invariant (visit.before.part visit.component) := by
  induction calls generalizing system with
  | nil => exact fun visit member => absurd member List.not_mem_nil
  | cons head rest inductionHypothesis =>
    obtain ⟨component, call⟩ := head
    intro visit member
    rcases List.mem_cons.mp member with rfl | later
    · exact holds component
    by_cases halted : halts (step system.shared (system.part component) call).result
    · rw [if_pos halted] at later
      exact absurd later List.not_mem_nil
    rw [if_neg halted] at later
    have kept := keeps _ List.mem_cons_self (holds component)
    refine inductionHypothesis _ (fun other => ?_) (fun visit member => ?_) visit later
    · by_cases same : other = component
      · subst same
        exact (System.next_part_self system other _).symm ▸ kept
      · rw [System.next_part_of_ne system same]
        exact holds other
    · exact keeps visit (List.mem_cons_of_mem _ (by rw [if_neg halted]; exact member))

/-- Every visit of a run is what the step makes of the system it found. -/
theorem visits_turn (system : System Component Shared Own) (calls : List (Component × Call)) :
    ∀ visit ∈ system.visits step halts calls,
      visit.turn = step visit.before.shared (visit.before.part visit.component) visit.call := by
  induction calls generalizing system with
  | nil => exact fun visit member => absurd member List.not_mem_nil
  | cons head rest inductionHypothesis =>
    obtain ⟨component, call⟩ := head
    intro visit member
    rcases List.mem_cons.mp member with rfl | later
    · rfl
    split at later
    · exact absurd later List.not_mem_nil
    · exact inductionHypothesis _ visit later

/-! ### A component alone -/

/-- The call comes to the same for the component whatever it finds in the shared value, as long
as that is the value the component `expects`, if it expects one. -/
def Insensitive (step : Shared → Own → Call → Turn Shared Own Result)
    (expects : Own → Option Shared) (shared : Shared) (own : Own) (call : Call) : Prop :=
  ∀ alone, (∀ value, expects own = some value → alone = value) →
    (step alone own call).result = (step shared own call).result ∧
      (step alone own call).own = (step shared own call).own

/-- In a run of insensitive calls that are never halted, the results of a component are those
of the run that has its own calls only. `expects` has to be what the component leaves in the
shared value itself. -/
theorem resultsOf_visits_alone {expects : Own → Option Shared} (component : Component)
    (leaves : ∀ shared own call, (∀ value, expects own = some value → shared = value) →
      ∀ value, expects (step shared own call).own = some value →
        (step shared own call).shared = value)
    (system alone : System Component Shared Own) (calls : List (Component × Call))
    (same : alone.part component = system.part component)
    (expected : ∀ value, expects (alone.part component) = some value → alone.shared = value)
    (insensitive : ∀ visit ∈ system.visits step halts calls, Insensitive step expects
      visit.before.shared (visit.before.part visit.component) visit.call)
    (running : ∀ visit ∈ system.visits step halts calls, halts visit.turn.result = false) :
    resultsOf component (alone.visits step halts (callsOf component calls)) =
      resultsOf component (system.visits step halts calls) := by
  induction calls generalizing system alone with
  | nil => rfl
  | cons head rest inductionHypothesis =>
    obtain ⟨other, call⟩ := head
    have continues := running _ List.mem_cons_self
    have later (visit) (member : visit ∈ (system.next other
        (step system.shared (system.part other) call)).visits step halts rest) :
        visit ∈ system.visits step halts ((other, call) :: rest) := by
      refine List.mem_cons_of_mem _ ?_
      rw [if_neg (by rw [continues]; exact Bool.false_ne_true)]
      exact member
    have unhalted : (system.visits step halts ((other, call) :: rest)) =
        ⟨other, call, system, step system.shared (system.part other) call⟩ ::
          (system.next other (step system.shared (system.part other) call)).visits
            step halts rest := by
      show _ :: (if _ then _ else _) = _
      rw [if_neg (by rw [continues]; exact Bool.false_ne_true)]
    by_cases mine : other = component
    · subst mine
      obtain ⟨result, own⟩ := insensitive _ List.mem_cons_self alone.shared
        (fun value wanted => expected value (same ▸ wanted))
      dsimp only at result own
      have aloneUnhalted : alone.visits step halts ((other, call) :: callsOf other rest) =
          ⟨other, call, alone, step alone.shared (alone.part other) call⟩ ::
            (alone.next other (step alone.shared (alone.part other) call)).visits
              step halts (callsOf other rest) := by
        show _ :: (if _ then _ else _) = _
        rw [same, result, if_neg (by rw [continues]; exact Bool.false_ne_true)]
      rw [callsOf_cons_self, aloneUnhalted, unhalted]
      refine (resultsOf_cons_self _ _).trans (Eq.trans ?_ (resultsOf_cons_self _ _).symm)
      refine congr (congrArg List.cons ?_) (inductionHypothesis _ _ ?_ ?_
        (fun visit member => insensitive visit (later visit member))
        fun visit member => running visit (later visit member))
      · show (step alone.shared (alone.part other) call).result = _
        rw [same, result]
      · rw [System.next_part_self, System.next_part_self, same, own]
      · rw [System.next_part_self]
        exact leaves alone.shared (alone.part other) call expected
    · have distinct : component ≠ other := fun equal => mine equal.symm
      rw [callsOf_cons_of_ne mine, unhalted]
      refine Eq.trans ?_ (resultsOf_cons_of_ne mine _).symm
      exact inductionHypothesis _ alone (by rw [System.next_part_of_ne _ distinct, same]) expected
        (fun visit member => insensitive visit (later visit member))
        fun visit member => running visit (later visit member)

end Runs

end Library
