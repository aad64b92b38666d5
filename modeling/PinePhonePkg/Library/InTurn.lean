/-
This file gives the program that sends requests in turn and stops at the first
that is refused, with a result for each refusal. It ends well in one run only,
the one in which every request of the list is granted, and no run goes beyond
the list.
-/

import PinePhonePkg.Library.Program

namespace Library

namespace Program

variable {Request Result : Type}

/-- The requests are sent one after the other until one is refused; each comes with the result
in case it is. -/
def inTurn (well : Result) : List (Request × Result) → Program Request (fun _ => Bool) Result
  | [] => pure well
  | step :: rest => do
    if ← send step.1 then inTurn well rest else pure step.2

/-- A request and the reply that grants it -/
def granted (request : Request) : Exchange Request fun _ => Bool := ⟨request, true⟩

theorem inTurn_cons (well : Result) (step : Request × Result) (rest : List (Request × Result)) :
    inTurn well (step :: rest) =
      send step.1 >>= fun reply => if reply then inTurn well rest else pure step.2 :=
  rfl

theorem inTurn_single (request : Request) :
    inTurn true [(request, false)] = send request := by
  rw [inTurn_cons]
  refine congrArg (call request) (funext fun reply => ?_)
  cases reply with
  | true | false => rfl

/-- An early return when a request is refused, before the rest of the list -/
theorem inTurn_guard (well refused : Result) (request : Request)
    (rest : List (Request × Result)) :
    (do
      if !(← send request) then
        return refused
      inTurn well rest) = inTurn well ((request, refused) :: rest) := by
  refine congrArg (call request) (funext fun reply => ?_)
  cases reply with
  | true | false => rfl

/-- A part that only tells whether it went well is continued by the rest of the list. -/
theorem inTurn_part (well refused : Result) (part : List Request)
    (rest : List (Request × Result)) :
    (inTurn true (part.map fun request => (request, false)) >>= fun went =>
        if went then inTurn well rest else pure refused) =
      inTurn well (part.map (fun request => (request, refused)) ++ rest) := by
  induction part with
  | nil => rfl
  | cons request part inductionHypothesis =>
    rw [List.map_cons, List.map_cons, List.cons_append, inTurn_cons, inTurn_cons,
      LawfulMonad.bind_assoc]
    congr 1
    funext reply
    cases reply with
    | true => exact inductionHypothesis
    | false => rfl

/-- The program ends well if every request is granted. -/
theorem run_inTurn_iff {well : Result} {steps : List (Request × Result)}
    (fails : ∀ step ∈ steps, step.2 ≠ well) {trace : List (Exchange Request fun _ => Bool)} :
    Run (inTurn well steps) trace well ↔ trace = steps.map fun step => granted step.1 := by
  induction steps generalizing trace with
  | nil => exact run_pure_iff.trans (and_iff_left rfl)
  | cons step rest inductionHypothesis =>
    have restFails : ∀ other ∈ rest, other.2 ≠ well :=
      fun other member => fails other (List.mem_cons_of_mem _ member)
    rw [inTurn_cons, run_send_bind_iff, List.map_cons]
    constructor
    · rintro ⟨reply, after, rfl, run⟩
      cases reply with
      | true => exact congrArg (List.cons _) ((inductionHypothesis restFails).mp run)
      | false => exact absurd (run_pure_iff.mp run).2.symm (fails step List.mem_cons_self)
    · rintro rfl
      exact ⟨true, _, rfl, (inductionHypothesis restFails).mpr rfl⟩

/-- What is sent is on the list, however the replies turn out. -/
theorem inTurn_sends {well result : Result} {steps : List (Request × Result)}
    {trace : List (Exchange Request fun _ => Bool)} (run : Run (inTurn well steps) trace result)
    {exchange : Exchange Request fun _ => Bool} (member : exchange ∈ trace) :
    ∃ step ∈ steps, step.1 = exchange.request := by
  induction steps generalizing trace with
  | nil =>
    rw [(run_pure_iff.mp run).1] at member
    exact absurd member List.not_mem_nil
  | cons step rest inductionHypothesis =>
    rw [inTurn_cons, run_send_bind_iff] at run
    obtain ⟨reply, after, rfl, run⟩ := run
    rcases List.mem_cons.mp member with rfl | later
    · exact ⟨step, List.mem_cons_self, rfl⟩
    cases reply with
    | true =>
      obtain ⟨other, among, same⟩ := inductionHypothesis run later
      exact ⟨other, List.mem_cons_of_mem _ among, same⟩
    | false =>
      rw [(run_pure_iff.mp run).1] at later
      exact absurd later List.not_mem_nil

end Program

end Library
