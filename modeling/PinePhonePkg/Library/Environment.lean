/-
This file gives programs in an environment that may answer a request in more than one
way. What is ensured holds however the environment answers; it is found by going through
the program from its end, and it holds of each outcome the program can have. A trial
is a program that may give up, as one that waits may not wait for ever. Where something
else may happen before each request, what it always keeps is all that counts of it.
-/

import PinePhonePkg.Library.Program

namespace Library

namespace Program

variable {Request : Type} {Reply : Request → Type} {State First Result : Type}

/-! ### What a program can end with -/

section Ensures

variable (may : (request : Request) → State → Reply request → State → Prop)

/-- The environment may answer such that the program ends with the result, in the second state. -/
inductive Outcome : Program Request Reply Result → State → Result → State → Prop
  | done (result : Result) (state : State) : Outcome (.done result) state result state
  | call (request : Request) (next : Reply request → Program Request Reply Result)
      (reply : Reply request) (state after last : State) (result : Result)
      (answered : may request state reply after) (rest : Outcome (next reply) after result last) :
      Outcome (.call request next) state result last

/-- However the environment answers, `post` holds at the end. -/
def Ensures (post : Result → State → Prop) : Program Request Reply Result → State → Prop
  | done result, state => post result state
  | call request next, state =>
    ∀ reply after, may request state reply after → Ensures post (next reply) after

variable {may} {post : Result → State → Prop}

theorem ensures_iff (program : Program Request Reply Result) (state : State) :
    Ensures may post program state ↔
      ∀ result last, Outcome may program state result last → post result last := by
  constructor
  · intro ensured result last outcome
    induction outcome with
    | done result state => exact ensured
    | call request next reply state after last result answered rest inductionHypothesis =>
      exact inductionHypothesis (ensured reply after answered)
  · intro every
    induction program generalizing state with
    | done result => exact every result state (.done result state)
    | call request next inductionHypothesis =>
      intro reply after answered
      refine inductionHypothesis reply after fun result last outcome => ?_
      exact every result last (.call request next reply state after last result answered outcome)

@[simp]
theorem ensures_pure (result : Result) (state : State) :
    Ensures may post (pure result : Program Request Reply Result) state ↔ post result state :=
  Iff.rfl

@[simp]
theorem ensures_send (request : Request) (post : Reply request → State → Prop) (state : State) :
    Ensures may post (send request) state ↔
      ∀ reply after, may request state reply after → post reply after := Iff.rfl

@[simp]
theorem ensures_bind (program : Program Request Reply First)
    (next : First → Program Request Reply Result) (state : State) :
    Ensures may post (program >>= next) state ↔
      Ensures may (fun result after => Ensures may post (next result) after) program state := by
  induction program generalizing state with
  | done result => rfl
  | call request rest inductionHypothesis =>
    exact forall₂_congr fun reply after => imp_congr Iff.rfl (inductionHypothesis reply after)

theorem Ensures.mono {weaker : Result → State → Prop} {program : Program Request Reply Result}
    {state : State} (ensured : Ensures may post program state)
    (weakens : ∀ result after, post result after → weaker result after) :
    Ensures may weaker program state := by
  induction program generalizing state with
  | done result => exact weakens result state ensured
  | call request next inductionHypothesis =>
    exact fun reply after answered => inductionHypothesis reply (ensured reply after answered)

/-- An environment that may do less ensures more. -/
theorem Ensures.of_may {fewer : (request : Request) → State → Reply request → State → Prop}
    {program : Program Request Reply Result} {state : State}
    (ensured : Ensures may post program state)
    (among : ∀ request state reply after, fewer request state reply after →
      may request state reply after) :
    Ensures fewer post program state := by
  induction program generalizing state with
  | done result => exact ensured
  | call request next inductionHypothesis =>
    intro reply after answered
    exact inductionHypothesis reply (ensured reply after (among request state reply after answered))

end Ensures

end Program

/-! ### Trials -/

/-- A program that may give up -/
abbrev Trial (Request : Type) (Reply : Request → Type) : Type → Type :=
  OptionT (Program Request Reply)

namespace Trial

variable {Request : Type} {Reply : Request → Type} {State First Result : Type}
  (may : (request : Request) → State → Reply request → State → Prop)

/-- One request, which ends -/
def send (request : Request) : Trial Request Reply (Reply request) :=
  OptionT.lift (Program.send request)

/-- However the environment answers, `post` holds if the trial ends, and `stuck` where it gives
up. -/
def Ensures (post : Result → State → Prop) (stuck : State → Prop)
    (trial : Trial Request Reply Result) (state : State) : Prop :=
  Program.Ensures may (fun result after => result.elim (stuck after) fun value => post value after)
    trial.run state

variable {may} {post : Result → State → Prop} {stuck : State → Prop}

@[simp]
theorem ensures_pure (result : Result) (state : State) :
    Ensures may post stuck (pure result : Trial Request Reply Result) state ↔
      post result state := Iff.rfl

@[simp]
theorem ensures_send (request : Request) (post : Reply request → State → Prop) (state : State) :
    Ensures may post stuck (send request : Trial Request Reply (Reply request)) state ↔
      ∀ reply after, may request state reply after → post reply after := Iff.rfl

@[simp]
theorem ensures_bind (trial : Trial Request Reply First)
    (next : First → Trial Request Reply Result) (state : State) :
    Ensures may post stuck (trial >>= next) state ↔
      Ensures may (fun result after => Ensures may post stuck (next result) after) stuck trial
        state := by
  unfold Ensures
  rw [OptionT.run_bind, Option.elimM, Program.ensures_bind]
  have same : ∀ (first : Option First) (after : State),
      Program.Ensures may
          (fun result last => result.elim (stuck last) fun value => post value last)
          (first.elim (pure none) fun result => (next result).run) after ↔
        first.elim (stuck after) fun value => Program.Ensures may
          (fun result last => result.elim (stuck last) fun value => post value last)
          (next value).run after := by
    intro first after
    cases first <;> rfl
  simp only [same]

theorem Ensures.mono {weaker : Result → State → Prop} {given : State → Prop}
    {trial : Trial Request Reply Result} {state : State}
    (ensured : Ensures may post stuck trial state)
    (weakens : ∀ result after, post result after → weaker result after)
    (gives : ∀ after, stuck after → given after) :
    Ensures may weaker given trial state := by
  refine Program.Ensures.mono ensured fun result after holds => ?_
  cases result with
  | none => exact gives after holds
  | some value => exact weakens value after holds

/-- To show a property of a sequence, show what its first part ends with. -/
theorem Ensures.bind {middle : First → State → Prop} {trial : Trial Request Reply First}
    {next : First → Trial Request Reply Result} {state : State}
    (first : Ensures may middle stuck trial state)
    (rest : ∀ result after, middle result after → Ensures may post stuck (next result) after) :
    Ensures may post stuck (trial >>= next) state :=
  (ensures_bind trial next state).mpr (first.mono rest fun _ gave => gave)

/-- What is ensured of a trial holds of each of its outcomes. -/
theorem Ensures.outcome {trial : Trial Request Reply Result} {state last : State}
    {result : Option Result} (ensured : Ensures may post stuck trial state)
    (outcome : Program.Outcome may trial.run state result last) :
    result.elim (stuck last) fun value => post value last :=
  (Program.ensures_iff trial.run state).mp ensured result last outcome

/-- An environment that may do less ensures more. -/
theorem Ensures.of_may {fewer : (request : Request) → State → Reply request → State → Prop}
    {trial : Trial Request Reply Result} {state : State}
    (ensured : Ensures may post stuck trial state)
    (among : ∀ request state reply after, fewer request state reply after →
      may request state reply after) :
    Ensures fewer post stuck trial state :=
  Program.Ensures.of_may ensured among

/-! ### What a trial keeps -/

/-- However the environment answers, a state in which the trial ends is related to the one in which
it starts. -/
def Keeps (may : (request : Request) → State → Reply request → State → Prop)
    (related : State → State → Prop) (trial : Trial Request Reply Result) : Prop :=
  ∀ state, Ensures may (fun _ after => related state after) (fun _ => True) trial state

namespace Keeps

variable {related : State → State → Prop}

theorem pure (refl : ∀ state, related state state) (result : Result) :
    Keeps may related (Pure.pure result : Trial Request Reply Result) := refl

theorem bind (trans : ∀ first second third, related first second → related second third →
      related first third)
    {trial : Trial Request Reply First} {next : First → Trial Request Reply Result}
    (first : Keeps may related trial) (rest : ∀ result, Keeps may related (next result)) :
    Keeps may related (trial >>= next) := by
  intro state
  refine (first state).bind fun result middle passed => ?_
  exact (rest result middle).mono (fun _ after => trans _ _ _ passed) fun _ gave => gave

/-- One step of a trial, which started from the base -/
theorem step (trans : ∀ first second third, related first second → related second third →
      related first third)
    {base state : State} (passed : related base state) {trial : Trial Request Reply First}
    {next : First → Trial Request Reply Result} (first : Keeps may related trial)
    (rest : ∀ result after, related base after →
      Ensures may post (fun _ => True) (next result) after) :
    Ensures may post (fun _ => True) (trial >>= next) state :=
  (first state).bind fun result after kept => rest result after (trans _ _ _ passed kept)

theorem ite {condition : Prop} [Decidable condition] {yes no : Trial Request Reply Result}
    (first : Keeps may related yes) (second : Keeps may related no) :
    Keeps may related (if condition then yes else no) := by
  split
  · exact first
  · exact second

/-- What each request keeps, every trial keeps. -/
theorem of_requests (refl : ∀ state, related state state)
    (trans : ∀ first second third, related first second → related second third →
      related first third)
    (request : ∀ request state reply after, may request state reply after → related state after)
    (trial : Trial Request Reply Result) : Keeps may related trial := by
  intro state
  have every : ∀ (program : Program Request Reply (Option Result)) (middle : State),
      related state middle →
      Program.Ensures may (fun result after => result.elim True fun _ => related state after)
        program middle := by
    intro program
    induction program with
    | done result =>
      intro middle passed
      cases result with
      | none => exact trivial
      | some value => exact passed
    | call sent next inductionHypothesis =>
      intro middle passed reply after answered
      exact inductionHypothesis reply after
        (trans _ _ _ passed (request sent middle reply after answered))
  exact every trial.run state (refl state)

end Keeps

/-! ### Interruptions -/

/-- The environment, where something else may happen before it answers. -/
def Interrupted (meanwhile : State → State → Prop)
    (may : (request : Request) → State → Reply request → State → Prop) (request : Request)
    (state : State) (reply : Reply request) (after : State) : Prop :=
  ∃ middle, meanwhile state middle ∧ may request middle reply after

variable {meanwhile : State → State → Prop}

/-- One request starts from wherever it was interrupted. -/
theorem ensures_interrupted_send (request : Request) (post : Reply request → State → Prop)
    (state : State) :
    Ensures (Interrupted meanwhile may) post stuck
        (send request : Trial Request Reply (Reply request)) state ↔
      ∀ middle, meanwhile state middle →
        Ensures may post stuck (send request : Trial Request Reply (Reply request)) middle := by
  simp only [ensures_send, Interrupted]
  constructor
  · exact fun holds middle passed reply after answered => holds reply after ⟨middle, passed, answered⟩
  · rintro holds reply after ⟨middle, passed, answered⟩
    exact holds middle passed reply after answered

end Trial

end Library
