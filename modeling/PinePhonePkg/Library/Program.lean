/-
This file gives programs that work by sending requests to an environment. A
program is the tree of its requests. It can be run against a server that has a
state, or looked at over every reply the environment might give; the rules for
the second carry over to each run of the first.
-/

import Mathlib.Data.List.Basic
import Mathlib.Tactic.Common

namespace Library

/-- A program is done with a result, or sends a request and goes on with the reply. -/
inductive Program (Request : Type) (Reply : Request → Type) (Result : Type) : Type where
  | done (result : Result)
  | call (request : Request) (next : Reply request → Program Request Reply Result)

/-- One request together with the reply it got. -/
structure Exchange (Request : Type) (Reply : Request → Type) where
  request : Request
  reply : Reply request

namespace Program

variable {Request : Type} {Reply : Request → Type} {State First Result : Type}

/-! ### Sequencing -/

/-- One program after the other -/
def bind : Program Request Reply First → (First → Program Request Reply Result) →
    Program Request Reply Result
  | done result, next => next result
  | call request rest, next => call request fun reply => (rest reply).bind next

instance : Monad (Program Request Reply) where
  pure := done
  bind := bind

/-- The program that sends one request and returns its reply. -/
def send (request : Request) : Program Request Reply (Reply request) :=
  call request done

theorem bind_done (program : Program Request Reply Result) : program.bind done = program := by
  induction program with
  | done result => rfl
  | call request next inductionHypothesis => simp only [bind, inductionHypothesis]

theorem bind_assoc {Second : Type} (program : Program Request Reply First)
    (next : First → Program Request Reply Second)
    (last : Second → Program Request Reply Result) :
    (program.bind next).bind last = program.bind fun result => (next result).bind last := by
  induction program with
  | done result => rfl
  | call request rest inductionHypothesis => simp only [bind, inductionHypothesis]

instance : LawfulMonad (Program Request Reply) :=
  LawfulMonad.mk' _ bind_done (fun _ _ => rfl) bind_assoc

/-! ### Running against a server -/

section Exec

variable (serve : (request : Request) → State → Reply request × State)

/-- The result of a program, and the state it leaves, when `serve` answers every request. -/
def exec : Program Request Reply Result → State → Result × State
  | done result, state => (result, state)
  | call request next, state => exec (next (serve request state).1) (serve request state).2

@[simp]
theorem exec_pure (result : Result) (state : State) :
    exec serve (pure result : Program Request Reply Result) state = (result, state) := rfl

@[simp]
theorem exec_send (request : Request) (state : State) :
    exec serve (send request) state = serve request state := rfl

@[simp]
theorem exec_bind (program : Program Request Reply First)
    (next : First → Program Request Reply Result) (state : State) :
    exec serve (program >>= next) state =
      exec serve (next (exec serve program state).1) (exec serve program state).2 := by
  induction program generalizing state with
  | done result => rfl
  | call request rest inductionHypothesis => exact inductionHypothesis _ _

theorem exec_ite (condition : Prop) [Decidable condition]
    (yes no : Program Request Reply Result) (state : State) :
    exec serve (if condition then yes else no) state =
      if condition then exec serve yes state else exec serve no state := by
  split <;> rfl

/-- The requests of a run with the replies they got, in order. -/
def trace : Program Request Reply Result → State → List (Exchange Request Reply)
  | done _, _ => []
  | call request next, state =>
      ⟨request, (serve request state).1⟩ ::
        trace (next (serve request state).1) (serve request state).2

@[simp]
theorem trace_bind (program : Program Request Reply First)
    (next : First → Program Request Reply Result) (state : State) :
    trace serve (program >>= next) state =
      trace serve program state ++
        trace serve (next (exec serve program state).1) (exec serve program state).2 := by
  induction program generalizing state with
  | done result => rfl
  | call request rest inductionHypothesis =>
    exact congrArg (List.cons _) (inductionHypothesis _ _)

theorem mem_trace_bind_first {program : Program Request Reply First}
    {next : First → Program Request Reply Result} {state : State}
    {exchange : Exchange Request Reply} (member : exchange ∈ trace serve program state) :
    exchange ∈ trace serve (program >>= next) state := by
  rw [trace_bind]
  exact List.mem_append_left _ member

theorem mem_trace_bind_rest {program : Program Request Reply First}
    {next : First → Program Request Reply Result} {state : State}
    {exchange : Exchange Request Reply}
    (member : exchange ∈
      trace serve (next (exec serve program state).1) (exec serve program state).2) :
    exchange ∈ trace serve (program >>= next) state := by
  rw [trace_bind]
  exact List.mem_append_right _ member

/-- Every reply of a run is the one the server gives in some state. -/
theorem exists_served_of_mem_trace {program : Program Request Reply Result} {state : State}
    {exchange : Exchange Request Reply} (member : exchange ∈ trace serve program state) :
    ∃ reached, exchange.reply = (serve exchange.request reached).1 := by
  induction program generalizing state with
  | done result => exact absurd member List.not_mem_nil
  | call request next inductionHypothesis =>
    rcases List.mem_cons.mp member with rfl | later
    · exact ⟨state, rfl⟩
    · exact inductionHypothesis _ later

/-- What an observer of a run sees: the requests, in order, and the result -/
def seen (program : Program Request Reply Result) (state : State) : List Request × Result :=
  ((trace serve program state).map Exchange.request, (exec serve program state).1)

theorem seen_bind (program : Program Request Reply First)
    (next : First → Program Request Reply Result) (state : State) :
    seen serve (program >>= next) state =
      ((seen serve program state).1 ++
          (seen serve (next (exec serve program state).1) (exec serve program state).2).1,
        (seen serve (next (exec serve program state).1) (exec serve program state).2).2) := by
  unfold seen
  rw [trace_bind, exec_bind, List.map_append]

end Exec

/-! ### Every run a program can have -/

/-- The environment may answer as in the trace, and the program then ends with the result. -/
inductive Run : Program Request Reply Result → List (Exchange Request Reply) → Result → Prop
  | done (result : Result) : Run (.done result) [] result
  | call (request : Request) (next : Reply request → Program Request Reply Result)
      (reply : Reply request) (trace : List (Exchange Request Reply)) (result : Result)
      (rest : Run (next reply) trace result) :
      Run (.call request next) (⟨request, reply⟩ :: trace) result

@[simp]
theorem run_pure_iff {result other : Result} {trace : List (Exchange Request Reply)} :
    Run (pure result : Program Request Reply Result) trace other ↔ trace = [] ∧ other = result := by
  constructor
  · rintro ⟨⟩
    exact ⟨rfl, rfl⟩
  · rintro ⟨rfl, rfl⟩
    exact .done _

/-- A run of a program that sends a request begins with a reply to it. -/
theorem run_call_iff {request : Request} {next : Reply request → Program Request Reply Result}
    {trace : List (Exchange Request Reply)} {result : Result} :
    Run (.call request next) trace result ↔
      ∃ reply rest, trace = ⟨request, reply⟩ :: rest ∧ Run (next reply) rest result := by
  constructor
  · rintro ⟨⟩
    exact ⟨_, _, rfl, ‹_›⟩
  · rintro ⟨reply, rest, rfl, run⟩
    exact .call request next reply rest result run

theorem run_map_iff {change : First → Result} {program : Program Request Reply First}
    {trace : List (Exchange Request Reply)} {result : Result} :
    Run (change <$> program) trace result ↔
      ∃ first, Run program trace first ∧ result = change first := by
  induction program generalizing trace with
  | done first =>
    refine run_pure_iff.trans ⟨?_, ?_⟩
    · rintro ⟨rfl, rfl⟩
      exact ⟨first, .done first, rfl⟩
    · rintro ⟨other, run, rfl⟩
      obtain ⟨rfl, rfl⟩ := run_pure_iff.mp run
      exact ⟨rfl, rfl⟩
  | call request next inductionHypothesis =>
    refine run_call_iff.trans ⟨?_, ?_⟩
    · rintro ⟨reply, rest, rfl, changed⟩
      obtain ⟨first, run, rfl⟩ := (inductionHypothesis reply).mp changed
      exact ⟨first, run_call_iff.mpr ⟨reply, rest, rfl, run⟩, rfl⟩
    · rintro ⟨first, whole, rfl⟩
      obtain ⟨reply, rest, rfl, run⟩ := run_call_iff.mp whole
      exact ⟨reply, rest, rfl, (inductionHypothesis reply).mpr ⟨first, run, rfl⟩⟩

/-- A run of a sequence is a run of its first part and then a run of what follows. -/
theorem run_bind_iff {program : Program Request Reply First}
    {next : First → Program Request Reply Result} {trace : List (Exchange Request Reply)}
    {result : Result} :
    Run (program >>= next) trace result ↔
      ∃ before first after, trace = before ++ after ∧ Run program before first ∧
        Run (next first) after result := by
  induction program generalizing trace with
  | done first =>
    refine ⟨fun run => ⟨[], first, trace, rfl, .done first, run⟩, ?_⟩
    rintro ⟨before, other, after, rfl, ended, run⟩
    obtain ⟨rfl, rfl⟩ := run_pure_iff.mp ended
    exact run
  | call request rest inductionHypothesis =>
    refine run_call_iff.trans ⟨?_, ?_⟩
    · rintro ⟨reply, left, rfl, run⟩
      obtain ⟨before, first, after, rfl, ended, follows⟩ := (inductionHypothesis reply).mp run
      exact ⟨⟨request, reply⟩ :: before, first, after, rfl, .call _ _ _ _ _ ended, follows⟩
    · rintro ⟨before, first, after, rfl, whole, follows⟩
      obtain ⟨reply, left, rfl, run⟩ := run_call_iff.mp whole
      exact ⟨reply, left ++ after, rfl,
        (inductionHypothesis reply).mpr ⟨left, first, after, rfl, run, follows⟩⟩

/-- A run that begins with a request goes on with what follows the reply. -/
theorem run_send_bind_iff {request : Request} {next : Reply request → Program Request Reply Result}
    {trace : List (Exchange Request Reply)} {result : Result} :
    Run (send request >>= next) trace result ↔
      ∃ reply rest, trace = ⟨request, reply⟩ :: rest ∧ Run (next reply) rest result :=
  run_call_iff

theorem run_exec (serve : (request : Request) → State → Reply request × State)
    (program : Program Request Reply Result) (state : State) :
    Run program (trace serve program state) (exec serve program state).1 := by
  induction program generalizing state with
  | done result => exact .done result
  | call request next inductionHypothesis => exact .call _ _ _ _ _ (inductionHypothesis _ _)

/-- The run of a program whose first result is known -/
theorem run_exec_fst {First Second : Type} (serve : (request : Request) → State → Reply request × State)
    {program : Program Request Reply (First × Second)} {state : State} {first : First}
    (ends : (exec serve program state).1.1 = first) :
    Run program (trace serve program state) (first, (exec serve program state).1.2) := by
  have run := run_exec serve program state
  rw [← ends]
  exact run

/-- What is asked of the requests and of the result holds of every run in which the replies are as
assumed. -/
def EachRun (assumed : Exchange Request Reply → Prop)
    (post : List (Exchange Request Reply) → Result → Prop)
    (program : Program Request Reply Result) : Prop :=
  ∀ trace result, Run program trace result → (∀ exchange ∈ trace, assumed exchange) →
    post trace result

section EachRun

variable {assumed : Exchange Request Reply → Prop}
  {post : List (Exchange Request Reply) → Result → Prop}

theorem eachRun_pure {result : Result} (holds : post [] result) :
    EachRun assumed post (pure result : Program Request Reply Result) := by
  intro trace other run _
  obtain ⟨rfl, rfl⟩ := run_pure_iff.mp run
  exact holds

theorem eachRun_call {request : Request} {next : Reply request → Program Request Reply Result}
    (rest : ∀ reply, assumed ⟨request, reply⟩ →
      EachRun assumed (fun trace => post (⟨request, reply⟩ :: trace)) (next reply)) :
    EachRun assumed post (call request next) := by
  intro trace result run given
  obtain ⟨reply, after, rfl, later⟩ := run_call_iff.mp run
  exact rest reply (given _ List.mem_cons_self) after result later fun exchange member =>
    given exchange (List.mem_cons_of_mem _ member)

/-- A run of a sequence goes on from what the run of its first part has come to. -/
theorem EachRun.bind {middle : List (Exchange Request Reply) → First → Prop}
    {program : Program Request Reply First} {next : First → Program Request Reply Result}
    (first : EachRun assumed middle program)
    (rest : ∀ before result, middle before result →
      EachRun assumed (fun after => post (before ++ after)) (next result)) :
    EachRun assumed post (program >>= next) := by
  intro trace result run given
  obtain ⟨before, ended, after, rfl, earlier, later⟩ := run_bind_iff.mp run
  have reached := first before ended earlier fun exchange member =>
    given exchange (List.mem_append_left _ member)
  exact rest before ended reached after result later fun exchange member =>
    given exchange (List.mem_append_right _ member)

theorem EachRun.mono {weaker : List (Exchange Request Reply) → Result → Prop}
    {program : Program Request Reply Result} (each : EachRun assumed post program)
    (weakens : ∀ trace result, post trace result → weaker trace result) :
    EachRun assumed weaker program :=
  fun trace result run given => weakens trace result (each trace result run given)

end EachRun

/-- As long as the replies are as assumed, every request is allowed and the result meets `post`. -/
def Always (assumed : Exchange Request Reply → Prop) (allowed : Request → Prop)
    (post : Result → Prop) : Program Request Reply Result → Prop
  | done result => post result
  | call request next =>
      allowed request ∧
        ∀ reply, assumed ⟨request, reply⟩ → Always assumed allowed post (next reply)

section Always

variable {assumed : Exchange Request Reply → Prop} {allowed : Request → Prop}
  {post : Result → Prop}

@[simp]
theorem always_pure (result : Result) :
    Always assumed allowed post (pure result : Program Request Reply Result) ↔ post result :=
  Iff.rfl

@[simp]
theorem always_send (request : Request) (post : Reply request → Prop) :
    Always assumed allowed post (send request) ↔
      allowed request ∧ ∀ reply, assumed ⟨request, reply⟩ → post reply := Iff.rfl

@[simp]
theorem always_bind (program : Program Request Reply First)
    (next : First → Program Request Reply Result) :
    Always assumed allowed post (program >>= next) ↔
      Always assumed allowed (fun result => Always assumed allowed post (next result)) program := by
  induction program with
  | done result => rfl
  | call request rest inductionHypothesis =>
    exact and_congr Iff.rfl (forall₂_congr fun reply _ => inductionHypothesis reply)

theorem Always.mono {wider : Request → Prop} {weaker : Result → Prop}
    {program : Program Request Reply Result} (always : Always assumed allowed post program)
    (widens : ∀ request, allowed request → wider request)
    (weakens : ∀ result, post result → weaker result) :
    Always assumed wider weaker program := by
  induction program with
  | done result => exact weakens _ always
  | call request next inductionHypothesis =>
    exact ⟨widens _ always.1, fun reply given => inductionHypothesis reply (always.2 reply given)⟩

/-- To show a property of a sequence, show what its first part always ends with. -/
theorem Always.bind {middle : First → Prop} {program : Program Request Reply First}
    {next : First → Program Request Reply Result}
    (first : Always assumed allowed middle program)
    (rest : ∀ result, middle result → Always assumed allowed post (next result)) :
    Always assumed allowed post (program >>= next) :=
  (always_bind program next).mpr (first.mono (fun _ allows => allows) rest)

/-- A program that sends allowed requests only, whatever it is answered, may end anyhow. -/
theorem Always.weaken {program : Program Request Reply Result}
    (always : Always assumed allowed post program) :
    Always assumed allowed (fun _ => True) program :=
  always.mono (fun _ allows => allows) (fun _ _ => trivial)

/-- With nothing asked of requests and results, every program meets it. -/
theorem always_any (program : Program Request Reply Result) :
    Always assumed (fun _ => True) (fun _ => True) program := by
  induction program with
  | done result => trivial
  | call request next inductionHypothesis => exact ⟨trivial, fun reply _ => inductionHypothesis reply⟩

/-- A result that every run ends with is one the program always ends with. -/
theorem EachRun.always {program : Program Request Reply Result}
    (each : EachRun assumed (fun _ => post) program) :
    Always assumed (fun _ => True) post program := by
  induction program with
  | done result => exact each [] result (.done result) fun _ member => absurd member List.not_mem_nil
  | call request next inductionHypothesis =>
    refine ⟨trivial, fun reply given => inductionHypothesis reply fun trace result run all => ?_⟩
    refine each _ result (.call request next reply trace result run) fun exchange member => ?_
    rcases List.mem_cons.mp member with rfl | member
    · exact given
    · exact all exchange member

/-- What holds over all replies holds of every run in which the replies are as assumed. -/
theorem Always.run {program : Program Request Reply Result}
    (always : Always assumed allowed post program) {trace : List (Exchange Request Reply)}
    {result : Result} (run : Run program trace result)
    (given : ∀ exchange ∈ trace, assumed exchange) :
    (∀ exchange ∈ trace, allowed exchange.request) ∧ post result := by
  induction run with
  | done result => exact ⟨fun exchange member => absurd member List.not_mem_nil, always⟩
  | call request next reply trace result rest inductionHypothesis =>
    obtain ⟨all, holds⟩ := inductionHypothesis
      (always.2 reply (given _ List.mem_cons_self))
      (fun exchange member => given exchange (List.mem_cons_of_mem _ member))
    refine ⟨fun exchange member => ?_, holds⟩
    rcases List.mem_cons.mp member with rfl | member
    · exact always.1
    · exact all exchange member

/-- An invariant that every served request keeps holds after a run as well. -/
theorem Always.exec {program : Program Request Reply Result}
    (always : Always assumed allowed post program)
    (serve : (request : Request) → State → Reply request × State) {invariant : State → Prop}
    (keeps : ∀ request state, allowed request → invariant state →
      assumed ⟨request, (serve request state).1⟩ ∧ invariant (serve request state).2)
    {state : State} (holds : invariant state) :
    post (exec serve program state).1 ∧ invariant (exec serve program state).2 := by
  induction program generalizing state with
  | done result => exact ⟨always, holds⟩
  | call request next inductionHypothesis =>
    obtain ⟨given, kept⟩ := keeps request state always.1 holds
    exact inductionHypothesis _ (always.2 _ given) kept

/-- Whatever the server does, the result meets what holds over all replies. -/
theorem Always.result {program : Program Request Reply Result}
    (always : Always (fun _ => True) allowed post program)
    (serve : (request : Request) → State → Reply request × State) (state : State) :
    post (Program.exec serve program state).1 :=
  (always.run (run_exec serve program state) fun _ _ => trivial).2

end Always

/-! ### Which requests a program can send -/

/-- Whatever it is answered, the program sends allowed requests only. -/
abbrev Makes (allowed : Request → Prop) (program : Program Request Reply Result) : Prop :=
  Always (fun _ => True) allowed (fun _ => True) program

section Makes

variable {allowed : Request → Prop}

theorem Makes.pure (result : Result) :
    Makes allowed (Pure.pure result : Program Request Reply Result) := trivial

theorem Makes.bind {program : Program Request Reply First}
    {next : First → Program Request Reply Result} (first : Makes allowed program)
    (rest : ∀ result, Makes allowed (next result)) : Makes allowed (program >>= next) :=
  Always.bind first fun result _ => rest result

theorem Makes.ite {condition : Prop} [Decidable condition]
    {yes no : Program Request Reply Result} (first : Makes allowed yes) (second : Makes allowed no) :
    Makes allowed (if condition then yes else no) := by
  split
  · exact first
  · exact second

theorem Makes.send {request : Request} (allows : allowed request) :
    Makes allowed (Program.send request : Program Request Reply (Reply request)) :=
  ⟨allows, fun _ _ => trivial⟩

end Makes

/-! ### How many requests a program can send -/

/-- Whatever it is answered, the program sends at most so many requests. -/
def Within : Nat → Program Request Reply Result → Prop
  | _, done _ => True
  | 0, call _ _ => False
  | count + 1, call _ next => ∀ reply, Within count (next reply)

section Within

variable {count more : Nat} {program : Program Request Reply Result}

theorem within_pure (result : Result) :
    Within count (pure result : Program Request Reply Result) := by
  cases count <;> trivial

theorem Within.mono (within : Within count program) (le : count ≤ more) : Within more program := by
  induction program generalizing count more with
  | done result => exact within_pure result
  | call request next inductionHypothesis =>
    cases count with
    | zero => exact within.elim
    | succ count =>
      obtain ⟨more, rfl⟩ := Nat.exists_eq_add_of_le' (Nat.lt_of_lt_of_le (Nat.succ_pos count) le)
      exact fun reply => inductionHypothesis reply (within reply) (Nat.le_of_succ_le_succ le)

theorem Within.bind {program : Program Request Reply First}
    {next : First → Program Request Reply Result} (first : Within count program)
    (rest : ∀ result, Within more (next result)) : Within (count + more) (program >>= next) := by
  induction program generalizing count with
  | done result => exact (rest result).mono (Nat.le_add_left _ _)
  | call request following inductionHypothesis =>
    cases count with
    | zero => exact first.elim
    | succ count =>
      rw [Nat.succ_add]
      exact fun reply => inductionHypothesis reply (first reply)

theorem Within.andReturn {program : Program Request Reply First} (within : Within count program)
    (change : First → Result) : Within count (program >>= fun result => pure (change result)) := by
  have both : Within (count + 0) (program >>= fun result => pure (change result)) :=
    within.bind fun result => within_pure _
  exact both

theorem Within.ite {condition : Prop} [Decidable condition]
    {yes no : Program Request Reply Result} (first : Within count yes) (second : Within count no) :
    Within count (if condition then yes else no) := by
  split
  · exact first
  · exact second

theorem Within.run (within : Within count program) {trace : List (Exchange Request Reply)}
    {result : Result} (run : Run program trace result) : trace.length ≤ count := by
  induction run generalizing count with
  | done result => exact Nat.zero_le count
  | call request next reply trace result rest inductionHypothesis =>
    cases count with
    | zero => exact within.elim
    | succ count => exact Nat.succ_le_succ (inductionHypothesis (within reply))

end Within

/-! ### Replies that say more -/

section Reading

variable {Wide : Request → Type}
  (narrow : (request : Request) → Wide request → Reply request)

/-- The program in an environment whose replies say more than it looks at -/
def reading : Program Request Reply Result → Program Request Wide Result
  | done result => done result
  | call request next => call request fun reply => (next (narrow request reply)).reading

variable {narrow}

theorem Always.reading {assumed : Exchange Request Reply → Prop} {allowed : Request → Prop}
    {post : Result → Prop} {program : Program Request Reply Result}
    (always : Always assumed allowed post program) :
    Always (fun exchange => assumed ⟨exchange.request, narrow exchange.request exchange.reply⟩)
      allowed post (program.reading narrow) := by
  induction program with
  | done result => exact always
  | call request next inductionHypothesis =>
    exact ⟨always.1, fun reply given => inductionHypothesis _ (always.2 _ given)⟩

end Reading

/-! ### Requests that are sent among others -/

section Sending

variable {Wider : Type} {WiderReply : Wider → Type} (widen : Request → Wider)
  (narrow : (request : Request) → WiderReply (widen request) → Reply request)

/-- The program in an environment that is sent other requests as well -/
def sending : Program Request Reply Result → Program Wider WiderReply Result
  | done result => done result
  | call request next => call (widen request) fun reply => (next (narrow request reply)).sending

variable {widen narrow}

/-- A server that answers the requests by one part of its state answers the whole program by it. -/
theorem exec_sending {Whole : Type} {serve : (request : Request) → State → Reply request × State}
    {serveWide : (request : Wider) → Whole → WiderReply request × Whole} (place : State → Whole)
    (served : ∀ request state,
      narrow request (serveWide (widen request) (place state)).1 = (serve request state).1 ∧
        (serveWide (widen request) (place state)).2 = place (serve request state).2)
    (program : Program Request Reply Result) (state : State) :
    exec serveWide (program.sending widen narrow) (place state) =
      ((exec serve program state).1, place (exec serve program state).2) := by
  induction program generalizing state with
  | done result => rfl
  | call request next inductionHypothesis =>
    obtain ⟨reply, left⟩ := served request state
    simp only [sending, exec, reply, left, inductionHypothesis]

end Sending

end Program

end Library
