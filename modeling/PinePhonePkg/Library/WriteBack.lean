/-
This file gives words of a memory that are kept outside it, each with a mark that
it has changed, and written back when other words are needed. As long as no two
of them are at one address, the memory with the words in place of what it holds
is what every operation acts on.
-/

import Mathlib.Logic.Function.Basic
import Mathlib.Tactic.Common

namespace Library

/-- A word that is kept -/
structure KeptWord (Address Word : Type) : Type where
  addr : Address
  data : Word
  change : Bool

/-- A memory and the words of it that are kept -/
structure WriteBack (Key Address Word : Type) : Type where
  memory : Address → Word
  kept : Key → KeptWord Address Word

namespace WriteBack

variable {Key Address Word : Type}

/-- Other words are kept. -/
def loadAll (addr : Key → Address) (state : WriteBack Key Address Word) :
    WriteBack Key Address Word :=
  { state with
    kept := fun key => { state.kept key with addr := addr key, data := state.memory (addr key) } }

/-! ### What is shown -/

/-- The memory with the words that are kept in place of what it holds -/
structure Shows (state : WriteBack Key Address Word) (target : Address → Word) : Prop where
  apart : ∀ key other, (state.kept key).addr = (state.kept other).addr → key = other
  inside : ∀ key, target (state.kept key).addr = (state.kept key).data
  outside : ∀ addr, (∀ key, addr ≠ (state.kept key).addr) → target addr = state.memory addr
  clean : ∀ key, (state.kept key).change = false →
    state.memory (state.kept key).addr = (state.kept key).data

/-- The word in the memory is the one that is kept. -/
def Written (state : WriteBack Key Address Word) (key : Key) : Prop :=
  state.memory (state.kept key).addr = (state.kept key).data

variable {state : WriteBack Key Address Word} {target : Address → Word}

/-- When everything is written, it is in the memory. -/
theorem Shows.memory_eq (shows : state.Shows target) (written : ∀ key, state.Written key) :
    state.memory = target := by
  funext addr
  by_cases kept : ∃ key, addr = (state.kept key).addr
  · obtain ⟨key, rfl⟩ := kept
    exact (written key).trans (shows.inside key).symm
  · exact (shows.outside addr fun key same => kept ⟨key, same⟩).symm

/-- When everything is written, other words can be kept. -/
theorem Shows.loadAll (shows : state.Shows target) (written : ∀ key, state.Written key)
    {addr : Key → Address} (apart : ∀ key other, addr key = addr other → key = other) :
    (loadAll addr state).Shows target := by
  have same := shows.memory_eq written
  exact ⟨apart, fun key => congrFun same.symm (addr key), fun place _ => congrFun same.symm place,
    fun key _ => rfl⟩

/-! ### Operations on one word -/

section Keep

variable [DecidableEq Key]

/-- Another word is kept. -/
def load (key : Key) (addr : Address) (state : WriteBack Key Address Word) :
    WriteBack Key Address Word :=
  { state with
    kept := Function.update state.kept key
      { state.kept key with addr := addr, data := state.memory addr } }

/-- The word that is kept is changed. -/
def set (key : Key) (change : Word → Word) (state : WriteBack Key Address Word) :
    WriteBack Key Address Word :=
  { state with
    kept := Function.update state.kept key
      { state.kept key with data := change (state.kept key).data, change := true } }

theorem kept_load_self (key : Key) (addr : Address) :
    (load key addr state).kept key =
      { state.kept key with addr := addr, data := state.memory addr } :=
  Function.update_self _ _ _

theorem kept_load_of_ne {key other : Key} (addr : Address) (different : other ≠ key) :
    (load key addr state).kept other = state.kept other :=
  Function.update_of_ne different _ _

theorem kept_set_self (key : Key) (change : Word → Word) :
    (set key change state).kept key =
      { state.kept key with data := change (state.kept key).data, change := true } :=
  Function.update_self _ _ _

theorem kept_set_of_ne {key other : Key} (change : Word → Word) (different : other ≠ key) :
    (set key change state).kept other = state.kept other :=
  Function.update_of_ne different _ _

theorem addr_set (key : Key) (change : Word → Word) (other : Key) :
    ((set key change state).kept other).addr = (state.kept other).addr := by
  by_cases same : other = key
  · rw [same, kept_set_self]
  · rw [kept_set_of_ne change same]

/-- A written word makes room for another one. -/
theorem Shows.load (shows : state.Shows target) {key : Key} (written : state.Written key)
    {addr : Address} (apart : ∀ other, other ≠ key → (state.kept other).addr ≠ addr) :
    (load key addr state).Shows target := by
  have self : (WriteBack.load key addr state).kept key =
      { state.kept key with addr := addr, data := state.memory addr } := kept_load_self key addr
  have others : ∀ other, other ≠ key → (WriteBack.load key addr state).kept other =
      state.kept other := fun other => kept_load_of_ne addr
  have here : target addr = state.memory addr := by
    by_cases same : addr = (state.kept key).addr
    · rw [same]
      exact (shows.inside key).trans written.symm
    · refine shows.outside addr fun other same' => ?_
      by_cases isKey : other = key
      · exact same (isKey ▸ same')
      · exact apart other isKey same'.symm
  refine ⟨fun first second same => ?_, fun other => ?_, fun place elsewhere => ?_,
    fun other clean => ?_⟩
  · by_cases first' : first = key
    · by_cases second' : second = key
      · exact first'.trans second'.symm
      · rw [first', self, others second second'] at same
        exact absurd same.symm (apart second second')
    · by_cases second' : second = key
      · rw [second', self, others first first'] at same
        exact absurd same (apart first first')
      · rw [others first first', others second second'] at same
        exact shows.apart first second same
  · by_cases isKey : other = key
    · rw [isKey, self]
      exact here
    · rw [others other isKey]
      exact shows.inside other
  · by_cases same : place = (state.kept key).addr
    · rw [same]
      exact (shows.inside key).trans written.symm
    · refine shows.outside place fun other => ?_
      by_cases isKey : other = key
      · exact isKey ▸ same
      · exact others other isKey ▸ elsewhere other
  · by_cases isKey : other = key
    · rw [isKey, self]
      rfl
    · rw [others other isKey] at clean ⊢
      exact shows.clean other clean

end Keep

variable [DecidableEq Address]

/-- The word is written, whether it has changed or not. -/
def store (key : Key) (state : WriteBack Key Address Word) : WriteBack Key Address Word :=
  { state with memory := Function.update state.memory (state.kept key).addr (state.kept key).data }

theorem written_store (key : Key) : (store key state).Written key :=
  Function.update_self _ _ _

theorem Shows.store (shows : state.Shows target) (key : Key) : (store key state).Shows target := by
  refine ⟨shows.apart, shows.inside, fun addr elsewhere => ?_, fun other clean => ?_⟩
  · exact (shows.outside addr elsewhere).trans (Function.update_of_ne (elsewhere key) _ _).symm
  · show Function.update state.memory _ _ (state.kept other).addr = (state.kept other).data
    by_cases same : (state.kept other).addr = (state.kept key).addr
    · rw [same, Function.update_self, shows.apart other key same]
    · rw [Function.update_of_ne same]
      exact shows.clean other clean

/-- What was written stays so. -/
theorem Shows.written_store_of_written (shows : state.Shows target) (key : Key) {other : Key}
    (written : state.Written other) : (WriteBack.store key state).Written other := by
  show Function.update state.memory _ _ (state.kept other).addr = (state.kept other).data
  by_cases same : (state.kept other).addr = (state.kept key).addr
  · rw [same, Function.update_self, shows.apart other key same]
  · exact (Function.update_of_ne same _ _).trans written

/-- Words are written one after the other, changed or not. -/
def storeAll (keys : List Key) (state : WriteBack Key Address Word) :
    WriteBack Key Address Word :=
  keys.foldl (fun state key => WriteBack.store key state) state

theorem Shows.storeAll (shows : state.Shows target) (keys : List Key) :
    (storeAll keys state).Shows target ∧
      ∀ key, state.Written key ∨ key ∈ keys → (storeAll keys state).Written key := by
  induction keys generalizing state with
  | nil => exact ⟨shows, fun key written => written.resolve_right List.not_mem_nil⟩
  | cons head rest inductionHypothesis =>
    obtain ⟨showsRest, written⟩ := inductionHypothesis (shows.store head)
    refine ⟨showsRest, fun key before => written key ?_⟩
    rcases before with before | member
    · exact .inl (shows.written_store_of_written head before)
    · rcases List.mem_cons.mp member with rfl | member
      · exact .inl (written_store key)
      · exact .inr member

variable [DecidableEq Key]

/-- A word that has changed is written. -/
def flush (key : Key) (state : WriteBack Key Address Word) : WriteBack Key Address Word :=
  if (state.kept key).change then
    { memory := Function.update state.memory (state.kept key).addr (state.kept key).data
      kept := Function.update state.kept key { state.kept key with change := false } }
  else state

theorem kept_flush (key other : Key) :
    ((flush key state).kept other).addr = (state.kept other).addr ∧
      ((flush key state).kept other).data = (state.kept other).data := by
  unfold flush
  split
  · by_cases same : other = key
    · subst same
      simp
    · simp [Function.update_of_ne same]
  · exact ⟨rfl, rfl⟩

theorem kept_flush_of_ne {key other : Key} (different : other ≠ key) :
    (flush key state).kept other = state.kept other := by
  unfold flush
  split
  · exact Function.update_of_ne different _ _
  · rfl

theorem Shows.written_flush (shows : state.Shows target) (key : Key) :
    (flush key state).Written key := by
  unfold Written flush
  split
  next => simp
  next clean => exact shows.clean key (eq_false_of_ne_true clean)

/-- What was written stays so. -/
theorem Shows.written_flush_of_written (shows : state.Shows target) (key : Key) {other : Key}
    (written : state.Written other) : (flush key state).Written other := by
  by_cases same : other = key
  · exact same ▸ shows.written_flush other
  · have elsewhere : (state.kept other).addr ≠ (state.kept key).addr :=
      fun here => same (shows.apart other key here)
    unfold Written at *
    rw [(kept_flush key other).1, (kept_flush key other).2]
    unfold flush
    split
    · exact (Function.update_of_ne elsewhere _ _).trans written
    · exact written

theorem Shows.flush (shows : state.Shows target) (key : Key) : (flush key state).Shows target := by
  have written := shows.written_flush key
  refine ⟨fun first second same => ?_, fun other => ?_, fun addr elsewhere => ?_,
    fun other clean => ?_⟩
  · rw [(kept_flush key first).1, (kept_flush key second).1] at same
    exact shows.apart first second same
  · rw [(kept_flush key other).1, (kept_flush key other).2]
    exact shows.inside other
  · have elsewhere' : ∀ other, addr ≠ (state.kept other).addr := by
      intro other
      rw [← (kept_flush key other).1]
      exact elsewhere other
    rw [shows.outside addr elsewhere']
    unfold WriteBack.flush
    split
    · exact (Function.update_of_ne (elsewhere' key) _ _).symm
    · rfl
  · by_cases same : other = key
    · exact same ▸ written
    · rw [kept_flush_of_ne same] at clean
      exact shows.written_flush_of_written key (shows.clean other clean)

/-- Words are written one after the other. -/
def flushAll (keys : List Key) (state : WriteBack Key Address Word) :
    WriteBack Key Address Word :=
  keys.foldl (fun state key => WriteBack.flush key state) state

theorem Shows.flushAll (shows : state.Shows target) (keys : List Key) :
    (flushAll keys state).Shows target ∧
      ∀ key, state.Written key ∨ key ∈ keys → (flushAll keys state).Written key := by
  induction keys generalizing state with
  | nil => exact ⟨shows, fun key written => written.resolve_right List.not_mem_nil⟩
  | cons head rest inductionHypothesis =>
    obtain ⟨showsRest, written⟩ := inductionHypothesis (shows.flush head)
    refine ⟨showsRest, fun key before => written key ?_⟩
    rcases before with before | member
    · exact .inl (shows.written_flush_of_written head before)
    · rcases List.mem_cons.mp member with rfl | member
      · exact .inl (shows.written_flush key)
      · exact .inr member

/-- A change of a word that is kept is one of the memory that is shown. -/
theorem Shows.set (shows : state.Shows target) (key : Key) (change : Word → Word) :
    (set key change state).Shows
      (Function.update target (state.kept key).addr (change (target (state.kept key).addr))) := by
  refine ⟨fun first second same => ?_, fun other => ?_, fun place elsewhere => ?_,
    fun other clean => ?_⟩
  · rw [addr_set, addr_set] at same
    exact shows.apart first second same
  · rw [addr_set]
    by_cases same : other = key
    · rw [same, kept_set_self, Function.update_self, shows.inside key]
    · rw [kept_set_of_ne change same,
        Function.update_of_ne (fun here => same (shows.apart other key here)), shows.inside other]
  · rw [Function.update_of_ne (addr_set key change key ▸ elsewhere key)]
    exact shows.outside place fun other =>
      addr_set key change other ▸ elsewhere other
  · by_cases same : other = key
    · rw [same, kept_set_self] at clean
      exact absurd clean.symm Bool.false_ne_true
    · rw [kept_set_of_ne change same] at clean ⊢
      exact shows.clean other clean

end WriteBack

end Library
