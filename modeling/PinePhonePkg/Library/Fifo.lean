/-
This file gives bounded queues and rings. A bounded queue is a list that takes
elements at its end, up to a number of them, and gives them back from its front.
A ring is a number of slots with two cursors, and is read from one cursor to the
other. It has one slot more than the queue has elements at most, so a full ring
is not mistaken for an empty one.
-/

import Mathlib.Data.List.Basic
import Mathlib.Tactic.Common

namespace Library

/-! ### Bounded queues -/

namespace Fifo

/-- What a queue is asked for -/
inductive Call (Item : Type) : Type where
  | enqueue (item : Item)
  | dequeue
  | isEmpty
  | isFull

/-- What it answers -/
inductive Reply (Item : Type) : Type where
  | done
  | refused
  | item (item : Item)
  | truth (value : Bool)

variable {Item : Type}

/-- The same call with other items -/
def Call.map {Other : Type} (change : Item → Other) : Call Item → Call Other
  | enqueue item => enqueue (change item)
  | dequeue => dequeue
  | isEmpty => isEmpty
  | isFull => isFull

variable (capacity : Nat)

/-- What a call does to a queue of some capacity -/
def step (content : List Item) : Call Item → Reply Item × List Item
  | .enqueue item =>
    if content.length = capacity then (.refused, content) else (.done, content ++ [item])
  | .dequeue =>
    match content with
    | [] => (.refused, [])
    | item :: rest => (.item item, rest)
  | .isEmpty => (.truth content.isEmpty, content)
  | .isFull => (.truth (content.length == capacity), content)

/-- The replies to some calls, and what is left in the queue. -/
def run : List Item → List (Call Item) → List (Reply Item) × List Item
  | content, [] => ([], content)
  | content, call :: rest =>
    let (reply, next) := step capacity content call
    let (replies, last) := run next rest
    (reply :: replies, last)

theorem step_length_le {content : List Item} (fits : content.length ≤ capacity)
    (call : Call Item) : (step capacity content call).2.length ≤ capacity := by
  cases call with
  | enqueue item =>
    by_cases full : content.length = capacity
    · simp only [step, full, if_true, Nat.le_refl]
    · simp only [step, full, if_false, List.length_append]
      exact Nat.lt_of_le_of_ne fits full
  | dequeue =>
    cases content with
    | nil => exact fits
    | cons item rest => exact Nat.le_of_succ_le fits
  | isEmpty | isFull => exact fits

/-- A queue never has more elements than it may. -/
theorem run_length_le {content : List Item} (fits : content.length ≤ capacity)
    (calls : List (Call Item)) : (run capacity content calls).2.length ≤ capacity := by
  induction calls generalizing content with
  | nil => exact fits
  | cons call rest inductionHypothesis =>
    exact inductionHypothesis (step_length_le capacity fits call)

end Fifo

/-! ### Rings -/

namespace Ring

variable (size : Nat)

/-- The place some steps behind a cursor -/
def place (cursor offset : Nat) : Nat :=
  if cursor + offset < size then cursor + offset else cursor + offset - size

/-- The number of slots from one cursor to the other -/
def held (head tail : Nat) : Nat :=
  if head ≤ tail then tail - head else size - head + tail

variable {Item : Type}

/-- What is in the slots from one cursor to the other -/
def contents (slots : Nat → Item) (head tail : Nat) : List Item :=
  (List.range (held size head tail)).map fun offset => slots (place size head offset)

variable {size}

theorem contents_congr {first second : Nat → Item} {head tail : Nat} (inside : head < size)
    (within : tail < size) (same : ∀ slot < size, first slot = second slot) :
    contents size first head tail = contents size second head tail := by
  refine List.map_congr_left fun offset member => same _ ?_
  have before := List.mem_range.mp member
  simp only [held, place] at before ⊢
  split at before <;> split <;> omega

theorem length_contents (slots : Nat → Item) (head tail : Nat) :
    (contents size slots head tail).length = held size head tail := by
  rw [contents, List.length_map, List.length_range]

theorem place_one_eq_mod {cursor : Nat} (inside : cursor < size) :
    place size cursor 1 = (cursor + 1) % size := by
  unfold place
  split
  · rename_i before
    exact (Nat.mod_eq_of_lt before).symm
  · have last : cursor + 1 = size := by omega
    rw [last, Nat.mod_self, Nat.sub_self]

theorem place_one_lt {cursor : Nat} (inside : cursor < size) : place size cursor 1 < size := by
  unfold place
  split <;> omega

/-- The ring is empty exactly if the cursors are at one slot. -/
theorem held_eq_zero_iff {head : Nat} (inside : head < size) (tail : Nat) :
    held size head tail = 0 ↔ head = tail := by
  unfold held
  split <;> omega

theorem contents_eq_nil_iff {head : Nat} (inside : head < size) (tail : Nat)
    (slots : Nat → Item) : contents size slots head tail = [] ↔ head = tail := by
  rw [← List.length_eq_zero_iff, length_contents, held_eq_zero_iff inside]

section Cursors

variable {head tail : Nat} (headInside : head < size) (tailInside : tail < size)
include headInside tailInside

/-- The ring is full exactly if the second cursor is right behind the first. -/
theorem held_eq_iff : held size head tail = size - 1 ↔ place size tail 1 = head := by
  unfold held place
  split <;> split <;> omega

/-- A new element goes to the slot of the second cursor. -/
theorem contents_push (slots : Nat → Item) (item : Item) (room : place size tail 1 ≠ head) :
    contents size (Function.update slots tail item) head (place size tail 1) =
      contents size slots head tail ++ [item] := by
  have more : held size head (place size tail 1) = held size head tail + 1 := by
    revert room
    unfold held place
    split <;> split <;> split <;> omega
  have last : place size head (held size head tail) = tail := by
    unfold held place
    split <;> split <;> omega
  unfold contents
  rw [more, List.range_succ, List.map_append, List.map_singleton, last, Function.update_self]
  refine congrArg (· ++ [item]) (List.map_congr_left fun offset member => ?_)
  have before := List.mem_range.mp member
  have apart : place size head offset ≠ tail := by
    revert before
    unfold held place
    split <;> split <;> omega
  rw [Function.update_of_ne apart]

/-- The oldest element is in the slot of the first cursor. -/
theorem contents_pop (slots : Nat → Item) (some : head ≠ tail) :
    contents size slots head tail =
      slots head :: contents size slots (place size head 1) tail := by
  have more : held size head tail = held size (place size head 1) tail + 1 := by
    revert some
    unfold held place
    split <;> split <;> split <;> omega
  have first : place size head 0 = head := by simp [place, headInside]
  unfold contents
  rw [more, List.range_succ_eq_map, List.map_cons, List.map_map, first]
  refine congrArg (slots head :: ·) (List.map_congr_left fun offset member => ?_)
  have before := List.mem_range.mp member
  have shifted : place size head (offset + 1) = place size (place size head 1) offset := by
    revert before
    unfold held place
    split <;> split <;> split <;> split <;> omega
  rw [Function.comp_apply, Nat.succ_eq_add_one, shifted]

end Cursors

end Ring

end Library
