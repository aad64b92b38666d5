/-
This file gives chains of nodes in a memory. Each node says where the next one
is, up to one that says it is the last. It also gives tilings: pieces of one size
and a rest, put one behind the other, are the whole range.
-/

import Mathlib.Data.List.Range
import Mathlib.Tactic.Ring

namespace Library

/-! ### Chains -/

section Chains

variable {Address Node : Type} (node : Address → Option Node) (last : Node → Bool)
  (next : Node → Address)

/-- The nodes from an address on, if one of the first `fuel` is the last. -/
def follow : Nat → Address → Option (List Node)
  | 0, _ => none
  | fuel + 1, address => do
    let here ← node address
    if last here then return [here]
    let rest ← follow fuel (next here)
    return here :: rest

variable {node last next}

/-- Nodes that each lead to the next one are a chain. -/
theorem follow_of_linked (place : Nat → Address) (element : Nat → Node) {first count fuel : Nat}
    (there : ∀ index ≤ first + count, first ≤ index → node (place index) = some (element index))
    (inner : ∀ index < first + count, first ≤ index → last (element index) = false)
    (ends : last (element (first + count)) = true)
    (linked : ∀ index < first + count, first ≤ index →
      next (element index) = place (index + 1))
    (enough : count < fuel) :
    follow node last next fuel (place first) =
      some ((List.range' first (count + 1)).map element) := by
  induction count generalizing first fuel with
  | zero =>
    cases fuel with
    | zero => cases enough
    | succ fuel =>
      have here := there first (Nat.le_refl _) (Nat.le_refl _)
      simp only [Nat.add_zero] at ends
      simp [follow, here, ends]
  | succ count inductionHypothesis =>
    cases fuel with
    | zero => cases enough
    | succ fuel =>
      have here := there first (Nat.le_add_right _ _) (Nat.le_refl _)
      have more := inner first (by omega) (Nat.le_refl _)
      have onward := linked first (by omega) (Nat.le_refl _)
      have shifted : first + (count + 1) = first + 1 + count := by ring
      rw [shifted] at there inner ends linked
      have rest : follow node last next fuel (place (first + 1)) =
          some ((List.range' (first + 1) (count + 1)).map element) := inductionHypothesis
        (fun index upper lower => there index upper (Nat.le_of_succ_le lower))
        (fun index upper lower => inner index upper (Nat.le_of_succ_le lower)) ends
        (fun index upper lower => linked index upper (Nat.le_of_succ_le lower))
        (Nat.lt_of_succ_lt_succ enough)
      simp [follow, here, more, onward, rest, List.range'_succ]

end Chains

/-! ### Tilings -/

/-- Pieces of one size and a last one, from an address on, are a range. -/
theorem flatMap_pieces (start size rest count : Nat) :
    ((List.range (count + 1)).flatMap fun index =>
        List.range' (start + index * size) (if index = count then rest else size)) =
      List.range' start (count * size + rest) := by
  have whole : ∀ pieces ≤ count, ((List.range pieces).flatMap fun index =>
      List.range' (start + index * size) (if index = count then rest else size)) =
        List.range' start (pieces * size) := by
    intro pieces before
    induction pieces with
    | zero => simp
    | succ pieces inductionHypothesis =>
      rw [List.range_succ, List.flatMap_append, inductionHypothesis (Nat.le_of_succ_le before),
        List.flatMap_singleton, if_neg (Nat.ne_of_lt before), List.range'_append_1, Nat.succ_mul]
  rw [List.range_succ, List.flatMap_append, whole count (Nat.le_refl _), List.flatMap_singleton,
    if_pos rfl, List.range'_append_1]

end Library
