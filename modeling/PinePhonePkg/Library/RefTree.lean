/-
This file counts references in a tree of nodes: a node that is in use holds one
reference to its parent, whoever uses it, and the others are held from outside. The
counts are balanced if each node has as many references as there are users of it.

Each change of one node keeps the counts balanced when a reference goes over from
one user to another. When nobody holds anything from outside, no node is in use.
-/

import Mathlib.Algebra.BigOperators.Group.Finset.Piecewise
import Mathlib.Data.Finset.Max
import Mathlib.Data.Fintype.Card

namespace Library

namespace RefTree

variable {Node : Type} [Fintype Node] [DecidableEq Node]

/-- What a node holds on to: its parent if it is in use -/
def link (parent : Node → Option Node) (count : Node → Nat) (node : Node) : Option Node :=
  if 0 < count node then parent node else none

/-- The nodes that hold on to a node -/
def users (link : Node → Option Node) (node : Node) : Finset Node :=
  Finset.univ.filter fun other => link other = some node

/-- One more reference to a node from outside -/
def hold (holds : Node → Nat) (node : Node) : Node → Nat :=
  Function.update holds node (holds node + 1)

/-- One more reference to a node, if there is one -/
def holdUp (holds : Node → Nat) : Option Node → Node → Nat
  | none => holds
  | some node => hold holds node

/-- Each node has the references that are held from outside and those of its users. Roots are not
counted. -/
structure Balanced (isRoot : Node → Prop) (parent : Node → Option Node) (count holds : Node → Nat) :
    Prop where
  counts : ∀ node, ¬ isRoot node →
    count node = holds node + (users (link parent count) node).card
  roots : ∀ node, isRoot node → count node = 0

/-! ### Users -/

section Users

/-- Where one node holds on to another node than before, it is a user less there and one more here.
-/
theorem card_users_update (links : Node → Option Node) (node : Node) (next : Option Node)
    (target : Node) :
    (users (Function.update links node next) target).card + (if links node = some target then 1 else 0) =
      (users links target).card + if next = some target then 1 else 0 := by
  have parts : ∀ links : Node → Option Node, (users links target).card =
      (if links node = some target then 1 else 0) +
        ∑ other ∈ Finset.univ.erase node, if links other = some target then 1 else 0 := by
    intro links
    unfold users
    rw [Finset.card_filter]
    exact (Finset.add_sum_erase Finset.univ _ (Finset.mem_univ node)).symm
  have others : (∑ other ∈ Finset.univ.erase node,
      if Function.update links node next other = some target then 1 else 0) =
      ∑ other ∈ Finset.univ.erase node, if links other = some target then 1 else 0 := by
    refine Finset.sum_congr rfl fun other member => ?_
    rw [Function.update_of_ne (Finset.ne_of_mem_erase member)]
  rw [parts, parts links, others, Function.update_self]
  omega

variable {parent : Node → Option Node} {count : Node → Nat} (node : Node)

omit [Fintype Node] in
theorem link_update_count (value : Nat) :
    link parent (Function.update count node value) =
      Function.update (link parent count) node (if 0 < value then parent node else none) := by
  funext other
  unfold link
  by_cases same : other = node
  · subst same
    simp
  · simp [Function.update_of_ne same]

omit [Fintype Node] in
theorem link_update_parent (next : Option Node) :
    link (Function.update parent node next) count =
      Function.update (link parent count) node (if 0 < count node then next else none) := by
  funext other
  unfold link
  by_cases same : other = node
  · subst same
    simp
  · simp [Function.update_of_ne same]

end Users

/-! ### Changes of one node -/

section Changes

variable {isRoot : Node → Prop} {parent : Node → Option Node} {count holds : Node → Nat}
  {node : Node}

omit [Fintype Node] in
theorem hold_of_ne {other : Node} (different : other ≠ node) : hold holds node other = holds other :=
  Function.update_of_ne different _ _

omit [Fintype Node] in
theorem hold_self : hold holds node node = holds node + 1 := Function.update_self _ _ _

omit [Fintype Node] in
theorem holdUp_some : holdUp holds (some node) = hold holds node := rfl

omit [Fintype Node] in
theorem holdUp_apply (up : Option Node) (target : Node) :
    holdUp holds up target = holds target + if up = some target then 1 else 0 := by
  cases up with
  | none => rfl
  | some up =>
    rw [holdUp_some]
    by_cases same : target = up
    · subst same
      rw [hold_self, if_pos rfl]
    · rw [hold_of_ne same, if_neg fun equal => same (Option.some.inj equal).symm]
      rfl

/-- A node in use is held once more. -/
theorem Balanced.bump (balanced : Balanced isRoot parent count holds) (used : 0 < count node) :
    Balanced isRoot parent (Function.update count node (count node + 1)) (hold holds node) := by
  have same : link parent (Function.update count node (count node + 1)) = link parent count := by
    rw [link_update_count, if_pos (Nat.succ_pos _)]
    refine Function.update_eq_iff.mpr ⟨?_, fun _ _ => rfl⟩
    exact (if_pos used).symm
  refine ⟨fun target counted => ?_, fun target root => ?_⟩
  · rw [same]
    have before := balanced.counts target counted
    by_cases isNode : target = node
    · subst isNode
      rw [Function.update_self, hold_self]
      omega
    · rw [Function.update_of_ne isNode, hold_of_ne isNode]
      exact before
  · have isNode : target ≠ node := by
      rintro rfl
      exact absurd (balanced.roots target root) (Nat.pos_iff_ne_zero.mp used)
    rw [Function.update_of_ne isNode]
    exact balanced.roots target root

/-- A node that is held several times is held once less. -/
theorem Balanced.drop (balanced : Balanced isRoot parent count (hold holds node))
    (several : 1 < count node) :
    Balanced isRoot parent (Function.update count node (count node - 1)) holds := by
  have same : link parent (Function.update count node (count node - 1)) = link parent count := by
    rw [link_update_count, if_pos (Nat.sub_pos_of_lt several)]
    refine Function.update_eq_iff.mpr ⟨?_, fun _ _ => rfl⟩
    exact (if_pos (Nat.lt_trans Nat.zero_lt_one several)).symm
  refine ⟨fun target counted => ?_, fun target root => ?_⟩
  · rw [same]
    have before := balanced.counts target counted
    by_cases isNode : target = node
    · subst isNode
      rw [hold_self] at before
      rw [Function.update_self]
      omega
    · rw [hold_of_ne isNode] at before
      rw [Function.update_of_ne isNode]
      exact before
  · have isNode : target ≠ node := by
      rintro rfl
      exact absurd (balanced.roots target root) (by omega)
    rw [Function.update_of_ne isNode]
    exact balanced.roots target root

/-- What is held of roots does not matter. -/
theorem Balanced.hold_root (root : isRoot node) :
    Balanced isRoot parent count (hold holds node) ↔ Balanced isRoot parent count holds := by
  have same : ∀ target, ¬ isRoot target → hold holds node target = holds target :=
    fun target counted => hold_of_ne fun isNode => counted (isNode ▸ root)
  constructor
  · intro balanced
    refine ⟨fun target counted => ?_, balanced.roots⟩
    rw [← same target counted]
    exact balanced.counts target counted
  · intro balanced
    refine ⟨fun target counted => ?_, balanced.roots⟩
    rw [same target counted]
    exact balanced.counts target counted

/-- The reference to its parent goes over to a node that comes into use. -/
theorem Balanced.enter (balanced : Balanced isRoot parent count (holdUp holds (parent node)))
    (counted : ¬ isRoot node) (unused : count node = 0) (different : parent node ≠ some node) :
    Balanced isRoot parent (Function.update count node 1) (hold holds node) := by
  have noLink : link parent count node = none := if_neg (by omega)
  refine ⟨fun target isCounted => ?_, fun target root => ?_⟩
  · have before := balanced.counts target isCounted
    have users := card_users_update (link parent count) node (parent node) target
    rw [link_update_count, if_pos Nat.zero_lt_one]
    have noTarget : ¬ (none : Option Node) = some target := by simp
    rw [noLink, if_neg noTarget] at users
    rw [holdUp_apply] at before
    by_cases isNode : target = node
    · subst isNode
      rw [if_neg different] at users before
      rw [Function.update_self, hold_self]
      omega
    · rw [Function.update_of_ne isNode, hold_of_ne isNode]
      omega
  · have isNode : target ≠ node := fun same => counted (same ▸ root)
    rw [Function.update_of_ne isNode]
    exact balanced.roots target root

/-- The reference to its parent is left over from a node that goes out of use. -/
theorem Balanced.leave (balanced : Balanced isRoot parent count (hold holds node))
    (last : count node = 1) (different : parent node ≠ some node) :
    Balanced isRoot parent (Function.update count node 0) (holdUp holds (parent node)) := by
  have isLink : link parent count node = parent node := if_pos (by omega)
  refine ⟨fun target isCounted => ?_, fun target root => ?_⟩
  · have before := balanced.counts target isCounted
    have users := card_users_update (link parent count) node none target
    have noTarget : ¬ (none : Option Node) = some target := by simp
    rw [link_update_count, if_neg (Nat.lt_irrefl 0), holdUp_apply]
    rw [isLink, if_neg noTarget] at users
    by_cases isNode : target = node
    · subst isNode
      rw [hold_self] at before
      rw [if_neg different] at users ⊢
      rw [Function.update_self]
      omega
    · rw [hold_of_ne isNode] at before
      rw [Function.update_of_ne isNode]
      omega
  · by_cases isNode : target = node
    · rw [isNode, Function.update_self]
    · rw [Function.update_of_ne isNode]
      exact balanced.roots target root

/-- A node in use gives its reference to the old parent for one to the new. -/
theorem Balanced.move {next : Node} (balanced : Balanced isRoot parent count (hold holds next))
    (used : 0 < count node) :
    Balanced isRoot (Function.update parent node (some next)) count
      (holdUp holds (parent node)) := by
  have isLink : link parent count node = parent node := if_pos used
  refine ⟨fun target isCounted => ?_, balanced.roots⟩
  have before := balanced.counts target isCounted
  have users := card_users_update (link parent count) node (some next) target
  have gained := @holdUp_apply _ _ holds (some next) target
  rw [holdUp_some] at gained
  rw [link_update_parent, if_pos used, holdUp_apply]
  rw [isLink] at users
  omega

end Changes

/-! ### The whole tree -/

section Tree

variable {isRoot : Node → Prop} {parent : Node → Option Node} {count holds : Node → Nat}

/-- The parent of a node that is not in use does not matter. -/
theorem Balanced.move_unused {node : Node} {next : Option Node}
    (balanced : Balanced isRoot parent count holds) (unused : count node = 0) :
    Balanced isRoot (Function.update parent node next) count holds := by
  have same : link (Function.update parent node next) count = link parent count := by
    rw [link_update_parent, if_neg (by omega)]
    refine Function.update_eq_iff.mpr ⟨?_, fun _ _ => rfl⟩
    exact (if_neg (by omega)).symm
  refine ⟨fun target counted => ?_, balanced.roots⟩
  rw [same]
  exact balanced.counts target counted

/-- The parent of a node in use is in use. -/
theorem Balanced.parent_used (balanced : Balanced isRoot parent count holds) {node up : Node}
    (used : 0 < count node) (isParent : parent node = some up) : isRoot up ∨ 0 < count up := by
  by_cases root : isRoot up
  · exact .inl root
  · have member : node ∈ users (link parent count) up := by
      unfold users
      exact Finset.mem_filter.mpr ⟨Finset.mem_univ _, (if_pos used).trans isParent⟩
    have some := Finset.card_pos.mpr ⟨node, member⟩
    have counts := balanced.counts up root
    exact .inr (by omega)

/-- A node has one reference at most from each other node. -/
theorem Balanced.count_lt (balanced : Balanced isRoot parent count holds) {node : Node}
    (different : parent node ≠ some node) : count node < holds node + Fintype.card Node := by
  by_cases root : isRoot node
  · rw [balanced.roots node root]
    exact Nat.add_pos_right _ (Fintype.card_pos_iff.mpr ⟨node⟩)
  · have notUser : node ∉ users (link parent count) node := by
      intro isUser
      have linked := (Finset.mem_filter.mp isUser).2
      unfold link at linked
      split at linked
      next => exact different linked
      next => exact absurd linked (by simp)
    have fewer := Finset.card_lt_univ_of_notMem notUser
    have counts := balanced.counts node root
    omega

/-- In a tree of which nothing is held from outside no node is in use. -/
theorem Balanced.count_eq_zero (balanced : Balanced isRoot parent count holds) {rank : Node → Nat}
    (lower : ∀ node up, parent node = some up → rank up < rank node)
    (free : ∀ node, ¬ isRoot node → holds node = 0) (node : Node) : count node = 0 := by
  by_contra used
  have active : (Finset.univ.filter fun node => 0 < count node).Nonempty :=
    ⟨node, Finset.mem_filter.mpr ⟨Finset.mem_univ _, Nat.pos_of_ne_zero used⟩⟩
  obtain ⟨top, isNextp, highest⟩ := Finset.exists_max_image _ rank active
  have topUsed := (Finset.mem_filter.mp isNextp).2
  have counted : ¬ isRoot top := fun root => absurd (balanced.roots top root) (by omega)
  have counts := balanced.counts top counted
  rw [free top counted, Nat.zero_add] at counts
  obtain ⟨user, isUser⟩ := Finset.card_pos.mp (counts ▸ topUsed)
  have linked : link parent count user = some top := (Finset.mem_filter.mp isUser).2
  unfold link at linked
  split at linked
  next userUsed =>
    have above := highest user (Finset.mem_filter.mpr ⟨Finset.mem_univ _, userUsed⟩)
    exact absurd (lower user top linked) (Nat.not_lt_of_le above)
  next => exact absurd linked (by simp)

end Tree

end RefTree

end Library
