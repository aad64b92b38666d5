/-
This file is about looking for the nearest of several keys. Where the keys are sorted,
a bisection ends at the last key that is not above, and one more comparison decides.
Where they are not, each key is tried, and the first of the nearest is kept.
-/

import Mathlib.Algebra.Order.Group.Abs

namespace Library.Nearest

/-! ### Bisection -/

section Bisection

variable {Key : Type*} [LinearOrder Key]

/-- The window of a bisection: keys before it are below, and keys after it are above. -/
structure Window (keys : Nat → Key) (count : Nat) (key : Key) (low high : Int) : Prop where
  nonneg : 0 ≤ low
  inside : high < count
  meets : low ≤ high + 1
  before : ∀ index < count, (index : Int) < low → keys index < key
  after : ∀ index < count, high < (index : Int) → key < keys index

/-- A place where a bisection may end -/
structure Found (keys : Nat → Key) (count : Nat) (key : Key) (index : Nat) : Prop where
  inside : index < count
  below : index = 0 ∨ keys index ≤ key
  above : keys index = key ∨ ∀ later < count, index < later → key < keys later

variable {keys : Nat → Key} {count : Nat} {key : Key} {low high : Int}

theorem Window.start (keys : Nat → Key) (count : Nat) (key : Key) :
    Window keys count key 0 (count - 1) where
  nonneg := le_rfl
  inside := Int.sub_one_lt_of_le le_rfl
  meets := (Int.sub_add_cancel _ _).symm ▸ Int.natCast_nonneg count
  before := fun index _ before => absurd before (Int.not_lt.mpr (Int.natCast_nonneg index))
  after := fun _ inside after =>
    absurd (Int.le_sub_one_of_lt (Int.ofNat_lt.mpr inside)) (Int.not_le.mpr after)

variable (sorted : ∀ first second, first ≤ second → second < count → keys first ≤ keys second)
  (window : Window keys count key low high) {middle : Nat}
include sorted window

/-- The middle key is above: the window ends before it. -/
theorem Window.left (inWindow : low ≤ middle ∧ (middle : Int) ≤ high) (above : key < keys middle) :
    Window keys count key low (middle - 1) where
  nonneg := window.nonneg
  inside := (Int.sub_one_lt_of_le inWindow.2).trans window.inside
  meets := inWindow.1.trans (Int.sub_add_cancel _ _).ge
  before := window.before
  after := fun index inside after => by
    have later : middle ≤ index := by
      have := Int.lt_iff_add_one_le.mp after
      omega
    exact lt_of_lt_of_le above (sorted middle index later inside)

/-- The middle key is below: the window starts after it. -/
theorem Window.right (inWindow : low ≤ middle ∧ (middle : Int) ≤ high) (below : keys middle < key) :
    Window keys count key (middle + 1) high where
  nonneg := Int.add_nonneg (Int.natCast_nonneg middle) Int.one_nonneg
  inside := window.inside
  meets := Int.add_le_add_right inWindow.2 1
  before := fun index _ before => by
    have earlier : index ≤ middle := Int.ofNat_le.mp (Int.lt_add_one_iff.mp before)
    have inside : middle < count := by
      have := window.inside
      omega
    exact lt_of_le_of_lt (sorted index middle earlier inside) below
  after := window.after

omit sorted in
/-- An empty window is at the place where the key belongs. -/
theorem Window.found (some : 0 < count) (empty : high < low) :
    Found keys count key high.toNat := by
  obtain ⟨nonneg, inside, meets, before, after⟩ := window
  refine ⟨by omega, ?_, Or.inr fun later isInside isLater => after later isInside (by omega)⟩
  by_cases first : high.toNat = 0
  · exact Or.inl first
  · exact Or.inr (before high.toNat (by omega) (by omega)).le

end Bisection

/-! ### The nearest key -/

section Distance

variable {Key : Type*} [AddCommGroup Key] [LinearOrder Key] [IsOrderedAddMonoid Key]

/-- No key is nearer, and none as near is smaller. -/
structure IsNearest (keys : Nat → Key) (count : Nat) (key : Key) (best : Nat) : Prop where
  inside : best < count
  nearest : ∀ other < count, |key - keys best| ≤ |key - keys other|
  smallest : ∀ other < count, |key - keys best| = |key - keys other| → keys best ≤ keys other

variable {keys : Nat → Key} {count : Nat} {key : Key} {index : Nat}
  (sorted : ∀ first second, first ≤ second → second < count → keys first ≤ keys second)
  (found : Found keys count key index)
include sorted found

/-- Keys up to the place that was found are no nearer than the key there. -/
theorem Found.le_of_le {other : Nat} (earlier : other ≤ index) :
    |key - keys index| ≤ |key - keys other| ∧
      (|key - keys index| = |key - keys other| → keys index ≤ keys other) := by
  have ordered := sorted other index earlier found.inside
  rcases found.below with rfl | below
  · rw [Nat.le_zero.mp earlier]
    exact ⟨le_rfl, fun _ => le_rfl⟩
  · rw [abs_of_nonneg (sub_nonneg.mpr below), abs_of_nonneg (sub_nonneg.mpr (ordered.trans below))]
    refine ⟨sub_le_sub_left ordered key, fun same => ?_⟩
    exact (sub_right_injective same).le

/-- Of the keys after a place that was found with another key, the next one is the nearest. -/
theorem Found.next_le {other : Nat} (different : keys index ≠ key) (later : index < other)
    (inside : other < count) :
    |key - keys (index + 1)| ≤ |key - keys other| ∧
      (|key - keys (index + 1)| = |key - keys other| → keys (index + 1) ≤ keys other) := by
  have ordered := sorted (index + 1) other later inside
  have above := found.above.resolve_left different (index + 1) (lt_of_le_of_lt later inside)
    (Nat.lt_succ_self index)
  rw [abs_of_nonpos (sub_nonpos.mpr above.le),
    abs_of_nonpos (sub_nonpos.mpr (above.le.trans ordered))]
  exact ⟨neg_le_neg (sub_le_sub_left ordered key), fun _ => ordered⟩

/-- The next key is taken if it is nearer. -/
theorem Found.isNearest_next (inside : index + 1 < count)
    (nearer : |key - keys (index + 1)| < |key - keys index|) :
    IsNearest keys count key (index + 1) := by
  have different : keys index ≠ key := by
    rintro same
    rw [same, sub_self, abs_zero] at nearer
    exact absurd nearer (not_lt.mpr (abs_nonneg _))
  have both : ∀ other < count, |key - keys (index + 1)| ≤ |key - keys other| ∧
      (|key - keys (index + 1)| = |key - keys other| → keys (index + 1) ≤ keys other) := by
    intro other otherInside
    rcases Nat.lt_or_ge index other with later | earlier
    · exact found.next_le sorted different later otherInside
    · have far := lt_of_lt_of_le nearer (found.le_of_le sorted earlier).1
      exact ⟨far.le, fun same => absurd same far.ne⟩
  exact ⟨inside, fun other isInside => (both other isInside).1,
    fun other isInside => (both other isInside).2⟩

/-- Otherwise the place that was found is kept. -/
theorem Found.isNearest_self
    (noNearer : index + 1 < count → |key - keys index| ≤ |key - keys (index + 1)|) :
    IsNearest keys count key index := by
  have both : ∀ other < count, |key - keys index| ≤ |key - keys other| ∧
      (|key - keys index| = |key - keys other| → keys index ≤ keys other) := by
    intro other otherInside
    rcases Nat.lt_or_ge index other with later | earlier
    · refine ⟨?_, fun _ => sorted index other later.le otherInside⟩
      by_cases same : keys index = key
      · rw [same, sub_self, abs_zero]
        exact abs_nonneg _
      · exact (noNearer (lt_of_le_of_lt later otherInside)).trans
          (found.next_le sorted same later otherInside).1
    · exact found.le_of_le sorted earlier
  exact ⟨found.inside, fun other isInside => (both other isInside).1,
    fun other isInside => (both other isInside).2⟩

end Distance

/-! ### Trying each -/

section Trying

variable {Choice Cost : Type*} [LinearOrder Cost] (cost : Choice → Cost)

/-- A choice is taken if it costs less than the one before. -/
def improve (best choice : Choice) : Choice := if cost choice < cost best then choice else best

/-- A choice that costs no more than any other, and less than those before it -/
structure FirstLeast (choices : List Choice) (choice : Choice) : Prop where
  least : ∀ other ∈ choices, cost choice ≤ cost other
  first : ∃ before after, choices = before ++ choice :: after ∧
    ∀ other ∈ before, cost choice < cost other

theorem FirstLeast.mem {cost : Choice → Cost} {choices : List Choice} {choice : Choice}
    (least : FirstLeast cost choices choice) : choice ∈ choices := by
  obtain ⟨before, after, split, -⟩ := least.first
  rw [split]
  exact List.mem_append_right _ List.mem_cons_self

/-- What is left in the end costs the least. -/
theorem foldl_improve (first : Choice) (choices : List Choice) :
    FirstLeast cost (first :: choices) (choices.foldl (improve cost) first) := by
  induction choices generalizing first with
  | nil =>
    refine ⟨fun other member => ?_, [], [], rfl, fun other member =>
      absurd member List.not_mem_nil⟩
    rw [List.mem_singleton.mp member]
    exact le_rfl
  | cons choice rest inductionHypothesis =>
    rw [List.foldl_cons]
    obtain ⟨least, before, after, split, earlierMore⟩ := inductionHypothesis (improve cost first choice)
    generalize rest.foldl (improve cost) (improve cost first choice) = best
      at least split earlierMore ⊢
    unfold improve at least split
    by_cases less : cost choice < cost first
    · rw [if_pos less] at least split
      have bestLe := least choice List.mem_cons_self
      refine ⟨fun other member => ?_, first :: before, after, ?_, fun other member => ?_⟩
      · rcases List.mem_cons.mp member with rfl | later
        · exact bestLe.trans less.le
        · exact least other later
      · rw [split]
        rfl
      · rcases List.mem_cons.mp member with rfl | earlier
        · exact lt_of_le_of_lt bestLe less
        · exact earlierMore other earlier
    · rw [if_neg less] at least split
      have bestLe := least first List.mem_cons_self
      have choiceLe := bestLe.trans (not_lt.mp less)
      refine ⟨fun other member => ?_, ?_⟩
      · rcases List.mem_cons.mp member with rfl | later
        · exact bestLe
        · rcases List.mem_cons.mp later with rfl | later
          · exact choiceLe
          · exact least other (List.mem_cons_of_mem _ later)
      · cases before with
        | nil =>
          obtain ⟨rfl, isRest⟩ := List.cons.inj split
          exact ⟨[], choice :: rest, rfl, fun other member => absurd member List.not_mem_nil⟩
        | cons head before =>
          obtain ⟨rfl, isRest⟩ := List.cons.inj split
          have firstLess := earlierMore first List.mem_cons_self
          refine ⟨first :: choice :: before, after, ?_, fun other member => ?_⟩
          · rw [isRest]
            rfl
          · rcases List.mem_cons.mp member with rfl | later
            · exact firstLess
            · rcases List.mem_cons.mp later with rfl | later
              · exact lt_of_lt_of_le firstLess (not_lt.mp less)
              · exact earlierMore other (List.mem_cons_of_mem _ later)

end Trying

end Library.Nearest
