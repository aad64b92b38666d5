/-
This file gives frames of pixels and what is done to rectangles of them row by
row. A rectangle that is copied from the first row to the last is copied as a
whole exactly if it does not go down, or if going down changes no pixel that is
still to be copied.
-/

import Mathlib.Data.Nat.Notation
import Mathlib.Tactic.Common

namespace Library

/-- A pixel for each column and row. -/
abbrev Frame (Pixel : Type) : Type := Nat → Nat → Pixel

namespace Frame

variable {Pixel : Type}

/-- The place lies in the rectangle with this corner. -/
abbrev Inside (left top width height x y : Nat) : Prop :=
  left ≤ x ∧ x < left + width ∧ top ≤ y ∧ y < top + height

/-- The rectangle has one colour, and the rest is as before. -/
def fill (frame : Frame Pixel) (left top width height : Nat) (colour : Pixel) : Frame Pixel :=
  fun x y => if Inside left top width height x y then colour else frame x y

/-- The rectangle is a copy of the one that was at the source, and the rest is as before. -/
def move (frame : Frame Pixel) (sourceX sourceY left top width height : Nat) : Frame Pixel :=
  fun x y =>
    if Inside left top width height x y then frame (x - left + sourceX) (y - top + sourceY)
    else frame x y

theorem fill_zero (frame : Frame Pixel) (left top width : Nat) (colour : Pixel) :
    fill frame left top width 0 colour = frame := by
  funext x y
  exact if_neg (by omega)

/-- One more row of one colour. -/
theorem fill_succ (frame : Frame Pixel) (left top width height : Nat) (colour : Pixel) :
    fill (fill frame left top width height colour) left (top + height) width 1 colour =
      fill frame left top width (height + 1) colour := by
  funext x y
  unfold fill
  by_cases last : left ≤ x ∧ x < left + width ∧ top + height ≤ y ∧ y < top + height + 1
  · rw [if_pos last, if_pos (by omega)]
  · rw [if_neg last]
    exact if_congr (by omega) rfl rfl

/-! ### Row by row -/

/-- The first `height` rows of a rectangle are copied one after the other. -/
def moveRows (frame : Frame Pixel) (sourceX sourceY left top width : Nat) : Nat → Frame Pixel
  | 0 => frame
  | height + 1 =>
    move (moveRows frame sourceX sourceY left top width height) sourceX (sourceY + height) left
      (top + height) width 1

section Rows

variable (frame : Frame Pixel) (sourceX sourceY left top width : Nat)

theorem moveRows_outside {height x y : Nat} (outside : ¬ Inside left top width height x y) :
    moveRows frame sourceX sourceY left top width height x y = frame x y := by
  induction height with
  | zero => rfl
  | succ height inductionHypothesis =>
    unfold moveRows move
    rw [if_neg (by omega), inductionHypothesis (by omega)]

/-- A row is what its source was when it was copied, and later rows leave it. -/
theorem moveRows_inside {height row x : Nat} (reached : row < height) (right : left ≤ x)
    (inside : x < left + width) :
    moveRows frame sourceX sourceY left top width height x (top + row) =
      moveRows frame sourceX sourceY left top width row (x - left + sourceX) (sourceY + row) := by
  induction height with
  | zero => exact absurd reached (Nat.not_lt_zero _)
  | succ height inductionHypothesis =>
    conv_lhs => unfold moveRows move
    by_cases last : row = height
    · subst last
      rw [if_pos (by omega)]
      congr 1
      omega
    · rw [if_neg (by omega)]
      exact inductionHypothesis (by omega)

/-- No pixel that is copied and overwritten differs from the one that is copied over it. -/
def Repeats (height : Nat) : Prop :=
  ∀ x y, Inside sourceX sourceY width height x y → Inside left top width height x y →
    frame x y = frame (x - left + sourceX) (y - top + sourceY)

variable {frame sourceX sourceY left top width}

/-- Row by row is as a whole if no row of the source is overwritten before it is copied. -/
theorem moveRows_eq_of_kept {height : Nat}
    (kept : ∀ row < height, ∀ x, Inside sourceX sourceY width height x (sourceY + row) →
      moveRows frame sourceX sourceY left top width row x (sourceY + row) =
        frame x (sourceY + row)) :
    moveRows frame sourceX sourceY left top width height =
      move frame sourceX sourceY left top width height := by
  funext x y
  unfold move
  by_cases inside : Inside left top width height x y
  · obtain ⟨right, beforeEnd, below, above⟩ := inside
    obtain ⟨row, rfl⟩ := Nat.exists_eq_add_of_le below
    rw [if_pos ⟨right, beforeEnd, below, above⟩,
      moveRows_inside frame sourceX sourceY left top width (by omega) right beforeEnd,
      kept row (by omega) _ (by omega)]
    congr 1
    omega
  · rw [if_neg inside, moveRows_outside frame sourceX sourceY left top width inside]

theorem moveRows_eq_of_up {height : Nat} (up : top ≤ sourceY) :
    moveRows frame sourceX sourceY left top width height =
      move frame sourceX sourceY left top width height :=
  moveRows_eq_of_kept fun row _ _ _ =>
    moveRows_outside frame sourceX sourceY left top width (by omega)

/-- While what is overwritten repeats itself, the source stays as it was. -/
theorem moveRows_source {height rows : Nat}
    (repeats : Repeats frame sourceX sourceY left top width height) (reached : rows ≤ height)
    {x y : Nat} (inside : Inside sourceX sourceY width height x y) :
    moveRows frame sourceX sourceY left top width rows x y = frame x y := by
  induction rows generalizing x y with
  | zero => rfl
  | succ rows inductionHypothesis =>
    unfold moveRows move
    by_cases written : Inside left (top + rows) width 1 x y
    · obtain ⟨right, beforeEnd, below, above⟩ := written
      rw [if_pos ⟨right, beforeEnd, below, above⟩,
        inductionHypothesis (by omega) (by omega),
        repeats x y inside ⟨right, beforeEnd, by omega, by omega⟩]
      congr 1
      omega
    · rw [if_neg written]
      exact inductionHypothesis (by omega) inside

theorem moveRows_eq_of_repeats {height : Nat}
    (repeats : Repeats frame sourceX sourceY left top width height) :
    moveRows frame sourceX sourceY left top width height =
      move frame sourceX sourceY left top width height :=
  moveRows_eq_of_kept fun _ below _ inside =>
    moveRows_source repeats (Nat.le_of_lt below) inside

/-- Row by row a rectangle is copied as a whole exactly if it does not go down, or repeats
itself where it is overwritten. -/
theorem moveRows_eq_iff {height : Nat} :
    moveRows frame sourceX sourceY left top width height =
        move frame sourceX sourceY left top width height ↔
      top ≤ sourceY ∨ Repeats frame sourceX sourceY left top width height := by
  constructor
  · intro whole
    by_cases up : top ≤ sourceY
    · exact .inl up
    refine .inr fun x y inSource inTarget => ?_
    obtain ⟨late, rfl⟩ := Nat.exists_eq_add_of_le inSource.2.2.1
    obtain ⟨early, same⟩ := Nat.exists_eq_add_of_le inTarget.2.2.1
    -- the place holds its new pixel when it is copied on
    have here := congrFun (congrFun whole x) (sourceY + late)
    have there := congrFun (congrFun whole (x - sourceX + left)) (top + late)
    unfold move at here there
    rw [if_pos inTarget] at here
    rw [if_pos (by omega),
      moveRows_inside frame sourceX sourceY left top width (by omega) (by omega) (by omega),
      show x - sourceX + left - left + sourceX = x by omega,
      show top + late - top + sourceY = sourceY + late by omega, same,
      moveRows_inside frame sourceX sourceY left top width (by omega) inTarget.1 inTarget.2.1] at there
    rw [same, moveRows_inside frame sourceX sourceY left top width (by omega) inTarget.1
      inTarget.2.1] at here
    rw [same]
    exact there.symm.trans here
  · rintro (up | repeats)
    · exact moveRows_eq_of_up up
    · exact moveRows_eq_of_repeats repeats

end Rows

end Frame

end Library
