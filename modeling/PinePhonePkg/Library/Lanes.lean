/-
This file gives a word as lanes of one octet each: what it has at each bit after
the octets are put in, what comes out of a lane, and a table that is filled in
order or at places of its own.
-/

import Mathlib.Logic.Function.Basic
import Mathlib.Tactic.Common

namespace Library

/-! ### Octets in a word -/

section Lanes

variable {width : Nat} (octet : Nat → BitVec 8) (first : Nat)

/-- Octets side by side, the first at the lowest place -/
def lanes (width count : Nat) : BitVec width :=
  (List.range' first count).foldl
    (fun word lane => word ||| (octet lane).setWidth width <<< (8 * (lane - first))) 0

theorem lanes_succ (count : Nat) :
    lanes octet first width (count + 1) =
      lanes octet first width count |||
        (octet (first + count)).setWidth width <<< (8 * count) := by
  unfold lanes
  rw [List.range'_concat, List.foldl_append, Nat.one_mul, List.foldl_cons, List.foldl_nil,
    Nat.add_sub_cancel_left]

/-- Each bit of the word is a bit of one octet. -/
theorem getLsbD_lanes (count place : Nat) (inside : place < width) :
    (lanes octet first width count).getLsbD place =
      (decide (place / 8 < count) && (octet (first + place / 8)).getLsbD (place % 8)) := by
  induction count with
  | zero =>
    show (0 : BitVec width).getLsbD place = _
    rw [decide_eq_false (Nat.not_lt_zero _), Bool.false_and]
    exact BitVec.getLsbD_zero
  | succ count inductionHypothesis =>
    rw [lanes_succ, BitVec.getLsbD_or, inductionHypothesis, BitVec.getLsbD_shiftLeft,
      BitVec.getLsbD_setWidth]
    rcases Nat.lt_trichotomy (place / 8) count with before | here | behind
    · have low : place < 8 * count := by omega
      simp [before, low, Nat.lt_succ_of_lt before]
    · have high : ¬place < 8 * count := by omega
      have within : place % 8 < width := by omega
      have rest : place - 8 * count = place % 8 := by omega
      subst here
      simp [high, within, rest, inside]
    · have high : 8 ≤ place - 8 * count := by omega
      have beyond : ¬place / 8 < count + 1 := by omega
      rw [decide_eq_false beyond, decide_eq_false (Nat.lt_asymm behind),
        BitVec.getLsbD_of_ge _ _ high]
      simp

/-- What comes out of a lane -/
theorem lane_lanes {count lane : Nat} (member : lane < count) (fits : 8 * count ≤ width) :
    (lanes octet first width count >>> (8 * lane)).setWidth 8 = octet (first + lane) := by
  refine BitVec.eq_of_getLsbD_eq fun place inside => ?_
  rw [BitVec.getLsbD_setWidth, BitVec.getLsbD_ushiftRight,
    getLsbD_lanes octet first count _ (by omega), decide_eq_true inside, Bool.true_and]
  have here : (8 * lane + place) / 8 = lane := by omega
  have rest : (8 * lane + place) % 8 = place := by omega
  rw [here, rest, decide_eq_true member, Bool.true_and]

end Lanes

/-! ### A table that is filled in order -/

theorem foldl_update_apply {Value : Type} (value : Nat → Value) (table : Nat → Value)
    (base first count index : Nat) :
    (List.range' first count).foldl
        (fun table item => Function.update table (base + item) (value item)) table index =
      if base + first ≤ index ∧ index < base + first + count then value (index - base)
      else table index := by
  induction count with
  | zero => rw [if_neg (by omega)]; rfl
  | succ count inductionHypothesis =>
    rw [List.range'_concat, List.foldl_append, Nat.one_mul, List.foldl_cons, List.foldl_nil]
    by_cases last : index = base + (first + count)
    · subst last
      rw [Function.update_self, if_pos (by omega), Nat.add_sub_cancel_left]
    · rw [Function.update_of_ne last, inductionHypothesis]
      by_cases before : base + first ≤ index ∧ index < base + first + count
      · rw [if_pos before, if_pos (by omega)]
      · rw [if_neg before, if_neg (by omega)]

/-! ### A table that is set at places of its own -/

section SetEach

variable {Key Value : Type} [DecidableEq Key] {place : Nat → Key} {value : Nat → Value}
  {count : Nat}

/-- The table is set at the first `count` places. -/
def setEach (place : Nat → Key) (value : Nat → Value) (count : Nat) (table : Key → Value) :
    Key → Value :=
  (List.range count).foldl (fun table item => Function.update table (place item) (value item)) table

theorem setEach_succ (table : Key → Value) :
    setEach place value (count + 1) table =
      Function.update (setEach place value count table) (place count) (value count) := by
  unfold setEach
  rw [List.range_succ, List.foldl_append, List.foldl_cons, List.foldl_nil]

theorem setEach_one (table : Key → Value) :
    setEach place value 1 table = Function.update table (place 0) (value 0) := rfl

theorem setEach_congr {other : Nat → Value} (same : ∀ item < count, value item = other item)
    (table : Key → Value) : setEach place value count table = setEach place other count table := by
  induction count with
  | zero => rfl
  | succ count inductionHypothesis =>
    rw [setEach_succ, setEach_succ, same count (Nat.lt_succ_self count),
      inductionHypothesis fun item before => same item (Nat.lt_succ_of_lt before)]

theorem setEach_beside (table : Key → Value) {key : Key} (beside : ∀ item < count, key ≠ place item) :
    setEach place value count table key = table key := by
  induction count with
  | zero => rfl
  | succ count inductionHypothesis =>
    rw [setEach_succ, Function.update_of_ne (beside count (Nat.lt_succ_self count)),
      inductionHypothesis fun item before => beside item (Nat.lt_succ_of_lt before)]

theorem setEach_place (table : Key → Value)
    (apart : ∀ first < count, ∀ second < count, place first = place second → first = second)
    {item : Nat} (inside : item < count) :
    setEach place value count table (place item) = value item := by
  induction count with
  | zero => exact absurd inside (Nat.not_lt_zero item)
  | succ count inductionHypothesis =>
    rw [setEach_succ]
    by_cases last : item = count
    · rw [last, Function.update_self]
    · have other : place item ≠ place count := fun same =>
        last (apart item inside count (Nat.lt_succ_self count) same)
      rw [Function.update_of_ne other, inductionHypothesis
        (fun first firstLt second secondLt =>
          apart first (Nat.lt_succ_of_lt firstLt) second (Nat.lt_succ_of_lt secondLt))
        (Nat.lt_of_le_of_ne (Nat.le_of_lt_succ inside) last)]

/-- To set the first place only is to set them all exactly if the table has the values of the others
already. -/
theorem setEach_one_eq_iff (some : 0 < count) (table : Key → Value)
    (apart : ∀ first < count, ∀ second < count, place first = place second → first = second) :
    setEach place value 1 table = setEach place value count table ↔
      ∀ item, 0 < item → item < count → table (place item) = value item := by
  rw [setEach_one]
  constructor
  · intro same item positive inside
    have other : place item ≠ place 0 := fun equal =>
      Nat.ne_of_gt positive (apart item inside 0 some equal)
    have here := congrFun same (place item)
    rwa [Function.update_of_ne other, setEach_place table apart inside] at here
  · intro same
    funext key
    by_cases here : ∃ item < count, key = place item
    · obtain ⟨item, inside, rfl⟩ := here
      rw [setEach_place table apart inside]
      rcases Nat.eq_zero_or_pos item with rfl | positive
      · exact Function.update_self _ _ _
      · have other : place item ≠ place 0 := fun equal =>
          Nat.ne_of_gt positive (apart item inside 0 some equal)
        rw [Function.update_of_ne other, same item positive inside]
    · have beside : ∀ item < count, key ≠ place item := fun item inside equal =>
        here ⟨item, inside, equal⟩
      rw [setEach_beside table beside, Function.update_of_ne (beside 0 some)]

end SetEach

end Library
