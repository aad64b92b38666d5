/-
This file models how a sample point is chosen from what a tuning has found, and
settles when the choice is right. Only the first two windows are looked at, and
one that ends before the last point counts for one point more than it has; the
middle is taken from that count.
-/

import PinePhonePkg.Mmc.Types
import PinePhonePkg.Library.Windows

namespace PinePhonePkg

open Library

/-! ### The code -/

/-- The transfer with a delay went well. -/
def passed (p : Nat → U8) (i : Nat) : Bool := p i = 1

/-- The variables of the two windows -/
structure SdlyWindows : Type where
  s0 : Nat
  e0 : Nat
  s1 : Nat
  e1 : Nat

/-- The length of the first window -/
def SdlyWindows.window0 (windows : SdlyWindows) : Nat :=
  if windows.e0 ≥ windows.s0 then windows.e0 - windows.s0 + 1 else 0

/-- The length of the second window -/
def SdlyWindows.window1 (windows : SdlyWindows) : Nat :=
  if windows.e1 ≥ windows.s1 then windows.e1 - windows.s1 + 1 else 0

/-- `for (i=start; i<sdly_cnt; i++) if (p[i] == 1) break;` -/
def nextPass (sdlyCnt : Nat) (p : Nat → U8) (start : Nat) : Nat :=
  scan (passed p) start (sdlyCnt - start)

/-- `for (i=start; i<sdly_cnt; i++) if (p[i] != 1) break;` -/
def nextFail (sdlyCnt : Nat) (p : Nat → U8) (start : Nat) : Nat :=
  scan (fun i => !passed p i) start (sdlyCnt - start)

/-- The ends are the first points that fail, but the last point where none does. -/
def sdlyWindows (sdlyCnt : Nat) (p : Nat → U8) : SdlyWindows :=
  let s0 := nextPass sdlyCnt p 0
  if s0 = sdlyCnt then { s0 := 0xff, e0 := 0, s1 := 0, e1 := 0 }
  else
    let e0 := nextFail sdlyCnt p (s0 + 1)
    if e0 = sdlyCnt then { s0, e0 := sdlyCnt - 1, s1 := 0, e1 := 0 }
    else
      let s1 := nextPass sdlyCnt p (e0 + 1)
      if s1 = sdlyCnt then { s0, e0, s1 := 0xff, e1 := 0 }
      else
        let e1 := nextFail sdlyCnt p (s1 + 1)
        if e1 = sdlyCnt then { s0, e0, s1, e1 := sdlyCnt - 1 } else { s0, e0, s1, e1 }

/-- The middle of the longer of the two windows that are kept, if it is long enough -/
def getBestSdly (sdlyCnt : Nat) (winTh : U8) (p : Nat → U8) : U8 :=
  let windows := sdlyWindows sdlyCnt p
  if windows.s0 = 0xff then 0xff
  else if windows.window0 ≥ windows.window1 then
    if windows.window0 ≥ winTh.toNat then BitVec.ofNat 8 (windows.s0 + windows.window0 >>> 1)
    else 0xff
  else
    if windows.window1 ≥ winTh.toNat then BitVec.ofNat 8 (windows.s1 + windows.window1 >>> 1)
    else 0xff

/-! ### What is asked of it -/

section Choice

variable (p : Nat → U8) (count first stop : Nat)

/-- A window of delays that went well -/
abbrev PassWindow : Prop := Window (fun place => passed p place = true) count first stop

/-- The first such window -/
abbrev FirstPassWindow : Prop := FirstWindow (fun place => passed p place = true) count first stop

/-- The first such window behind a place -/
abbrev NextPassWindow (last : Nat) : Prop :=
  NextWindow (fun place => passed p place = true) count first stop last

/-- The longest such window -/
abbrev LongestPassWindow : Prop :=
  LongestWindow (fun place => passed p place = true) count first stop

/-- A point is in a longest window that is long enough, and if there is such a window, a point is
found. -/
structure RightChoice (winTh : U8) (best : U8) : Prop where
  found : best ≠ 0xff → best.toNat < count ∧ p best.toNat = 1 ∧
    ∃ first stop, LongestPassWindow p count first stop ∧ winTh.toNat ≤ stop - first ∧
      first ≤ best.toNat ∧ best.toNat < stop
  finds : (∃ first stop, PassWindow p count first stop ∧ winTh.toNat ≤ stop - first) →
    best ≠ 0xff

/-- The points that a window counts for: one more than it has, unless it reaches the last point -/
def counted : Nat := stop - first + if stop < count then 1 else 0

/-- The one of the first two windows that counts for more, and the first if they count for the
same -/
def ChosenWindow : Prop :=
  (FirstPassWindow p count first stop ∧ ∀ first' stop', NextPassWindow p count first' stop' stop →
    counted count first' stop' ≤ counted count first stop) ∨
  ∃ first' stop', FirstPassWindow p count first' stop' ∧
    NextPassWindow p count first stop stop' ∧
    counted count first' stop' < counted count first stop

/-- Every window is shorter than the threshold. -/
def AllShorter (winTh : U8) : Prop :=
  ∀ first stop, PassWindow p count first stop → stop - first < winTh.toNat

end Choice

/-! ### The windows that the code finds -/

section Found

variable {p : Nat → U8} {count : Nat}

theorem window_eq_counted {first stop : Nat} (window : PassWindow p count first stop) :
    (if (if stop = count then count - 1 else stop) ≥ first then
      (if stop = count then count - 1 else stop) - first + 1 else 0) =
        counted count first stop := by
  have nonempty := window.nonempty
  have inside := window.inside
  unfold counted
  split_ifs <;> omega

theorem counted_pos {first stop : Nat} (window : PassWindow p count first stop) :
    1 ≤ counted count first stop := by
  have nonempty := window.nonempty
  unfold counted
  omega

theorem passWindow_of_nextPass {start : Nat} (inside : start ≤ count)
    (fresh : ∀ place, place + 1 = start → passed p place = false)
    (found : nextPass count p start < count) :
    PassWindow p count (nextPass count p start)
      (nextFail count p (nextPass count p start + 1)) :=
  window_of_scan inside fresh found

theorem nextPass_le_count {start : Nat} (inside : start ≤ count) : nextPass count p start ≤ count := by
  have limit := (scan_spec (passed p) start (count - start)).2.1
  unfold nextPass
  omega

/-- Either nothing passes, or the first window is found, and behind it the second one, if there is
any. -/
theorem sdlyWindows_found (p : Nat → U8) (count : Nat) :
    ((sdlyWindows count p).s0 = 0xff ∧ ∀ first stop, ¬ PassWindow p count first stop) ∨
    ∃ first stop, FirstPassWindow p count first stop ∧ (sdlyWindows count p).s0 = first ∧
      (sdlyWindows count p).window0 = counted count first stop ∧
      (((sdlyWindows count p).window1 ≤ 1 ∧
          ∀ first' stop', ¬ NextPassWindow p count first' stop' stop) ∨
        ∃ first' stop', NextPassWindow p count first' stop' stop ∧
          (sdlyWindows count p).s1 = first' ∧
          (sdlyWindows count p).window1 = counted count first' stop') := by
  have limit := nextPass_le_count (p := p) (Nat.zero_le count)
  have fresh : ∀ place, place + 1 = 0 → passed p place = false :=
    fun place next => absurd next (Nat.succ_ne_zero _)
  by_cases none : nextPass count p 0 = count
  · refine .inl ⟨?_, fun first stop window => ?_⟩
    · unfold sdlyWindows
      dsimp only
      rw [if_pos none]
    · have behind := scan_le window (Nat.zero_le _)
      unfold nextPass at none
      have := window.nonempty
      have := window.inside
      omega
  obtain ⟨first, start0⟩ : ∃ first, nextPass count p 0 = first := ⟨_, rfl⟩
  obtain ⟨stop, stop0⟩ : ∃ stop, nextFail count p (first + 1) = stop := ⟨_, rfl⟩
  have window := passWindow_of_nextPass (p := p) (Nat.zero_le count) fresh (by omega)
  rw [start0, stop0] at window
  rw [start0] at none
  have isFirst : FirstPassWindow p count first stop :=
    ⟨window, fun other _ window' => start0 ▸ scan_le window' (Nat.zero_le _)⟩
  have count0 := window_eq_counted window
  refine .inr ⟨first, stop, isFirst, ?_⟩
  by_cases full : stop = count
  · have windows : sdlyWindows count p = { s0 := first, e0 := count - 1, s1 := 0, e1 := 0 } := by
      unfold sdlyWindows
      rw [start0, if_neg none, stop0, if_pos full]
    rw [if_pos full] at count0
    rw [windows]
    refine ⟨rfl, count0, .inl ⟨Nat.le_refl _, fun other last next => ?_⟩⟩
    have behind := next.2.1
    have := next.1.nonempty
    have := next.1.inside
    omega
  have inside := window.inside
  have fails : passed p stop = false := eq_false_of_ne_true (window.behind (by omega))
  have freshStop : ∀ place, place + 1 = stop + 1 → passed p place = false :=
    fun place next => Nat.succ_injective next ▸ fails
  rw [if_neg full] at count0
  obtain ⟨first', start1⟩ : ∃ first', nextPass count p (stop + 1) = first' := ⟨_, rfl⟩
  obtain ⟨stop', stop1⟩ : ∃ stop', nextFail count p (first' + 1) = stop' := ⟨_, rfl⟩
  have after : stop + 1 ≤ count := by omega
  have limit1 : nextPass count p (stop + 1) ≤ count := nextPass_le_count after
  rw [start1] at limit1
  -- A window behind the first one begins behind the point that ends it.
  have least : ∀ other last, PassWindow p count other last → stop ≤ other → first' ≤ other := by
    intro other last window' behind
    have notStop : other ≠ stop := by
      rintro rfl
      have passes := window'.pass other (Nat.le_refl _) window'.nonempty
      rw [fails] at passes
      exact Bool.false_ne_true passes
    exact start1 ▸ scan_le window' (by omega)
  by_cases noSecond : first' = count
  · have windows : sdlyWindows count p = { s0 := first, e0 := stop, s1 := 0xff, e1 := 0 } := by
      unfold sdlyWindows
      rw [start0, if_neg none, stop0, if_neg full, start1, if_pos noSecond]
    rw [windows]
    refine ⟨rfl, count0, .inl ⟨Nat.zero_le _, fun other last next => ?_⟩⟩
    have behind := least other last next.1 next.2.1
    have := next.1.nonempty
    have := next.1.inside
    omega
  · have window' := passWindow_of_nextPass after freshStop (by omega)
    rw [start1, stop1] at window'
    have behind : stop ≤ first' := by
      have after := (scan_spec (passed p) (stop + 1) (count - (stop + 1))).1
      have same : scan (passed p) (stop + 1) (count - (stop + 1)) = first' := start1
      omega
    have windows : sdlyWindows count p =
        { s0 := first, e0 := stop, s1 := first',
          e1 := if stop' = count then count - 1 else stop' } := by
      unfold sdlyWindows
      rw [start0, if_neg none, stop0, if_neg full, start1, if_neg noSecond, stop1]
      dsimp only
      by_cases last : stop' = count
      · rw [if_pos last, if_pos last]
      · rw [if_neg last, if_neg last]
    rw [windows]
    exact ⟨rfl, count0, .inr ⟨first', stop', ⟨window', behind, least⟩, rfl,
      window_eq_counted window'⟩⟩

theorem ite_ite_swap (start mark window enough : Nat) (point : U8) :
    (if start = mark then 0xff else if window ≥ enough then point else 0xff) =
      if start = mark ∨ window < enough then 0xff else point := by
  split_ifs <;> first | rfl | omega

/-- One of the windows is chosen, and the point in the middle of what it counts for, unless that is
too little, or the first window begins at the mark of no point. -/
theorem getBestSdly_eq (p : Nat → U8) (count : Nat) (winTh : U8) :
    (getBestSdly count winTh p = 0xff ∧ ∀ first stop, ¬ PassWindow p count first stop) ∨
    ∃ start last first stop, FirstPassWindow p count start last ∧
      ChosenWindow p count first stop ∧
      getBestSdly count winTh p =
        if start = 0xff ∨ counted count first stop < winTh.toNat then 0xff
        else BitVec.ofNat 8 (first + counted count first stop / 2) := by
  have half : ∀ window : Nat, window >>> 1 = window / 2 := fun window =>
    Nat.shiftRight_eq_div_pow window 1
  unfold getBestSdly
  dsimp only
  rcases sdlyWindows_found p count with ⟨none, noWindow⟩ |
    ⟨start, last, isFirst, start0, count0, second⟩
  · exact .inl ⟨if_pos none, noWindow⟩
  refine .inr ?_
  rw [start0, count0, half, half]
  by_cases more : counted count start last ≥ (sdlyWindows count p).window1
  · refine ⟨start, last, start, last, isFirst, .inl ⟨isFirst, fun first' stop' next => ?_⟩, ?_⟩
    · rcases second with ⟨-, noSecond⟩ | ⟨first, stop, isNext, -, count1⟩
      · exact absurd next (noSecond first' stop')
      · obtain ⟨rfl, rfl⟩ := isNext.unique next
        rw [← count1]
        exact more
    · rw [if_pos more]
      exact ite_ite_swap _ _ _ _ _
  · rcases second with ⟨few, -⟩ | ⟨first, stop, isNext, start1, count1⟩
    · have := counted_pos isFirst.1
      omega
    · rw [count1] at more ⊢
      rw [if_neg more, start1]
      exact ⟨start, last, first, stop, isFirst,
        .inr ⟨start, last, isFirst, isNext, Nat.lt_of_not_ge more⟩, ite_ite_swap _ _ _ _ _⟩

end Found

/-! ### When the choice is right -/

section Right

variable {p : Nat → U8} {count : Nat} {winTh : U8}

/-- The chosen window is a longest one and long enough, unless all are too short, and it has two
points or reaches the last one. -/
def ChoosesRight (p : Nat → U8) (count : Nat) (winTh : U8) : Prop :=
  ∀ first stop, ChosenWindow p count first stop →
    if counted count first stop < winTh.toNat then AllShorter p count winTh
    else LongestPassWindow p count first stop ∧ winTh.toNat ≤ stop - first ∧
      (2 ≤ stop - first ∨ stop = count)

/-- The middle of what a window counts for, as far as an octet can tell -/
def middle (count first stop : Nat) : Nat := (first + counted count first stop / 2) % 256

/-- The same for arrays that an octet cannot count: the middle is to be in the chosen window, and
all windows are to be too short where it, or the first point that passes, is 255. -/
def ChoosesRightWide (p : Nat → U8) (count : Nat) (winTh : U8) : Prop :=
  ∀ start last first stop, FirstPassWindow p count start last →
    ChosenWindow p count first stop →
      if (start = 0xff ∨ counted count first stop < winTh.toNat) ∨ middle count first stop = 0xff
      then AllShorter p count winTh
      else LongestPassWindow p count first stop ∧ winTh.toNat ≤ stop - first ∧
        first ≤ middle count first stop ∧ middle count first stop < stop

theorem ChosenWindow.window {first stop : Nat} (chosen : ChosenWindow p count first stop) :
    PassWindow p count first stop := by
  rcases chosen with ⟨isFirst, -⟩ | ⟨_, _, -, isNext, -⟩
  · exact isFirst.1
  · exact isNext.1

theorem ChosenWindow.exists_first {first stop : Nat} (chosen : ChosenWindow p count first stop) :
    ∃ start last, FirstPassWindow p count start last := by
  rcases chosen with ⟨isFirst, -⟩ | ⟨start, last, isFirst, -⟩
  · exact ⟨first, stop, isFirst⟩
  · exact ⟨start, last, isFirst⟩

/-- A longest window that has a point not behind the middle of the chosen one is the chosen one. -/
theorem ChosenWindow.eq_of_longest {first stop first' stop' place : Nat}
    (chosen : ChosenWindow p count first stop) (longest : LongestPassWindow p count first' stop')
    (inside : first' ≤ place ∧ place < stop')
    (notBehind : place ≤ first + counted count first stop / 2) : first' = first ∧ stop' = stop := by
  have window := chosen.window
  have ahead : first ≤ first' := by
    rcases chosen with ⟨isFirst, -⟩ | ⟨start, last, isFirst, isNext, less⟩
    · exact isFirst.2 _ _ longest.1
    · refine isNext.2.2 _ _ longest.1 ?_
      rcases Nat.eq_or_lt_of_le (isFirst.2 _ _ longest.1) with same | behind
      · -- The first window counts for less, so that it is not a longest one.
        subst same
        obtain ⟨-, rfl⟩ := isFirst.1.eq_of_mem longest.1 ⟨Nat.le_refl _, isFirst.1.nonempty⟩
          ⟨Nat.le_refl _, longest.1.nonempty⟩
        have atMost := longest.2 _ _ isNext.1
        have follows := isNext.1.nonempty
        have behind := isNext.2.1
        have := isNext.1.inside
        unfold counted at less
        split_ifs at less <;> omega
      · exact Nat.le_of_lt (isFirst.1.apart longest.1 behind)
  have nonempty := window.nonempty
  have same : first = first' := by
    rcases Nat.eq_or_lt_of_le ahead with same | further
    · exact same
    · have behind := window.apart longest.1 further
      unfold counted at notBehind
      split_ifs at notBehind <;> omega
  subst same
  exact longest.1.eq_of_mem window ⟨Nat.le_refl _, longest.1.nonempty⟩
    ⟨Nat.le_refl _, nonempty⟩

theorem ChosenWindow.unique {first stop first' stop' : Nat}
    (chosen : ChosenWindow p count first stop) (chosen' : ChosenWindow p count first' stop') :
    first = first' ∧ stop = stop' := by
  rcases chosen with ⟨isFirst, more⟩ | ⟨start, last, isFirst, isNext, less⟩
  · rcases chosen' with ⟨isFirst', -⟩ | ⟨start', last', isFirst', isNext', less'⟩
    · exact isFirst.unique isFirst'
    · obtain ⟨rfl, rfl⟩ := isFirst.unique isFirst'
      exact absurd less' (Nat.not_lt.mpr (more _ _ isNext'))
  · rcases chosen' with ⟨isFirst', more'⟩ | ⟨start', last', isFirst', isNext', -⟩
    · obtain ⟨rfl, rfl⟩ := isFirst.unique isFirst'
      exact absurd less (Nat.not_lt.mpr (more' _ _ isNext))
    · obtain ⟨rfl, rfl⟩ := isFirst.unique isFirst'
      exact isNext.unique isNext'

theorem allShorter_iff : AllShorter p count winTh ↔
    ¬ ∃ first stop, PassWindow p count first stop ∧ winTh.toNat ≤ stop - first := by
  constructor
  · rintro short ⟨first, stop, window, long⟩
    exact absurd (short first stop window) (Nat.not_lt.mpr long)
  · intro none first stop window
    exact Nat.lt_of_not_le fun long => none ⟨first, stop, window, long⟩

/-- No point is right exactly if all windows are too short. -/
theorem rightChoice_none_iff : RightChoice p count winTh 0xff ↔ AllShorter p count winTh := by
  rw [allShorter_iff]
  constructor
  · intro right some
    exact right.finds some rfl
  · intro none
    exact ⟨fun found => absurd rfl found, fun some => absurd some none⟩

theorem rightChoice_wide_iff (p : Nat → U8) (count : Nat) (winTh : U8) :
    RightChoice p count winTh (getBestSdly count winTh p) ↔ ChoosesRightWide p count winTh := by
  rcases getBestSdly_eq p count winTh with ⟨none, noWindow⟩ |
    ⟨start, last, first, stop, isFirst, chosen, value⟩
  · rw [none, rightChoice_none_iff]
    exact ⟨fun _ start last _ _ isFirst => absurd isFirst.1 (noWindow start last),
      fun _ first stop window => absurd window (noWindow first stop)⟩
  have unfolded : ChoosesRightWide p count winTh ↔
      if (start = 0xff ∨ counted count first stop < winTh.toNat) ∨ middle count first stop = 0xff
      then AllShorter p count winTh
      else LongestPassWindow p count first stop ∧ winTh.toNat ≤ stop - first ∧
        first ≤ middle count first stop ∧ middle count first stop < stop := by
    constructor
    · intro wide
      exact wide start last first stop isFirst chosen
    · intro here start' last' first' stop' isFirst' chosen'
      obtain ⟨rfl, rfl⟩ := isFirst.unique isFirst'
      obtain ⟨rfl, rfl⟩ := chosen.unique chosen'
      exact here
  rw [unfolded]
  have octet : (BitVec.ofNat 8 (first + counted count first stop / 2)).toNat =
      middle count first stop := BitVec.toNat_ofNat _ _
  have mark : (0xff : U8).toNat = 0xff := rfl
  by_cases none : start = 0xff ∨ counted count first stop < winTh.toNat
  · rw [if_pos (.inl none), value, if_pos none]
    exact rightChoice_none_iff
  rw [if_neg none] at value
  rw [value]
  by_cases marked : middle count first stop = 0xff
  · have same : BitVec.ofNat 8 (first + counted count first stop / 2) = (0xff : U8) :=
      BitVec.eq_of_toNat_eq (octet.trans marked)
    rw [if_pos (.inr marked), same]
    exact rightChoice_none_iff
  · have different : BitVec.ofNat 8 (first + counted count first stop / 2) ≠ (0xff : U8) := by
      intro same
      exact marked (octet.symm.trans (congrArg BitVec.toNat same))
    rw [if_neg (not_or.mpr ⟨none, marked⟩)]
    constructor
    · intro right
      obtain ⟨-, -, first', stop', longest, long, inside⟩ := right.found different
      rw [octet] at inside
      obtain ⟨rfl, rfl⟩ := chosen.eq_of_longest longest inside (Nat.mod_le _ _)
      exact ⟨longest, long, inside⟩
    · rintro ⟨longest, long, inside⟩
      refine ⟨fun _ => ⟨?_, ?_, first, stop, longest, long, ?_⟩, fun _ => different⟩
      · rw [octet]
        exact Nat.lt_of_lt_of_le inside.2 longest.1.inside
      · rw [octet]
        exact of_decide_eq_true (longest.1.pass _ inside.1 inside.2)
      · rw [octet]
        exact inside

/-- Up to 255 points the middle is in the window, unless this has one point only and does not reach
the last one. -/
theorem choosesRightWide_iff (few : count < 256) :
    ChoosesRightWide p count winTh ↔ ChoosesRight p count winTh := by
  have point : ∀ first stop, PassWindow p count first stop →
      middle count first stop ≠ 0xff ∧ first ≤ middle count first stop ∧
        (middle count first stop < stop ↔ 2 ≤ stop - first ∨ stop = count) := by
    intro first stop window
    have nonempty := window.nonempty
    have inside := window.inside
    unfold middle counted
    split_ifs <;> omega
  have same : ∀ start last first stop, FirstPassWindow p count start last →
      ChosenWindow p count first stop →
      ((if (start = 0xff ∨ counted count first stop < winTh.toNat) ∨
            middle count first stop = 0xff
          then AllShorter p count winTh
          else LongestPassWindow p count first stop ∧ winTh.toNat ≤ stop - first ∧
            first ≤ middle count first stop ∧ middle count first stop < stop) ↔
        if counted count first stop < winTh.toNat then AllShorter p count winTh
        else LongestPassWindow p count first stop ∧ winTh.toNat ≤ stop - first ∧
          (2 ≤ stop - first ∨ stop = count)) := by
    intro start last first stop isFirst chosen
    have unmarked : start ≠ 0xff := by
      have := isFirst.1.nonempty
      have := isFirst.1.inside
      omega
    obtain ⟨notMark, inFront, inWindow⟩ := point first stop chosen.window
    by_cases little : counted count first stop < winTh.toNat
    · rw [if_pos (.inl (.inr little)), if_pos little]
    · rw [if_neg (not_or.mpr ⟨not_or.mpr ⟨unmarked, little⟩, notMark⟩), if_neg little, inWindow,
        and_iff_right inFront]
  constructor
  · intro wide first stop chosen
    obtain ⟨start, last, isFirst⟩ := chosen.exists_first
    exact (same start last first stop isFirst chosen).mp (wide start last first stop isFirst chosen)
  · intro right start last first stop isFirst chosen
    exact (same start last first stop isFirst chosen).mpr (right first stop chosen)

end Right

/-- For arrays of up to 255 points the choice is right if and only if the chosen window is: either
it counts for too little and all windows are too short, or it is a longest one and long enough, and
has two points or reaches the last one. For longer arrays the middle counts as far as an octet can
tell. -/
theorem getBestSdly_right_iff (p : Nat → U8) (winTh : U8) :
    (∀ count < 256,
      RightChoice p count winTh (getBestSdly count winTh p) ↔ ChoosesRight p count winTh) ∧
    ∀ count,
      RightChoice p count winTh (getBestSdly count winTh p) ↔ ChoosesRightWide p count winTh :=
  ⟨fun count few => (rightChoice_wide_iff p count winTh).trans (choosesRightWide_iff few),
    fun count => rightChoice_wide_iff p count winTh⟩

/-! ### Eleven points, where twelve are asked for -/

/-- Of 64 points the eleven from the tenth on pass. -/
def elevenPoints (i : Nat) : U8 := if 10 ≤ i ∧ i < 21 then 1 else 0

theorem not_rightChoice : ¬ RightChoice elevenPoints 64 12 (getBestSdly 64 12 elevenPoints) := by
  have best : getBestSdly 64 12 elevenPoints = 16 := by decide
  rw [best]
  intro right
  obtain ⟨-, -, first, stop, longest, long, inside⟩ := right.found (by decide)
  have window : PassWindow elevenPoints 64 10 21 := by
    refine ⟨by decide, by decide, fun place after before => ?_, fun place next passes => ?_,
      fun _ passes => ?_⟩
    · unfold passed elevenPoints
      rw [if_pos ⟨after, before⟩]
      rfl
    · obtain rfl : place = 9 := by omega
      exact absurd passes (by decide)
    · exact absurd passes (by decide)
  obtain ⟨rfl, rfl⟩ := longest.1.eq_of_mem window inside (by decide)
  exact absurd long (by decide)

end PinePhonePkg
