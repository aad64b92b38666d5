/-
This file gives the windows of a predicate: the places below a bound at which it
holds, in runs that cannot be made longer. Two windows are the same or do not
even touch. A scan for the next place of a kind finds where they begin and end.
-/

import Mathlib.Data.Nat.Basic
import Mathlib.Tactic.Common

namespace Library

/-! ### Scans -/

/-- The first place at which the scan stops, or the one behind the last it may look at -/
def scan (stops : Nat → Bool) (start : Nat) : Nat → Nat
  | 0 => start
  | turns + 1 => if stops start then start else scan stops (start + 1) turns

theorem scan_spec (stops : Nat → Bool) (start turns : Nat) :
    start ≤ scan stops start turns ∧ scan stops start turns ≤ start + turns ∧
      (∀ place, start ≤ place → place < scan stops start turns → stops place = false) ∧
      (scan stops start turns < start + turns → stops (scan stops start turns) = true) := by
  induction turns generalizing start with
  | zero =>
    refine ⟨Nat.le_refl _, Nat.le_refl _, fun place behind before => ?_, fun less => ?_⟩
    · exact absurd before (Nat.not_lt.mpr behind)
    · exact absurd less (Nat.lt_irrefl _)
  | succ turns inductionHypothesis =>
    rw [scan]
    split
    next here =>
      refine ⟨Nat.le_refl _, Nat.le_add_right _ _, fun place behind before => ?_, fun _ => here⟩
      exact absurd before (Nat.not_lt.mpr behind)
    next further =>
      obtain ⟨behind, inside, skipped, stopped⟩ := inductionHypothesis (start + 1)
      refine ⟨by omega, by omega, fun place after before => ?_, fun less => stopped (by omega)⟩
      by_cases first : place = start
      · rw [first]
        exact eq_false_of_ne_true further
      · exact skipped place (by omega) before

/-! ### Windows -/

/-- A run of places that pass, which cannot be made longer; `stop` is behind its last place. -/
structure Window (passes : Nat → Prop) (count first stop : Nat) : Prop where
  nonempty : first < stop
  inside : stop ≤ count
  pass : ∀ place, first ≤ place → place < stop → passes place
  before : ∀ place, place + 1 = first → ¬ passes place
  behind : stop < count → ¬ passes stop

section Windows

variable {passes : Nat → Prop} {count first stop first' stop' : Nat}

/-- The window that begins first of two ends before the other begins. -/
theorem Window.apart (window : Window passes count first stop)
    (window' : Window passes count first' stop') (order : first < first') : stop < first' := by
  by_contra touches
  rcases Nat.eq_or_lt_of_not_lt touches with equal | inside
  · have full : ¬ stop < count := fun less =>
      window.behind less (window'.pass stop (by omega) (by have := window'.nonempty; omega))
    have := window'.nonempty
    have := window'.inside
    omega
  · exact window'.before (first' - 1) (by omega) (window.pass _ (by omega) (by omega))

theorem Window.eq_of_mem (window : Window passes count first stop)
    (window' : Window passes count first' stop') {place : Nat}
    (inside : first ≤ place ∧ place < stop) (inside' : first' ≤ place ∧ place < stop') :
    first = first' ∧ stop = stop' := by
  have same : first = first' := by
    rcases Nat.lt_trichotomy first first' with less | equal | more
    · have := window.apart window' less
      omega
    · exact equal
    · have := window'.apart window more
      omega
  subst same
  refine ⟨rfl, ?_⟩
  rcases Nat.lt_trichotomy stop stop' with less | equal | more
  · have := window'.inside
    exact absurd (window'.pass stop (Nat.le_of_lt window.nonempty) less)
      (window.behind (by omega))
  · exact equal
  · have := window.inside
    exact absurd (window.pass stop' (Nat.le_of_lt window'.nonempty) more)
      (window'.behind (by omega))

variable (passes count first stop)

/-- The first window -/
def FirstWindow : Prop :=
  Window passes count first stop ∧
    ∀ first' stop', Window passes count first' stop' → first ≤ first'

/-- The next window behind one that ends at `last` -/
def NextWindow (last : Nat) : Prop :=
  Window passes count first stop ∧ last ≤ first ∧
    ∀ first' stop', Window passes count first' stop' → last ≤ first' → first ≤ first'

theorem FirstWindow.unique {passes : Nat → Prop} {count first stop first' stop' : Nat}
    (window : FirstWindow passes count first stop)
    (window' : FirstWindow passes count first' stop') : first = first' ∧ stop = stop' := by
  have same : first = first' :=
    Nat.le_antisymm (window.2 _ _ window'.1) (window'.2 _ _ window.1)
  exact window.1.eq_of_mem window'.1 ⟨Nat.le_refl _, window.1.nonempty⟩
    ⟨Nat.le_of_eq same.symm, same ▸ window'.1.nonempty⟩

theorem NextWindow.unique {passes : Nat → Prop} {count first stop first' stop' last : Nat}
    (window : NextWindow passes count first stop last)
    (window' : NextWindow passes count first' stop' last) : first = first' ∧ stop = stop' := by
  have same : first = first' :=
    Nat.le_antisymm (window.2.2 _ _ window'.1 window'.2.1) (window'.2.2 _ _ window.1 window.2.1)
  exact window.1.eq_of_mem window'.1 ⟨Nat.le_refl _, window.1.nonempty⟩
    ⟨Nat.le_of_eq same.symm, same ▸ window'.1.nonempty⟩

/-- No window is longer. -/
def LongestWindow : Prop :=
  Window passes count first stop ∧
    ∀ first' stop', Window passes count first' stop' → stop' - first' ≤ stop - first

end Windows

/-! ### Windows that a scan finds -/

section Scanned

variable {test : Nat → Bool} {count start : Nat}

/-- The scan for a place that passes, from one that is not inside a window, and the scan for the
end of that window -/
theorem window_of_scan (inside : start ≤ count)
    (fresh : ∀ place, place + 1 = start → test place = false)
    (found : scan test start (count - start) < count) :
    Window (fun place => test place = true) count (scan test start (count - start))
      (scan (fun place => !test place) (scan test start (count - start) + 1)
        (count - (scan test start (count - start) + 1))) := by
  obtain ⟨behind, -, skipped, stopped⟩ := scan_spec test start (count - start)
  generalize scan test start (count - start) = first at *
  obtain ⟨after, last, passed, ended⟩ :=
    scan_spec (fun place => !test place) (first + 1) (count - (first + 1))
  generalize scan (fun place => !test place) (first + 1) (count - (first + 1)) = stop at *
  refine ⟨by omega, by omega, fun place from' before => ?_, fun place next passes => ?_,
    fun less passes => ?_⟩
  · by_cases equal : place = first
    · rw [equal]
      exact stopped (by omega)
    · have notFails := passed place (by omega) before
      simpa using notFails
  · by_cases inScan : start ≤ place
    · rw [skipped place inScan (by omega)] at passes
      exact Bool.false_ne_true passes
    · rw [fresh place (by omega)] at passes
      exact Bool.false_ne_true passes
  · have fails := ended (by omega)
    rw [passes] at fails
    exact Bool.false_ne_true fails

/-- There is no window in front of what a scan finds. -/
theorem scan_le {first stop : Nat}
    (window : Window (fun place => test place = true) count first stop) (behind : start ≤ first) :
    scan test start (count - start) ≤ first := by
  obtain ⟨-, -, skipped, -⟩ := scan_spec test start (count - start)
  by_contra more
  have fails := skipped first behind (Nat.lt_of_not_le more)
  rw [window.pass first (Nat.le_refl _) window.nonempty] at fails
  exact Bool.false_ne_true fails.symm

end Scanned

end Library
