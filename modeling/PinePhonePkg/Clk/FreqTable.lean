/-
This file models the search for a frequency in a table of factors: a bisection in
megahertz, one more comparison, and the factors that are cut out of the word that
was found.

It proves that the search reads nothing beside the table and finds the entry that is
nearest, and the lower one of two.
-/

import PinePhonePkg.Clk.Factors
import PinePhonePkg.Library.Nearest
import Mathlib.Algebra.Order.Group.Int

namespace PinePhonePkg

open Library Library.Nearest

/-! ### The table -/

/-- `struct sunxi_clk_factor_freq` -/
structure FactorFreq : Type where
  factor : U32
  freq : U32

/-- `freq / 1000000` of an entry -/
def FactorFreq.megahertz (entry : FactorFreq) : Nat := entry.freq.toNat / 1000000

/-- An entry of a table; `none` stands for a read beside it. -/
def tableEntry (tbl : List FactorFreq) (index : Int) : Option FactorFreq :=
  if index < 0 then none else tbl[index.toNat]?

/-- The middle of a window is inside. -/
theorem tdiv_two_mem {low high : Int} (some : low ≤ high) :
    low ≤ (low + high).tdiv 2 ∧ (low + high).tdiv 2 ≤ high := by
  rw [Int.tdiv_eq_ediv]
  have sign : Int.sign 2 = 1 := rfl
  split <;> omega

/-- `sunxi_clk_freq_search` -/
def sunxiClkFreqSearch (tbl : List FactorFreq) (freq : Nat) (low high : Int) : Option Int :=
  if low > high then some (if high = -1 then 0 else high)
  else
    match tableEntry tbl ((low + high).tdiv 2) with
    | none => none
    | some entry =>
      if entry.megahertz = freq then some ((low + high).tdiv 2)
      else if entry.megahertz > freq then
        sunxiClkFreqSearch tbl freq low ((low + high).tdiv 2 - 1)
      else sunxiClkFreqSearch tbl freq ((low + high).tdiv 2 + 1) high
termination_by (high + 1 - low).toNat
decreasing_by
  all_goals
    have inside := tdiv_two_mem (Int.not_lt.mp (by assumption : ¬ low > high))
    omega

/-- The distance of two frequencies, as an `int` -/
def freqDelta (freq : Nat) (entry : FactorFreq) : Int :=
  (BitVec.ofNat 32 (if freq > entry.megahertz then freq - entry.megahertz
    else entry.megahertz - freq)).toInt

/-- `sunxi_clk_freq_find` of the `n` entries of a table -/
def sunxiClkFreqFind (tbl : List FactorFreq) (n freq : Nat) : Option Int :=
  match sunxiClkFreqSearch tbl freq 0 (n - 1) with
  | none => none
  | some i =>
    if i ≠ n - 1 then
      match tableEntry tbl i, tableEntry tbl (i + 1) with
      | some entry, some next =>
        some (if freqDelta freq next < freqDelta freq entry then i + 1 else i)
      | _, _ => none
    else some i

/-- The factors in the word of an entry. Those of the fractional mode are left as they were if there
are none. -/
def FactorFreq.values (config : FactorsConfig) (entry : FactorFreq) (before : ClkFactorsValue) :
    ClkFactorsValue := fun field =>
  let cut := (entry.factor >>> config.shift field) &&&
    ((1 : U32) <<< config.width field - 1)
  match field with
  | .fracMode | .fracFreq => if config.frac then cut.setWidth 16 else before field
  | _ => cut.setWidth 16

/-- `sunxi_clk_com_ftr_sr` -/
def sunxiClkComFtrSr (config : FactorsConfig) (before : ClkFactorsValue) (table : List FactorFreq)
    (index tblCount : Nat) : Option (Int × ClkFactorsValue) :=
  match sunxiClkFreqFind table tblCount index with
  | none => none
  | some i =>
    if i ≥ tblCount then some (-1, before)
    else (tableEntry table i).map fun entry => (0, entry.values config before)

/-! ### The search -/

section Search

variable {tbl : List FactorFreq}

/-- What the search looks at -/
def tableKey (tbl : List FactorFreq) (index : Nat) : Int :=
  tbl[index]?.elim 0 fun entry => (entry.megahertz : Int)

/-- The frequencies do not decrease. -/
def TableSorted (tbl : List FactorFreq) : Prop :=
  tbl.Pairwise fun first second => first.megahertz ≤ second.megahertz

theorem tableKey_of_getElem? {index : Nat} {entry : FactorFreq} (here : tbl[index]? = some entry) :
    tableKey tbl index = entry.megahertz := by
  unfold tableKey
  rw [here]
  rfl

theorem TableSorted.tableKey_le (sorted : TableSorted tbl) {first second : Nat}
    (le : first ≤ second) (inside : second < tbl.length) :
    tableKey tbl first ≤ tableKey tbl second := by
  rcases Nat.eq_or_lt_of_le le with rfl | lt
  · exact le_rfl
  · rw [tableKey_of_getElem? (List.getElem?_eq_getElem inside),
      tableKey_of_getElem? (List.getElem?_eq_getElem (lt.trans inside))]
    exact Int.ofNat_le.mpr (List.pairwise_iff_getElem.mp sorted _ _ (lt.trans inside) inside lt)

theorem tableEntry_natCast (index : Nat) : tableEntry tbl index = tbl[index]? := by
  unfold tableEntry
  rw [if_neg (Int.not_lt.mpr (Int.natCast_nonneg index)), Int.toNat_natCast]

/-- From each window of the bisection a place is found, and only entries of the table are read. -/
theorem sunxiClkFreqSearch_found (sorted : TableSorted tbl) (some' : 0 < tbl.length) {freq : Nat}
    {low high : Int} (window : Window (tableKey tbl) tbl.length freq low high) :
    ∃ index : Nat, sunxiClkFreqSearch tbl freq low high = some (index : Int) ∧
      Found (tableKey tbl) tbl.length freq index := by
  fun_induction sunxiClkFreqSearch tbl freq low high with
  | case1 low high empty =>
    refine ⟨high.toNat, ?_, window.found some' empty⟩
    have := window.nonneg
    have := window.meets
    split <;> congr 1 <;> omega
  | case2 low high some none =>
    obtain ⟨atLeast, atMost⟩ := tdiv_two_mem (Int.not_lt.mp some)
    have nonneg := window.nonneg.trans atLeast
    have inside := lt_of_le_of_lt atMost window.inside
    unfold tableEntry at none
    rw [if_neg (Int.not_lt.mpr nonneg), List.getElem?_eq_none_iff] at none
    omega
  | case3 low high some entry here same =>
    obtain ⟨atLeast, atMost⟩ := tdiv_two_mem (Int.not_lt.mp some)
    obtain ⟨middle, isMiddle⟩ := Int.eq_ofNat_of_zero_le (window.nonneg.trans atLeast)
    rw [isMiddle] at here atMost ⊢
    rw [tableEntry_natCast] at here
    have key := tableKey_of_getElem? here
    rw [same] at key
    refine ⟨middle, rfl, ?_, Or.inr key.le, Or.inl key⟩
    exact (List.getElem?_eq_some_iff.mp here).1
  | case4 low high some entry here different above inductionHypothesis =>
    obtain ⟨atLeast, atMost⟩ := tdiv_two_mem (Int.not_lt.mp some)
    obtain ⟨middle, isMiddle⟩ := Int.eq_ofNat_of_zero_le (window.nonneg.trans atLeast)
    rw [isMiddle] at here atLeast atMost inductionHypothesis ⊢
    rw [tableEntry_natCast] at here
    refine inductionHypothesis (window.left (fun _ _ => sorted.tableKey_le) ⟨atLeast, atMost⟩ ?_)
    rw [tableKey_of_getElem? here]
    exact Int.ofNat_lt.mpr above
  | case5 low high some entry here different notAbove inductionHypothesis =>
    obtain ⟨atLeast, atMost⟩ := tdiv_two_mem (Int.not_lt.mp some)
    obtain ⟨middle, isMiddle⟩ := Int.eq_ofNat_of_zero_le (window.nonneg.trans atLeast)
    rw [isMiddle] at here atLeast atMost inductionHypothesis ⊢
    rw [tableEntry_natCast] at here
    refine inductionHypothesis (window.right (fun _ _ => sorted.tableKey_le) ⟨atLeast, atMost⟩ ?_)
    rw [tableKey_of_getElem? here]
    exact Int.ofNat_lt.mpr (lt_of_le_of_ne (Nat.le_of_not_lt notAbove) different)

/-- The distances that are compared are exact. -/
theorem freqDelta_eq {freq : Nat} (small : freq < 2 ^ 31) (entry : FactorFreq) :
    freqDelta freq entry = |(freq : Int) - entry.megahertz| := by
  have entrySmall : entry.megahertz < 2 ^ 31 := by
    unfold FactorFreq.megahertz
    have := entry.freq.isLt
    omega
  have exact : ∀ delta < 2 ^ 31, (BitVec.ofNat 32 delta).toInt = (delta : Int) := by
    intro delta small
    have isNat : (BitVec.ofNat 32 delta).toNat = delta := by
      rw [BitVec.toNat_ofNat, Nat.mod_eq_of_lt (small.trans (by decide))]
    rw [BitVec.toInt_eq_toNat_of_lt (by omega), isNat]
  unfold freqDelta
  split
  next above =>
    rw [abs_of_nonneg (by omega), exact _ (by omega)]
    omega
  next notAbove =>
    rw [abs_of_nonpos (by omega), exact _ (by omega)]
    omega

/-- The entry that is found is the nearest one, and the lower one of two. -/
theorem sunxiClkFreqFind_isNearest (sorted : TableSorted tbl) (some' : 0 < tbl.length) {freq : Nat}
    (small : freq < 2 ^ 31) :
    ∃ index : Nat, sunxiClkFreqFind tbl tbl.length freq = some (index : Int) ∧
      IsNearest (tableKey tbl) tbl.length freq index := by
  have isSorted : ∀ first second, first ≤ second → second < tbl.length →
      tableKey tbl first ≤ tableKey tbl second := fun _ _ => sorted.tableKey_le
  obtain ⟨index, isIndex, found⟩ :=
    sunxiClkFreqSearch_found sorted some' (Window.start (tableKey tbl) tbl.length (freq : Int))
  unfold sunxiClkFreqFind
  rw [isIndex]
  dsimp only
  by_cases last : (index : Int) = tbl.length - 1
  · rw [if_neg (not_not.mpr last)]
    refine ⟨index, rfl, found.isNearest_self isSorted fun inside => ?_⟩
    omega
  · rw [if_pos last]
    have inside : index + 1 < tbl.length := by
      have := found.inside
      omega
    have here := List.getElem?_eq_getElem found.inside
    have next := List.getElem?_eq_getElem inside
    have isNext : tableEntry tbl ((index : Int) + 1) = tbl[index + 1]? :=
      tableEntry_natCast (index + 1)
    rw [tableEntry_natCast, isNext, here, next]
    dsimp only
    rw [freqDelta_eq small, freqDelta_eq small, ← tableKey_of_getElem? here,
      ← tableKey_of_getElem? next]
    split
    next nearer => exact ⟨index + 1, rfl, found.isNearest_next isSorted inside nearer⟩
    next noNearer =>
      exact ⟨index, rfl, found.isNearest_self isSorted fun _ => not_lt.mp noNearer⟩

/-- The factors are those of the nearest entry. -/
theorem sunxiClkComFtrSr_isNearest (sorted : TableSorted tbl) (some' : 0 < tbl.length) {freq : Nat}
    (small : freq < 2 ^ 31) (config : FactorsConfig) (before : ClkFactorsValue) :
    ∃ index entry, IsNearest (tableKey tbl) tbl.length freq index ∧ tbl[index]? = some entry ∧
      sunxiClkComFtrSr config before tbl freq tbl.length =
        some (0, entry.values config before) := by
  obtain ⟨index, isIndex, nearest⟩ := sunxiClkFreqFind_isNearest sorted some' small
  have inTable := nearest.inside
  refine ⟨index, tbl[index], nearest, List.getElem?_eq_getElem inTable, ?_⟩
  unfold sunxiClkComFtrSr
  rw [isIndex]
  dsimp only
  have inside : ¬ (index : Int) ≥ tbl.length := Int.not_le.mpr (Int.ofNat_lt.mpr nearest.inside)
  rw [if_neg inside, tableEntry_natCast, List.getElem?_eq_getElem inTable]
  rfl

end Search

end PinePhonePkg
