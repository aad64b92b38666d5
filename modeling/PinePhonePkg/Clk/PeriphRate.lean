/-
This file models how a peripheral clock chooses its parent and divides its rate. The
divider is made of two fields, a factor and a number of halvings.

It proves what divider a rate is rounded with, that a divider too large for the fields
is halved once too often and not cut to the largest, and that the rate that rounding
promised is the one that is set and read back.
-/

import PinePhonePkg.Clk.Division
import PinePhonePkg.Clk.Gates
import PinePhonePkg.Clk.Tree
import PinePhonePkg.Library.Scaled

namespace PinePhonePkg

open Library

/-! ### The source -/

section Operations

variable {Com Hw : Type} (device : ClkDevice Hw) (periph : ClkPeriph Com)

/-- The number of the parent that is selected -/
def sunxiClkPeriphGetParent (hw : Hw) : BitVec 8 :=
  if periph.mux.reg = 0 then 0
  else (getBits periph.mux.shift periph.mux.width (device.readl periph.mux.reg hw)).setWidth 8

/-- Selects a parent by its number. -/
def sunxiClkPeriphSetParent (index : BitVec 8) (hw : Hw) : Int × Hw :=
  if periph.clkReadonly then (0, hw)
  else if periph.mux.reg = 0 then (0, hw)
  else
    let reg := device.readl periph.mux.reg hw
    let reg := setBits periph.mux.shift periph.mux.width reg (index.setWidth 32)
    (0, device.writel reg periph.mux.reg hw)

/-- `(div_m+1)*(1<<div_n)` as a divisor of `do_div` -/
def dividerBase (factorM factorN : Nat) : U32 := BitVec.ofNat 32 ((factorM + 1) * 2 ^ factorN)

/-- The rate by the dividers that the register holds -/
def sunxiClkPeriphRecalcRate (hw : Hw) (parentRate : Ulong) : Ulong :=
  let divider := periph.divider
  if divider.reg = 0 then parentRate
  else
    let reg := device.readl divider.reg hw
    let divM := if divider.mwidth ≠ 0 then (getBits divider.mshift divider.mwidth reg).toNat else 0
    let divN := if divider.nwidth ≠ 0 then (getBits divider.nshift divider.nwidth reg).toNat else 0
    (clkDoDiv parentRate (dividerBase divM divN)).1

/-- The loop that looks for the factors, from `i` on: they are found, or what is left of the divider
is. -/
def searchFactors (divM : Nat) : Nat → Nat → Nat → (Nat × Nat) ⊕ Nat
  | 0, _, div => .inr div
  | rounds + 1, i, div =>
    if div ≤ divM then .inl (div - 1, i)
    else if div / 2 = 0 then .inl (0, i + 1)
    else searchFactors divM rounds (i + 1) (div / 2)

/-- The factors of a divider -/
def dividerFactors (divider : PeriphDivider) (div : Nat) : Nat × Nat :=
  let divM := 2 ^ divider.mwidth
  match searchFactors divM (2 ^ divider.nwidth) 0 div with
  | .inl factors => factors
  | .inr div => ((if div > divM then divM else div) - 1, 2 ^ divider.nwidth - 1)

/-- The divider that is asked for is rounded. -/
def sunxiClkPeriphRoundRate (rate prate : Ulong) : Ulong :=
  let div := (clkDoDiv (prate + rate / 2 - 1) (rate.setWidth 32)).1
  if div = 0 then prate
  else
    let (factorM, factorN) := dividerFactors periph.divider div.toNat
    (clkDoDiv prate (dividerBase factorM factorN)).1

/-- The divider is cut to the largest one here. -/
def sunxiClkPeriphSetRate (hw : Hw) (rate parentRate : Ulong) : Int × Hw :=
  let divider := periph.divider
  if periph.clkReadonly then (0, hw)
  else if divider.reg = 0 then (0, hw)
  else
    let div := (clkDoDiv parentRate (rate.setWidth 32)).1.toNat
    let (divM, divN) :=
      if div = 0 then (0, 0)
      else
        let largest := 2 ^ divider.mwidth * 2 ^ (2 ^ divider.nwidth - 1)
        dividerFactors divider (if div > largest then largest else div)
    let reg := device.readl divider.reg hw
    let reg :=
      if divider.mwidth ≠ 0 then
        setBits divider.mshift divider.mwidth reg (BitVec.ofNat 32 divM)
      else reg
    let reg :=
      if divider.nwidth ≠ 0 then
        setBits divider.nshift divider.nwidth reg (BitVec.ofNat 32 divN)
      else reg
    (0, device.writel reg divider.reg hw)

/-- `sunxi_clk_periph_ops` -/
def sunxiClkPeriphOps [DecidableEq Com] (share : Com → GateKind → Bool) :
    ClkOps (GateState Com Hw) where
  enable := some (sunxiClkPeriphEnable device share periph)
  disable := some (sunxiClkPeriphDisable device share periph)
  recalcRate := some fun state => sunxiClkPeriphRecalcRate device periph state.hw
  roundRate := some fun _ rate prate => (sunxiClkPeriphRoundRate periph rate prate, prate)
  setParent := some fun state index =>
    let (ret, hw) := sunxiClkPeriphSetParent device periph (BitVec.ofNat 8 index) state.hw
    (ret, { state with hw := hw })
  getParent := some fun state => (sunxiClkPeriphGetParent device periph state.hw).toNat
  setRate := some fun state rate parentRate =>
    let (ret, hw) := sunxiClkPeriphSetRate device periph state.hw rate parentRate
    (ret, { state with hw := hw })
  init := none

end Operations

/-! ### The factors of a divider -/

/-- The loop from one of its rounds on: with the factors the number was halved until it was within
the limit; without them it was halved each time. -/
theorem searchFactors_spec {divM : Nat} (some : 0 < divM) {value : Nat} (rounds i : Nat)
    (first : ∀ fewer < i, divM < value / 2 ^ fewer) :
    (∃ exponent, i ≤ exponent ∧ exponent < i + rounds ∧ value / 2 ^ exponent ≤ divM ∧
      (∀ fewer < exponent, divM < value / 2 ^ fewer) ∧
      searchFactors divM rounds i (value / 2 ^ i) = .inl (value / 2 ^ exponent - 1, exponent)) ∨
    (∀ fewer < i + rounds, divM < value / 2 ^ fewer) ∧
      searchFactors divM rounds i (value / 2 ^ i) = .inr (value / 2 ^ (i + rounds)) := by
  induction rounds generalizing i with
  | zero => exact Or.inr ⟨first, rfl⟩
  | succ rounds inductionHypothesis =>
    unfold searchFactors
    by_cases small : value / 2 ^ i ≤ divM
    · rw [if_pos small]
      exact Or.inl ⟨i, le_rfl, Nat.lt_add_of_pos_right (Nat.succ_pos rounds), small, first, rfl⟩
    · have large : divM < value / 2 ^ i := Nat.lt_of_not_le small
      have notZero : value / 2 ^ i / 2 ≠ 0 := by omega
      have halved : value / 2 ^ i / 2 = value / 2 ^ (i + 1) := by
        rw [Nat.div_div_eq_div_mul, ← Nat.pow_succ]
      have next : ∀ fewer < i + 1, divM < value / 2 ^ fewer := by
        intro fewer below
        rcases Nat.lt_succ_iff_lt_or_eq.mp below with less | rfl
        · exact first fewer less
        · exact large
      rw [if_neg small, if_neg notZero, halved]
      rcases inductionHypothesis (i + 1) next with
        ⟨exponent, atLeast, below, isSmall, isFirst, isFound⟩ | ⟨beyond, isLeft⟩
      · refine Or.inl ⟨exponent, Nat.le_of_succ_le atLeast, ?_, isSmall, isFirst, isFound⟩
        omega
      · rw [Nat.add_right_comm, Nat.add_assoc] at beyond isLeft
        exact Or.inr ⟨beyond, isLeft⟩

/-- The divider that the factors make -/
def divisorOf (factors : Nat × Nat) : Nat := (factors.1 + 1) * 2 ^ factors.2

section Factors

variable (divider : PeriphDivider)

/-- The fields can make the divider. -/
def PeriphDivider.Makes (value : Nat) : Prop := Scaled (2 ^ divider.mwidth) (2 ^ divider.nwidth) value

/-- The largest divider that the fields can make -/
def PeriphDivider.largest : Nat := 2 ^ divider.mwidth * 2 ^ (2 ^ divider.nwidth - 1)

/-- From here on a divider is beyond the fields even when it is halved each time. -/
def PeriphDivider.beyond : Nat := (2 ^ divider.mwidth + 1) * 2 ^ (2 ^ divider.nwidth - 1)

/-- The factors fit the fields, and they make the greatest divider below the number; a number that
is too large is halved as often as there are values of the second field, one time more than the
divider that is made of the rest is doubled. -/
theorem dividerFactors_spec {value : Nat} (some : 0 < value) :
    (dividerFactors divider value).1 < 2 ^ divider.mwidth ∧
      (dividerFactors divider value).2 < 2 ^ divider.nwidth ∧
      divider.Makes (divisorOf (dividerFactors divider value)) ∧
      divisorOf (dividerFactors divider value) ≤ value ∧
      (value < divider.beyond →
        IsGreatest {made | divider.Makes made ∧ made ≤ value}
          (divisorOf (dividerFactors divider value))) ∧
      (divider.beyond ≤ value →
        divisorOf (dividerFactors divider value) =
          min (value / 2 ^ 2 ^ divider.nwidth) (2 ^ divider.mwidth) *
            2 ^ (2 ^ divider.nwidth - 1)) := by
  have positive : 0 < 2 ^ divider.mwidth := Nat.two_pow_pos _
  have roundsPositive : 0 < 2 ^ divider.nwidth := Nat.two_pow_pos _
  unfold PeriphDivider.Makes PeriphDivider.beyond
  unfold dividerFactors
  dsimp only
  have search := @searchFactors_spec (2 ^ divider.mwidth) positive value (2 ^ divider.nwidth) 0
    fun fewer below => absurd below (Nat.not_lt_zero fewer)
  rw [Nat.pow_zero, Nat.div_one, Nat.zero_add] at search
  generalize 2 ^ divider.mwidth = limit at positive search ⊢
  generalize 2 ^ divider.nwidth = rounds at roundsPositive search ⊢
  rcases search with ⟨exponent, -, inside, small, first, isFound⟩ | ⟨beyond, isLeft⟩
  · rw [isFound]
    have someLeft : 0 < value / 2 ^ exponent := by
      cases exponent with
      | zero =>
        rw [Nat.pow_zero, Nat.div_one]
        exact some
      | succ before =>
        have large := first before (Nat.lt_succ_self before)
        rw [Nat.pow_succ, ← Nat.div_div_eq_div_mul]
        omega
    have isDivisor : divisorOf (value / 2 ^ exponent - 1, exponent) =
        value / 2 ^ exponent * 2 ^ exponent := by
      unfold divisorOf
      rw [Nat.sub_add_cancel someLeft]
    have greatest := isGreatest_halved someLeft small inside first
    rw [← isDivisor] at greatest
    refine ⟨?_, inside, greatest.1.1, greatest.1.2, fun _ => greatest, fun tooLarge => ?_⟩
    · show value / 2 ^ exponent - 1 < limit
      omega
    · -- a number that is too large is not found
      have le : value / 2 ^ (rounds - 1) ≤ value / 2 ^ exponent :=
        Nat.div_le_div_left (Nat.pow_le_pow_right Nat.two_pos (Nat.le_sub_one_of_lt inside))
          (Nat.two_pow_pos exponent)
      have large : limit + 1 ≤ value / 2 ^ (rounds - 1) :=
        (Nat.le_div_iff_mul_le (Nat.two_pow_pos _)).mpr tooLarge
      omega
  · rw [isLeft]
    have last := beyond (rounds - 1) (Nat.sub_lt roundsPositive Nat.one_pos)
    have isHalf : value / 2 ^ rounds = value / 2 ^ (rounds - 1) / 2 := by
      rw [Nat.div_div_eq_div_mul, ← Nat.pow_succ, Nat.succ_eq_add_one,
        Nat.sub_add_cancel roundsPositive]
    have someLeft : 0 < value / 2 ^ rounds := by omega
    have isMin : (if value / 2 ^ rounds > limit then limit else value / 2 ^ rounds) =
        min (value / 2 ^ rounds) limit := by
      split
      next above => exact (Nat.min_eq_right (Nat.le_of_lt above)).symm
      next notAbove => exact (Nat.min_eq_left (Nat.not_lt.mp notAbove)).symm
    dsimp only
    rw [isMin]
    have someMin : 0 < min (value / 2 ^ rounds) limit := Nat.lt_min.mpr ⟨someLeft, positive⟩
    have isDivisor : divisorOf (min (value / 2 ^ rounds) limit - 1, rounds - 1) =
        min (value / 2 ^ rounds) limit * 2 ^ (rounds - 1) := by
      unfold divisorOf
      rw [Nat.sub_add_cancel someMin]
    have isBeyond : (limit + 1) * 2 ^ (rounds - 1) ≤ value :=
      (Nat.le_div_iff_mul_le (Nat.two_pow_pos _)).mp last
    rw [isDivisor]
    refine ⟨?_, Nat.sub_lt roundsPositive Nat.one_pos, ⟨_, _, someMin, Nat.min_le_right _ _,
      Nat.sub_lt roundsPositive Nat.one_pos, rfl⟩, ?_,
      fun notBeyond => absurd isBeyond (Nat.not_le.mpr notBeyond), fun _ => rfl⟩
    · show min (value / 2 ^ rounds) limit - 1 < limit
      omega
    · calc min (value / 2 ^ rounds) limit * 2 ^ (rounds - 1)
          ≤ value / 2 ^ (rounds - 1) * 2 ^ (rounds - 1) := by
            refine Nat.mul_le_mul_right _ ((Nat.min_le_left _ _).trans ?_)
            omega
        _ ≤ value := Nat.div_mul_le_self _ _

/-- The divider that rounding decides for -/
def roundedDivisor (rate prate : Nat) : Nat :=
  let ratio := (prate + rate / 2 - 1) / rate
  if ratio = 0 then 1 else divisorOf (dividerFactors divider ratio)

/-- The factors that are set -/
def setFactors (rate parentRate : Nat) : Nat × Nat :=
  let div := parentRate / rate
  if div = 0 then (0, 0)
  else dividerFactors divider (if div > divider.largest then divider.largest else div)

variable {divider} {rate prate : Nat}

theorem PeriphDivider.Makes.one : divider.Makes 1 :=
  ⟨1, 0, Nat.one_pos, Nat.two_pow_pos _, Nat.two_pow_pos _, rfl⟩

theorem roundedDivisor_spec (ratePositive : 0 < rate) (positive : 0 < prate) :
    divider.Makes (roundedDivisor divider rate prate) ∧
      roundedDivisor divider rate prate ≤ prate := by
  unfold roundedDivisor
  dsimp only
  split
  next => exact ⟨PeriphDivider.Makes.one, positive⟩
  next notZero =>
    obtain ⟨-, -, makes, le, -, -⟩ := dividerFactors_spec divider (Nat.pos_of_ne_zero notZero)
    refine ⟨makes, le.trans ?_⟩
    refine Nat.le_of_lt_succ ((Nat.div_lt_iff_lt_mul ratePositive).mpr ?_)
    have atLeast : prate ≤ prate * rate := Nat.le_mul_of_pos_right prate ratePositive
    rw [Nat.succ_mul]
    omega

/-- The factors that are set for a rate that was rounded make a divider that gives this rate. -/
theorem div_divisorOf_setFactors (ratePositive : 0 < rate) (positive : 0 < prate) :
    prate / divisorOf (setFactors divider (prate / roundedDivisor divider rate prate) prate) =
      prate / roundedDivisor divider rate prate := by
  obtain ⟨makes, le⟩ := @roundedDivisor_spec divider rate prate ratePositive positive
  generalize roundedDivisor divider rate prate = rounded at makes le ⊢
  have roundedPositive : 0 < rounded := makes.pos
  have some : 0 < prate / rounded := Nat.div_pos le roundedPositive
  have atMost := le_div_div some
  unfold setFactors
  dsimp only
  have notZero : prate / (prate / rounded) ≠ 0 := by omega
  have isMin : (if prate / (prate / rounded) > divider.largest then divider.largest
      else prate / (prate / rounded)) = min (prate / (prate / rounded)) divider.largest := by
    split
    next above => exact (Nat.min_eq_right (Nat.le_of_lt above)).symm
    next notAbove => exact (Nat.min_eq_left (Nat.not_lt.mp notAbove)).symm
  rw [if_neg notZero, isMin]
  have roundedLe : rounded ≤ min (prate / (prate / rounded)) divider.largest :=
    Nat.le_min.mpr ⟨atMost, makes.le⟩
  obtain ⟨-, -, -, below, greatest, -⟩ :=
    dividerFactors_spec divider (Nat.lt_of_lt_of_le roundedPositive roundedLe)
  have inside : min (prate / (prate / rounded)) divider.largest < divider.beyond := by
    refine Nat.lt_of_le_of_lt (Nat.min_le_right _ _) ?_
    unfold PeriphDivider.largest PeriphDivider.beyond
    exact Nat.mul_lt_mul_of_pos_right (Nat.lt_succ_self _) (Nat.two_pow_pos _)
  exact div_eq_of_between ((greatest inside).2 ⟨makes, roundedLe⟩) roundedPositive some
    (below.trans (Nat.min_le_left _ _))

/-- The factors that are set fit the fields. -/
theorem setFactors_fits (rate prate : Nat) :
    (setFactors divider rate prate).1 < 2 ^ divider.mwidth ∧
      (setFactors divider rate prate).2 < 2 ^ divider.nwidth ∧
      divider.Makes (divisorOf (setFactors divider rate prate)) := by
  unfold setFactors
  dsimp only
  split
  next => exact ⟨Nat.two_pow_pos _, Nat.two_pow_pos _, PeriphDivider.Makes.one⟩
  next notZero =>
    have some : 0 < (if prate / rate > divider.largest then divider.largest
        else prate / rate) := by
      split
      · exact Nat.mul_pos (Nat.two_pow_pos _) (Nat.two_pow_pos _)
      · exact Nat.pos_of_ne_zero notZero
    obtain ⟨first, second, makes, -, -, -⟩ := dividerFactors_spec divider some
    exact ⟨first, second, makes⟩

end Factors

/-! ### The rates -/

section Rates

variable {Com Hw : Type} {periph : ClkPeriph Com}

/-- What a divider of the fields makes of a rate -/
theorem toNat_clkDoDiv_dividerBase {divider : PeriphDivider} (small : divider.largest < 2 ^ 31)
    {factors : Nat × Nat} (makes : divider.Makes (divisorOf factors)) (rate : Ulong) :
    (clkDoDiv rate (dividerBase factors.1 factors.2)).1.toNat = rate.toNat / divisorOf factors := by
  have le : divisorOf factors ≤ divider.largest := makes.le
  have isBase : (dividerBase factors.1 factors.2).toNat = divisorOf factors := by
    unfold dividerBase
    rw [BitVec.toNat_ofNat]
    exact Nat.mod_eq_of_lt (Nat.lt_of_le_of_lt le (by omega))
  rw [toNat_clkDoDiv _ (isBase.symm ▸ makes.pos), isBase]

theorem toNat_roundRate (small : periph.divider.largest < 2 ^ 31) {rate prate : Ulong}
    (ratePositive : 0 < rate.toNat) (rateSmall : rate.toNat < 2 ^ 32) (positive : 0 < prate.toNat)
    (parentSmall : prate.toNat < 2 ^ 32) :
    (sunxiClkPeriphRoundRate periph rate prate).toNat =
      prate.toNat / roundedDivisor periph.divider rate.toNat prate.toNat := by
  have isRate : (rate.setWidth 32 : U32).toNat = rate.toNat := by
    rw [BitVec.toNat_setWidth, Nat.mod_eq_of_lt rateSmall]
  have isHalf : (rate / 2).toNat = rate.toNat / 2 := BitVec.toNat_udiv
  have isSum : (prate + rate / 2 - 1).toNat = prate.toNat + rate.toNat / 2 - 1 := by
    have one : (1 : Ulong).toNat = 1 := rfl
    have sum : (prate + rate / 2).toNat = prate.toNat + rate.toNat / 2 := by
      rw [BitVec.toNat_add_of_lt, isHalf]
      rw [isHalf]
      omega
    rw [BitVec.toNat_sub_of_le, sum, one]
    rw [BitVec.le_def, sum, one]
    omega
  have isRatio : (clkDoDiv (prate + rate / 2 - 1) (rate.setWidth 32)).1.toNat =
      (prate.toNat + rate.toNat / 2 - 1) / rate.toNat := by
    rw [toNat_clkDoDiv _ (isRate.symm ▸ ratePositive), isRate, isSum]
  unfold sunxiClkPeriphRoundRate roundedDivisor
  dsimp only
  generalize (clkDoDiv (prate + rate / 2 - 1) (rate.setWidth 32)).1 = ratio at isRatio ⊢
  rw [← isRatio]
  by_cases zero : ratio = 0
  · subst zero
    have isZero : (0 : Ulong).toNat = 0 := rfl
    rw [if_pos rfl, if_pos isZero, Nat.div_one]
  · have notZero : ratio.toNat ≠ 0 := fun isZero => zero (BitVec.eq_of_toNat_eq isZero)
    rw [if_neg zero, if_neg notZero]
    obtain ⟨-, -, makes, -, -, -⟩ :=
      dividerFactors_spec periph.divider (Nat.pos_of_ne_zero notZero)
    exact toNat_clkDoDiv_dividerBase small makes prate

variable {device : ClkDevice Hw} {status : U32 → U32} {view : Hw → U32 → U32}

/-- The fields of the divider are in the register, beside each other and beside what the device
changes. -/
structure PeriphDivider.Layout (divider : PeriphDivider) (status : U32) : Prop where
  mInWord : divider.mshift + divider.mwidth ≤ 32
  nInWord : divider.nshift + divider.nwidth ≤ 32
  apart : setMask divider.mshift divider.mwidth &&& setMask divider.nshift divider.nwidth = 0
  mStatus : setMask divider.mshift divider.mwidth &&& status = 0
  nStatus : setMask divider.nshift divider.nwidth &&& status = 0

/-- Bits that are beside a divider -/
structure PeriphDivider.Apart (divider : PeriphDivider) (mask : U32) : Prop where
  m : mask &&& setMask divider.mshift divider.mwidth = 0
  n : mask &&& setMask divider.nshift divider.nwidth = 0

/-- The word with the factors -/
def dividerWord (divider : PeriphDivider) (factors : Nat × Nat) (word : U32) : U32 :=
  let word :=
    if divider.mwidth ≠ 0 then
      setBits divider.mshift divider.mwidth word (BitVec.ofNat 32 factors.1)
    else word
  if divider.nwidth ≠ 0 then
    setBits divider.nshift divider.nwidth word (BitVec.ofNat 32 factors.2)
  else word

section Word

variable {divider : PeriphDivider} {statusWord : U32} (layout : divider.Layout statusWord)
  {factors : Nat × Nat} (first : factors.1 < 2 ^ divider.mwidth)
  (second : factors.2 < 2 ^ divider.nwidth)
include layout first second

omit layout first second in
theorem toNat_factor {width factor : Nat} (inWord : width ≤ 32) (fits : factor < 2 ^ width) :
    (BitVec.ofNat 32 factor).toNat = factor := by
  rw [BitVec.toNat_ofNat]
  exact Nat.mod_eq_of_lt (Nat.lt_of_lt_of_le fits (Nat.pow_le_pow_right Nat.two_pos inWord))

omit layout first second in
/-- A factor fits its field as a word, too. -/
theorem toNat_factor_lt {width factor : Nat} (inWord : width ≤ 32) (fits : factor < 2 ^ width) :
    (BitVec.ofNat 32 factor).toNat < 2 ^ width := by
  rw [toNat_factor inWord fits]
  exact fits

theorem dividerWord_and {mask : U32} (apart : divider.Apart mask) (word : U32) :
    dividerWord divider factors word &&& mask = word &&& mask := by
  have mInWord := layout.mInWord
  have nInWord := layout.nInWord
  have firstFits := toNat_factor_lt (by omega) first
  have secondFits := toNat_factor_lt (by omega) second
  unfold dividerWord
  dsimp only
  split
  next =>
    rw [setBits_and_apart nInWord apart.n _ secondFits]
    split
    next => exact setBits_and_apart mInWord apart.m word firstFits
    next => rfl
  next =>
    split
    next => exact setBits_and_apart mInWord apart.m word firstFits
    next => rfl

/-- The first factor is read back. -/
theorem getBits_dividerWord_m (some : divider.mwidth ≠ 0) (word : U32) :
    (getBits divider.mshift divider.mwidth (dividerWord divider factors word)).toNat =
      factors.1 := by
  have mInWord := layout.mInWord
  have nInWord := layout.nInWord
  have firstFits := toNat_factor_lt (by omega) first
  have secondFits := toNat_factor_lt (by omega) second
  unfold dividerWord
  rw [if_pos some]
  dsimp only
  split
  next =>
    rw [getBits_congr (setBits_and_apart nInWord layout.apart _ secondFits),
      getBits_setBits_self mInWord word firstFits, toNat_factor (by omega) first]
  next => rw [getBits_setBits_self mInWord word firstFits, toNat_factor (by omega) first]

omit first in
/-- And so is the second one. -/
theorem getBits_dividerWord_n (some : divider.nwidth ≠ 0) (word : U32) :
    (getBits divider.nshift divider.nwidth (dividerWord divider factors word)).toNat =
      factors.2 := by
  have nInWord := layout.nInWord
  have secondFits := toNat_factor_lt (by omega) second
  unfold dividerWord
  rw [if_pos some, getBits_setBits_self nInWord _ secondFits, toNat_factor (by omega) second]

end Word

section SetRate

variable (keeps : device.Keeps status view) (writable : periph.clkReadonly = false)
  (there : periph.divider.reg ≠ 0) (layout : periph.divider.Layout (status periph.divider.reg))
  {rate parentRate : Ulong} (ratePositive : 0 < rate.toNat) (rateSmall : rate.toNat < 2 ^ 32)
include writable there ratePositive rateSmall

/-- The word that is written has the factors that are set. -/
theorem sunxiClkPeriphSetRate_eq (hw : Hw) :
    sunxiClkPeriphSetRate device periph hw rate parentRate =
      (0, device.writel (dividerWord periph.divider
        (setFactors periph.divider rate.toNat parentRate.toNat)
        (device.readl periph.divider.reg hw)) periph.divider.reg hw) := by
  have isRate : (rate.setWidth 32 : U32).toNat = rate.toNat := by
    rw [BitVec.toNat_setWidth, Nat.mod_eq_of_lt rateSmall]
  have isDiv : (clkDoDiv parentRate (rate.setWidth 32)).1.toNat =
      parentRate.toNat / rate.toNat := by
    rw [toNat_clkDoDiv _ (isRate.symm ▸ ratePositive), isRate]
  unfold sunxiClkPeriphSetRate
  dsimp only
  rw [if_neg (ne_true_of_eq_false writable), if_neg there, isDiv]
  rfl

include keeps layout

/-- The rate that is read back after one was set -/
theorem toNat_recalcRate_setRate (small : periph.divider.largest < 2 ^ 31) (hw : Hw) :
    (sunxiClkPeriphRecalcRate device periph
      (sunxiClkPeriphSetRate device periph hw rate parentRate).2 parentRate).toNat =
      parentRate.toNat /
        divisorOf (setFactors periph.divider rate.toNat parentRate.toNat) := by
  rw [sunxiClkPeriphSetRate_eq writable there ratePositive rateSmall hw]
  obtain ⟨first, second, makes⟩ :=
    @setFactors_fits periph.divider rate.toNat parentRate.toNat
  generalize setFactors periph.divider rate.toNat parentRate.toNat = factors
    at first second makes ⊢
  generalize device.readl periph.divider.reg hw = word
  unfold sunxiClkPeriphRecalcRate
  dsimp only
  rw [if_neg there]
  have readM : (if periph.divider.mwidth ≠ 0 then
      (getBits periph.divider.mshift periph.divider.mwidth (device.readl periph.divider.reg
        (device.writel (dividerWord periph.divider factors word) periph.divider.reg hw))).toNat
      else 0) = factors.1 := by
    split
    next some =>
      rw [getBits_congr ((keeps.readl_and layout.mStatus _).trans
        (keeps.writel_and layout.mStatus _ _))]
      exact getBits_dividerWord_m layout first second some word
    next none =>
      rw [not_not.mp none] at first
      omega
  have readN : (if periph.divider.nwidth ≠ 0 then
      (getBits periph.divider.nshift periph.divider.nwidth (device.readl periph.divider.reg
        (device.writel (dividerWord periph.divider factors word) periph.divider.reg hw))).toNat
      else 0) = factors.2 := by
    split
    next some =>
      rw [getBits_congr ((keeps.readl_and layout.nStatus _).trans
        (keeps.writel_and layout.nStatus _ _))]
      exact getBits_dividerWord_n layout second some word
    next none =>
      rw [not_not.mp none] at second
      omega
  rw [readM, readN]
  exact toNat_clkDoDiv_dividerBase small makes parentRate

end SetRate

end Rates

/-! ### The clocks of this chip -/

/-- `com_gates`; no clock of the display has one. -/
inductive ComGateName : Type where
  | csi
  | adda
  | usbhci1
  | usbhci0
deriving DecidableEq

/-- `share` of an entry of `com_gates` -/
def comGateShare : ComGateName → GateKind → Bool
  | .csi, kind => kind = .bus ∨ kind = .reset ∨ kind = .dram
  | .adda, kind => kind = .bus ∨ kind = .reset
  | .usbhci1, kind => kind = .reset ∨ kind = .dram
  | .usbhci0, kind => kind = .reset ∨ kind = .dram

/-- A register that is there is moved to the base when a clock is registered. -/
def fixRegister (offset : U32) : U32 := if offset ≠ 0 then sunxiClkBase + offset else 0

/-- `SUNXI_CLK_PERIPH` of a clock without flags and without a `struct sunxi_clk_comgate`, after
`sunxi_clk_register_periph` -/
def sunxiClkPeriph (mux : PeriphMux) (divider : PeriphDivider)
    (enableReg resetReg busGateReg drmGateReg : U32)
    (enableShift resetShift busGateShift dramGateShift : Nat) : ClkPeriph ComGateName where
  mux := { mux with reg := fixRegister mux.reg }
  divider := { divider with reg := fixRegister divider.reg }
  clkReadonly := false
  clkRevertEnable := false
  clkIgnoreAutoreset := false
  gateReg := fun kind =>
    match kind with
    | .reset => fixRegister resetReg
    | .bus => fixRegister busGateReg
    | .enable => fixRegister enableReg
    | .dram => fixRegister drmGateReg
  gateShift := fun kind =>
    match kind with
    | .reset => resetShift
    | .bus => busGateShift
    | .enable => enableShift
    | .dram => dramGateShift
  comGate := none
  comGateOff := 0

/-- The clocks of the display, with their registers and bits as in the table of the board -/
def sunxiClkPeriphDe : ClkPeriph ComGateName :=
  sunxiClkPeriph ⟨0x0104, 24, 3⟩ ⟨0x0104, 0, 4, 0, 0⟩ 0x0104 0x02c4 0x0064 0 31 12 12 0

def sunxiClkPeriphTcon0 : ClkPeriph ComGateName :=
  sunxiClkPeriph ⟨0x0118, 24, 3⟩ ⟨0, 0, 0, 0, 0⟩ 0x0118 0x02c4 0x0064 0 31 3 3 0

def sunxiClkPeriphTcon1 : ClkPeriph ComGateName :=
  sunxiClkPeriph ⟨0x011c, 24, 2⟩ ⟨0x011c, 0, 4, 0, 0⟩ 0x011c 0x02c4 0x0064 0 31 4 4 0

def sunxiClkPeriphLvds : ClkPeriph ComGateName :=
  sunxiClkPeriph ⟨0, 0, 0⟩ ⟨0, 0, 0, 0, 0⟩ 0 0x02c8 0 0 0 0 0 0

def sunxiClkPeriphMipidsi : ClkPeriph ComGateName :=
  sunxiClkPeriph ⟨0x0168, 8, 2⟩ ⟨0x0168, 0, 4, 0, 0⟩ 0x0168 0x02c0 0x0060 0 15 1 1 0

def sunxiClkPeriphHdmi : ClkPeriph ComGateName :=
  sunxiClkPeriph ⟨0x0150, 24, 2⟩ ⟨0x0150, 0, 4, 0, 0⟩ 0x0150 0x02c4 0x0064 0x02c4 31 11 11 10

def sunxiClkPeriphHdmiSlow : ClkPeriph ComGateName :=
  sunxiClkPeriph ⟨0, 0, 0⟩ ⟨0, 0, 0, 0, 0⟩ 0x0154 0 0 0 31 0 0 0

/-- The peripheral clocks of `sunxi_periphs_init` -/
inductive DispPeriph : Type where
  | de
  | tcon0
  | tcon1
  | hdmi
  | hdmiSlow
  | lvds
  | mipidsi
deriving DecidableEq

/-- In the order in which they are registered -/
def dispPeriphs : List DispPeriph := [.de, .tcon0, .tcon1, .hdmi, .hdmiSlow, .lvds, .mipidsi]

theorem mem_dispPeriphs (periph : DispPeriph) : periph ∈ dispPeriphs := by
  cases periph <;> decide

/-- The description of a clock of the display -/
def dispPeriph : DispPeriph → ClkPeriph ComGateName
  | .de => sunxiClkPeriphDe
  | .tcon0 => sunxiClkPeriphTcon0
  | .tcon1 => sunxiClkPeriphTcon1
  | .hdmi => sunxiClkPeriphHdmi
  | .hdmiSlow => sunxiClkPeriphHdmiSlow
  | .lvds => sunxiClkPeriphLvds
  | .mipidsi => sunxiClkPeriphMipidsi

theorem comGate_dispPeriph (periph : DispPeriph) : (dispPeriph periph).comGate = none := by
  cases periph <;> rfl

/-! ### Setting the rate of a peripheral clock -/

section SetRate

variable {Clock Com Hw : Type} [DecidableEq Clock] [DecidableEq Com]
  {table : ClkTable Clock (GateState Com Hw)} {device : ClkDevice Hw}
  {share : Com → GateKind → Bool} {periph : ClkPeriph Com} {status : U32 → U32}
  {view : Hw → U32 → U32} {state : ClkState Clock (GateState Com Hw)} {clk up : Clock}

/-- A clock that is asked for a rate gets the greatest divider that its fields can make up to the
rounded ratio. A ratio beyond the fields is not cut to the largest divider, but halved once more
than its rest is doubled. What the clock remembers is what its register makes, and no other bit is
changed. -/
theorem clkSetRate_periph (keeps : device.Keeps status view)
    (layout : periph.divider.Layout (status periph.divider.reg))
    (writable : periph.clkReadonly = false) (there : periph.divider.reg ≠ 0)
    (small : periph.divider.largest < 2 ^ 31)
    (isOps : table.ops clk = sunxiClkPeriphOps device periph share)
    (isParent : state.parent clk = some up) (positive : 0 < (state.rate up).toNat)
    (parentSmall : (state.rate up).toNat < 2 ^ 32) {rate : Ulong} (ratePositive : 0 < rate.toNat)
    (rateSmall : rate.toNat < 2 ^ 32)
    (asked : rate ≠ state.rate clk ∨ table.clkGetRateNocache clk) :
    let after := (clkSetRate table clk rate state).2
    let ratio := ((state.rate up).toNat + rate.toNat / 2 - 1) / rate.toNat
    let divider := periph.divider
    (∃ divisor, (after.rate clk).toNat = (state.rate up).toNat / divisor ∧
      (ratio = 0 → divisor = 1) ∧
      (0 < ratio → ratio < divider.beyond →
        IsGreatest {made | divider.Makes made ∧ made ≤ ratio} divisor) ∧
      (divider.beyond ≤ ratio → divisor = min (ratio / 2 ^ 2 ^ divider.nwidth)
        (2 ^ divider.mwidth) * 2 ^ (2 ^ divider.nwidth - 1))) ∧
      after.newRate clk = after.rate clk ∧
      sunxiClkPeriphRecalcRate device periph after.hw.hw (state.rate up) = after.rate clk ∧
      after.hw.val = state.hw.val ∧
      (∀ mask, divider.Apart mask → mask &&& status divider.reg = 0 →
        view after.hw.hw divider.reg &&& mask = view state.hw.hw divider.reg &&& mask) ∧
      ∀ reg, reg ≠ divider.reg → view after.hw.hw reg = view state.hw.hw reg := by
  have notSame : ¬ (rate = state.rate clk ∧ ¬ table.clkGetRateNocache clk) := by
    rintro ⟨same, cached⟩
    exact asked.elim (absurd same) cached
  have rounded := toNat_roundRate small ratePositive rateSmall positive parentSmall
  obtain ⟨makes, le⟩ :=
    @roundedDivisor_spec periph.divider rate.toNat (state.rate up).toNat ratePositive positive
  have newPositive : 0 < (sunxiClkPeriphRoundRate periph rate (state.rate up)).toNat := by
    rw [rounded]
    exact Nat.div_pos le makes.pos
  have newSmall : (sunxiClkPeriphRoundRate periph rate (state.rate up)).toNat < 2 ^ 32 := by
    rw [rounded]
    exact Nat.lt_of_le_of_lt (Nat.div_le_self _ _) parentSmall
  have readBack : sunxiClkPeriphRecalcRate device periph (sunxiClkPeriphSetRate device periph
      state.hw.hw (sunxiClkPeriphRoundRate periph rate (state.rate up)) (state.rate up)).2
        (state.rate up) = sunxiClkPeriphRoundRate periph rate (state.rate up) := by
    refine BitVec.eq_of_toNat_eq ?_
    rw [toNat_recalcRate_setRate keeps writable there layout newPositive newSmall small, rounded]
    exact div_divisorOf_setFactors ratePositive positive
  have isWritten : sunxiClkPeriphSetRate device periph state.hw.hw
      (sunxiClkPeriphRoundRate periph rate (state.rate up)) (state.rate up) = _ :=
    sunxiClkPeriphSetRate_eq writable there newPositive newSmall state.hw.hw
  intro after ratio divider
  have isAfter : after = (clkSetRate table clk rate state).2 := rfl
  unfold clkSetRate at isAfter
  rw [if_neg notSame, isParent] at isAfter
  dsimp only at isAfter
  rw [isOps] at isAfter
  dsimp only [sunxiClkPeriphOps] at isAfter
  rw [readBack] at isAfter
  rw [isAfter]
  dsimp only
  rw [Function.update_self, Function.update_self]
  refine ⟨⟨roundedDivisor periph.divider rate.toNat (state.rate up).toNat, rounded, ?_, ?_, ?_⟩,
    rfl, readBack, rfl, fun mask apart statusApart => ?_, fun reg different => ?_⟩
  · exact fun zero => if_pos zero
  · intro some inside
    obtain ⟨-, -, -, -, greatest, -⟩ := dividerFactors_spec periph.divider some
    have isDivisor : roundedDivisor periph.divider rate.toNat (state.rate up).toNat =
        divisorOf (dividerFactors periph.divider ratio) := if_neg (Nat.pos_iff_ne_zero.mp some)
    rw [isDivisor]
    exact greatest inside
  · intro large
    have some : 0 < ratio := Nat.lt_of_lt_of_le
      (Nat.mul_pos (Nat.succ_pos _) (Nat.two_pow_pos _)) large
    obtain ⟨-, -, -, -, -, halved⟩ := dividerFactors_spec periph.divider some
    have isDivisor : roundedDivisor periph.divider rate.toNat (state.rate up).toNat =
        divisorOf (dividerFactors periph.divider ratio) := if_neg (Nat.pos_iff_ne_zero.mp some)
    rw [isDivisor]
    exact halved large
  · obtain ⟨first, second, -⟩ := @setFactors_fits periph.divider
      (sunxiClkPeriphRoundRate periph rate (state.rate up)).toNat (state.rate up).toNat
    rw [isWritten, keeps.writel_and statusApart, dividerWord_and layout first second apart,
      keeps.readl_and statusApart]
  · rw [isWritten, keeps.writel, Function.update_of_ne different]

/-- The clock of the display engine, with the clock that feeds it -/
def deTable : ClkTable Bool (GateState ComGateName (U32 → U32)) where
  name := fun clk => if clk then [112] else [100]
  ops := fun clk =>
    if clk then ⟨none, none, none, none, none, none, none, none⟩
    else sunxiClkPeriphOps plainRegisters sunxiClkPeriphDe comGateShare
  parentNames := fun clk => if clk then [] else [[112]]
  clkIsRoot := id
  clkSetParentGate := fun _ => false
  clkGetRateNocache := fun _ => false

/-- It is fed with 432 MHz. -/
def deState : ClkState Bool (GateState ComGateName (U32 → U32)) where
  clkList := [false, true]
  parent := fun clk => if clk then none else some true
  parents := fun _ => none
  rate := fun _ => 432000000
  newRate := fun _ => 0
  enableCount := fun _ => 0
  prepareCount := fun _ => 0
  hw := ⟨fun _ => 0, fun _ => 0⟩

theorem sunxiClkPeriphDe_layout : sunxiClkPeriphDe.divider.Layout 0 := by
  refine ⟨?_, ?_, ?_, ?_, ?_⟩ <;> decide

/-- An eighteenth is asked for, the largest divider is 16, and a ninth is what is set. -/
theorem clkSetRate_periph_de :
    ((clkSetRate deTable false 24000000 deState).2.rate false).toNat = 48000000 := by
  have isSet := @clkSetRate_periph _ _ _ _ _ deTable plainRegisters comGateShare sunxiClkPeriphDe _ _
    deState false true plainRegisters_keeps sunxiClkPeriphDe_layout rfl (by decide) (by decide) rfl
    rfl (by decide) (by decide) 24000000 (by decide) (by decide)
    (.inl (by decide : (24000000 : Ulong) ≠ 432000000))
  obtain ⟨divisor, isRate, -, -, halved⟩ := isSet.1
  have isDivisor : divisor = 9 := halved (by decide)
  rw [isRate, isDivisor]
  rfl

end SetRate

end PinePhonePkg
