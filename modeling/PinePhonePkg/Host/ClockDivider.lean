/-
This file gives the module clock in numbers: the rates of its sources, the divider
that is chosen in 32 bits, what a power of two and a factor can express of it, and
what the register of the module clock then holds.
-/

import PinePhonePkg.Host.ModuleClock
import PinePhonePkg.Library.Bits
import PinePhonePkg.Library.Dividers
import Mathlib.Tactic.IntervalCases

namespace PinePhonePkg

open Library

/-! ### Sources -/

/-- The factor N of the PLL -/
def factorN (regVal : U32) : Nat := (regVal >>> 8 &&& 0x1f).toNat + 1

/-- The factor K of the PLL -/
def factorK (regVal : U32) : Nat := (regVal >>> 4 &&& 0x03).toNat + 1

/-- The rate of PLL_PERIPH0, in MHz -/
def pllPeriph0Mhz (regVal : U32) : Nat := 24 * factorN regVal * factorK regVal / 2

/-- The oscillator, or twice PLL_PERIPH0 -/
def sourceHz (regVal : U32) (src : Nat) : Nat :=
  if src = 0 then 24000000 else pllPeriph0Mhz regVal * 2 * 1000000

/-- The source that is taken for a rate -/
def sourceFor (rate : Nat) : Nat := if rate ≤ 4000000 then 0 else 1

section Sources

variable (regVal : U32)

theorem factorN_le : factorN regVal ≤ 32 :=
  Nat.succ_le_succ (toNat_and_le _)

theorem factorK_le : factorK regVal ≤ 4 :=
  Nat.succ_le_succ (toNat_and_le _)

/-- How many times 24 MHz the source of the PLL has -/
theorem factors_bounds : 1 ≤ factorN regVal * factorK regVal ∧
    factorN regVal * factorK regVal ≤ 128 :=
  ⟨Nat.mul_pos (Nat.succ_pos _) (Nat.succ_pos _),
    Nat.mul_le_mul (factorN_le regVal) (factorK_le regVal)⟩

theorem pllPeriph0Mhz_eq : pllPeriph0Mhz regVal = 12 * (factorN regVal * factorK regVal) := by
  have even : 24 * factorN regVal * factorK regVal = 2 * (12 * (factorN regVal * factorK regVal)) :=
    by ring
  unfold pllPeriph0Mhz
  rw [even, Nat.mul_div_cancel_left _ Nat.two_pos]

theorem sourceHz_pll : sourceHz regVal 1 = 24000000 * (factorN regVal * factorK regVal) := by
  unfold sourceHz
  rw [if_neg (by decide), pllPeriph0Mhz_eq]
  omega

theorem sourceHz_bounds (src : Nat) :
    24000000 ≤ sourceHz regVal src ∧ sourceHz regVal src ≤ 24000000 * 128 := by
  have bounds := factors_bounds regVal
  by_cases oscillator : src = 0
  · rw [sourceHz, if_pos oscillator]
    decide
  · have pll : sourceHz regVal src = sourceHz regVal 1 :=
      (if_neg oscillator).trans (if_neg Nat.one_ne_zero).symm
    rw [pll, sourceHz_pll]
    omega

theorem toNat_pll6Of : (pll6Of regVal).toNat = pllPeriph0Mhz regVal := by
  unfold pll6Of
  extract_lets n k
  have isN : n.toNat = factorN regVal :=
    BitVec.toNat_add_of_lt (Nat.lt_of_le_of_lt (factorN_le regVal) (by decide))
  have isK : k.toNat = factorK regVal :=
    BitVec.toNat_add_of_lt (Nat.lt_of_le_of_lt (factorK_le regVal) (by decide))
  have smallN : 24 * factorN regVal ≤ 24 * 32 := Nat.mul_le_mul_left 24 (factorN_le regVal)
  have small : 24 * factorN regVal * factorK regVal ≤ 24 * 32 * 4 :=
    Nat.mul_le_mul smallN (factorK_le regVal)
  have timesN : (24 * n).toNat = 24 * factorN regVal := by
    rw [← isN] at smallN ⊢
    exact BitVec.toNat_mul_of_lt (Nat.lt_of_le_of_lt smallN (by decide))
  have times : (24 * n * k).toNat = 24 * factorN regVal * factorK regVal := by
    rw [← timesN, ← isK] at small ⊢
    exact BitVec.toNat_mul_of_lt (Nat.lt_of_le_of_lt small (by decide))
  rw [BitVec.toNat_udiv, times]
  rfl

theorem toNat_pllHz : (pll6Of regVal * 2 * 1000000).toNat = sourceHz regVal 1 := by
  have bounds := factors_bounds regVal
  have isPll := toNat_pll6Of regVal
  rw [pllPeriph0Mhz_eq] at isPll
  have twice : (pll6Of regVal * 2).toNat = 24 * (factorN regVal * factorK regVal) := by
    rw [BitVec.toNat_mul_of_lt, isPll]
    · show _ * 2 = _
      omega
    · show _ * 2 < _
      omega
  rw [sourceHz_pll, BitVec.toNat_mul_of_lt, twice]
  · show _ * 1000000 = _
    omega
  · rw [twice]
    show _ * 1000000 < _
    omega

/-- The source is taken as for a rate, at its rate. -/
theorem mclkSource_eq (clkHz : U32) :
    (mclkSource regVal clkHz).1.toNat = sourceFor clkHz.toNat ∧
      (mclkSource regVal clkHz).2.toNat = sourceHz regVal (sourceFor clkHz.toNat) := by
  unfold mclkSource sourceFor
  by_cases slow : clkHz ≤ 4000000
  · have small : clkHz.toNat ≤ 4000000 := slow
    rw [if_pos slow, if_pos small]
    exact ⟨rfl, rfl⟩
  · have large : ¬clkHz.toNat ≤ 4000000 := slow
    rw [if_neg slow, if_neg large]
    exact ⟨rfl, toNat_pllHz regVal⟩

end Sources

/-! ### Dividers -/

/-- The divider for a rate, in 32 bits -/
def mclkChosen (source rate : Nat) : Nat :=
  let div := (2 * source + rate) % 2 ^ 32 / (2 * rate)
  if div = 0 then 1 else div

/-- The power of two in a divider, and the factor, of which a remainder is cut off -/
def mclkExponent (div : Nat) : Nat :=
  if div > 128 then 0
  else if div > 64 then 3
  else if div > 32 then 2
  else if div > 16 then 1
  else 0

/-- The divider M that the code chooses for a quotient -/
def mclkFactor (div : Nat) : Nat := if div > 128 then 1 else div / 2 ^ mclkExponent div

/-- What is divided by in fact -/
def effective (div : Nat) : Nat := 2 ^ mclkExponent div * mclkFactor div

/-- There is no remainder, and the divider is not too large. -/
def Encodable (div : Nat) : Prop := 0 < div ∧ div ≤ 128 ∧ 2 ^ mclkExponent div ∣ div

instance (div : Nat) : Decidable (Encodable div) := inferInstanceAs (Decidable (_ ∧ _ ∧ _))

section Dividers

variable {div : Nat}

theorem mclkExponent_lt (div : Nat) : mclkExponent div < 4 := by
  unfold mclkExponent
  split_ifs <;> decide

theorem mclkFactor_bounds (positive : 0 < div) : 0 < mclkFactor div ∧ mclkFactor div ≤ 16 := by
  unfold mclkFactor mclkExponent
  split_ifs <;> omega

theorem effective_pos (positive : 0 < div) : 0 < effective div :=
  Nat.mul_pos (Nat.two_pow_pos _) (mclkFactor_bounds positive).1

theorem effective_le (small : div ≤ 128) : effective div ≤ div := by
  unfold effective mclkFactor
  rw [if_neg (Nat.not_lt.mpr small)]
  exact Nat.mul_div_le _ _

theorem effective_of_gt (large : 128 < div) : effective div = 1 := by
  unfold effective mclkFactor mclkExponent
  rw [if_pos large, if_pos large]
  rfl

theorem effective_le_max (div : Nat) : effective div ≤ 128 := by
  by_cases small : div ≤ 128
  · exact (effective_le small).trans small
  · rw [effective_of_gt (Nat.not_le.mp small)]
    decide

theorem Encodable.effective_eq (encodable : Encodable div) : effective div = div := by
  unfold effective mclkFactor
  rw [if_neg (Nat.not_lt.mpr encodable.2.1)]
  exact Nat.mul_div_cancel' encodable.2.2

/-- A divider with no remainder can be expressed. -/
theorem encodable_of_le (positive : 0 < div) (small : div ≤ 128) (whole : div ≤ effective div) :
    Encodable div := by
  refine ⟨positive, small, mclkFactor div, ?_⟩
  exact Nat.le_antisymm whole (effective_le small)

theorem mclkChosen_pos (source rate : Nat) : 0 < mclkChosen source rate := by
  unfold mclkChosen
  dsimp only
  split
  · exact Nat.one_pos
  · next some => exact Nat.pos_of_ne_zero some

/-- Where the sum does not leave its 32 bits, the nearest divider is chosen. -/
theorem mclkChosen_eq {source rate : Nat} (inside : 2 * source + rate < 2 ^ 32) :
    mclkChosen source rate = if nearest source rate = 0 then 1 else nearest source rate := by
  unfold mclkChosen nearest
  rw [Nat.mod_eq_of_lt inside]

theorem toNat_mclkDiv (sclkHz clkHz : U32) (inside : 2 * clkHz.toNat < 2 ^ 32) :
    (mclkDiv sclkHz clkHz).toNat = mclkChosen sclkHz.toNat clkHz.toNat := by
  have isDiv : ((2 * sclkHz + clkHz) / (2 * clkHz)).toNat =
      (2 * sclkHz.toNat + clkHz.toNat) % 2 ^ 32 / (2 * clkHz.toNat) := by
    have twice : (2 * clkHz).toNat = 2 * clkHz.toNat := BitVec.toNat_mul_of_lt inside
    rw [BitVec.toNat_udiv, twice, BitVec.toNat_add, BitVec.toNat_mul, Nat.mod_add_mod]
    rfl
  unfold mclkDiv mclkChosen
  dsimp only
  rw [← isDiv]
  generalize (2 * sclkHz + clkHz) / (2 * clkHz) = div
  by_cases zero : div = 0
  · subst zero
    rfl
  · have some : div.toNat ≠ 0 := fun isZero => zero (BitVec.eq_of_toNat_eq isZero)
    rw [if_neg zero, if_neg some]

theorem toNat_mclkDivider (div : U32) :
    (mclkDivider div).1.toNat = mclkExponent div.toNat ∧
      (mclkDivider div).2.toNat = mclkFactor div.toNat := by
  have shifted : ∀ count : Nat, (div >>> count).toNat = div.toNat / 2 ^ count := fun count =>
    (BitVec.toNat_ushiftRight div count).trans (Nat.shiftRight_eq_div_pow _ _)
  have over128 : div > 128 ↔ div.toNat > 128 := Iff.rfl
  have over64 : div > 64 ↔ div.toNat > 64 := Iff.rfl
  have over32 : div > 32 ↔ div.toNat > 32 := Iff.rfl
  have over16 : div > 16 ↔ div.toNat > 16 := Iff.rfl
  unfold mclkDivider mclkFactor mclkExponent
  simp only [over128, over64, over32, over16]
  split_ifs
  · exact ⟨rfl, rfl⟩
  · exact ⟨rfl, shifted 3⟩
  · exact ⟨rfl, shifted 2⟩
  · exact ⟨rfl, shifted 1⟩
  · exact ⟨rfl, (Nat.div_one _).symm⟩

end Dividers

/-! ### The register of the module clock -/

/-- The gate is open, and a source and a divider are held, each in its own bits. -/
def MclkHolds (rval : U32) (src n m : Nat) : Prop :=
  src < 4 ∧ n < 4 ∧ m < 16 ∧ rval.toNat = 2 ^ 31 + src * 2 ^ 24 + n * 2 ^ 16 + m

theorem MclkHolds.unique {rval : U32} {src n m src' n' m' : Nat} (holds : MclkHolds rval src n m)
    (holds' : MclkHolds rval src' n' m') : src = src' ∧ n = n' ∧ m = m' := by
  obtain ⟨src, n, m, value⟩ := holds
  obtain ⟨src', n', m', value'⟩ := holds'
  omega

/-- The fields of the register do not overlap. -/
theorem mclkFields (src n : Fin 4) (m : Fin 16) :
    let rval : U32 := BitVec.ofNat 32 src <<< 24 ||| BitVec.ofNat 32 n <<< 16 ||| BitVec.ofNat 32 m
    (rval ||| bit 31).toNat = 2 ^ 31 + src * 2 ^ 24 + n * 2 ^ 16 + m ∧
      rval >>> 24 &&& 0x3 = BitVec.ofNat 32 src ∧ rval >>> 16 &&& 0x3 = BitVec.ofNat 32 n ∧
        rval &&& 0xf = BitVec.ofNat 32 m := by
  revert src n m
  decide

section Fields

variable {src n m : U32}

/-- A factor is held less one. -/
theorem mclkValue_fields (srcIn : src.toNat < 4) (nIn : n.toNat < 4)
    (mIn : 0 < m.toNat ∧ m.toNat ≤ 16) :
    MclkHolds (mclkValue src (n, m) ||| bit 31) src.toNat n.toNat (m.toNat - 1) ∧
      mclkValue src (n, m) >>> 24 &&& 0x3 = src ∧ mclkValue src (n, m) >>> 16 &&& 0x3 = n ∧
        (mclkValue src (n, m) &&& 0xf) + 1 = m := by
  have less : m - 1 = BitVec.ofNat 32 (m.toNat - 1) := by
    refine BitVec.eq_of_toNat_eq ?_
    rw [BitVec.toNat_sub_of_le (show (1 : U32) ≤ m from mIn.1), BitVec.toNat_ofNat]
    exact (Nat.mod_eq_of_lt (by omega)).symm
  have again : BitVec.ofNat 32 (m.toNat - 1) + 1 = m := by
    rw [← less]
    exact BitVec.sub_add_cancel m 1
  have small : m.toNat - 1 < 16 := by omega
  have fields := mclkFields ⟨src.toNat, srcIn⟩ ⟨n.toNat, nIn⟩ ⟨m.toNat - 1, small⟩
  unfold mclkValue
  dsimp only at fields ⊢
  rw [BitVec.ofNat_toNat, BitVec.ofNat_toNat, BitVec.setWidth_eq, BitVec.setWidth_eq] at fields
  rw [less]
  obtain ⟨value, isSrc, isN, isM⟩ := fields
  refine ⟨⟨srcIn, nIn, small, value⟩, isSrc, isN, ?_⟩
  rw [isM, again]

/-- What is read back is the rate of the source behind the divider. -/
theorem toNat_mclkRead (pll : U32) (srcIn : src.toNat ≤ 1) (nIn : n.toNat < 4)
    (mIn : 0 < m.toNat ∧ m.toNat ≤ 16) :
    (mclkRead pll (mclkValue src (n, m))).toNat =
      sourceHz pll src.toNat / 2 ^ n.toNat / m.toNat := by
  obtain ⟨-, isSrc, isN, isM⟩ := mclkValue_fields (Nat.lt_of_le_of_lt srcIn (by decide)) nIn mIn
  have power : ((1 : U32) <<< n).toNat = 2 ^ n.toNat := by
    rw [BitVec.shiftLeft_eq', BitVec.toNat_shiftLeft]
    generalize n.toNat = place at nIn
    interval_cases place <;> rfl
  have rate : (if src = 0 then (24000000 : U32)
      else if src = 1 then pll6Of pll * 2 * 1000000 else 0).toNat = sourceHz pll src.toNat := by
    by_cases oscillator : src = 0
    · rw [if_pos oscillator, oscillator]
      rfl
    · have isPll : src = 1 := by
        refine BitVec.eq_of_toNat_eq (Nat.le_antisymm srcIn (Nat.pos_of_ne_zero fun isZero => ?_))
        exact oscillator (BitVec.eq_of_toNat_eq isZero)
      rw [if_neg oscillator, if_pos isPll, isPll]
      exact toNat_pllHz pll
  unfold mclkRead
  rw [isSrc, isN, isM, BitVec.toNat_udiv, BitVec.toNat_udiv, power, ← rate]

end Fields

/-- What is written for a module clock, and what is read back -/
theorem mclkWritten_spec (pll clkHz : U32) (inside : 2 * clkHz.toNat < 2 ^ 32) :
    let source := sourceHz pll (sourceFor clkHz.toNat)
    let div := mclkChosen source clkHz.toNat
    MclkHolds (mclkWritten pll clkHz ||| bit 31) (sourceFor clkHz.toNat) (mclkExponent div)
        (mclkFactor div - 1) ∧
      (mclkRead pll (mclkWritten pll clkHz)).toNat = source / effective div := by
  intro source div
  obtain ⟨isSrc, isSource⟩ := mclkSource_eq pll clkHz
  have isDiv : (mclkDiv (mclkSource pll clkHz).2 clkHz).toNat = div := by
    rw [toNat_mclkDiv _ _ inside, isSource]
  obtain ⟨isN, isM⟩ := toNat_mclkDivider (mclkDiv (mclkSource pll clkHz).2 clkHz)
  rw [isDiv] at isN isM
  have srcIn : (mclkSource pll clkHz).1.toNat ≤ 1 := by
    rw [isSrc]
    unfold sourceFor
    split <;> decide
  have nIn : (mclkDivider (mclkDiv (mclkSource pll clkHz).2 clkHz)).1.toNat < 4 :=
    isN ▸ mclkExponent_lt div
  have mIn : 0 < (mclkDivider (mclkDiv (mclkSource pll clkHz).2 clkHz)).2.toNat ∧
      (mclkDivider (mclkDiv (mclkSource pll clkHz).2 clkHz)).2.toNat ≤ 16 :=
    isM ▸ mclkFactor_bounds (mclkChosen_pos _ _)
  have holds := (mclkValue_fields (Nat.lt_of_le_of_lt srcIn (by decide)) nIn mIn).1
  have read := toNat_mclkRead pll srcIn nIn mIn
  rw [isSrc, isN, isM] at holds read
  rw [Nat.div_div_eq_div_mul] at read
  exact ⟨holds, read⟩

end PinePhonePkg
