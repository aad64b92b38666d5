/-
This file models the division of the clocks. It is a copy of the one of the card
driver, but it looks for any bit of the divisor where that one looks for the sign:
the divisor is doubled until it reaches the remainder, and by then it has not run
over.
-/

import PinePhonePkg.Mmc.Division

namespace PinePhonePkg

/-! ### The division of the clocks -/

/-- `while ((u64)b > 0 && b < rem)`. A divisor that is doubled 64 times is zero, so that many rounds
are enough. -/
def clkScaleUp (rem : Ulong) : Nat → Ulong → Ulong → Ulong × Ulong
  | 0, b, d => (b, d)
  | rounds + 1, b, d => if 0 < b ∧ b < rem then clkScaleUp rem rounds (b + b) (d + d) else (b, d)

/-- `__div64_32`: the quotient that is stored, and the remainder -/
def clkDiv6432 (n : Ulong) (base : U32) : Ulong × U32 :=
  let (res, rem) := reduceFirst n base
  let (b, d) := clkScaleUp rem 64 (base.setWidth 64) 1
  let (rem, res) := scaleDown rem res b d
  (res, rem.setWidth 32)

/-- `do_div` of the clocks -/
def clkDoDiv (n : Ulong) (base : U32) : Ulong × U32 :=
  if n >>> 32 = 0 then
    ((n.setWidth 32 / base).setWidth 64, n.setWidth 32 % base)
  else clkDiv6432 n base

/-! ### It is exact -/

/-- After the first reduction the remainder is below the divisor moved up. -/
theorem reduceFirst_lt (n : Ulong) {base : U32} (positive : 0 < base.toNat) :
    (reduceFirst n base).2.toNat < base.toNat * 2 ^ 32 := by
  have isHigh : ((n >>> 32).setWidth 32 : U32).toNat = n.toNat / 2 ^ 32 := toNat_high n
  unfold reduceFirst
  extract_lets high
  have high' : high.toNat = n.toNat / 2 ^ 32 := isHigh
  have split := Nat.div_add_mod n.toNat (2 ^ 32)
  have low := Nat.mod_lt n.toNat (Nat.two_pow_pos 32)
  by_cases reaches : high ≥ base
  · rw [if_pos reaches]
    dsimp only
    have product := toNat_div_mul high base
    have taken := toNat_upper (high / base * base)
    rw [product] at taken
    have rest := Nat.div_add_mod high.toNat base.toNat
    have small := Nat.mod_lt high.toNat positive
    rw [Nat.mul_comm base.toNat] at rest
    have le : (high / base * base).setWidth 64 <<< 32 ≤ n := by
      rw [BitVec.le_def, taken]
      omega
    rw [BitVec.toNat_sub_of_le le, taken]
    omega
  · rw [if_neg reaches]
    have below : high.toNat < base.toNat := Nat.not_le.mp reaches
    dsimp only
    omega

/-- While the divisor is below the remainder it can be doubled, and 32 rounds are enough. -/
theorem clkScaleUp_spec {base : Nat} (positive : 0 < base) (inWord : base < 2 ^ 32) {rem : Ulong}
    (small : rem.toNat < base * 2 ^ 32) {rounds count : Nat} (enough : 32 ≤ count + rounds)
    (inRange : count ≤ 32) {b d : Ulong} (isB : b.toNat = base * 2 ^ count)
    (isD : d.toNat = 2 ^ count) :
    ∃ reached, (clkScaleUp rem rounds b d).1.toNat = base * 2 ^ reached ∧
      (clkScaleUp rem rounds b d).2.toNat = 2 ^ reached ∧
      rem.toNat < 2 * (base * 2 ^ reached) := by
  induction rounds generalizing count b d with
  | zero =>
    have last : count = 32 := by omega
    subst last
    exact ⟨32, isB, isD, by omega⟩
  | succ rounds inductionHypothesis =>
    unfold clkScaleUp
    by_cases goes : 0 < b ∧ b < rem
    · rw [if_pos goes]
      have less : b.toNat < rem.toNat := goes.2
      have notLast : count < 32 := by
        refine lt_of_le_of_ne inRange ?_
        rintro rfl
        omega
      have half : base * 2 ^ count ≤ base * 2 ^ 31 :=
        Nat.mul_le_mul_left base (Nat.pow_le_pow_right Nat.two_pos (Nat.le_of_lt_succ notLast))
      have halfD : 2 ^ count ≤ 2 ^ 31 :=
        Nat.pow_le_pow_right Nat.two_pos (Nat.le_of_lt_succ notLast)
      have enoughNext : 32 ≤ count + 1 + rounds := by omega
      refine inductionHypothesis enoughNext notLast ?_ ?_
      · rw [toNat_double (by omega), isB]
        ring
      · rw [toNat_double (by omega), isD]
        ring
    · rw [if_neg goes]
      have some : 0 < b.toNat := isB ▸ Nat.mul_pos positive (Nat.two_pow_pos count)
      have reached : rem.toNat ≤ b.toNat := by
        by_contra below
        exact goes ⟨some, Nat.not_le.mp below⟩
      exact ⟨count, isB, isD, by omega⟩

theorem clkDiv6432_eq (n : Ulong) {base : U32} (positive : 0 < base.toNat) :
    (clkDiv6432 n base).1.toNat = n.toNat / base.toNat ∧
      (clkDiv6432 n base).2.toNat = n.toNat % base.toNat :=
  scaleDown_eq n positive
    (clkScaleUp_spec positive base.isLt (reduceFirst_lt n positive) (by decide : 32 ≤ 0 + 64)
      (Nat.zero_le 32) (toNat_unscaled base).1 (toNat_unscaled base).2)

/-- The quotient that is stored is exact. -/
theorem toNat_clkDoDiv (n : Ulong) {base : U32} (positive : 0 < base.toNat) :
    (clkDoDiv n base).1.toNat = n.toNat / base.toNat := by
  by_cases low : n >>> 32 = 0
  · have same : clkDoDiv n base = doDiv n base := by
      unfold clkDoDiv doDiv
      rw [if_pos low, if_pos low]
    rw [same]
    exact (doDiv_eq n positive).1
  · unfold clkDoDiv
    rw [if_neg low]
    exact (clkDiv6432_eq n positive).1

end PinePhonePkg
