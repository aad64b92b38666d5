/-
This file settles the arithmetic of the erase timeouts. What the code computes in
words of 32 bits is compared with the same formula over numbers, and over the
fields of the CSD as the specification numbers its bits.

The time of access is not cut out of TAAC but out of the last word of the CSD, and
one product can wrap. Everything else fits.
-/

import PinePhonePkg.Mmc.Erase
import PinePhonePkg.Library.Bits
import Mathlib.Tactic.Ring

namespace PinePhonePkg

open Library

/-! ### The fields of the CSD -/

/-- Bits of the CSD by the number of the lowest one, for a field within one of its words -/
def csdBits (csd : Vector U32 4) (low count : Nat) : Nat :=
  csd[3 - low / 32].toNat / 2 ^ (low % 32) % 2 ^ count

/-- What the default timeout depends on -/
structure CsdTiming : Type where
  unit : Nat
  mantissa : Nat
  nsac : Nat
  r2wFactor : Nat

/-- TAAC, NSAC and R2W_FACTOR -/
def csdTiming (csd : Vector U32 4) : CsdTiming where
  unit := csdBits csd 112 3
  mantissa := csdBits csd 115 4
  nsac := csdBits csd 104 8
  r2wFactor := csdBits csd 26 3

/-- What is taken for them: the time of access comes from the bits 22:16. -/
def misplacedTiming (csd : Vector U32 4) : CsdTiming :=
  { csdTiming csd with unit := csdBits csd 16 3, mantissa := csdBits csd 19 4 }

namespace CsdTiming

variable (timing : CsdTiming) (clock : Nat)

/-- In tenths of a nanosecond -/
def accessTenths : Nat :=
  (taccExp.getD timing.unit 0).toNat * (taccMant.getD timing.mantissa 0).toNat

/-- The access time, in nanoseconds -/
def accessNs : Nat := (timing.accessTenths + 9) / 10

/-- The factor of the time of a write -/
def mult : Nat := 10 * 2 ^ timing.r2wFactor

/-- The access time of a write, in microseconds -/
def accessUs : Nat := timing.accessNs * timing.mult / 1000

/-- The access time of a write, in clocks -/
def clks : Nat := timing.nsac * 100 * timing.mult * 2

/-- The same in microseconds -/
def clksUs : Nat := timing.clks * 1000 / (clock / 1000)

/-- The default timeout, in milliseconds -/
def timeoutMs : Nat := max 1 ((timing.accessUs + timing.clksUs clock) / 1000)

/-- What is computed on the way, as far as it grows -/
def steps : List Nat :=
  [timing.accessTenths + 9, timing.nsac * 100, timing.mult, timing.nsac * 100 * timing.mult,
    if timing.accessNs < 1000000 then timing.accessNs * timing.mult
    else timing.accessNs / 1000 * timing.mult,
    timing.clks, timing.clks * 1000, timing.accessUs + timing.clksUs clock]

/-- The fields are as wide as in the CSD. -/
structure Fields (timing : CsdTiming) : Prop where
  unit : timing.unit < 8
  mantissa : timing.mantissa < 16
  nsac : timing.nsac < 256
  r2wFactor : timing.r2wFactor < 8

end CsdTiming

theorem fields_misplacedTiming (csd : Vector U32 4) : (misplacedTiming csd).Fields :=
  ⟨Nat.mod_lt _ (by decide), Nat.mod_lt _ (by decide), Nat.mod_lt _ (by decide),
    Nat.mod_lt _ (by decide)⟩

namespace CsdTiming

variable {timing : CsdTiming} {clock : Nat}

theorem Fields.accessTenths_le (fields : timing.Fields) : timing.accessTenths ≤ 800000000 := by
  have exponents : ∀ unit < 8, (taccExp.getD unit 0).toNat ≤ 10000000 := by decide
  have mantissas : ∀ mantissa < 16, (taccMant.getD mantissa 0).toNat ≤ 80 := by decide
  exact Nat.mul_le_mul (exponents _ fields.unit) (mantissas _ fields.mantissa)

theorem Fields.mult_le (fields : timing.Fields) : timing.mult ≤ 1280 := by
  have power : 2 ^ timing.r2wFactor ≤ 2 ^ 7 :=
    Nat.pow_le_pow_right (by decide) (Nat.le_of_lt_succ fields.r2wFactor)
  unfold mult
  omega

/-- From one millisecond on, the time of access is a whole number of microseconds. -/
theorem Fields.whole_us (fields : timing.Fields) (long : ¬ timing.accessNs < 1000000) :
    1000 ∣ timing.accessNs := by
  have all : ∀ unit < 8, ∀ mantissa < 16,
      ((taccExp.getD unit 0).toNat * (taccMant.getD mantissa 0).toNat + 9) / 10 < 1000000 ∨
        1000 ∣ ((taccExp.getD unit 0).toNat * (taccMant.getD mantissa 0).toNat + 9) / 10 := by
    decide
  exact (all _ fields.unit _ fields.mantissa).resolve_left long

/-- The two ways to come to microseconds agree. -/
theorem Fields.accessUs_eq (fields : timing.Fields) :
    timing.accessUs =
      if timing.accessNs < 1000000 then timing.accessNs * timing.mult / 1000
      else timing.accessNs / 1000 * timing.mult := by
  split
  next => rfl
  next long =>
    obtain ⟨us, exactly⟩ := fields.whole_us long
    unfold accessUs
    rw [exactly, Nat.mul_assoc, Nat.mul_div_cancel_left _ (by decide : 0 < 1000),
      Nat.mul_div_cancel_left _ (by decide : 0 < 1000)]

/-- Only the clocks of NSAC in thousandths can be too many. -/
theorem Fields.steps_fit_iff (fields : timing.Fields) (fast : 400 ≤ clock / 1000) :
    (∀ step ∈ timing.steps clock, step < 2 ^ 32) ↔
      timing.nsac * 2 ^ timing.r2wFactor ≤ 2147 := by
  have tenths := fields.accessTenths_le
  have mult := fields.mult_le
  have nsac := fields.nsac
  have product : timing.nsac * 100 * timing.mult ≤ 25500 * 1280 :=
    Nat.mul_le_mul (by omega) mult
  have clks : timing.clks = 2000 * (timing.nsac * 2 ^ timing.r2wFactor) := by
    unfold CsdTiming.clks CsdTiming.mult
    ring
  have ns : timing.accessNs ≤ 80000000 := by
    unfold accessNs
    omega
  have short : timing.accessNs < 1000000 → timing.accessNs * timing.mult ≤ 1000000 * 1280 :=
    fun short => Nat.mul_le_mul (Nat.le_of_lt short) mult
  have long : timing.accessNs / 1000 * timing.mult ≤ 80000 * 1280 :=
    Nat.mul_le_mul (by omega) mult
  constructor
  · intro fits
    have thousands := fits (timing.clks * 1000) (by simp [steps])
    omega
  · intro few
    have us : timing.accessUs ≤ 102400000 := by
      rw [fields.accessUs_eq]
      split
      next short' =>
        have := short short'
        omega
      next => exact long
    have clksUs : timing.clksUs clock ≤ timing.clks * 1000 / 400 :=
      Nat.div_le_div_left fast (by decide)
    simp only [steps, List.mem_cons, List.not_mem_nil, or_false, forall_eq_or_imp, forall_eq]
    refine ⟨by omega, by omega, by omega, by omega, ?_, by unfold CsdTiming.clks; omega, by omega,
      by omega⟩
    split
    next short' =>
      have := short short'
      omega
    next => omega

end CsdTiming

/-! ### The words -/

theorem toNat_field (word : U32) (shift count : Nat) {mask : U32}
    (low : mask.toNat = 2 ^ count - 1) :
    (word >>> shift &&& mask).toNat = word.toNat / 2 ^ shift % 2 ^ count := by
  rw [toNat_and_low _ low, BitVec.toNat_ushiftRight, Nat.shiftRight_eq_div_pow]

/-- What is left to do when the fields are cut out -/
def timeoutOfFields (taccNs mult taccClks clock : U32) : U32 :=
  let timeoutClks := (taccClks * mult) <<< 1
  let timeoutUs := if taccNs < 1000000 then (taccNs * mult) / 1000 else (taccNs / 1000) * mult
  let eraseTimeout := (timeoutUs + (timeoutClks * 1000) / (clock / 1000)) / 1000
  if eraseTimeout = 0 then 1 else eraseTimeout

theorem mmcMmcDefEraseTimeout_eq (mmc : Mmc) :
    mmcMmcDefEraseTimeout mmc =
      timeoutOfFields
        ((taccExp.getD (getElem mmc.csd 3 three_lt_words >>> 16 &&& 0x7).toNat 0 *
          taccMant.getD (getElem mmc.csd 3 three_lt_words >>> 19 &&& 0xf).toNat 0 + 9) / 10)
        (10 <<< (getElem mmc.csd 3 three_lt_words >>> 26 &&& 0x7).toNat)
        ((getElem mmc.csd 0 zero_lt_words >>> 8 &&& 0xff) * 100) mmc.clock :=
  rfl

/-- As long as nothing wraps, the words follow the formula. -/
theorem toNat_timeoutOfFields {timing : CsdTiming} (fields : timing.Fields)
    {taccNs mult taccClks clock : U32} (ns : taccNs.toNat = timing.accessNs)
    (factor : mult.toNat = timing.mult) (nsac : taccClks.toNat = timing.nsac * 100)
    (fits : ∀ step ∈ timing.steps clock.toNat, step < 2 ^ 32) :
    (timeoutOfFields taccNs mult taccClks clock).toNat = timing.timeoutMs clock.toNat := by
  simp only [CsdTiming.steps, List.mem_cons, List.not_mem_nil, or_false, forall_eq_or_imp,
    forall_eq] at fits
  obtain ⟨-, -, -, productFits, accessFits, clksFit, thousandFits, sumFits⟩ := fits
  have thousand : (1000 : U32).toNat = 1000 := rfl
  have million : (1000000 : U32).toNat = 1000000 := rfl
  have product : (taccClks * mult).toNat = timing.nsac * 100 * timing.mult := by
    rw [BitVec.toNat_mul, nsac, factor]
    exact Nat.mod_eq_of_lt productFits
  have double : ((taccClks * mult) <<< 1).toNat = timing.clks := by
    rw [BitVec.toNat_shiftLeft, product, Nat.shiftLeft_eq, Nat.pow_one]
    exact Nat.mod_eq_of_lt clksFit
  have clks : (((taccClks * mult) <<< 1) * 1000).toNat = timing.clks * 1000 := by
    rw [BitVec.toNat_mul, double, thousand]
    exact Nat.mod_eq_of_lt thousandFits
  have us : (if taccNs < 1000000 then (taccNs * mult) / 1000
      else (taccNs / 1000) * mult).toNat = timing.accessUs := by
    rw [fields.accessUs_eq]
    have order : taccNs < 1000000 ↔ timing.accessNs < 1000000 := by
      rw [BitVec.lt_def, ns, million]
    by_cases short : timing.accessNs < 1000000
    · rw [if_pos short] at accessFits
      rw [if_pos short, if_pos (order.mpr short), BitVec.toNat_udiv, BitVec.toNat_mul, ns, factor,
        thousand, Nat.mod_eq_of_lt accessFits]
    · rw [if_neg short] at accessFits
      rw [if_neg short, if_neg (fun less => short (order.mp less)), BitVec.toNat_mul,
        BitVec.toNat_udiv, ns, factor, thousand, Nat.mod_eq_of_lt accessFits]
  have sum : ((if taccNs < 1000000 then (taccNs * mult) / 1000 else (taccNs / 1000) * mult) +
      ((taccClks * mult) <<< 1) * 1000 / (clock / 1000)).toNat =
        timing.accessUs + timing.clksUs clock.toNat := by
    rw [BitVec.toNat_add, BitVec.toNat_udiv, BitVec.toNat_udiv, us, clks, thousand]
    exact Nat.mod_eq_of_lt sumFits
  unfold timeoutOfFields CsdTiming.timeoutMs
  dsimp only
  generalize (if taccNs < 1000000 then (taccNs * mult) / 1000 else (taccNs / 1000) * mult) +
      ((taccClks * mult) <<< 1) * 1000 / (clock / 1000) = total at sum
  have ms : (total / 1000).toNat = total.toNat / 1000 := BitVec.toNat_udiv
  rw [← sum]
  split
  next none =>
    have zero : (total / 1000).toNat = 0 := congrArg BitVec.toNat none
    have one : (1 : U32).toNat = 1 := rfl
    omega
  next some =>
    have positive : (total / 1000).toNat ≠ 0 := fun zero => some (BitVec.eq_of_toNat_eq zero)
    omega

section Words

variable (csd : Vector U32 4)

theorem toNat_accessNs :
    ((taccExp.getD (getElem csd 3 three_lt_words >>> 16 &&& 0x7).toNat 0 *
      taccMant.getD (getElem csd 3 three_lt_words >>> 19 &&& 0xf).toNat 0 + 9) / 10).toNat =
        (misplacedTiming csd).accessNs := by
  have tenths := (fields_misplacedTiming csd).accessTenths_le
  have unit : (csd[3] >>> 16 &&& 0x7).toNat = (misplacedTiming csd).unit := toNat_field _ 16 3 rfl
  have mantissa : (csd[3] >>> 19 &&& 0xf).toNat = (misplacedTiming csd).mantissa :=
    toNat_field _ 19 4 rfl
  have nine : (9 : U32).toNat = 9 := rfl
  have ten : (10 : U32).toNat = 10 := rfl
  unfold CsdTiming.accessNs
  unfold CsdTiming.accessTenths at *
  rw [BitVec.toNat_udiv, BitVec.toNat_add, BitVec.toNat_mul, unit, mantissa, nine, ten]
  rw [Nat.mod_eq_of_lt (Nat.lt_of_le_of_lt tenths (by decide)),
    Nat.mod_eq_of_lt (Nat.lt_of_le_of_lt (Nat.add_le_add_right tenths 9) (by decide))]

theorem toNat_mult :
    ((10 : U32) <<< (getElem csd 3 three_lt_words >>> 26 &&& 0x7).toNat).toNat =
      (misplacedTiming csd).mult := by
  have small := (fields_misplacedTiming csd).mult_le
  have factor : (csd[3] >>> 26 &&& 0x7).toNat = (misplacedTiming csd).r2wFactor :=
    toNat_field _ 26 3 rfl
  have ten : (10 : U32).toNat = 10 := rfl
  unfold CsdTiming.mult at *
  rw [BitVec.toNat_shiftLeft, factor, Nat.shiftLeft_eq, ten]
  exact Nat.mod_eq_of_lt (Nat.lt_of_le_of_lt small (by decide))

theorem toNat_taccClks :
    ((getElem csd 0 zero_lt_words >>> 8 &&& 0xff) * 100).toNat =
      (misplacedTiming csd).nsac * 100 := by
  have small := (fields_misplacedTiming csd).nsac
  have nsac : (csd[0] >>> 8 &&& 0xff).toNat = (misplacedTiming csd).nsac := toNat_field _ 8 8 rfl
  have hundred : (100 : U32).toNat = 100 := rfl
  rw [BitVec.toNat_mul, nsac, hundred]
  omega

end Words

/-- As long as nothing wraps, the default timeout is the formula over the fields that are taken. -/
theorem toNat_mmcMmcDefEraseTimeout {mmc : Mmc}
    (fits : ∀ step ∈ (misplacedTiming mmc.csd).steps mmc.clock.toNat, step < 2 ^ 32) :
    (mmcMmcDefEraseTimeout mmc).toNat =
      (misplacedTiming mmc.csd).timeoutMs mmc.clock.toNat := by
  rw [mmcMmcDefEraseTimeout_eq]
  exact toNat_timeoutOfFields (fields_misplacedTiming mmc.csd) (toNat_accessNs mmc.csd)
    (toNat_mult mmc.csd) (toNat_taccClks mmc.csd) fits

/-! ### What EXT_CSD gives -/

theorem run_decodedFrom {rev least : U8} {value result : U32}
    {trace : List (Exchange Request Request.Reply)}
    (run : Program.Run (decodedFrom rev least value) trace result) (known : rev ≥ least) :
    result = value := by
  unfold decodedFrom at run
  rw [if_pos known] at run
  exact (Program.run_pure_iff.mp run).2

/-- From revision 4 on, what the timeouts are made of is octets. -/
theorem run_mmcDecodeExtCsd {extCsd : Buffer} {decoded : MmcExtCsd}
    {trace : List (Exchange Request Request.Reply)}
    (run : Program.Run (mmcDecodeExtCsd extCsd) trace decoded) (known : decoded.rev ≥ 4) :
    decoded.hcEraseTimeout.toNat ≤ 300 * 255 ∧ decoded.secTrimMult.toNat ≤ 255 ∧
      decoded.secEraseMult.toNat ≤ 255 := by
  obtain ⟨_, _, _, -, -, run⟩ := Program.run_bind_iff.mp run
  obtain ⟨_, hcEraseTimeout, _, -, hcRun, run⟩ := Program.run_bind_iff.mp run
  obtain ⟨_, secTrimMult, _, -, trimRun, run⟩ := Program.run_bind_iff.mp run
  obtain ⟨_, secEraseMult, _, -, eraseRun, run⟩ := Program.run_bind_iff.mp run
  obtain ⟨_, _, _, -, -, run⟩ := Program.run_bind_iff.mp run
  obtain ⟨-, rfl⟩ := Program.run_pure_iff.mp run
  have known3 : extCsd extCsdRev ≥ 3 := BitVec.le_trans (by decide) known
  have octet : ∀ byte : U8, (byte.setWidth 32).toNat = byte.toNat := by
    intro byte
    rw [BitVec.toNat_setWidth]
    omega
  have hundreds : (300 : U32).toNat = 300 := rfl
  dsimp only
  rw [run_decodedFrom hcRun known3, run_decodedFrom trimRun known, run_decodedFrom eraseRun known,
    BitVec.toNat_mul, octet, octet, octet, hundreds]
  refine ⟨Nat.le_trans (Nat.mod_le _ _) ?_, ?_, ?_⟩ <;> omega

/-! ### The timeout of one group -/

/-- The erase timeout, in milliseconds -/
def eraseMs (mmc : Mmc) (extCsd : MmcExtCsd) : Nat :=
  if extCsd.eraseGroupDef ≠ 0 ∧ extCsd.hcEraseTimeout ≠ 0 then extCsd.hcEraseTimeout.toNat
  else (csdTiming mmc.csd).timeoutMs mmc.clock.toNat

/-- The timeout for one group of each kind of erase, from revision 4 on but for the plain one -/
def groupMs (mmc : Mmc) (extCsd : MmcExtCsd) (arg : U32) : Nat :=
  if arg = mmcEraseArg then eraseMs mmc extCsd
  else if extCsd.rev ≥ 4 then
    if arg = mmcDiscardArg ∨ arg = mmcTrimArg then extCsd.trimTimeout.toNat
    else if arg = mmcSecureEraseArg then eraseMs mmc extCsd * extCsd.secEraseMult.toNat
    else if arg = mmcSecureTrim1Arg ∨ arg = mmcSecureTrim2Arg then
      eraseMs mmc extCsd * extCsd.secTrimMult.toNat
    else 0
  else 0

/-- The number of groups that the timeout is multiplied by -/
def eraseQty (mmc : Mmc) (first last : U32) : U32 :=
  if mmc.isSd then last - first + 1 else (last - first) / mmc.eraseGrpSize + 1

/-- The products of the timeouts fit, and the timeouts are those of the specification. -/
structure EraseTimeoutsRight (mmc : Mmc) (extCsd : MmcExtCsd) (groups : U32) : Prop where
  divisors : mmc.clock.toNat / 1000 ≠ 0 ∧ mmc.eraseGrpSize ≠ 0
  steps : ∀ step ∈ (misplacedTiming mmc.csd).steps mmc.clock.toNat, step < 2 ^ 32
  default : (mmcMmcDefEraseTimeout mmc).toNat = (csdTiming mmc.csd).timeoutMs mmc.clock.toNat
  secure : extCsd.rev ≥ 4 →
    (mmc.setTimeouts extCsd).eraseTimeout.toNat * extCsd.secEraseMult.toNat < 2 ^ 32 ∧
      (mmc.setTimeouts extCsd).eraseTimeout.toNat * extCsd.secTrimMult.toNat < 2 ^ 32
  fits : ∀ arg qty, qty ≤ groups →
    (mmcMmcEraseTimeout (mmc.setTimeouts extCsd) arg 1).toNat * qty.toNat < 2 ^ 32
  mono : ∀ arg qty more, qty ≤ more → more ≤ groups →
    mmcMmcEraseTimeout (mmc.setTimeouts extCsd) arg qty ≤
      mmcMmcEraseTimeout (mmc.setTimeouts extCsd) arg more
  quantity : mmc.isSd = false → ∀ first last, first ≤ last →
    (last.toNat - first.toNat) / mmc.eraseGrpSize.toNat + 1 ≤ groups.toNat →
    (eraseQty (mmc.setTimeouts extCsd) first last).toNat =
      (last.toNat - first.toNat) / mmc.eraseGrpSize.toNat + 1

theorem eraseTimeout_setTimeouts {mmc : Mmc} (extCsd : MmcExtCsd)
    (right : (mmcMmcDefEraseTimeout mmc).toNat =
      (csdTiming mmc.csd).timeoutMs mmc.clock.toNat) :
    (mmc.setTimeouts extCsd).eraseTimeout.toNat = eraseMs mmc extCsd := by
  unfold Mmc.setTimeouts eraseMs
  dsimp only
  by_cases known : extCsd.rev ≥ 4
  · rw [if_pos known]
    dsimp only
    split
    · rfl
    · exact right
  · rw [if_neg known]
    dsimp only
    split
    · rfl
    · exact right

/-- For one group the products are those over numbers. -/
theorem toNat_groupTimeout {mmc : Mmc} {extCsd : MmcExtCsd}
    (right : (mmcMmcDefEraseTimeout mmc).toNat = (csdTiming mmc.csd).timeoutMs mmc.clock.toNat)
    (secure : extCsd.rev ≥ 4 →
      (mmc.setTimeouts extCsd).eraseTimeout.toNat * extCsd.secEraseMult.toNat < 2 ^ 32 ∧
        (mmc.setTimeouts extCsd).eraseTimeout.toNat * extCsd.secTrimMult.toNat < 2 ^ 32)
    (arg : U32) :
    (mmcMmcEraseTimeout (mmc.setTimeouts extCsd) arg 1).toNat = groupMs mmc extCsd arg := by
  have erase := eraseTimeout_setTimeouts extCsd right
  have one : ∀ word : U32, word * 1 = word := fun word => BitVec.mul_one _
  unfold mmcMmcEraseTimeout groupMs
  dsimp only
  rw [one]
  have plain : mmcEraseArg ≠ mmcDiscardArg ∧ mmcEraseArg ≠ mmcTrimArg := by decide
  by_cases known : extCsd.rev ≥ 4
  · obtain ⟨eraseFits, trimFits⟩ := secure known
    have trim : (mmc.setTimeouts extCsd).trimDiscardTimeout = extCsd.trimTimeout := by
      unfold Mmc.setTimeouts
      rw [if_pos known]
    have secureErase : (mmc.setTimeouts extCsd).secureEraseTimeout =
        (mmc.setTimeouts extCsd).eraseTimeout * extCsd.secEraseMult := by
      unfold Mmc.setTimeouts
      rw [if_pos known]
    have secureTrim : (mmc.setTimeouts extCsd).secureTrimTimeout =
        (mmc.setTimeouts extCsd).eraseTimeout * extCsd.secTrimMult := by
      unfold Mmc.setTimeouts
      rw [if_pos known]
    rw [trim, secureErase, secureTrim, if_pos known]
    by_cases isErase : arg = mmcEraseArg
    · rw [isErase, if_pos rfl, if_neg (not_or.mpr plain), if_pos rfl]
      exact erase
    · rw [if_neg isErase, if_neg isErase]
      split_ifs
      · rfl
      · rw [BitVec.toNat_mul, Nat.mod_eq_of_lt eraseFits, erase]
      · rw [BitVec.toNat_mul, Nat.mod_eq_of_lt trimFits, erase]
      · rfl
  · have none : (mmc.setTimeouts extCsd).trimDiscardTimeout = 0 ∧
        (mmc.setTimeouts extCsd).secureEraseTimeout = 0 ∧
        (mmc.setTimeouts extCsd).secureTrimTimeout = 0 := by
      unfold Mmc.setTimeouts
      rw [if_neg known]
      exact ⟨rfl, rfl, rfl⟩
    rw [none.1, none.2.1, none.2.2, if_neg known]
    by_cases isErase : arg = mmcEraseArg
    · rw [isErase, if_pos rfl, if_neg (not_or.mpr plain), if_pos rfl]
      exact erase
    · rw [if_neg isErase, if_neg isErase]
      split_ifs <;> rfl

/-- The default timeout is not long. -/
theorem CsdTiming.Fields.timeoutMs_le {timing : CsdTiming} (fields : timing.Fields) {clock : Nat}
    (fast : 400 ≤ clock / 1000) : timing.timeoutMs clock ≤ 1000000 := by
  have mult := fields.mult_le
  have tenths := fields.accessTenths_le
  have product : timing.accessNs * timing.mult ≤ 80000000 * 1280 :=
    Nat.mul_le_mul (by unfold accessNs; omega) mult
  have clks : timing.nsac * 100 * timing.mult ≤ 25500 * 1280 :=
    Nat.mul_le_mul (by have := fields.nsac; omega) mult
  have us : timing.clksUs clock ≤ timing.clks * 1000 / 400 := Nat.div_le_div_left fast (by decide)
  unfold CsdTiming.clks at us
  unfold timeoutMs accessUs
  omega

/-- The largest erase decides whether the products fit. -/
theorem toNat_mmcMmcEraseTimeout {mmc : Mmc} {arg qty : U32}
    (fits : (mmcMmcEraseTimeout mmc arg 1).toNat * qty.toNat < 2 ^ 32) :
    (mmcMmcEraseTimeout mmc arg qty).toNat =
      (mmcMmcEraseTimeout mmc arg 1).toNat * qty.toNat := by
  have one : ∀ word : U32, word * 1 = word := fun word => BitVec.mul_one _
  unfold mmcMmcEraseTimeout at *
  dsimp only at *
  rw [one] at *
  rw [BitVec.toNat_mul, Nat.mod_eq_of_lt fits]

/-- The erase computes its quantity and its timeout so. -/
theorem mmcDoErase_eq (mmc : Mmc) (first last eraseArg : U32) :
    mmcDoErase mmc first last eraseArg = (do
      let mmc ← mmcMmcUpdateTimeout mmc
      let err ← mmcSetEraseStartAddr mmc first
      if err ≠ 0 then
        return (err, mmc)
      let err ← mmcSetEraseEndAddr mmc last
      if err ≠ 0 then
        return (err, mmc)
      let err ← mmcLaunchErase eraseArg
      if err ≠ 0 then
        return (err, mmc)
      let timeout := mmcEraseTimeout mmc eraseArg (eraseQty mmc first last)
      if timeout = 0 then
        return (-1, mmc)
      let err ← mmcSendStatus mmc timeout
      return (err, mmc)) :=
  rfl

theorem toNat_eraseQty {mmc : Mmc} (isMmc : mmc.isSd = false) {groups first last : U32}
    (order : first ≤ last)
    (inside : (last.toNat - first.toNat) / mmc.eraseGrpSize.toNat + 1 ≤ groups.toNat) :
    (eraseQty mmc first last).toNat =
      (last.toNat - first.toNat) / mmc.eraseGrpSize.toNat + 1 := by
  have one : (1 : U32).toNat = 1 := rfl
  unfold eraseQty
  rw [isMmc, if_neg Bool.false_ne_true, BitVec.toNat_add, BitVec.toNat_udiv,
    BitVec.toNat_sub_of_le order, one]
  exact Nat.mod_eq_of_lt (Nat.lt_of_le_of_lt inside groups.isLt)

/-! ### All timeouts -/

/-- The timeouts are right exactly if NSAC and R2W_FACTOR are not too large, the bits that are taken
for TAAC come to the same timeout, and the timeout of one group fits for all groups together. -/
theorem eraseTimeouts_right_iff {mmc : Mmc} (fast : 400000 ≤ mmc.clock.toNat) {extCsd : Buffer}
    {decoded : MmcExtCsd} {trace : List (Exchange Request Request.Reply)}
    (decodes : Program.Run (mmcDecodeExtCsd extCsd) trace decoded) (groups : U32) :
    EraseTimeoutsRight mmc decoded groups ↔
      (csdTiming mmc.csd).nsac * 2 ^ (csdTiming mmc.csd).r2wFactor ≤ 2147 ∧
        (misplacedTiming mmc.csd).timeoutMs mmc.clock.toNat =
          (csdTiming mmc.csd).timeoutMs mmc.clock.toNat ∧
        ∀ arg, groupMs mmc decoded arg * groups.toNat < 2 ^ 32 := by
  have fields := fields_misplacedTiming mmc.csd
  have fast' : 400 ≤ mmc.clock.toNat / 1000 := by omega
  have stepsFit := fields.steps_fit_iff fast'
  constructor
  · intro right
    refine ⟨stepsFit.mp right.steps, ?_, fun arg => ?_⟩
    · rw [← toNat_mmcMmcDefEraseTimeout right.steps]
      exact right.default
    · rw [← toNat_groupTimeout right.default right.secure arg]
      exact right.fits arg groups (BitVec.le_refl _)
  · rintro ⟨few, same, room⟩
    have steps := stepsFit.mpr few
    have default : (mmcMmcDefEraseTimeout mmc).toNat =
        (csdTiming mmc.csd).timeoutMs mmc.clock.toNat :=
      (toNat_mmcMmcDefEraseTimeout steps).trans same
    have secure : decoded.rev ≥ 4 →
        (mmc.setTimeouts decoded).eraseTimeout.toNat * decoded.secEraseMult.toNat < 2 ^ 32 ∧
          (mmc.setTimeouts decoded).eraseTimeout.toNat * decoded.secTrimMult.toNat < 2 ^ 32 := by
      intro known
      obtain ⟨hcLe, trimLe, eraseLe⟩ := run_mmcDecodeExtCsd decodes known
      have short : eraseMs mmc decoded ≤ 1000000 := by
        unfold eraseMs
        split
        · omega
        · exact same ▸ fields.timeoutMs_le fast'
      rw [eraseTimeout_setTimeouts decoded default]
      exact ⟨Nat.lt_of_le_of_lt (Nat.mul_le_mul short eraseLe) (by decide),
        Nat.lt_of_le_of_lt (Nat.mul_le_mul short trimLe) (by decide)⟩
    have fits : ∀ arg qty, qty ≤ groups →
        (mmcMmcEraseTimeout (mmc.setTimeouts decoded) arg 1).toNat * qty.toNat < 2 ^ 32 := by
      intro arg qty inside
      rw [toNat_groupTimeout default secure arg]
      exact Nat.lt_of_le_of_lt (Nat.mul_le_mul_left _ (BitVec.le_def.mp inside)) (room arg)
    refine ⟨⟨by omega, ?_⟩, steps, default, secure, fits, ?_, ?_⟩
    · intro none
      have positive := mmc.eraseGrpSizePos
      rw [none] at positive
      exact absurd positive (by decide)
    · intro arg qty more order inside
      rw [BitVec.le_def, toNat_mmcMmcEraseTimeout (fits arg qty (BitVec.le_trans order inside)),
        toNat_mmcMmcEraseTimeout (fits arg more inside)]
      exact Nat.mul_le_mul_left _ (BitVec.le_def.mp order)
    · intro isMmc first last order inside
      obtain ⟨sameSd, sameSize⟩ : (mmc.setTimeouts decoded).isSd = mmc.isSd ∧
          (mmc.setTimeouts decoded).eraseGrpSize = mmc.eraseGrpSize := by
        unfold Mmc.setTimeouts Mmc.isSd
        dsimp only
        split <;> exact ⟨rfl, rfl⟩
      rw [← sameSize] at inside ⊢
      exact toNat_eraseQty (sameSd.trans isMmc) order inside

/-- A card with a time of access of 40 ms: TAAC is 0x4f, NSAC 1, R2W_FACTOR 2, and blocks have 512
octets. -/
def slowAccessDevice : Mmc :=
  { Mmc.unidentified with clock := 25000000, csd := #v[0xd04f0132, 0, 0, 0x0a400000] }

/-- Revision 8 with a timeout of 300 ms for a group -/
def groupTimeoutCsd : Buffer := fun place =>
  if place = extCsdRev then 8
  else if place = extCsdEraseGroupDef then 1
  else if place = extCsdEraseTimeoutMult then 1
  else 0

/-- A register whose erase groups have the large size, and a timeout of their own -/
def groupTimeouts : MmcExtCsd := ⟨8, 1, 300, 0, 0, 0⟩

theorem run_groupTimeouts : Program.Run (mmcDecodeExtCsd groupTimeoutCsd) [] groupTimeouts :=
  .done _

theorem eraseTimeouts_right_iff_slowAccess :
    EraseTimeoutsRight slowAccessDevice groupTimeouts 1000 ↔
      (csdTiming slowAccessDevice.csd).nsac *
          2 ^ (csdTiming slowAccessDevice.csd).r2wFactor ≤ 2147 ∧
        (misplacedTiming slowAccessDevice.csd).timeoutMs slowAccessDevice.clock.toNat =
          (csdTiming slowAccessDevice.csd).timeoutMs slowAccessDevice.clock.toNat ∧
        ∀ arg, groupMs slowAccessDevice groupTimeouts arg * (1000 : U32).toNat < 2 ^ 32 :=
  eraseTimeouts_right_iff (by decide) run_groupTimeouts 1000

/-- The card gets one millisecond in place of 1600. -/
theorem not_eraseTimeoutsRight :
    ¬∀ (mmc : Mmc) (extCsd : Buffer) (decoded : MmcExtCsd)
      (trace : List (Exchange Request Request.Reply)) (groups : U32),
      400000 ≤ mmc.clock.toNat → Program.Run (mmcDecodeExtCsd extCsd) trace decoded →
      EraseTimeoutsRight mmc decoded groups := by
  intro all
  have right := all slowAccessDevice groupTimeoutCsd groupTimeouts [] 1000 (by decide)
    run_groupTimeouts
  exact absurd right.default (by decide)

end PinePhonePkg
