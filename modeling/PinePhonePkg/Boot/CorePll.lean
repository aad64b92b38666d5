/-
This file embeds the setting of the CPU clock. A row of a table gives the factors of
the PLL for each multiple of 6 MHz, and the request divided by 6 picks the row. The
rows are checked once: their factors fit the fields, and the frequency they give is
not below the multiple, nor 72 MHz above it. So the clock comes out near the request
rounded down to 6 MHz, as long as the request is inside of the table.
-/

import Mathlib.Data.List.GetD
import PinePhonePkg.Library.Bits
import PinePhonePkg.Mmc.Types

namespace PinePhonePkg

open Library

/-! ### The table -/

/-- `PLL_TABLE` -/
structure PllTable : Type where
  factorN : Nat
  factorK : Nat
  factorM : Nat
  factorP : Nat
deriving DecidableEq

/-- `pll1_table`: each row has its actual frequency, and there is one for each 6 MHz. A row that stands
several times in turn is written once, with how often. -/
def pll1Table : List PllTable :=
  let rows : List (Nat × PllTable) :=
    [(11, ⟨9, 0, 0, 2⟩), (1, ⟨10, 0, 0, 2⟩), (1, ⟨11, 0, 0, 2⟩), (1, ⟨12, 0, 0, 2⟩),
     (1, ⟨13, 0, 0, 2⟩), (1, ⟨14, 0, 0, 2⟩), (1, ⟨15, 0, 0, 2⟩), (1, ⟨16, 0, 0, 2⟩),
     (1, ⟨17, 0, 0, 2⟩), (1, ⟨18, 0, 0, 2⟩), (1, ⟨9, 0, 0, 1⟩), (2, ⟨10, 0, 0, 1⟩),
     (2, ⟨11, 0, 0, 1⟩), (2, ⟨12, 0, 0, 1⟩), (2, ⟨13, 0, 0, 1⟩), (2, ⟨14, 0, 0, 1⟩),
     (2, ⟨15, 0, 0, 1⟩), (2, ⟨16, 0, 0, 1⟩), (2, ⟨17, 0, 0, 1⟩), (2, ⟨18, 0, 0, 1⟩),
     (2, ⟨9, 0, 0, 0⟩), (4, ⟨10, 0, 0, 0⟩), (4, ⟨11, 0, 0, 0⟩), (4, ⟨12, 0, 0, 0⟩),
     (4, ⟨13, 0, 0, 0⟩), (4, ⟨14, 0, 0, 0⟩), (4, ⟨15, 0, 0, 0⟩), (4, ⟨16, 0, 0, 0⟩),
     (4, ⟨17, 0, 0, 0⟩), (4, ⟨18, 0, 0, 0⟩), (4, ⟨19, 0, 0, 0⟩), (4, ⟨20, 0, 0, 0⟩),
     (4, ⟨21, 0, 0, 0⟩), (4, ⟨22, 0, 0, 0⟩), (4, ⟨23, 0, 0, 0⟩), (4, ⟨24, 0, 0, 0⟩),
     (4, ⟨25, 0, 0, 0⟩), (4, ⟨26, 0, 0, 0⟩), (4, ⟨27, 0, 0, 0⟩), (4, ⟨28, 0, 0, 0⟩),
     (4, ⟨29, 0, 0, 0⟩), (8, ⟨15, 1, 0, 0⟩), (4, ⟨10, 2, 0, 0⟩), (4, ⟨16, 1, 0, 0⟩),
     (8, ⟨17, 1, 0, 0⟩), (8, ⟨18, 1, 0, 0⟩), (4, ⟨12, 2, 0, 0⟩), (4, ⟨19, 1, 0, 0⟩),
     (8, ⟨20, 1, 0, 0⟩), (8, ⟨21, 1, 0, 0⟩), (4, ⟨14, 2, 0, 0⟩), (4, ⟨22, 1, 0, 0⟩),
     (8, ⟨23, 1, 0, 0⟩), (8, ⟨24, 1, 0, 0⟩), (4, ⟨16, 2, 0, 0⟩), (4, ⟨25, 1, 0, 0⟩),
     (8, ⟨26, 1, 0, 0⟩), (8, ⟨27, 1, 0, 0⟩), (4, ⟨18, 2, 0, 0⟩), (12, ⟨19, 2, 0, 0⟩),
     (12, ⟨20, 2, 0, 0⟩), (4, ⟨15, 3, 0, 0⟩), (8, ⟨21, 2, 0, 0⟩), (8, ⟨16, 3, 0, 0⟩),
     (4, ⟨22, 2, 0, 0⟩), (12, ⟨23, 2, 0, 0⟩), (12, ⟨24, 2, 0, 0⟩), (12, ⟨25, 2, 0, 0⟩),
     (12, ⟨26, 2, 0, 0⟩), (12, ⟨27, 2, 0, 0⟩)]
  rows.flatMap fun row => List.replicate row.1 row.2

/-! ### The registers -/

/-- The registers of the clock control that are used -/
structure Ccmu : Type where
  cpuxAxiCfg : U32
  pllCpuxCtrl : U32
  pllLockCtrl : U32
  ahb2Cfg : U32

/-- The lock of the core's PLL is looked for. -/
def lockEnPllCpux : U32 := 1 <<< 0

/-- The locks are looked for in the new way. -/
def lockEnNewMode : U32 := 1 <<< 28

namespace Ccmu

variable (ccmu : Ccmu)

/-- The locks are looked for in the new way. -/
def pllLockIsNewMode : Bool := decide (ccmu.pllLockCtrl &&& lockEnNewMode > 0)

/-- The lock of a PLL is looked for. -/
def enablePllLockBit (lockBit : U32) : Ccmu :=
  { ccmu with pllLockCtrl := ccmu.pllLockCtrl ||| lockBit }

/-- The lock of a PLL is no longer looked for. -/
def disablePllLockBit (lockBit : U32) : Ccmu :=
  { ccmu with pllLockCtrl := ccmu.pllLockCtrl &&& ~~~lockBit }

/-- The second bus takes its clock from the peripherals' PLL. -/
def sunxiClockSetAhb2 : Ccmu :=
  { ccmu with ahb2Cfg := ccmu.ahb2Cfg &&& ~~~(0x3 : U32) ||| (0x1 : U32) <<< 0 }

/-- `switch to 24M` and `switch clk src to COREPLL` -/
def switchSource (source : U32) : Ccmu :=
  { ccmu with cpuxAxiCfg := ccmu.cpuxAxiCfg &&& ~~~((0x03 : U32) <<< 16) ||| source <<< 16 }

end Ccmu

/-- The bits of the factors -/
def factorFields : U32 :=
  (0x03 : U32) <<< 16 ||| (0x1f : U32) <<< 8 ||| (0x03 : U32) <<< 4 ||| (0x03 : U32) <<< 0

/-- The PLL is on. -/
def pllEnable : U32 := (1 : U32) <<< 31

/-- The bits of the enable bit and of the factors -/
def pllCpuxFields : U32 := pllEnable ||| factorFields

/-- The factors in their places -/
def PllTable.word (factor : PllTable) : U32 :=
  BitVec.ofNat 32 factor.factorP <<< 16 ||| BitVec.ofNat 32 factor.factorN <<< 8 |||
    BitVec.ofNat 32 factor.factorK <<< 4 ||| BitVec.ofNat 32 factor.factorM <<< 0

/-! ### Setting and reading the clock -/

/-- The frequency that is looked up -/
def lookedUpFrequency (frequency : U32) : U32 :=
  if frequency = 0 then 408 else if frequency.slt 24 then 24 else frequency

/-- `clk_get_pll_para`: nothing, where it reads outside of the table -/
def clkGetPllPara (pllClk : U32) : Option PllTable :=
  match (pllClk.sdiv 6).toInt with
  | .ofNat index => pll1Table[index]?
  | .negSucc _ => none

/-- Sets the clock of the core, which runs from the crystal meanwhile. -/
def sunxiClockSetC0CorePll (ccmu : Ccmu) (frequency : U32) : Option Ccmu := do
  let frequency := lookedUpFrequency frequency
  let pllNewMode := ccmu.pllLockIsNewMode
  let ccmu := if pllNewMode then ccmu else ccmu.enablePllLockBit lockEnNewMode
  let ccmu := ccmu.switchSource 0x01
  let pllFactor ← clkGetPllPara frequency
  let ccmu := ccmu.disablePllLockBit lockEnPllCpux
  let ccmu := { ccmu with pllCpuxCtrl := ccmu.pllCpuxCtrl &&& ~~~pllCpuxFields ||| pllFactor.word }
  let ccmu := ccmu.enablePllLockBit lockEnPllCpux
  let ccmu := { ccmu with pllCpuxCtrl := pllEnable ||| ccmu.pllCpuxCtrl }
  let ccmu := ccmu.disablePllLockBit lockEnPllCpux
  let ccmu := ccmu.switchSource 0x02
  let ccmu := ccmu.sunxiClockSetAhb2
  return if pllNewMode then ccmu else ccmu.disablePllLockBit lockEnNewMode

/-- The factors that a word of the register holds -/
def PllTable.ofWord (word : U32) : PllTable where
  factorN := (word >>> 8 &&& 0x1f).toNat
  factorK := (word >>> 4 &&& 0x3).toNat
  factorM := (word >>> 0 &&& 0x3).toNat
  factorP := (word >>> 16 &&& 0x3).toNat

/-- `24 * factor_n * factor_k/div_m/(1<<div_p)` -/
def PllTable.clock (factor : PllTable) : Nat :=
  24 * (factor.factorN + 1) * (factor.factorK + 1) / (factor.factorM + 1) / 2 ^ factor.factorP

/-- The clock of the core in MHz, by its registers -/
def sunxiClockGetC0CorePll (ccmu : Ccmu) : Nat :=
  match (ccmu.cpuxAxiCfg >>> 16 &&& 0x03).toNat with
  | 0 => 0
  | 1 => 24
  | _ => (PllTable.ofWord ccmu.pllCpuxCtrl).clock

/-! ### Right settings -/

/-- The factors are numbers of their fields. -/
structure PllTable.Fits (factor : PllTable) : Prop where
  factorN : factor.factorN < 32
  factorK : factor.factorK < 4
  factorM : factor.factorM < 4
  factorP : factor.factorP < 4

/-- A row of the table is read, its factors fit, the register holds them and keeps the bits of a
mask, and the frequency that is reported is not below one number, nor 72 MHz above another. -/
def PllSet (ccmu : Ccmu) (frequency kept : U32) (least asked : Nat) : Prop :=
  ∃ factor after, clkGetPllPara (lookedUpFrequency frequency) = some factor ∧
    sunxiClockSetC0CorePll ccmu frequency = some after ∧ factor.Fits ∧
    PllTable.ofWord after.pllCpuxCtrl = factor ∧
    after.pllCpuxCtrl &&& kept = ccmu.pllCpuxCtrl &&& kept ∧
    least ≤ sunxiClockGetC0CorePll after ∧ sunxiClockGetC0CorePll after < asked + 72

/-- A request in the range of the table -/
def clampedFrequency (frequency : U32) : Nat := min 2016 (max 24 frequency.toInt).toNat

/-! ### The rows -/

instance (factor : PllTable) : Decidable factor.Fits :=
  decidable_of_iff (factor.factorN < 32 ∧ factor.factorK < 4 ∧ factor.factorM < 4 ∧
      factor.factorP < 4)
    ⟨fun ⟨n, k, m, p⟩ => ⟨n, k, m, p⟩, fun ⟨n, k, m, p⟩ => ⟨n, k, m, p⟩⟩

/-- What a row of the table should be: its factors fit and come back from the register, and their
frequency is near the one of the row. -/
def PllTable.RowRight (factor : PllTable) (index : Nat) : Prop :=
  factor.Fits ∧ factor.word &&& ~~~pllCpuxFields = 0 ∧ PllTable.ofWord factor.word = factor ∧
    6 * index ≤ factor.clock ∧ factor.clock ≤ 6 * index + 66

instance (factor : PllTable) (index : Nat) : Decidable (factor.RowRight index) :=
  inferInstanceAs (Decidable (_ ∧ _))

theorem pll1Table_rows : ∀ entry ∈ pll1Table.zipIdx, entry.1.RowRight entry.2 := by
  decide +kernel

theorem pll1Table_row {index : Nat} {factor : PllTable} (found : pll1Table[index]? = some factor) :
    factor.RowRight index :=
  pll1Table_rows (factor, index) (List.mem_zipIdx_iff_getElem?.mpr found)

theorem pll1Table_length : pll1Table.length = 337 := by decide +kernel

/-! ### The row that is read -/

section Row

variable {frequency : U32}

theorem lookedUpFrequency_bounds (inTable : frequency.toInt < 2022) :
    24 ≤ (lookedUpFrequency frequency).toNat ∧ (lookedUpFrequency frequency).toNat < 2022 := by
  unfold lookedUpFrequency
  by_cases zero : frequency = 0
  · rw [if_pos zero]
    decide
  · rw [if_neg zero]
    by_cases small : frequency.slt 24
    · rw [if_pos small]
      decide
    · have large : 24 ≤ frequency.toInt := by
        rw [BitVec.slt_iff_toInt_lt] at small
        exact Int.not_lt.mp small
      rw [if_neg small]
      rw [BitVec.toInt_eq_toNat_cond] at inTable large
      split at large <;> omega

/-- The request divided by 6 is a row of the table. -/
theorem clkGetPllPara_found {pllClk : U32} (inTable : pllClk.toNat < 2022) :
    ∃ factor, clkGetPllPara pllClk = some factor ∧ factor.RowRight (pllClk.toNat / 6) := by
  have positive : pllClk.msb = false := by
    rw [BitVec.msb_eq_false_iff_two_mul_lt]
    omega
  have six : (6 : U32).msb = false := rfl
  have number : (6 : U32).toNat = 6 := rfl
  have index : (pllClk.sdiv 6).toInt = .ofNat (pllClk.toNat / 6) := by
    rw [BitVec.sdiv_eq, positive, six]
    dsimp only
    rw [BitVec.toInt_eq_toNat_cond, BitVec.udiv_eq, BitVec.toNat_udiv, number, if_pos (by omega)]
    rfl
  have inside : pllClk.toNat / 6 < pll1Table.length := by
    rw [pll1Table_length]
    omega
  have row : pll1Table[pllClk.toNat / 6]? = some pll1Table[pllClk.toNat / 6] :=
    List.getElem?_eq_getElem inside
  refine ⟨_, ?_, pll1Table_row row⟩
  unfold clkGetPllPara
  rw [index]
  exact row

end Row

/-! ### The registers afterwards -/

section Set

variable (ccmu : Ccmu) {frequency : U32} {factor : PllTable}

/-- The source that is switched to is read back. -/
theorem switchSource_two (word : U32) :
    ((word &&& ~~~((0x03 : U32) <<< 16) ||| (0x02 : U32) <<< 16) >>> 16 &&& 0x03).toNat = 2 := by
  have replaced : ((0 : U32) ||| (word &&& ~~~((0x03 : U32) <<< 16) ||| (0x02 : U32) <<< 16)) >>>
      16 &&& (0x03 : U32) = (0x02 : U32) <<< 16 >>> 16 &&& (0x03 : U32) :=
    shiftRight_and_replaced word (by decide) (by decide)
  rw [show (0 : U32) ||| _ = _ from BitVec.zero_or] at replaced
  rw [replaced]
  rfl

/-- The register of the PLL, and the source of the clock -/
theorem sunxiClockSet_found
    (found : clkGetPllPara (lookedUpFrequency frequency) = some factor) :
    ∃ after, sunxiClockSetC0CorePll ccmu frequency = some after ∧
      after.pllCpuxCtrl =
        pllEnable ||| (ccmu.pllCpuxCtrl &&& ~~~pllCpuxFields ||| factor.word) ∧
      (after.cpuxAxiCfg >>> 16 &&& 0x03).toNat = 2 := by
  unfold sunxiClockSetC0CorePll
  dsimp only
  rw [found]
  refine ⟨_, rfl, ?_, ?_⟩
  · cases ccmu.pllLockIsNewMode <;> rfl
  · cases ccmu.pllLockIsNewMode <;> exact switchSource_two _

/-- The factors of the register are those of the row. -/
theorem ofWord_replaced (word : U32) :
    PllTable.ofWord (pllEnable ||| (word &&& ~~~pllCpuxFields ||| factor.word)) =
      PllTable.ofWord factor.word := by
  unfold PllTable.ofWord
  rw [shiftRight_and_replaced word (by decide) (by decide),
    shiftRight_and_replaced word (by decide) (by decide),
    shiftRight_and_replaced word (by decide) (by decide),
    shiftRight_and_replaced word (by decide) (by decide)]

end Set

/-! ### When settings are right -/

/-- A request below 2022 MHz reads a row of the table, keeps all other bits of the register but the
enable bit, which it sets, and comes out at the request rounded down to 6 MHz or less than 72 MHz
above the request. -/
theorem pllSet_lookedUp (ccmu : Ccmu) (frequency : U32) (inTable : frequency.toInt < 2022) :
    PllSet ccmu frequency (~~~pllCpuxFields) ((lookedUpFrequency frequency).toNat / 6 * 6)
        (lookedUpFrequency frequency).toNat ∧
      ∀ after, sunxiClockSetC0CorePll ccmu frequency = some after →
        after.pllCpuxCtrl &&& pllEnable = pllEnable := by
  obtain ⟨-, below⟩ := lookedUpFrequency_bounds inTable
  obtain ⟨factor, found, fits, inside, same, least, most⟩ := clkGetPllPara_found below
  obtain ⟨after, isAfter, word, source⟩ := sunxiClockSet_found ccmu found
  have held : PllTable.ofWord after.pllCpuxCtrl = factor := by
    rw [word, ofWord_replaced, same]
  have reported : sunxiClockGetC0CorePll after = factor.clock := by
    unfold sunxiClockGetC0CorePll
    rw [source, held]
    rfl
  refine ⟨⟨factor, after, found, isAfter, fits, held, ?_, ?_, ?_⟩, fun other isOther => ?_⟩
  · rw [word]
    exact and_not_replaced _ inside (by decide)
  · rw [reported, Nat.mul_comm]
    exact least
  · rw [reported]
    omega
  · obtain rfl := Option.some.inj (isAfter.symm.trans isOther)
    rw [word]
    ext bit inBits
    simp only [BitVec.getElem_and, BitVec.getElem_or]
    cases pllEnable[bit] <;> simp

/-- The registers at 1008 MHz from the PLL, with its enable bit clear -/
def stoppedCcmu : Ccmu where
  cpuxAxiCfg := 0x20000
  pllCpuxCtrl := 0x1410
  pllLockCtrl := 0
  ahb2Cfg := 0

theorem pllSet_lookedUp_1008 :
    PllSet stoppedCcmu 1008 (~~~pllCpuxFields) 1008 1008 :=
  (pllSet_lookedUp stoppedCcmu 1008 (by decide)).1

/-- A request of nothing is one of 408 MHz, one of 61 MHz comes out at 60, the enable bit is set,
and 2022 MHz are behind the table. -/
theorem not_pllSet_clamped :
    ¬ PllSet stoppedCcmu 0 (~~~factorFields) (clampedFrequency 0) (clampedFrequency 0) ∧
    ¬ PllSet stoppedCcmu 61 (~~~factorFields) (clampedFrequency 61) (clampedFrequency 61) ∧
    ¬ PllSet stoppedCcmu 408 (~~~factorFields) (clampedFrequency 408) (clampedFrequency 408) ∧
    ¬ PllSet stoppedCcmu 2022 (~~~factorFields) (clampedFrequency 2022)
        (clampedFrequency 2022) := by
  refine ⟨?_, ?_, ?_, ?_⟩
  · rintro ⟨factor, after, -, isAfter, -, -, -, -, near⟩
    have reported : (sunxiClockSetC0CorePll stoppedCcmu 0).map sunxiClockGetC0CorePll = some 408 := by
      decide +kernel
    rw [isAfter, Option.map_some] at reported
    rw [Option.some.inj reported] at near
    exact absurd near (by decide)
  · rintro ⟨factor, after, -, isAfter, -, -, -, reached, -⟩
    have reported : (sunxiClockSetC0CorePll stoppedCcmu 61).map sunxiClockGetC0CorePll = some 60 := by
      decide +kernel
    rw [isAfter, Option.map_some] at reported
    rw [Option.some.inj reported] at reached
    exact absurd reached (by decide)
  · rintro ⟨factor, after, -, isAfter, -, -, kept, -, -⟩
    have register : (sunxiClockSetC0CorePll stoppedCcmu 408).map Ccmu.pllCpuxCtrl =
        some 0x80001000 := by decide +kernel
    rw [isAfter, Option.map_some] at register
    rw [Option.some.inj register] at kept
    exact absurd kept (by decide)
  · rintro ⟨factor, after, found, -⟩
    have behind : clkGetPllPara (lookedUpFrequency 2022) = none := by decide +kernel
    rw [behind] at found
    cases found

end PinePhonePkg
