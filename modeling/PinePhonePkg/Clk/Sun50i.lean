/-
This file models the clocks of this chip that feed the display: the tables of their
factors, how a rate is looked up in them, and the rate that factors make.

It proves that setting a rate of a video clock ends at the nearest rate in its table,
and that what the clock remembers, what rounding promised and what the registers say
are the same rate.
-/

import PinePhonePkg.Clk.Division
import PinePhonePkg.Clk.FreqTable
import PinePhonePkg.Clk.Tree

namespace PinePhonePkg

open Library Library.Nearest

/-! ### The tables -/

/-- `F_N8X7_M0X4`; the other fields of `FACTOR_ALL` have no bits. -/
def factorN8X7M0X4 (nv mv : U32) : U32 :=
  (nv &&& ((1 <<< 7) - 1)) <<< 8 ||| (mv &&& ((1 <<< 4) - 1)) <<< 0

/-- `PLLVIDEO0`, `PLLVIDEO1` and `PLLDE` of the factors and the frequency, which has no part of a
megahertz in any entry -/
def pllEntry : U32 × U32 × U32 → FactorFreq
  | (n, m, megahertz) => ⟨factorN8X7M0X4 n m, megahertz * 1000000⟩

/-- The entries from 510 MHz on, which the three PLLs share -/
def pllHighEntries : List (U32 × U32 × U32) :=
  [(84, 3, 510), (85, 3, 516), (86, 3, 522), (21, 0, 528), (88, 3, 534), (89, 3, 540), (90, 3, 546),
   (22, 0, 552), (92, 3, 558), (93, 3, 564), (94, 3, 570), (23, 0, 576), (96, 3, 582), (97, 3, 588),
   (98, 3, 594), (24, 0, 600), (100, 3, 606), (101, 3, 612), (102, 3, 618), (25, 0, 624),
   (104, 3, 630), (105, 3, 636), (106, 3, 642), (26, 0, 648), (108, 3, 654), (109, 3, 660),
   (110, 3, 666), (27, 0, 672), (112, 3, 678), (113, 3, 684), (114, 3, 690), (28, 0, 696),
   (116, 3, 702), (117, 3, 708), (118, 3, 714), (29, 0, 720), (120, 3, 726), (121, 3, 732),
   (122, 3, 738), (30, 0, 744), (124, 3, 750), (125, 3, 756), (126, 3, 762), (31, 0, 768),
   (32, 0, 792), (33, 0, 816), (34, 0, 840), (35, 0, 864), (36, 0, 888), (37, 0, 912), (38, 0, 936),
   (39, 0, 960), (40, 0, 984), (41, 0, 1008)]

/-- The factors of the rates of the first video PLL -/
def factorPllvideo0Tbl : List FactorFreq := List.map pllEntry <|
  [(6, 0, 168), (7, 0, 192), (16, 1, 204), (25, 2, 208), (8, 0, 216), (36, 3, 222), (27, 2, 224),
   (18, 1, 228), (28, 2, 232), (38, 3, 234), (9, 0, 240), (40, 3, 246), (30, 2, 248), (20, 1, 252),
   (31, 2, 256), (42, 3, 258), (10, 0, 264), (88, 7, 267), (44, 3, 270), (33, 2, 272), (90, 7, 273),
   (22, 1, 276), (92, 7, 279), (34, 2, 280), (46, 3, 282), (94, 7, 285), (23, 1, 288), (96, 7, 291),
   (48, 3, 294), (36, 2, 296), (98, 7, 297), (24, 1, 300), (100, 7, 303), (37, 2, 304),
   (50, 3, 306), (102, 7, 309), (12, 0, 312), (104, 7, 315), (52, 3, 318), (39, 2, 320),
   (106, 7, 321), (26, 1, 324), (108, 7, 327), (40, 2, 328), (54, 3, 330), (110, 7, 333),
   (13, 0, 336), (112, 7, 339), (56, 3, 342), (114, 7, 345), (28, 1, 348), (116, 7, 351),
   (58, 3, 354), (118, 7, 357), (14, 0, 360), (121, 7, 366), (122, 7, 369), (30, 1, 372),
   (124, 7, 375), (62, 3, 378), (126, 7, 381), (15, 0, 384), (64, 3, 390), (32, 1, 396),
   (66, 3, 402), (16, 0, 408), (68, 3, 414), (34, 1, 420), (70, 3, 426), (17, 0, 432), (72, 3, 438),
   (36, 1, 444), (74, 3, 450), (18, 0, 456), (76, 3, 462), (38, 1, 468), (78, 3, 474), (19, 0, 480),
   (80, 3, 486), (40, 1, 492), (82, 3, 498), (20, 0, 504)] ++ pllHighEntries

/-- The factors of the rates of the second video PLL -/
def factorPllvideo1Tbl : List FactorFreq := List.map pllEntry <|
  [(5, 0, 144), (12, 1, 156), (19, 2, 160), (6, 0, 168), (28, 3, 174), (21, 2, 176), (14, 1, 180),
   (60, 7, 183), (22, 2, 184), (30, 3, 186), (62, 7, 189), (15, 1, 192), (64, 7, 195), (32, 3, 198),
   (24, 2, 200), (66, 7, 201), (16, 1, 204), (68, 7, 207), (25, 2, 208), (34, 3, 210), (70, 7, 213),
   (8, 0, 216), (72, 7, 219), (36, 3, 222), (27, 2, 224), (74, 7, 225), (18, 1, 228), (76, 7, 231),
   (28, 2, 232), (38, 3, 234), (78, 7, 237), (9, 0, 240), (80, 7, 243), (40, 3, 246), (30, 2, 248),
   (82, 7, 249), (20, 1, 252), (31, 2, 256), (42, 3, 258), (86, 7, 261), (10, 0, 264), (88, 7, 267),
   (44, 3, 270), (33, 2, 272), (90, 7, 273), (45, 3, 276), (92, 7, 279), (34, 2, 280), (46, 3, 282),
   (94, 7, 285), (23, 1, 288), (96, 7, 291), (48, 3, 294), (36, 2, 296), (98, 7, 297), (24, 1, 300),
   (100, 7, 303), (37, 2, 304), (50, 3, 306), (102, 7, 309), (51, 3, 312), (104, 7, 315),
   (52, 3, 318), (39, 2, 320), (106, 7, 321), (26, 1, 324), (108, 7, 327), (40, 2, 328),
   (54, 3, 330), (110, 7, 333), (13, 0, 336), (112, 7, 339), (56, 3, 342), (114, 7, 345),
   (28, 1, 348), (116, 7, 351), (58, 3, 354), (118, 7, 357), (14, 0, 360), (120, 7, 363),
   (60, 3, 366), (122, 7, 369), (30, 1, 372), (124, 7, 375), (62, 3, 378), (126, 7, 381),
   (15, 0, 384), (64, 3, 390), (32, 1, 396), (66, 3, 402), (67, 3, 408), (68, 3, 414), (34, 1, 420),
   (70, 3, 426), (17, 0, 432), (72, 3, 438), (36, 1, 444), (74, 3, 450), (37, 1, 456), (76, 3, 462),
   (38, 1, 468), (78, 3, 474), (19, 0, 480), (80, 3, 486), (40, 1, 492), (82, 3, 498),
   (20, 0, 504)] ++ pllHighEntries

/-- The factors of the rates of the PLL of the display engine -/
def factorPlldeTbl : List FactorFreq := List.map pllEntry <|
  [(4, 0, 120), (15, 2, 128), (10, 1, 132), (16, 2, 136), (5, 0, 144), (18, 2, 152), (12, 1, 156),
   (19, 2, 160), (26, 3, 162), (13, 1, 168), (28, 3, 174), (21, 2, 176), (58, 7, 177), (14, 1, 180),
   (60, 7, 183), (22, 2, 184), (30, 3, 186), (62, 7, 189), (7, 0, 192), (64, 7, 195), (32, 3, 198),
   (24, 2, 200), (66, 7, 201), (16, 1, 204), (68, 7, 207), (25, 2, 208), (34, 3, 210), (70, 7, 213),
   (8, 0, 216), (72, 7, 219), (36, 3, 222), (27, 2, 224), (74, 7, 225), (18, 1, 228), (76, 7, 231),
   (28, 2, 232), (38, 3, 234), (78, 7, 237), (9, 0, 240), (80, 7, 243), (40, 3, 246), (30, 2, 248),
   (82, 7, 249), (20, 1, 252), (84, 7, 255), (31, 2, 256), (42, 3, 258), (86, 7, 261), (10, 0, 264),
   (88, 7, 267), (44, 3, 270), (33, 2, 272), (90, 7, 273), (22, 1, 276), (92, 7, 279), (34, 2, 280),
   (46, 3, 282), (94, 7, 285), (11, 0, 288), (96, 7, 291), (48, 3, 294), (36, 2, 296), (98, 7, 297),
   (24, 1, 300), (100, 7, 303), (37, 2, 304), (50, 3, 306), (102, 7, 309), (12, 0, 312),
   (104, 7, 315), (52, 3, 318), (39, 2, 320), (106, 7, 321), (26, 1, 324), (108, 7, 327),
   (40, 2, 328), (54, 3, 330), (110, 7, 333), (13, 0, 336), (112, 7, 339), (56, 3, 342),
   (114, 7, 345), (28, 1, 348), (116, 7, 351), (58, 3, 354), (118, 7, 357), (29, 1, 360),
   (120, 7, 363), (121, 7, 366), (122, 7, 369), (30, 1, 372), (124, 7, 375), (62, 3, 378),
   (126, 7, 381), (31, 1, 384), (64, 3, 390), (32, 1, 396), (66, 3, 402), (33, 1, 408),
   (68, 3, 414), (34, 1, 420), (70, 3, 426), (35, 1, 432), (72, 3, 438), (36, 1, 444), (74, 3, 450),
   (18, 0, 456), (76, 3, 462), (38, 1, 468), (78, 3, 474), (19, 0, 480), (80, 3, 486), (40, 1, 492),
   (82, 3, 498), (41, 1, 504)] ++ pllHighEntries

/-- `PLL_MAX_ASSIGN` -/
def pllMax (table : List FactorFreq) : U32 := table.getLast?.elim 0 FactorFreq.freq

/-! ### The factors -/

/-- `SUNXI_CLK_FACTORS` of the video clocks, which differ in the register of the spread spectrum -/
def mediaConfig (sdmpat : U32) : FactorsConfig where
  nshift := 8
  nwidth := 7
  kshift := 0
  kwidth := 0
  mshift := 0
  mwidth := 4
  pshift := 0
  pwidth := 0
  d1shift := 0
  d1width := 0
  d2shift := 0
  d2width := 0
  frac := true
  outshift := 25
  modeshift := 24
  enshift := 31
  sdmshift := 20
  sdmwidth := 0
  sdmpat := sdmpat
  sdmval := 0xd1303333
  updshift := 0

/-- The register of the spread spectrum is added to the base when a clock is registered. -/
def sunxiClkFactorPllVideo0 : FactorsConfig := mediaConfig (sunxiClkBase + 0x0288)

/-- The fields of the second video PLL -/
def sunxiClkFactorPllVideo1 : FactorsConfig := mediaConfig (sunxiClkBase + 0x0298)

/-- The fields of the PLL of the display engine -/
def sunxiClkFactorPllDe : FactorsConfig := mediaConfig (sunxiClkBase + 0x02a8)

/-- The factors of the fractional mode, which has two rates -/
def mediaFactors (rate : U32) (values : ClkFactorsValue) : ClkFactorsValue := fun field =>
  if rate = 297000000 then
    match field with
    | .fracMode | .factorm => 0
    | .fracFreq => 1
    | field => values field
  else if rate = 270000000 then
    match field with
    | .fracMode | .fracFreq | .factorm => 0
    | field => values field
  else
    match field with
    | .fracMode => 1
    | .fracFreq => 0
    | field => values field

/-- `get_factors` of a video clock. A value that is not set is as it was `before`. -/
def getFactorsMedia (config : FactorsConfig) (table : List FactorFreq) (before : ClkFactorsValue)
    (rate _parentRate : U32) : Int × ClkFactorsValue :=
  let tmpRate := if rate > pllMax table then pllMax table else rate
  match sunxiClkComFtrSr config before table (tmpRate.toNat / 1000000) table.length with
  | some (found, values) => if found ≠ 0 then (-1, values) else (0, mediaFactors rate values)
  | none => (-1, before)

/-- The factors that the table has for a rate of the first video PLL -/
def getFactorsPllVideo0 : ClkFactorsValue → U32 → U32 → Int × ClkFactorsValue :=
  getFactorsMedia sunxiClkFactorPllVideo0 factorPllvideo0Tbl

/-- The factors that the table has for a rate of the second video PLL -/
def getFactorsPllVideo1 : ClkFactorsValue → U32 → U32 → Int × ClkFactorsValue :=
  getFactorsMedia sunxiClkFactorPllVideo1 factorPllvideo1Tbl

/-- The factors that the table has for a rate of the PLL of the display engine -/
def getFactorsPllDe : ClkFactorsValue → U32 → U32 → Int × ClkFactorsValue :=
  getFactorsMedia sunxiClkFactorPllDe factorPlldeTbl

/-- The rate of factors, or one of the two fractional rates -/
def calcRateMedia (parentRate : U32) (factor : ClkFactorsValue) : Ulong :=
  let tmpRate : Ulong := (if parentRate ≠ 0 then parentRate else 24000000).setWidth 64
  if factor .fracMode = 0 then if factor .fracFreq = 1 then 297000000 else 270000000
  else
    (clkDoDiv (tmpRate * ((factor .factorn).setWidth 64 + 1))
      ((factor .factorm).setWidth 32 + 1)).1

/-! ### The clocks -/

/-- The video clocks of `sunxi_factos` -/
inductive MediaPll : Type where
  | pllVideo0
  | pllVideo1
  | pllDe
deriving DecidableEq

namespace MediaPll

/-- The table of a PLL -/
def table : MediaPll → List FactorFreq
  | .pllVideo0 => factorPllvideo0Tbl
  | .pllVideo1 => factorPllvideo1Tbl
  | .pllDe => factorPlldeTbl

/-- The fields of a PLL -/
def config : MediaPll → FactorsConfig
  | .pllVideo0 => sunxiClkFactorPllVideo0
  | .pllVideo1 => sunxiClkFactorPllVideo1
  | .pllDe => sunxiClkFactorPllDe

/-- The search of a PLL -/
def getFactors : MediaPll → ClkFactorsValue → U32 → U32 → Int × ClkFactorsValue
  | .pllVideo0 => getFactorsPllVideo0
  | .pllVideo1 => getFactorsPllVideo1
  | .pllDe => getFactorsPllDe

/-- The register of a clock, which has its lock bit too -/
def reg : MediaPll → U32
  | .pllVideo0 => sunxiClkBase + 0x0010
  | .pllVideo1 => sunxiClkBase + 0x0030
  | .pllDe => sunxiClkBase + 0x0048

/-- The bit of a PLL in the register of the locks -/
def lockEnBit : MediaPll → Nat
  | .pllVideo0 => 2
  | .pllVideo1 => 6
  | .pllDe => 10

/-- The entry of `sunxi_factos` after `sunxi_clk_register_factors` -/
def factors (pll : MediaPll) (before : ClkFactorsValue) : ClkFactors where
  clkIgnoreDisable := true
  clkRateFlatFactors := false
  reg := pll.reg
  lockReg := pll.reg
  lockBit := 28
  pllLockCtrlReg := sunxiClkBase + 0x0320
  lockEnBit := pll.lockEnBit
  lockMode := .noneMode
  config := pll.config
  getFactors := some (pll.getFactors before)
  calcRate := some calcRateMedia

end MediaPll

/-- `sunxi_clk_factors_ops` -/
def sunxiClkFactorsOps {Hw : Type} (device : ClkDevice Hw) (factor : ClkFactors) : ClkOps Hw where
  enable := some (sunxiClkFatorsEnable device factor)
  disable := some (sunxiClkFatorsDisable device factor)
  recalcRate := some (sunxiClkFactorsRecalcRate device factor)
  roundRate := some fun _ rate parentRate =>
    (sunxiClkFactorsRoundRate factor rate parentRate, parentRate)
  setParent := none
  getParent := none
  setRate := some (sunxiClkFactorsSetRate device factor)
  init := none

/-! ### What the tables say -/

/-- The factors of an entry make its frequency of the 24 MHz of the parent. -/
def FactorFreq.Exact (entry : FactorFreq) : Prop :=
  let n := (entry.factor >>> 8 &&& 127).toNat
  let m := (entry.factor &&& 15).toNat
  24000000 * (n + 1) = entry.freq.toNat * (m + 1)

instance (entry : FactorFreq) : Decidable entry.Exact := inferInstanceAs (Decidable (_ = _))

/-- What is needed of a table: it goes up in megahertz, and each entry is exact. -/
structure HonestTable (table : List FactorFreq) : Prop where
  increasing : table.Pairwise fun first second => first.megahertz < second.megahertz
  exact : ∀ entry ∈ table, entry.Exact
  last : ∃ entry ∈ table, entry.freq = pllMax table
  atMost : ∀ entry ∈ table, entry.freq ≤ pllMax table

theorem honestTable_table (pll : MediaPll) : HonestTable pll.table := by
  cases pll with
  | pllVideo0 =>
    refine ⟨?_, ?_, ?_, ?_⟩ <;> decide +kernel
  | pllVideo1 =>
    refine ⟨?_, ?_, ?_, ?_⟩ <;> decide +kernel
  | pllDe =>
    refine ⟨?_, ?_, ?_, ?_⟩ <;> decide +kernel

/-! ### The rate that is promised -/

/-- The rate that a table promises: one of the two of the fractional mode, or that of the nearest
entry in megahertz, and of the lower one of two -/
def Promised (table : List FactorFreq) (rate : U32) (promise : Ulong) : Prop :=
  if rate = 297000000 ∨ rate = 270000000 then promise = rate.setWidth 64
  else
    ∃ index entry,
      IsNearest (tableKey table) table.length
        ((min rate.toNat (pllMax table).toNat / 1000000 : Nat) : Int) index ∧
      table[index]? = some entry ∧ promise = entry.freq.setWidth 64

section Rate

variable {table : List FactorFreq} (honest : HonestTable table)

theorem HonestTable.sorted (honest : HonestTable table) : TableSorted table :=
  honest.increasing.imp fun less => less.le

theorem HonestTable.nonempty (honest : HonestTable table) : 0 < table.length := by
  obtain ⟨entry, member, -⟩ := honest.last
  exact List.length_pos_of_mem member

/-- The factors that are found are those of the nearest entry, or of the fractional mode. -/
theorem getFactorsMedia_eq (honest : HonestTable table) (config : FactorsConfig)
    (before : ClkFactorsValue) (rate parentRate : U32) :
    ∃ index entry,
      IsNearest (tableKey table) table.length
        ((min rate.toNat (pllMax table).toNat / 1000000 : Nat) : Int) index ∧
      table[index]? = some entry ∧
      getFactorsMedia config table before rate parentRate =
        (0, mediaFactors rate (entry.values config before)) := by
  have isMin : (if rate > pllMax table then pllMax table else rate).toNat =
      min rate.toNat (pllMax table).toNat := by
    split
    next above => exact (Nat.min_eq_right (Nat.le_of_lt above)).symm
    next notAbove => exact (Nat.min_eq_left (Nat.not_lt.mp notAbove)).symm
  have small : min rate.toNat (pllMax table).toNat / 1000000 < 2 ^ 31 := by
    have := rate.isLt
    omega
  obtain ⟨index, entry, nearest, here, found⟩ :=
    sunxiClkComFtrSr_isNearest honest.sorted honest.nonempty small config before
  refine ⟨index, entry, nearest, here, ?_⟩
  unfold getFactorsMedia
  dsimp only
  rw [isMin, found]
  rfl

/-- The factors of an entry, as numbers -/
theorem toNat_values_factorn (entry : FactorFreq) (sdmpat : U32) (before : ClkFactorsValue) :
    (entry.values (mediaConfig sdmpat) before .factorn).toNat =
      (entry.factor >>> 8 &&& 127).toNat := by
  have small : (entry.factor >>> 8 &&& 127).toNat ≤ 127 := by
    rw [BitVec.toNat_and]
    exact Nat.and_le_right
  have isMask : (1 : U32) <<< 7 - 1 = 127 := by decide
  show ((entry.factor >>> 8 &&& ((1 : U32) <<< 7 - 1)).setWidth 16).toNat = _
  rw [isMask, BitVec.toNat_setWidth]
  exact Nat.mod_eq_of_lt (lt_of_le_of_lt small (by decide))

theorem toNat_values_factorm (entry : FactorFreq) (sdmpat : U32) (before : ClkFactorsValue) :
    (entry.values (mediaConfig sdmpat) before .factorm).toNat =
      (entry.factor &&& 15).toNat := by
  have small : (entry.factor &&& 15).toNat ≤ 15 := by
    rw [BitVec.toNat_and]
    exact Nat.and_le_right
  have isMask : (1 : U32) <<< 4 - 1 = 15 := by decide
  show ((entry.factor >>> 0 &&& ((1 : U32) <<< 4 - 1)).setWidth 16).toNat = _
  rw [isMask, BitVec.ushiftRight_zero, BitVec.toNat_setWidth]
  exact Nat.mod_eq_of_lt (lt_of_le_of_lt small (by decide))

/-- The rate that the factors of an exact entry make -/
theorem calcRateMedia_values {entry : FactorFreq} (exact : entry.Exact) (sdmpat : U32)
    (before : ClkFactorsValue) (rate : U32) :
    calcRateMedia 24000000 (mediaFactors rate (entry.values (mediaConfig sdmpat) before)) =
      if rate = 297000000 ∨ rate = 270000000 then rate.setWidth 64
      else entry.freq.setWidth 64 := by
  by_cases first : rate = 297000000
  · subst first
    rfl
  by_cases second : rate = 270000000
  · subst second
    rfl
  rw [if_neg (not_or.mpr ⟨first, second⟩)]
  have isFactors : mediaFactors rate (entry.values (mediaConfig sdmpat) before) = fun field =>
      match field with
      | .fracMode => 1
      | .fracFreq => 0
      | field => entry.values (mediaConfig sdmpat) before field := by
    funext field
    unfold mediaFactors
    rw [if_neg first, if_neg second]
  rw [isFactors]
  unfold calcRateMedia
  dsimp only
  have some : (24000000 : U32) ≠ 0 := by decide
  have isMode : (1 : BitVec 16) ≠ 0 := by decide
  rw [if_pos some, if_neg isMode]
  have numN := toNat_values_factorn entry sdmpat before
  have numM := toNat_values_factorm entry sdmpat before
  have smallN : (entry.factor >>> 8 &&& 127).toNat ≤ 127 := by
    rw [BitVec.toNat_and]
    exact Nat.and_le_right
  have smallM : (entry.factor &&& 15).toNat ≤ 15 := by
    rw [BitVec.toNat_and]
    exact Nat.and_le_right
  generalize entry.values (mediaConfig sdmpat) before .factorn = n at numN ⊢
  generalize entry.values (mediaConfig sdmpat) before .factorm = m at numM ⊢
  have isM : (m.setWidth 32 + 1 : U32).toNat = (entry.factor &&& 15).toNat + 1 := by
    rw [BitVec.toNat_add, BitVec.toNat_setWidth, numM]
    show (_ % 4294967296 + 1) % 4294967296 = _
    omega
  have isN : ((24000000 : U32).setWidth 64 * (n.setWidth 64 + 1) : Ulong).toNat =
      24000000 * ((entry.factor >>> 8 &&& 127).toNat + 1) := by
    rw [BitVec.toNat_mul, BitVec.toNat_add, BitVec.toNat_setWidth _ n, numN]
    show 24000000 * ((_ % 18446744073709551616 + 1) % 18446744073709551616) %
      18446744073709551616 = _
    omega
  refine BitVec.eq_of_toNat_eq ?_
  rw [toNat_clkDoDiv _ (isM ▸ Nat.succ_pos _), isN, isM, exact,
    Nat.mul_div_cancel _ (Nat.succ_pos _), BitVec.toNat_setWidth_of_le (by decide)]

/-- A rate that was promised is promised again for itself: its entry has no other as near. -/
theorem Promised.again (honest : HonestTable table) {rate : U32} {promise again : Ulong}
    (first : Promised table rate promise)
    (second : Promised table (promise.setWidth 32) again) : again = promise := by
  have narrow : ∀ word : U32, ((word.setWidth 64 : Ulong).setWidth 32 : U32) = word := by
    intro word
    rw [BitVec.setWidth_setWidth_of_le _ (by decide), BitVec.setWidth_eq]
  unfold Promised at first
  split at first
  next special =>
    unfold Promised at second
    rw [first, narrow, if_pos special] at second
    exact second.trans first.symm
  next =>
    obtain ⟨index, entry, nearest, here, isFreq⟩ := first
    unfold Promised at second
    rw [isFreq, narrow] at second
    split at second
    next => exact second.trans isFreq.symm
    next =>
      obtain ⟨index', entry', nearest', here', isFreq'⟩ := second
      have le : entry.freq.toNat ≤ (pllMax table).toNat :=
        honest.atMost entry (List.mem_of_getElem? here)
      have isKey : ((min entry.freq.toNat (pllMax table).toNat / 1000000 : Nat) : Int) =
          tableKey table index := by
        rw [Nat.min_eq_left le, tableKey_of_getElem? here]
        rfl
      rw [isKey] at nearest'
      have none := nearest'.nearest index nearest.inside
      rw [sub_self, abs_zero] at none
      have same : tableKey table index = tableKey table index' :=
        sub_eq_zero.mp (abs_nonpos_iff.mp none)
      -- two entries of one rate are one entry
      have sameIndex : index = index' := by
        rw [tableKey_of_getElem? here, tableKey_of_getElem? here'] at same
        have sameRate : entry.megahertz = entry'.megahertz := Int.ofNat.inj same
        obtain ⟨inside, isEntry⟩ := List.getElem?_eq_some_iff.mp here
        obtain ⟨inside', isEntry'⟩ := List.getElem?_eq_some_iff.mp here'
        rcases Nat.lt_trichotomy index index' with less | equal | less
        · have := List.pairwise_iff_getElem.mp honest.increasing _ _ inside inside' less
          rw [isEntry, isEntry', sameRate] at this
          exact absurd this (Nat.lt_irrefl _)
        · exact equal
        · have := List.pairwise_iff_getElem.mp honest.increasing _ _ inside' inside less
          rw [isEntry, isEntry', sameRate] at this
          exact absurd this (Nat.lt_irrefl _)
      subst sameIndex
      have sameEntry : entry = entry' := Option.some.inj (here.symm.trans here')
      rw [isFreq', isFreq, sameEntry]

end Rate

/-! ### Setting the rate of a video clock -/

namespace MediaPll

variable (pll : MediaPll) (before : ClkFactorsValue)

theorem getFactors_eq : pll.getFactors before = getFactorsMedia pll.config pll.table before := by
  cases pll <;> rfl

theorem config_eq : ∃ sdmpat, pll.config = mediaConfig sdmpat := by
  cases pll <;> exact ⟨_, rfl⟩

/-- The fields of the clocks are beside each other and beside the lock bit. -/
theorem layout : pll.config.Layout (setMask 28 1) := by
  obtain ⟨sdmpat, isConfig⟩ := pll.config_eq
  rw [isConfig]
  have noUpdate : ¬ (mediaConfig sdmpat).updshift ≠ 0 := not_not.mpr rfl
  have noSdm : ¬ (mediaConfig sdmpat).sdmwidth ≠ 0 := not_not.mpr rfl
  have sameMask : (mediaConfig sdmpat).mask = (mediaConfig 0).mask := rfl
  refine ⟨fun field => ?_, fun field => ?_, fun field other different => ?_,
    fun some => absurd some noUpdate, fun some => absurd some noSdm, fun field => ?_⟩
  · cases field <;> exact Nat.le_of_ble_eq_true rfl
  · cases field <;> exact Nat.le_of_ble_eq_true rfl
  · rw [sameMask]
    cases field <;> cases other <;> first | exact absurd rfl different | decide
  · rw [sameMask]
    cases field <;> decide

/-- All other registers are beside those of a clock, which has no lock and no spread spectrum. -/
theorem beside (reg : U32) : (pll.factors before).Beside reg where
  lock := fun mode => mode.elim PllLockMode.noConfusion PllLockMode.noConfusion
  sdm := fun some => by
    obtain ⟨sdmpat, isConfig⟩ := pll.config_eq
    exact absurd (congrArg FactorsConfig.sdmwidth isConfig) some

/-- The factors that are found fit their fields. -/
theorem fits (rate parentRate : U32) :
    pll.config.Fits (pll.getFactors before rate parentRate).2 := by
  obtain ⟨index, entry, -, -, found⟩ :=
    getFactorsMedia_eq (honestTable_table pll) pll.config before rate parentRate
  rw [getFactors_eq, found]
  obtain ⟨sdmpat, isConfig⟩ := pll.config_eq
  rw [isConfig]
  intro field there
  have numN := toNat_values_factorn entry sdmpat before
  have numM := toNat_values_factorm entry sdmpat before
  have smallN : (entry.factor >>> 8 &&& 127).toNat < 128 := by
    rw [BitVec.toNat_and]
    exact Nat.lt_succ_of_le Nat.and_le_right
  have smallM : (entry.factor &&& 15).toNat < 16 := by
    rw [BitVec.toNat_and]
    exact Nat.lt_succ_of_le Nat.and_le_right
  rw [← numN] at smallN
  rw [← numM] at smallM
  unfold mediaFactors
  split
  · cases field <;> first | exact absurd rfl there | exact smallN | exact Nat.le_of_ble_eq_true rfl
  · split
    · cases field <;>
        first | exact absurd rfl there | exact smallN | exact Nat.le_of_ble_eq_true rfl
    · cases field <;>
        first
          | exact absurd rfl there
          | exact smallN
          | exact smallM
          | exact Nat.le_of_ble_eq_true rfl

/-- The rate reads only factors that are there. -/
theorem calcRateMedia_present (parentRate : U32) (values : ClkFactorsValue) :
    calcRateMedia parentRate (pll.config.present values) = calcRateMedia parentRate values := by
  obtain ⟨sdmpat, isConfig⟩ := pll.config_eq
  rw [isConfig]
  rfl

/-- Rounding gives the rate that the table promises. -/
theorem roundRate_promised (rate : Ulong) :
    Promised pll.table (rate.setWidth 32)
      (sunxiClkFactorsRoundRate (pll.factors before) rate 24000000) := by
  obtain ⟨index, entry, nearest, here, found⟩ :=
    getFactorsMedia_eq (honestTable_table pll) pll.config before (rate.setWidth 32) 24000000
  obtain ⟨sdmpat, isConfig⟩ := pll.config_eq
  have isRate : sunxiClkFactorsRoundRate (pll.factors before) rate 24000000 =
      calcRateMedia 24000000 (pll.getFactors before (rate.setWidth 32) 24000000).2 := rfl
  have exact := (honestTable_table pll).exact entry (List.mem_of_getElem? here)
  rw [isRate, getFactors_eq, found]
  dsimp only
  rw [isConfig, calcRateMedia_values exact]
  unfold Promised
  split
  · rfl
  · exact ⟨index, entry, nearest, here, rfl⟩

end MediaPll

section SetRate

variable {Clock Hw : Type} [DecidableEq Clock] {table : ClkTable Clock Hw} {device : ClkDevice Hw}
  {status : U32 → U32} {view : Hw → U32 → U32} {state : ClkState Clock Hw} {clk hosc : Clock}

/-- A video clock that is asked for a rate goes to the one that its table promises, and the clock
knows it: the rates that it keeps are the one that its registers make. Nothing but its factors is
changed. -/
theorem clkSetRate_mediaPll (keeps : device.Keeps status view) (pll : MediaPll)
    (lockBit : status pll.reg = setMask 28 1) (before : ClkFactorsValue)
    (isOps : table.ops clk = sunxiClkFactorsOps device (pll.factors before))
    (isParent : state.parent clk = some hosc) (parentRate : state.rate hosc = 24000000)
    {rate : Ulong} (asked : rate ≠ state.rate clk ∨ table.clkGetRateNocache clk) :
    let after := (clkSetRate table clk rate state).2
    Promised pll.table (rate.setWidth 32) (after.rate clk) ∧
      after.newRate clk = after.rate clk ∧
      sunxiClkFactorsRecalcRate device (pll.factors before) after.hw 24000000 = after.rate clk ∧
      (∀ mask, pll.config.Apart mask →
        view after.hw pll.reg &&& mask = view state.hw pll.reg &&& mask) ∧
      (∀ reg, reg ≠ pll.reg → view after.hw reg = view state.hw reg) ∧
      ∀ other, other ≠ clk → after.rate other = state.rate other := by
  have notSame : ¬ (rate = state.rate clk ∧ ¬ table.clkGetRateNocache clk) := by
    rintro ⟨same, cached⟩
    exact asked.elim (absurd same) cached
  have promised := pll.roundRate_promised before rate
  have promisedAgain := pll.roundRate_promised before
    (sunxiClkFactorsRoundRate (pll.factors before) rate 24000000)
  have again := promised.again (honestTable_table pll) promisedAgain
  obtain ⟨index, entry, -, -, found⟩ := getFactorsMedia_eq (honestTable_table pll) pll.config before
    ((sunxiClkFactorsRoundRate (pll.factors before) rate 24000000).setWidth 32) 24000000
  have isFound : 0 ≤ (pll.getFactors before
      ((sunxiClkFactorsRoundRate (pll.factors before) rate 24000000).setWidth 32)
      ((24000000 : Ulong).setWidth 32)).1 := by
    rw [pll.getFactors_eq before]
    exact found ▸ le_rfl
  obtain ⟨readBack, kept, others⟩ := @sunxiClkFactorsSetRate_readBack (pll.factors before) Hw device
    status view keeps (lockBit ▸ pll.layout) (pll.beside before _) _ rfl _ rfl
    pll.calcRateMedia_present rfl _ 24000000 isFound (pll.fits before _ _) state.hw
  rw [again] at readBack
  intro after
  have isAfter : after = (clkSetRate table clk rate state).2 := rfl
  unfold clkSetRate at isAfter
  rw [if_neg notSame, isParent] at isAfter
  dsimp only at isAfter
  rw [isOps, parentRate] at isAfter
  dsimp only [sunxiClkFactorsOps] at isAfter
  rw [readBack] at isAfter
  rw [isAfter]
  dsimp only
  rw [Function.update_self, Function.update_self]
  refine ⟨promised, rfl, readBack, kept, ?_, fun other different => ?_⟩
  · exact fun reg different => others reg different (pll.beside before reg)
  · exact Function.update_of_ne different _ _

/-- The lock bits are set by the device. -/
def lockStatus (reg : U32) : U32 :=
  if reg = sunxiClkBase + 0x0010 ∨ reg = sunxiClkBase + 0x0030 ∨ reg = sunxiClkBase + 0x0048 ∨
      reg = sunxiClkBase + 0x0040 then setMask 28 1
  else 0

/-- Registers that keep what is written, with the lock bits always set -/
def lockedRegisters : ClkDevice (U32 → U32) where
  readl := fun reg hw => hw reg ||| lockStatus reg
  writel := fun value reg hw => Function.update hw reg value
  udelay := fun _ hw => hw

theorem lockedRegisters_keeps :
    lockedRegisters.Keeps lockStatus fun hw reg => hw reg &&& ~~~lockStatus reg where
  readl := fun reg hw => by
    refine BitVec.eq_of_getLsbD_eq fun place _ => ?_
    show ((hw reg ||| lockStatus reg) &&& ~~~lockStatus reg).getLsbD place = _
    simp only [BitVec.getLsbD_and, BitVec.getLsbD_or, BitVec.getLsbD_not]
    cases (lockStatus reg).getLsbD place <;> simp
  writel := fun value reg hw => by
    funext other
    show Function.update hw reg value other &&& _ = _
    by_cases same : other = reg
    · subst same
      rw [Function.update_self, Function.update_self]
    · rw [Function.update_of_ne same, Function.update_of_ne same]
  udelay := fun _ _ => rfl

/-- The oscillator and the clock of the display engine -/
def plldeTable : ClkTable Bool (U32 → U32) where
  name := fun clk => if clk then [104] else [112]
  ops := fun clk =>
    if clk then ⟨none, none, none, none, none, none, none, none⟩
    else sunxiClkFactorsOps lockedRegisters (MediaPll.pllDe.factors fun _ => 0)
  parentNames := fun clk => if clk then [] else [[104]]
  clkIsRoot := id
  clkSetParentGate := fun _ => false
  clkGetRateNocache := fun _ => false

/-- Both are registered, and the registers are zero. -/
def plldeState : ClkState Bool (U32 → U32) where
  clkList := [false, true]
  parent := fun clk => if clk then none else some true
  parents := fun _ => none
  rate := fun _ => 24000000
  newRate := fun _ => 0
  enableCount := fun _ => 0
  prepareCount := fun _ => 0
  hw := fun _ => 0

theorem clkSetRate_mediaPll_pllDe :
    let after := (clkSetRate plldeTable false 433000000 plldeState).2
    Promised MediaPll.pllDe.table ((433000000 : Ulong).setWidth 32) (after.rate false) ∧
      after.newRate false = after.rate false ∧
      sunxiClkFactorsRecalcRate lockedRegisters (MediaPll.pllDe.factors fun _ => 0) after.hw
        24000000 = after.rate false ∧
      (∀ mask, MediaPll.pllDe.config.Apart mask →
        after.hw MediaPll.pllDe.reg &&& ~~~lockStatus MediaPll.pllDe.reg &&& mask =
          plldeState.hw MediaPll.pllDe.reg &&& ~~~lockStatus MediaPll.pllDe.reg &&& mask) ∧
      (∀ reg, reg ≠ MediaPll.pllDe.reg →
        after.hw reg &&& ~~~lockStatus reg = plldeState.hw reg &&& ~~~lockStatus reg) ∧
      ∀ other, other ≠ false → after.rate other = plldeState.rate other :=
  @clkSetRate_mediaPll Bool (U32 → U32) _ plldeTable lockedRegisters _ _ plldeState false true
    lockedRegisters_keeps .pllDe (by decide) (fun _ => 0) rfl rfl rfl 433000000
    (.inl (by decide : (433000000 : Ulong) ≠ 24000000))

end SetRate

/-! ### The clock of the serial display -/

/-- The settings that `get_factors_pll_mipi` tries, in their order, as `m`, `k` and `n` -/
def mipiSettings : List (Nat × Nat × Nat) :=
  (List.range' 1 16).flatMap fun m => (List.range' 2 3).flatMap fun k =>
    (List.range' 1 16).map fun n => (m, k, n)

/-- The rate of a setting, in megahertz -/
def mipiRate (parentRate : U32) : Nat × Nat × Nat → Nat
  | (m, k, n) => parentRate.toNat / 1000000 * k * n / m

/-- The difference without a sign -/
def rateDelta (rate wantRate : Nat) : Nat :=
  if rate > wantRate then rate - wantRate else wantRate - rate

/-- The factors of a setting -/
def mipiValues (values : ClkFactorsValue) : Nat × Nat × Nat → ClkFactorsValue
  | (m, k, n) => fun field =>
    match field with
    | .factorn => BitVec.ofNat 16 (n - 1)
    | .factork => BitVec.ofNat 16 (k - 1)
    | .factorm => BitVec.ofNat 16 (m - 1)
    | field => values field

/-- The body of the loops of `get_factors_pll_mipi`: the rate that was saved, and the factors -/
def tryMipi (parentRate : U32) (wantRate : Nat) (saved : Nat × ClkFactorsValue)
    (setting : Nat × Nat × Nat) : Nat × ClkFactorsValue :=
  let newRate := mipiRate parentRate setting
  if rateDelta newRate wantRate < rateDelta saved.1 wantRate then
    (newRate, mipiValues saved.2 setting)
  else saved

/-- The rate that is asked for, in megahertz -/
def mipiWant (rate : U32) : Nat :=
  (if rate > 1440000000 then 1440000000 else rate).toNat / 1000000

/-- `get_factors_pll_mipi`. A factor that is never set is as it was `before`. -/
def getFactorsPllMipi (before : ClkFactorsValue) (rate parentRate : U32) : Int × ClkFactorsValue :=
  (0, (mipiSettings.foldl (tryMipi parentRate (mipiWant rate)) (0, before)).2)

/-- The rate of the factors of the MIPI PLL -/
def calcRatePllMipi (parentRate : U32) (factor : ClkFactorsValue) : Ulong :=
  let tmpRate : Ulong := (if parentRate ≠ 0 then parentRate else 24000000).setWidth 64
  (clkDoDiv (tmpRate * ((factor .factorn).setWidth 64 + 1) * ((factor .factork).setWidth 64 + 1))
    ((factor .factorm).setWidth 32 + 1)).1

/-- `SUNXI_CLK_FACTORS` of the clock of the serial display -/
def sunxiClkFactorPllMipi : FactorsConfig where
  nshift := 8
  nwidth := 4
  kshift := 4
  kwidth := 2
  mshift := 0
  mwidth := 4
  pshift := 0
  pwidth := 0
  d1shift := 0
  d1width := 0
  d2shift := 0
  d2width := 0
  frac := false
  outshift := 0
  modeshift := 0
  enshift := 31
  sdmshift := 20
  sdmwidth := 0
  sdmpat := sunxiClkBase + 0x02a0
  sdmval := 0xd1303333
  updshift := 0

/-- Its entry of `sunxi_factos` after `sunxi_clk_register_factors` -/
def pllMipi (before : ClkFactorsValue) : ClkFactors where
  clkIgnoreDisable := true
  clkRateFlatFactors := false
  reg := sunxiClkBase + 0x0040
  lockReg := sunxiClkBase + 0x0040
  lockBit := 28
  pllLockCtrlReg := sunxiClkBase + 0x0320
  lockEnBit := 8
  lockMode := .noneMode
  config := sunxiClkFactorPllMipi
  getFactors := some (getFactorsPllMipi before)
  calcRate := some calcRatePllMipi

section MipiOperations

variable {Hw : Type} (device : ClkDevice Hw) (factor : ClkFactors)

/-- The number of the parent that is selected -/
def getParentPllMipi (hw : Hw) : BitVec 8 :=
  if factor.reg = 0 then 0 else (getBits 21 1 (device.readl factor.reg hw)).setWidth 8

/-- Selects a parent by its number. -/
def setParentPllMipi (index : BitVec 8) (hw : Hw) : Int × Hw :=
  if factor.reg = 0 then (0, hw)
  else
    let reg := setBits 21 1 (device.readl factor.reg hw) (index.setWidth 32)
    (0, device.writel reg factor.reg hw)

/-- Switches the MIPI PLL on, with its two regulators first. -/
def clkEnablePllMipi (hw : Hw) : Int × Hw :=
  let (reg, hw) := writeSdm device factor (device.readl factor.reg hw) hw
  let reg := reg ||| (3 : U32) <<< 22
  let hw := device.udelay 100 (device.writel reg factor.reg hw)
  let reg := setBits factor.config.enshift 1 reg 1
  (0, device.udelay 100 (device.writel reg factor.reg hw))

/-- Switches the MIPI PLL off, and its regulators after it. -/
def clkDisablePllMipi (hw : Hw) : Hw :=
  let config := factor.config
  let reg := device.readl factor.reg hw
  let reg := if config.sdmwidth ≠ 0 then setBits config.sdmshift config.sdmwidth reg 0 else reg
  let reg := setBits config.enshift 1 reg 0
  device.writel (reg &&& ~~~((3 : U32) <<< 22)) factor.reg hw

/-- `pll_mipi_ops`, which `init_clocks` makes of `sunxi_clk_factors_ops` -/
def pllMipiOps : ClkOps Hw :=
  { sunxiClkFactorsOps device factor with
    getParent := some fun hw => (getParentPllMipi device factor hw).toNat
    setParent := some fun hw index => setParentPllMipi device factor (BitVec.ofNat 8 index) hw
    enable := some (clkEnablePllMipi device factor)
    disable := some (clkDisablePllMipi device factor) }

end MipiOperations

section Mipi

/-- What the loops keep is the best setting so far, if there is one that is better than no clock at
all. -/
theorem foldl_tryMipi (parentRate : U32) (wantRate : Nat) (before : ClkFactorsValue)
    (settings : List (Nat × Nat × Nat)) (start : Option (Nat × Nat × Nat)) :
    settings.foldl (tryMipi parentRate wantRate)
        (start.elim (0, before) fun setting =>
          (mipiRate parentRate setting, mipiValues before setting)) =
      ((settings.map some).foldl
          (improve fun choice => rateDelta (choice.elim 0 (mipiRate parentRate)) wantRate)
          start).elim (0, before) fun setting =>
        (mipiRate parentRate setting, mipiValues before setting) := by
  induction settings generalizing start with
  | nil => rfl
  | cons setting rest inductionHypothesis =>
    rw [List.map_cons, List.foldl_cons, List.foldl_cons, ← inductionHypothesis]
    congr 1
    unfold tryMipi improve
    have isRate : (start.elim (0, before) fun setting =>
        (mipiRate parentRate setting, mipiValues before setting)).1 =
        start.elim 0 (mipiRate parentRate) := by
      cases start <;> rfl
    dsimp only
    rw [isRate]
    have isValues : mipiValues (start.elim (0, before) fun setting =>
        (mipiRate parentRate setting, mipiValues before setting)).2 setting =
        mipiValues before setting := by
      funext field
      cases start <;> cases field <;> rfl
    rw [isValues]
    show _ = Option.elim (if rateDelta (mipiRate parentRate setting) wantRate <
      rateDelta (start.elim 0 (mipiRate parentRate)) wantRate then some setting else start) _ _
    split <;> rfl

/-- What is found is the best of some settings, and the first one of several. -/
theorem foldl_tryMipi_least (parentRate : U32) (wantRate : Nat) (before : ClkFactorsValue)
    (settings : List (Nat × Nat × Nat)) :
    let delta := fun setting => rateDelta (mipiRate parentRate setting) wantRate
    let values := (settings.foldl (tryMipi parentRate wantRate) (0, before)).2
    (values = before ∧ ∀ setting ∈ settings, wantRate ≤ delta setting) ∨
      ∃ setting, FirstLeast delta settings setting ∧ delta setting < wantRate ∧
        values = mipiValues before setting := by
  intro delta values
  have isValues := congrArg Prod.snd (foldl_tryMipi parentRate wantRate before settings none)
  change values = _ at isValues
  have noClock : rateDelta 0 wantRate = wantRate := by
    unfold rateDelta
    rw [if_neg (Nat.not_lt_zero _), Nat.sub_zero]
  obtain ⟨least, earlier, later, split, first⟩ := foldl_improve
    (fun choice : Option (Nat × Nat × Nat) =>
      rateDelta (choice.elim 0 (mipiRate parentRate)) wantRate) none (settings.map some)
  generalize (settings.map some).foldl (improve fun choice : Option (Nat × Nat × Nat) =>
    rateDelta (choice.elim 0 (mipiRate parentRate)) wantRate) none = best
    at isValues least split first
  cases best with
  | none =>
    refine Or.inl ⟨isValues, fun setting member => ?_⟩
    have atLeast := least (some setting) (List.mem_cons_of_mem _ (List.mem_map_of_mem member))
    exact noClock.symm.trans_le atLeast
  | some setting =>
    cases earlier with
    | nil => exact absurd (List.cons.inj split).1 (Option.some_ne_none _).symm
    | cons head earlier =>
      obtain ⟨rfl, isMap⟩ := List.cons.inj split
      obtain ⟨before', after', isSettings, rfl, isAfter⟩ := List.map_eq_append_iff.mp isMap
      obtain ⟨setting', rest, rfl, same, -⟩ := List.map_eq_cons_iff.mp isAfter
      obtain rfl := Option.some.inj same
      refine Or.inr ⟨setting', ⟨fun other isOther => ?_, before', rest, isSettings,
        fun other isOther => ?_⟩, ?_, isValues⟩
      · exact least (some other) (List.mem_cons_of_mem _ (List.mem_map_of_mem isOther))
      · exact first (some other) (List.mem_cons_of_mem _ (List.mem_map_of_mem isOther))
      · exact (first none List.mem_cons_self).trans_eq noClock

/-- The ranges of the loops -/
def MipiRange (m k n : Nat) : Prop := (1 ≤ m ∧ m < 17) ∧ (2 ≤ k ∧ k < 5) ∧ 1 ≤ n ∧ n < 17

theorem mipiRange_of_mem {m k n : Nat} (member : (m, k, n) ∈ mipiSettings) : MipiRange m k n := by
  unfold mipiSettings at member
  simp only [List.mem_flatMap, List.mem_map, List.mem_range'_1, Prod.mk.injEq] at member
  obtain ⟨m', isM, k', isK, n', isN, rfl, rfl, rfl⟩ := member
  exact ⟨isM, isK, isN⟩

/-- The rate that the factors of a setting make -/
theorem toNat_calcRatePllMipi {parentRate : U32} (some : parentRate ≠ 0) (before : ClkFactorsValue)
    {m k n : Nat} (inRange : MipiRange m k n) :
    (calcRatePllMipi parentRate (mipiValues before (m, k, n))).toNat =
      parentRate.toNat * n * k / m := by
  obtain ⟨⟨oneLeM, mLt⟩, ⟨twoLeK, kLt⟩, oneLeN, nLt⟩ := inRange
  have factor : ∀ count, 1 ≤ count → count < 17 → (BitVec.ofNat 16 (count - 1)).toNat + 1 = count := by
    intro count atLeast atMost
    rw [BitVec.toNat_ofNat, Nat.mod_eq_of_lt (by omega), Nat.sub_add_cancel atLeast]
  have isWide : ∀ count, 1 ≤ count → count < 17 →
      ((BitVec.ofNat 16 (count - 1)).setWidth 64 + 1 : Ulong).toNat = count := by
    intro count atLeast atMost
    have isCount := factor count atLeast atMost
    rw [BitVec.toNat_add, BitVec.toNat_setWidth_of_le (by decide)]
    show (_ + 1) % 2 ^ 64 = _
    rw [isCount, Nat.mod_eq_of_lt (by omega)]
  have isM : ((BitVec.ofNat 16 (m - 1)).setWidth 32 + 1 : U32).toNat = m := by
    have isCount := factor m oneLeM mLt
    rw [BitVec.toNat_add, BitVec.toNat_setWidth_of_le (by decide)]
    show (_ + 1) % 2 ^ 32 = _
    rw [isCount, Nat.mod_eq_of_lt (by omega)]
  have isRate : (parentRate.setWidth 64 : Ulong).toNat = parentRate.toNat :=
    BitVec.toNat_setWidth_of_le (by decide)
  have inside := parentRate.isLt
  have first : parentRate.toNat * n ≤ 2 ^ 32 * 16 :=
    Nat.mul_le_mul inside.le (Nat.le_of_lt_succ nLt)
  have second : parentRate.toNat * n * k ≤ 2 ^ 32 * 16 * 4 :=
    Nat.mul_le_mul first (Nat.le_of_lt_succ kLt)
  unfold calcRatePllMipi
  dsimp only [mipiValues]
  rw [if_pos some, toNat_clkDoDiv _ (isM.symm ▸ oneLeM), isM, BitVec.toNat_mul, BitVec.toNat_mul,
    isRate, isWide n oneLeN nLt, isWide k (by omega) (by omega),
    Nat.mod_eq_of_lt (by omega : parentRate.toNat * n < 2 ^ 64), Nat.mod_eq_of_lt (by omega)]

/-- The factors of the best of some settings, and the rate that is made of them -/
theorem mipi_of_settings {settings : List (Nat × Nat × Nat)}
    (inRange : ∀ m k n, (m, k, n) ∈ settings → MipiRange m k n) (parentRate : U32)
    (wantRate : Nat) (before : ClkFactorsValue) :
    let delta := fun setting => rateDelta (mipiRate parentRate setting) wantRate
    let found := ((0 : Int), (settings.foldl (tryMipi parentRate wantRate) (0, before)).2)
    found.1 = 0 ∧
      ((found.2 = before ∧ ∀ setting ∈ settings, wantRate ≤ delta setting) ∨
        ∃ m k n, FirstLeast delta settings (m, k, n) ∧ delta (m, k, n) < wantRate ∧
          found.2 = mipiValues before (m, k, n) ∧
          (parentRate ≠ 0 →
            (calcRatePllMipi parentRate found.2).toNat = parentRate.toNat * n * k / m)) := by
  intro delta found
  refine ⟨rfl, ?_⟩
  rcases foldl_tryMipi_least parentRate wantRate before settings with
    unset | ⟨⟨m, k, n⟩, least, nearer, isFound⟩
  · exact Or.inl unset
  · refine Or.inr ⟨m, k, n, least, nearer, isFound, fun some => ?_⟩
    have isValues : found.2 = mipiValues before (m, k, n) := isFound
    rw [isValues]
    exact toNat_calcRatePllMipi some before (inRange m k n least.mem)

/-- The factors that are found are those of the nearest setting, and of the first one of several;
the rate is made of them. Where even the nearest setting is no nearer than no clock at all, no
factor is set, although success is returned. -/
theorem getFactorsPllMipi_nearest (before : ClkFactorsValue) (rate parentRate : U32) :
    let delta := fun setting => rateDelta (mipiRate parentRate setting) (mipiWant rate)
    let found := getFactorsPllMipi before rate parentRate
    found.1 = 0 ∧
      ((found.2 = before ∧ ∀ setting ∈ mipiSettings, mipiWant rate ≤ delta setting) ∨
        ∃ m k n, FirstLeast delta mipiSettings (m, k, n) ∧ delta (m, k, n) < mipiWant rate ∧
          found.2 = mipiValues before (m, k, n) ∧
          (parentRate ≠ 0 →
            (calcRatePllMipi parentRate found.2).toNat = parentRate.toNat * n * k / m)) := by
  unfold getFactorsPllMipi
  exact mipi_of_settings (fun _ _ _ => mipiRange_of_mem) parentRate (mipiWant rate) before

end Mipi

end PinePhonePkg
