/-
This file states what the clock of the card is to be after it was configured: the one
asked for or one below it, by a divider that was chosen for it. It is so exactly if
the source lies in the window of a divider that the register can express: at most
half the rate below that multiple of the rate, and hardly above it.
-/

import PinePhonePkg.Host.ClockDivider
import PinePhonePkg.Host.KeptSettings

namespace PinePhonePkg

open Library

/-! ### What is asked of the clock -/

def fMin : Nat := 400000

/-- The highest frequency of a controller -/
def fMax (sdcNo : Nat) : Nat :=
  if sdcNo = 0 then 50000000 else if sdcNo = 1 ∨ sdcNo = 2 then 200000000 else 0

/-- The periods of the module clock in one of the card: 4 for DDR on a bus of 8 bits -/
def HostCard.mclksPerClock (mmc : HostCard) : Nat :=
  if mmc.speedMode = hsddr52Ddr50 ∧ mmc.busWidth = 8 then 4 else 2

/-- No product leaves its 32 bits, or those of an `int`, and no divisor is zero. -/
structure ArithmeticFits (host left : SunxiMmcHost) (clk pll : U32) (src n m : Nat) : Prop where
  asked : clk.toNat * (if host.mmc.quarter host.timingMode then 4 else 2) < 2 ^ 32
  factors : src = 1 →
    24 * factorN pll * factorK pll < 2 ^ 31 ∧ pllPeriph0Mhz pll * 2 * 1000000 < 2 ^ 31
  source : 2 * sourceHz pll src < 2 ^ 32
  modClk : 2 * left.modClk.toNat < 2 ^ 32
  divisors : 2 * left.modClk ≠ 0 ∧ (1 : U32) <<< n ≠ 0 ∧ BitVec.ofNat 32 m + 1 ≠ 0

/-- The divider fits its fields and was chosen for this clock, whatever module clock was kept; the
clock that is reported is that behind the divider and does not exceed the one asked for; nothing
overflows on the way; and asking for the clock that is reported leaves the same divider. -/
structure ClockSet (smhc : Smhc) (host : SunxiMmcHost) (clk : U32) (world : HostWorld) : Prop where
  own : ∀ kept,
    (clockConfigured smhc { host with modClk := kept } clk world).2.registers .mclkbase =
      (clockConfigured smhc host clk world).2.registers .mclkbase
  notAbove : (clockConfigured smhc host clk world).1.mmc.clock ≤ clk
  divided :
    let left := (clockConfigured smhc host clk world).1
    let reached := (clockConfigured smhc host clk world).2
    let pll := world.registers .pllPeriph0
    ∃ src n m, MclkHolds (reached.registers .mclkbase) src n m ∧
      left.mmc.clock.toNat = sourceHz pll src / 2 ^ n / (m + 1) / host.mmc.mclksPerClock ∧
      ArithmeticFits host left clk pll src n m ∧
      ∃ src', MclkHolds
        ((clockConfigured smhc left left.mmc.clock reached).2.registers .mclkbase) src' n m

/-- The source is at most half the rate below a multiple of the rate, and above it by less than the
report cuts off. A faster source than the oscillator is not divided to exactly the rate up to which
the oscillator is taken. -/
def InWindow (source rate unit divider : Nat) : Prop :=
  (divider = 1 ∨ divider * (2 * rate) ≤ 2 * source + rate) ∧
    source < divider * (rate + unit) ∧
    (4000000 < rate → source = 24000000 ∨ source ≠ 4000000 * divider)

/-- When the clock is set as asked -/
structure ClockSuits (host : SunxiMmcHost) (clk pll : U32) : Prop where
  mode : host.timingMode ≠ sunxiMmcTimingMode3
  width : host.timingMode = sunxiMmcTimingMode1 → host.mmc.speedMode = hsddr52Ddr50 →
    host.mmc.busWidth = 8
  window :
    let rate := host.mmc.mclksPerClock * clk.toNat
    let source := sourceHz pll (sourceFor rate)
    2 * source + rate < 2 ^ 32 ∧
      ∃ divider, Encodable divider ∧ InWindow source rate host.mmc.mclksPerClock divider

/-! ### Dividers for a rate -/

section Rates

variable {source rate unit divider : Nat}

/-- The divider of a window is chosen. -/
theorem mclkChosen_of_window (positive : 0 < rate) (inside : 2 * source + rate < 2 ^ 32)
    (encodable : 0 < divider) (reaches : divider = 1 ∨ divider * (2 * rate) ≤ 2 * source + rate)
    (under : source < divider * (rate + unit)) (small : 2 * (divider * unit) ≤ rate) :
    mclkChosen source rate = divider := by
  have atMost := nearest_le positive under small
  rw [mclkChosen_eq inside]
  rcases reaches with rfl | reaches
  · by_cases none : nearest source rate = 0
    · rw [if_pos none]
    · rw [if_neg none]
      exact Nat.le_antisymm atMost (Nat.pos_of_ne_zero none)
  · rw [nearest_eq positive reaches under small, if_neg encodable.ne']

/-- A divider that leaves no more than the rate is chosen from its window. -/
theorem window_of_mclkChosen (positive : 0 < rate) (least : 24000000 ≤ source)
    (inside : 2 * source < 2 ^ 32) (most : rate ≤ 800000000) (units : unit ≤ 4)
    (small : 2 * (128 * unit) ≤ rate)
    (under : source < effective (mclkChosen source rate) * (rate + unit)) :
    2 * source + rate < 2 ^ 32 ∧ Encodable (mclkChosen source rate) ∧
      (mclkChosen source rate = 1 ∨
        mclkChosen source rate * (2 * rate) ≤ 2 * source + rate) ∧
      source < mclkChosen source rate * (rate + unit) := by
  have whole : 2 * source + rate < 2 ^ 32 := by
    by_contra wraps
    have one : mclkChosen source rate = 1 := by
      have low : (2 * source + rate) % 2 ^ 32 < 2 * rate := by omega
      unfold mclkChosen
      rw [Nat.div_eq_of_lt low]
      rfl
    rw [one, show effective 1 = 1 from rfl] at under
    omega
  have atMost := nearest_le positive under
    ((Nat.mul_le_mul_left 2 (Nat.mul_le_mul_right unit (effective_le_max _))).trans small)
  have isChosen := mclkChosen_eq whole
  refine ⟨whole, ?_⟩
  by_cases none : nearest source rate = 0
  · rw [if_pos none] at isChosen
    rw [isChosen] at under ⊢
    exact ⟨by decide, .inl rfl, under⟩
  · rw [if_neg none] at isChosen
    rw [isChosen] at under atMost ⊢
    have notLarge : nearest source rate ≤ 128 := atMost.trans (effective_le_max _)
    have encodable := encodable_of_le (Nat.pos_of_ne_zero none) notLarge atMost
    rw [encodable.effective_eq] at under
    exact ⟨encodable, .inr ((le_nearest_iff positive).mp le_rfl), under⟩

/-- Asking for what is reported chooses the same divider from the same source. -/
theorem mclkChosen_report (least : 24000000 ≤ source) (encodable : Encodable divider)
    (unitPositive : 0 < unit) (units : unit ≤ 4)
    (inside : 2 * source + unit * (source / divider / unit) < 2 ^ 32) :
    mclkChosen source (unit * (source / divider / unit)) = divider := by
  have fine : (2 * divider + 1) * (divider * unit) ≤ source := by
    have small := encodable.2.1
    calc (2 * divider + 1) * (divider * unit) ≤ (2 * 128 + 1) * (128 * 4) :=
          Nat.mul_le_mul (by omega) (Nat.mul_le_mul small units)
      _ ≤ source := by omega
  rw [mclkChosen_eq inside, nearest_report encodable.1 unitPositive fine,
    if_neg encodable.1.ne']

/-- The rate behind a divider falls to that for which the oscillator is taken only where it is
exactly that. -/
theorem source_eq_of_slow {factor count : Nat} (factors : 1 ≤ factor ∧ factor ≤ 128)
    (isSource : source = 24000000 * factor) (fast : 4000000 < rate)
    (reaches : divider = 1 ∨ divider * (2 * rate) ≤ 2 * source + rate)
    (isRate : unit * count = 4000000) (units : unit ≤ 4) (unitPositive : 0 < unit)
    (positive : 0 < divider) (slow : unit * (source / divider / unit) ≤ 4000000) :
    source = 4000000 * divider := by
  have counts : source / divider / unit ≤ count := by
    rw [← isRate] at slow
    exact Nat.le_of_mul_le_mul_left slow unitPositive
  have above : source < 4000000 * divider + 4 * divider := by
    rw [report_le_iff positive unitPositive, isRate] at counts
    have most : divider * unit ≤ divider * 4 := Nat.mul_le_mul_left divider units
    rw [Nat.mul_add] at counts
    omega
  have atMost : divider ≤ 6 * factor := by
    rcases reaches with rfl | reaches
    · omega
    · obtain ⟨more, rfl⟩ := Nat.exists_eq_add_of_lt fast
      have step : more + 1 ≤ divider * (more + 1) := Nat.le_mul_of_pos_left _ positive
      have spread : divider * (2 * (4000000 + more + 1)) =
          8000000 * divider + 2 * (divider * (more + 1)) := by ring
      omega
  omega

end Rates

/-! ### What is left -/

section Left

variable (smhc : Smhc) (world : HostWorld) {host : SunxiMmcHost} {clk : U32}

/-- The periods of the module clock in one of the card, as the timing mode has them -/
def SunxiMmcHost.unit (host : SunxiMmcHost) : Nat :=
  if host.mmc.quarter host.timingMode then 4 else 2

theorem SunxiMmcHost.unit_cases (host : SunxiMmcHost) : host.unit = 4 ∨ host.unit = 2 := by
  unfold SunxiMmcHost.unit
  split
  · exact .inl rfl
  · exact .inr rfl

theorem SunxiMmcHost.unit_bounds (host : SunxiMmcHost) : 0 < host.unit ∧ host.unit ≤ 4 := by
  rcases host.unit_cases with four | two
  · rw [four]
    decide
  · rw [two]
    decide

theorem mul_div_unit (host : SunxiMmcHost) : host.unit * (4000000 / host.unit) = 4000000 := by
  rcases host.unit_cases with four | two
  · rw [four]
  · rw [two]

theorem toNat_askedMclk (timed : HasTimingMode host)
    (notThird : host.timingMode ≠ sunxiMmcTimingMode3) (inside : host.unit * clk.toNat < 2 ^ 32) :
    (host.askedMclk clk).toNat = host.unit * clk.toNat := by
  have sets : host.timingMode = sunxiMmcTimingMode1 ∨ host.timingMode = sunxiMmcTimingMode4 :=
    timed.imp_right fun others => others.resolve_left notThird
  unfold SunxiMmcHost.askedMclk
  unfold SunxiMmcHost.unit at inside ⊢
  rw [if_pos sets]
  rw [Nat.mul_comm] at inside ⊢
  by_cases quarter : host.mmc.quarter host.timingMode
  · rw [if_pos quarter] at inside ⊢
    rw [if_pos quarter]
    exact BitVec.toNat_mul_of_lt inside
  · rw [if_neg quarter] at inside ⊢
    rw [if_neg quarter]
    exact BitVec.toNat_mul_of_lt inside

/-- In the timing modes that set the module clock, the divider of the rate is left. -/
theorem clockConfigured_left (timed : HasTimingMode host)
    (notThird : host.timingMode ≠ sunxiMmcTimingMode3)
    (inside : 2 * (host.unit * clk.toNat) < 2 ^ 32) :
    let left := (clockConfigured smhc host clk world).1
    let reached := (clockConfigured smhc host clk world).2
    let rate := host.unit * clk.toNat
    let source := sourceHz (world.registers .pllPeriph0) (sourceFor rate)
    let div := mclkChosen source rate
    MclkHolds (reached.registers .mclkbase) (sourceFor rate) (mclkExponent div)
        (mclkFactor div - 1) ∧
      reached.registers .pllPeriph0 = world.registers .pllPeriph0 ∧
      left.mmc.clock.toNat = source / effective div / host.unit ∧ left.modClk.toNat = rate ∧
      left.timingMode = host.timingMode ∧ left.unit = host.unit := by
  intro left reached rate source div
  have isAsked : (host.askedMclk clk).toNat = rate := toNat_askedMclk timed notThird (by omega)
  obtain ⟨clocks, clocking⟩ := clockConfigured_spec smhc world timed clk
  obtain ⟨holds, read⟩ := mclkWritten_spec (world.registers .pllPeriph0) (host.askedMclk clk)
    (by rw [isAsked]; exact inside)
  rw [isAsked] at holds read
  have isRegister : reached.registers .mclkbase =
      mclkWritten (world.registers .pllPeriph0) (host.askedMclk clk) ||| bit 31 :=
    congrArg Prod.fst clocks
  have isPll : reached.registers .pllPeriph0 = world.registers .pllPeriph0 :=
    congrArg Prod.snd clocks
  obtain ⟨-, others⟩ := Prod.mk.inj clocking
  obtain ⟨isMode, others⟩ := Prod.mk.inj others
  obtain ⟨isModClk, isMmc⟩ := Prod.mk.inj others
  have isClock : left.mmc.clock.toNat = source / effective div / host.unit := by
    rw [isMmc]
    unfold SunxiMmcHost.clocked SunxiMmcHost.unit
    by_cases quarter : host.mmc.quarter host.timingMode
    · rw [if_pos quarter, if_pos quarter]
      exact congrArg (· / 4) read
    · rw [if_neg quarter, if_neg quarter]
      exact congrArg (· / 2) read
  have isUnit : left.unit = host.unit := by
    unfold SunxiMmcHost.unit HostCard.quarter
    rw [isMode, isMmc]
    rfl
  exact ⟨isRegister ▸ holds, isPll, isClock, (congrArg BitVec.toNat isModClk).trans isAsked, isMode,
    isUnit⟩

/-- The same for the clock that is reported -/
theorem clockConfigured_again (timed : HasTimingMode host)
    (notThird : host.timingMode ≠ sunxiMmcTimingMode3)
    (inside : 2 * (host.unit * clk.toNat) < 2 ^ 32) :
    let left := (clockConfigured smhc host clk world).1
    let reached := (clockConfigured smhc host clk world).2
    let rate := host.unit * left.mmc.clock.toNat
    let div := mclkChosen (sourceHz (world.registers .pllPeriph0) (sourceFor rate)) rate
    left.mmc.clock ≤ clk →
      MclkHolds ((clockConfigured smhc left left.mmc.clock reached).2.registers .mclkbase)
        (sourceFor rate) (mclkExponent div) (mclkFactor div - 1) := by
  intro left reached rate div notAbove
  obtain ⟨-, isPll, -, -, isMode, isUnit⟩ :=
    clockConfigured_left smhc world timed notThird inside
  have timedLeft : HasTimingMode left := by
    unfold HasTimingMode
    rw [isMode]
    exact timed
  have notThirdLeft : left.timingMode ≠ sunxiMmcTimingMode3 := isMode ▸ notThird
  have insideLeft : 2 * (left.unit * left.mmc.clock.toNat) < 2 ^ 32 := by
    rw [isUnit]
    exact Nat.lt_of_le_of_lt (Nat.mul_le_mul_left 2 (Nat.mul_le_mul_left host.unit notAbove)) inside
  have again := (clockConfigured_left smhc reached timedLeft notThirdLeft insideLeft).1
  rw [isUnit, isPll] at again
  exact again

/-- In the other timing modes the module clock that was kept is not looked at. -/
theorem clockConfigured_kept (timed : HasTimingMode host)
    (notThird : host.timingMode ≠ sunxiMmcTimingMode3) (kept : U32) :
    (clockConfigured smhc { host with modClk := kept } clk world).2.registers .mclkbase =
      (clockConfigured smhc host clk world).2.registers .mclkbase := by
  have sets : host.timingMode = sunxiMmcTimingMode1 ∨ host.timingMode = sunxiMmcTimingMode4 :=
    timed.imp_right fun others => others.resolve_left notThird
  have asked : SunxiMmcHost.askedMclk { host with modClk := kept } clk = host.askedMclk clk := by
    unfold SunxiMmcHost.askedMclk
    exact (if_pos sets).trans (if_pos sets).symm
  have timedKept : HasTimingMode { host with modClk := kept } := timed
  have clocks := (clockConfigured_spec smhc world timedKept clk).1
  rw [asked] at clocks
  exact congrArg Prod.fst (clocks.trans (clockConfigured_spec smhc world timed clk).1.symm)

/-- In timing mode 3 the module clock that was kept decides. -/
theorem clockConfigured_third (third : host.timingMode = sunxiMmcTimingMode3) (kept : U32) :
    (clockConfigured smhc { host with modClk := kept } clk world).2.registers .mclkbase =
      mclkWritten (world.registers .pllPeriph0) kept ||| bit 31 := by
  have timed : HasTimingMode { host with modClk := kept } := .inr (.inl third)
  have asked : SunxiMmcHost.askedMclk { host with modClk := kept } clk = kept := by
    unfold SunxiMmcHost.askedMclk
    refine if_neg ?_
    show ¬(host.timingMode = _ ∨ host.timingMode = _)
    rw [third]
    decide
  have clocks := (clockConfigured_spec smhc world timed clk).1
  rw [asked] at clocks
  exact congrArg Prod.fst clocks

theorem not_clockSet_third (third : host.timingMode = sunxiMmcTimingMode3) :
    ¬ClockSet smhc host clk world := by
  intro set
  have same : mclkWritten (world.registers .pllPeriph0) 4000000 ||| bit 31 =
      mclkWritten (world.registers .pllPeriph0) 2000000 ||| bit 31 :=
    (clockConfigured_third smhc world third 4000000).symm.trans <|
      ((set.own 4000000).trans (set.own 2000000).symm).trans
        (clockConfigured_third smhc world third 2000000)
  have slow : ∀ clkHz : U32, clkHz ≤ 4000000 → ∀ pll,
      mclkWritten pll clkHz = mclkValue 0 (mclkDivider (mclkDiv 24000000 clkHz)) := by
    intro clkHz small pll
    unfold mclkWritten mclkSource
    rw [if_pos small]
  rw [slow 4000000 (by decide), slow 2000000 (by decide)] at same
  exact absurd same (by decide)

/-- The factor of the timing mode is that of the bus, but for DDR on a narrower bus in timing
mode 1. -/
theorem unit_eq_iff (timed : HasTimingMode host) (notThird : host.timingMode ≠ sunxiMmcTimingMode3) :
    host.unit = host.mmc.mclksPerClock ↔
      (host.timingMode = sunxiMmcTimingMode1 → host.mmc.speedMode = hsddr52Ddr50 →
        host.mmc.busWidth = 8) := by
  unfold SunxiMmcHost.unit HostCard.quarter HostCard.mclksPerClock
  rcases timed with first | third | fourth
  · by_cases ddr : host.mmc.speedMode = hsddr52Ddr50 <;>
      by_cases wide : host.mmc.busWidth = 8 <;> simp [first, ddr, wide]
  · exact absurd third notThird
  · by_cases ddr : host.mmc.speedMode = hsddr52Ddr50 <;>
      by_cases wide : host.mmc.busWidth = 8 <;>
        simp [fourth, ddr, wide, sunxiMmcTimingMode4, sunxiMmcTimingMode3, sunxiMmcTimingMode1]

end Left

/-! ### When the clock is set as asked -/

section Exact

variable (smhc : Smhc) (world : HostWorld) {host : SunxiMmcHost} {clk : U32}

theorem fMax_le (sdcNo : Nat) : fMax sdcNo ≤ 200000000 := by
  unfold fMax
  split_ifs <;> decide

/-- The arithmetic fits where the source does. -/
theorem arithmeticFits {left : SunxiMmcHost} {pll : U32} {rate n m : Nat}
    (isRate : rate = host.unit * clk.toNat) (isModClk : left.modClk.toNat = rate)
    (positive : 0 < rate) (most : rate ≤ 800000000) (nIn : n < 4) (mIn : m < 16)
    (inside : 2 * sourceHz pll (sourceFor rate) < 2 ^ 32) :
    ArithmeticFits host left clk pll (sourceFor rate) n m where
  asked := by
    rw [Nat.mul_comm]
    show host.unit * clk.toNat < _
    omega
  factors isPll := by
    rw [isPll, sourceHz_pll] at inside
    rw [pllPeriph0Mhz_eq, Nat.mul_assoc]
    omega
  source := inside
  modClk := by omega
  divisors := by
    refine ⟨fun isZero => ?_, ?_, ?_⟩
    · have twice : (2 * left.modClk).toNat = 2 * left.modClk.toNat :=
        BitVec.toNat_mul_of_lt (by show 2 * _ < _; omega)
      rw [isZero] at twice
      have none : (0 : U32).toNat = 0 := rfl
      omega
    · interval_cases n <;> decide
    · interval_cases m <;> decide

/-- The limits of a clock, for the module clock -/
theorem rate_bounds (above : fMin ≤ clk.toNat) (below : clk.toNat ≤ fMax host.mmcNo) :
    2 * (128 * host.unit) ≤ host.unit * clk.toNat ∧ 800000 ≤ host.unit * clk.toNat ∧
      host.unit * clk.toNat ≤ 800000000 := by
  have least : 400000 ≤ clk.toNat := above
  have most : clk.toNat ≤ 200000000 := below.trans (fMax_le _)
  rcases host.unit_cases with isUnit | isUnit <;> rw [isUnit] <;> omega

/-- A reported clock says by what it was divided. -/
theorem unit_eq_of_report {source divider unit other : Nat} (least : 24000000 ≤ source)
    (small : divider ≤ 128) (positive : 0 < divider) (isUnit : unit = 4 ∨ unit = 2)
    (isOther : other = 4 ∨ other = 2)
    (same : source / divider / unit = source / divider / other) : unit = other := by
  have rest : 4 ≤ source / divider := by
    rw [Nat.le_div_iff_mul_le positive]
    omega
  rcases isUnit with rfl | rfl <;> rcases isOther with rfl | rfl <;> omega

theorem mclksPerClock_cases (mmc : HostCard) : mmc.mclksPerClock = 4 ∨ mmc.mclksPerClock = 2 := by
  unfold HostCard.mclksPerClock
  split
  · exact .inl rfl
  · exact .inr rfl

theorem suits_of_set (timed : HasTimingMode host) (above : fMin ≤ clk.toNat)
    (below : clk.toNat ≤ fMax host.mmcNo) (set : ClockSet smhc host clk world) :
    ClockSuits host clk (world.registers .pllPeriph0) := by
  have notThird : host.timingMode ≠ sunxiMmcTimingMode3 := fun third =>
    not_clockSet_third smhc world third set
  obtain ⟨small, least, most⟩ := rate_bounds above below
  have inside : 2 * (host.unit * clk.toNat) < 2 ^ 32 := by omega
  obtain ⟨holds, isPll, report, -⟩ := clockConfigured_left smhc world timed notThird inside
  have holdsAgain := clockConfigured_again smhc world timed notThird inside set.notAbove
  obtain ⟨src, n, m, fields, isClock, fits, src', again⟩ := set.divided
  generalize world.registers .pllPeriph0 = pll at holds report holdsAgain isClock fits ⊢
  obtain ⟨rfl, rfl, rfl⟩ := fields.unique holds
  obtain ⟨-, isN, isM⟩ := again.unique holdsAgain
  obtain ⟨rate, isRate⟩ : ∃ rate, rate = host.unit * clk.toNat := ⟨_, rfl⟩
  rw [← isRate] at small least most report isClock fits isN isM
  obtain ⟨source, isSource⟩ : ∃ source, source = sourceHz pll (sourceFor rate) := ⟨_, rfl⟩
  have bounds := sourceHz_bounds pll (sourceFor rate)
  have fitsSource := fits.source
  rw [← isSource] at bounds fitsSource report isClock isN isM
  obtain ⟨div, isDiv⟩ : ∃ div, div = mclkChosen source rate := ⟨_, rfl⟩
  have positive : 0 < div := isDiv ▸ mclkChosen_pos source rate
  rw [← isDiv] at report isClock isN isM
  -- the clock that is reported says that the bus has the factor of the timing mode
  have isUnit : host.unit = host.mmc.mclksPerClock := by
    rw [Nat.sub_add_cancel (mclkFactor_bounds positive).1, Nat.div_div_eq_div_mul source] at isClock
    exact unit_eq_of_report bounds.1 (effective_le_max div) (effective_pos positive)
      host.unit_cases (mclksPerClock_cases _) (report.symm.trans isClock)
  have unitPositive := host.unit_bounds
  have under : source < effective div * (rate + host.unit) := by
    have notAbove : source / effective div / host.unit ≤ clk.toNat := report ▸ set.notAbove
    rw [report_le_iff (effective_pos positive) unitPositive.1, ← isRate] at notAbove
    exact notAbove
  rw [isDiv] at under
  obtain ⟨whole, encodable, reaches, below⟩ := window_of_mclkChosen (by omega) bounds.1 fitsSource
    most unitPositive.2 small under
  rw [← isDiv] at encodable reaches below
  refine ⟨notThird, (unit_eq_iff timed notThird).mp isUnit, ?_⟩
  rw [← isUnit]
  dsimp only
  rw [← isRate, ← isSource]
  refine ⟨whole, div, encodable, reaches, below, fun _ => ?_⟩
  by_contra neither
  obtain ⟨notOscillator, exactly⟩ := not_or.mp neither
  rw [not_not] at exactly
  -- the clock that is reported asks the oscillator for a divider of six
  have slow : host.unit * (clockConfigured smhc host clk world).1.mmc.clock.toNat = 4000000 := by
    rw [report, encodable.effective_eq, exactly, Nat.mul_div_cancel _ positive]
    exact mul_div_unit host
  have oscillator : sourceHz pll (sourceFor 4000000) = 24000000 := rfl
  have six : mclkChosen 24000000 4000000 = 6 := rfl
  rw [slow, oscillator, six] at isN isM
  have isFactor : mclkFactor div = mclkFactor 6 := by
    have bound := (mclkFactor_bounds positive).1
    have isSix : mclkFactor 6 = 6 := rfl
    omega
  have isSix : div = 6 := by
    rw [← encodable.effective_eq]
    unfold effective
    rw [isN, isFactor]
    rfl
  exact notOscillator (exactly.trans (congrArg (4000000 * ·) isSix))

theorem set_of_suits (timed : HasTimingMode host) (above : fMin ≤ clk.toNat)
    (below : clk.toNat ≤ fMax host.mmcNo)
    (suits : ClockSuits host clk (world.registers .pllPeriph0)) :
    ClockSet smhc host clk world := by
  obtain ⟨small, least, most⟩ := rate_bounds above below
  have inside : 2 * (host.unit * clk.toNat) < 2 ^ 32 := by omega
  obtain ⟨holds, isPll, report, isModClk, -, -⟩ :=
    clockConfigured_left smhc world timed suits.mode inside
  have holdsAgain := clockConfigured_again smhc world timed suits.mode inside
  have isUnit := (unit_eq_iff timed suits.mode).mpr suits.width
  obtain ⟨whole, divider, encodable, reaches, under, switches⟩ := suits.window
  rw [← isUnit] at whole reaches under switches
  generalize atPll : world.registers .pllPeriph0 = pll
    at holds report holdsAgain whole reaches under switches
  obtain ⟨rate, isRate⟩ : ∃ rate, rate = host.unit * clk.toNat := ⟨_, rfl⟩
  rw [← isRate] at small least most isModClk report holds whole reaches under switches
  obtain ⟨source, isSource⟩ : ∃ source, source = sourceHz pll (sourceFor rate) := ⟨_, rfl⟩
  have bounds := sourceHz_bounds pll (sourceFor rate)
  rw [← isSource] at bounds report holds whole reaches under switches
  have unitPositive := host.unit_bounds
  have chosen : mclkChosen source rate = divider :=
    mclkChosen_of_window (by omega) whole encodable.1 reaches under
      ((Nat.mul_le_mul_left 2 (Nat.mul_le_mul_right _ encodable.2.1)).trans small)
  rw [chosen] at holds report
  rw [encodable.effective_eq] at report
  have notAbove : source / divider / host.unit ≤ clk.toNat := by
    rw [report_le_iff encodable.1 unitPositive.1, ← isRate]
    exact under
  have again : host.unit * (source / divider / host.unit) ≤ rate := by
    rw [isRate]
    exact Nat.mul_le_mul_left _ notAbove
  have sameSource :
      sourceHz pll (sourceFor (host.unit * (source / divider / host.unit))) = source := by
    by_cases slow : host.unit * (source / divider / host.unit) ≤ 4000000
    · have oscillator : sourceFor (host.unit * (source / divider / host.unit)) = 0 := if_pos slow
      rw [oscillator]
      by_cases slowRate : rate ≤ 4000000
      · rw [isSource, show sourceFor rate = 0 from if_pos slowRate]
      · -- the source of the PLL has the rate of the oscillator
        have fast : 4000000 < rate := Nat.not_le.mp slowRate
        have isPll : source = 24000000 * (factorN pll * factorK pll) := by
          rw [isSource, show sourceFor rate = 1 from if_neg slowRate, sourceHz_pll]
        have exactly := source_eq_of_slow (factors_bounds pll) isPll fast reaches
          (mul_div_unit host) unitPositive.2 unitPositive.1 encodable.1 slow
        exact ((switches fast).resolve_right fun other => other exactly).symm
    · have fastAgain : sourceFor (host.unit * (source / divider / host.unit)) = 1 := if_neg slow
      rw [fastAgain, isSource, show sourceFor rate = 1 from if_neg (by omega)]
  have sameDivider := mclkChosen_report bounds.1 encodable unitPositive.1 unitPositive.2
    (Nat.lt_of_le_of_lt (Nat.add_le_add_left again _) whole)
  have reported : (clockConfigured smhc host clk world).1.mmc.clock ≤ clk := by
    show (clockConfigured smhc host clk world).1.mmc.clock.toNat ≤ clk.toNat
    rw [report]
    exact notAbove
  have holdsSame := holdsAgain reported
  rw [report, sameSource, sameDivider] at holdsSame
  refine ⟨clockConfigured_kept smhc world timed suits.mode, reported, _, _, _, holds, ?_, ?_, _,
    holdsSame⟩
  · have divided : source / 2 ^ mclkExponent divider / mclkFactor divider = source / divider := by
      rw [Nat.div_div_eq_div_mul]
      exact congrArg (source / ·) encodable.effective_eq
    rw [report, ← isUnit, atPll, ← isSource, Nat.sub_add_cancel (mclkFactor_bounds encodable.1).1,
      divided]
  · have factor := mclkFactor_bounds encodable.1
    refine arithmeticFits isRate isModClk (by omega) most (mclkExponent_lt _) (by omega) ?_
    rw [atPll, ← isSource]
    omega

/-- For every timing mode, speed mode, width of the bus, clock within the limits and rate of the
PLL -/
theorem clockSet_iff (smhc : Smhc) (host : SunxiMmcHost) (clk : U32) (world : HostWorld)
    (timed : HasTimingMode host) (above : fMin ≤ clk.toNat) (below : clk.toNat ≤ fMax host.mmcNo) :
    ClockSet smhc host clk world ↔ ClockSuits host clk (world.registers .pllPeriph0) :=
  ⟨suits_of_set smhc world timed above below, set_of_suits smhc world timed above below⟩

end Exact

/-- An eMMC at 50 MHz, in the mode of double data rate -/
theorem clockSet_iff_ddr : ClockSet promptSmhc emmcHost 50000000 poweredOn :=
  (clockSet_iff promptSmhc emmcHost 50000000 poweredOn (by decide) (by decide) (by decide)).mpr
    ⟨by decide, by decide, by decide, 6, by decide, .inr (by decide), by decide, fun _ =>
      .inr (by decide)⟩

/-- A clock of 2 MHz is asked for, and the card gets 300 MHz. -/
theorem not_clockSet_slow :
    ¬∀ (smhc : Smhc) (host : SunxiMmcHost) (clk : U32) (world : HostWorld),
      HasTimingMode host → fMin ≤ clk.toNat → clk.toNat ≤ fMax host.mmcNo →
        ClockSet smhc host clk world := by
  intro all
  have set := all promptSmhc emmcHost 2000000 poweredOn (by decide) (by decide) (by decide)
  have report : (clockConfigured promptSmhc emmcHost 2000000 poweredOn).1.mmc.clock.toNat =
      300000000 :=
    (clockConfigured_left promptSmhc poweredOn (by decide) (by decide) (by decide)).2.2.1
  have notAbove : (clockConfigured promptSmhc emmcHost 2000000 poweredOn).1.mmc.clock.toNat ≤
      2000000 := set.notAbove
  omega

end PinePhonePkg
