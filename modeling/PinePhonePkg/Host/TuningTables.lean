/-
This file models how the delays that were tuned are packed into words, which are
kept for the next start, and how they are read out of the words then; it proves
that each entry comes back and has bits of its own.
-/

import PinePhonePkg.Host.Setup
import PinePhonePkg.Library.Bits
import PinePhonePkg.Library.Lanes
import PinePhonePkg.Start.Identify

namespace PinePhonePkg

open Library

def maxSpdMdNum : Nat := 5

def sunxiMmcTimingMode2 : U32 := 2

/-- What of the host holds delays: the timing mode, the structures of two of the modes, and the
words of `cfg.platform_caps.sdly` -/
structure TuningHost : Type where
  timingMode : U32
  tm2 : TimingMode
  tm4 : TimingMode
  tm4SmxFx : Nat → U32

/-! ### Packing -/

/-- The delays of one speed mode; those of HS400 are the ones of the data strobe. -/
def TimingMode.delays (timing : TimingMode) (spdMd : Nat) : Nat → U8 :=
  if spdMd = hs400.toNat then timing.dsdly
  else fun freq => timing.sdly (spdMd * maxClkFreqNum + freq)

/-- The tables of the timing mode; the pointer stays `NULL` in the others. -/
def TuningHost.timing (host : TuningHost) : Option TimingMode :=
  if host.timingMode = sunxiMmcTimingMode2 then some host.tm2
  else if host.timingMode = sunxiMmcTimingMode4 then some host.tm4
  else none

/-- `val |= ((t & 0xFF) << (8*(freq-first)))` for four frequencies -/
def packWord (delays : Nat → U8) (first : Nat) : U32 :=
  (List.range' first 4).foldl
    (fun val freq => val ||| ((delays freq).setWidth 32 &&& 0xff) <<< (8 * (freq - first))) 0

/-- The two words of a speed mode -/
def packMode (timing : TimingMode) (words : Nat → U32) (spdMd : Nat) : Nat → U32 :=
  Function.update
    (Function.update words (spdMd * 2 + 0) (packWord (timing.delays spdMd) 0))
    (spdMd * 2 + 1) (packWord (timing.delays spdMd) 4)

/-- Packs the delays of the timing mode. -/
def sunxiPackTuningResult (host : TuningHost) : Option TuningHost := do
  let timing ← host.timing
  return { host with
    tm4SmxFx := (List.range maxSpdMdNum).foldl (packMode timing) host.tm4SmxFx }

/-! ### Reading -/

/-- Four entries of a table, out of a word -/
def unpackWord (val : U32) (base first : Nat) (table : Nat → U8) : Nat → U8 :=
  (List.range' first 4).foldl
    (fun table f =>
      Function.update table (base + f) ((val >>> ((f - first) * 8) &&& 0xff).setWidth 8))
    table

/-- The delays of a speed mode from its two words -/
def unpackMode (p : Nat → U32) (tm4 : TimingMode) (spdMd : Nat) : TimingMode :=
  let unpack (base : Nat) (table : Nat → U8) : Nat → U8 :=
    unpackWord (p (spdMd * 2 + 1)) base 4 (unpackWord (p (spdMd * 2 + 0)) base 0 table)
  if spdMd = hs400.toNat then { tm4 with dsdly := unpack 0 tm4.dsdly }
  else { tm4 with sdly := unpack (spdMd * maxClkFreqNum) tm4.sdly }

/-- `workMode` is what the head of the boot image says. -/
def mmcGetSdlyAutoSample (sdcNo : Int) (workMode : Int) (host : TuningHost) : Int × TuningHost :=
  if sdcNo ≠ 2 then (-1, host)
  else if workMode ≠ workModeBoot then (0, host)
  else (0, { host with tm4 := (List.range maxSpdMdNum).foldl (unpackMode host.tm4SmxFx) host.tm4 })

/-! ### Lanes -/

/-- The bits of an entry -/
def InLane (spdMd freq word place : Nat) : Prop :=
  word = spdMd * 2 + freq / 4 ∧ 8 * (freq % 4) ≤ place ∧ place < 8 * (freq % 4) + 8

theorem inLane_unique {spdMd freq spdMd' freq' word place : Nat} (entry : freq < maxClkFreqNum)
    (entry' : freq' < maxClkFreqNum) (inside : InLane spdMd freq word place)
    (inside' : InLane spdMd' freq' word place) : spdMd = spdMd' ∧ freq = freq' := by
  unfold maxClkFreqNum at entry entry'
  unfold InLane at inside inside'
  omega

theorem packWord_eq (delays : Nat → U8) (first : Nat) :
    packWord delays first = lanes delays first 32 4 := by
  have octet : ∀ delay : U8, delay.setWidth 32 &&& 0xff = delay.setWidth 32 := by
    intro delay
    refine BitVec.eq_of_toNat_eq ?_
    have byte : (0xff : U32).toNat = 2 ^ 8 - 1 := rfl
    rw [toNat_and_low _ byte, BitVec.toNat_setWidth]
    exact Nat.mod_eq_of_lt (by omega)
  unfold packWord lanes
  simp only [octet]

/-- The ten words, bit by bit -/
theorem packModes_apply (timing : TimingMode) (words : Nat → U32) (count word : Nat) :
    (List.range count).foldl (packMode timing) words word =
      if word < 2 * count then packWord (timing.delays (word / 2)) (4 * (word % 2))
      else words word := by
  induction count with
  | zero => rw [if_neg (by omega)]; rfl
  | succ count inductionHypothesis =>
    rw [List.range_succ, List.foldl_append, List.foldl_cons, List.foldl_nil, packMode]
    by_cases second : word = count * 2 + 1
    · have half : (count * 2 + 1) / 2 = count := by omega
      have odd : (count * 2 + 1) % 2 = 1 := by omega
      rw [second, Function.update_self, if_pos (by omega), half, odd]
    · rw [Function.update_of_ne second]
      by_cases first : word = count * 2 + 0
      · have half : (count * 2 + 0) / 2 = count := by omega
        have even : (count * 2 + 0) % 2 = 0 := by omega
        rw [first, Function.update_self, if_pos (by omega), half, even]
      · rw [Function.update_of_ne first, inductionHypothesis]
        by_cases before : word < 2 * count
        · rw [if_pos before, if_pos (by omega)]
        · rw [if_neg before, if_neg (by omega)]

theorem unpackWord_apply (val : U32) (base first : Nat) (table : Nat → U8) (index : Nat) :
    unpackWord val base first table index =
      if base + first ≤ index ∧ index < base + first + 4 then
        (val >>> (8 * (index - base - first))).setWidth 8
      else table index := by
  unfold unpackWord
  rw [foldl_update_apply (fun f => (val >>> ((f - first) * 8) &&& 0xff).setWidth 8) table base]
  rw [low_octet, Nat.mul_comm]

/-- Both words of a speed mode -/
theorem unpackWords_apply (p : Nat → U32) (spdMd base : Nat) (table : Nat → U8) (index : Nat) :
    unpackWord (p (spdMd * 2 + 1)) base 4 (unpackWord (p (spdMd * 2 + 0)) base 0 table) index =
      if base ≤ index ∧ index < base + maxClkFreqNum then
        (p (spdMd * 2 + (index - base) / 4) >>> (8 * ((index - base) % 4))).setWidth 8
      else table index := by
  unfold maxClkFreqNum
  rw [unpackWord_apply]
  by_cases high : base + 4 ≤ index ∧ index < base + 4 + 4
  · have lane : (index - base) % 4 = index - base - 4 := by omega
    have word : (index - base) / 4 = 1 := by omega
    rw [if_pos high, if_pos (by omega), lane, word]
  · rw [if_neg high, unpackWord_apply]
    by_cases low : base + 0 ≤ index ∧ index < base + 0 + 4
    · have lane : (index - base) % 4 = index - base - 0 := by omega
      have word : (index - base) / 4 = 0 := by omega
      rw [if_pos low, if_pos (by omega), lane, word]
    · rw [if_neg low, if_neg (by omega)]

/-- One speed mode is read, and the delays of the others are left alone. -/
theorem delays_unpackMode (p : Nat → U32) (tm4 : TimingMode) (spdMd other : Nat) {freq : Nat}
    (entry : freq < maxClkFreqNum) :
    (unpackMode p tm4 spdMd).delays other freq =
      if other = spdMd then (p (spdMd * 2 + freq / 4) >>> (8 * (freq % 4))).setWidth 8
      else tm4.delays other freq := by
  unfold TimingMode.delays
  by_cases strobe : spdMd = hs400.toNat
  · rw [unpackMode, if_pos strobe]
    by_cases same : other = spdMd
    · rw [if_pos (same.trans strobe), if_pos same]
      dsimp only
      rw [unpackWords_apply, if_pos (by omega), Nat.sub_zero]
    · have card : other ≠ hs400.toNat := fun equal => same (equal.trans strobe.symm)
      rw [if_neg card, if_neg same, if_neg card]
  · rw [unpackMode, if_neg strobe]
    by_cases same : other = spdMd
    · have card : other ≠ hs400.toNat := fun equal => strobe (same.symm.trans equal)
      rw [if_neg card, if_pos same, same]
      dsimp only
      rw [unpackWords_apply, if_pos (by omega), Nat.add_sub_cancel_left]
    · rw [if_neg same]
      by_cases card : other = hs400.toNat
      · rw [if_pos card, if_pos card]
      · rw [if_neg card, if_neg card]
        dsimp only
        rw [unpackWords_apply, if_neg (by unfold maxClkFreqNum at *; omega)]

theorem delays_unpackModes (p : Nat → U32) (tm4 : TimingMode) (count spdMd : Nat) {freq : Nat}
    (entry : freq < maxClkFreqNum) :
    ((List.range count).foldl (unpackMode p) tm4).delays spdMd freq =
      if spdMd < count then (p (spdMd * 2 + freq / 4) >>> (8 * (freq % 4))).setWidth 8
      else tm4.delays spdMd freq := by
  induction count with
  | zero => rw [if_neg (Nat.not_lt_zero _)]; rfl
  | succ count inductionHypothesis =>
    rw [List.range_succ, List.foldl_append, List.foldl_cons, List.foldl_nil,
      delays_unpackMode _ _ _ _ entry, inductionHypothesis]
    by_cases last : spdMd = count
    · rw [if_pos last, if_pos (by omega), last]
    · rw [if_neg last]
      by_cases before : spdMd < count
      · rw [if_pos before, if_pos (by omega)]
      · rw [if_neg before, if_neg (by omega)]

/-! ### Round trip -/

theorem sunxiPackTuningResult_eq_some_iff {host packed : TuningHost} :
    sunxiPackTuningResult host = some packed ↔
      ∃ timing, host.timing = some timing ∧
        packed = { host with
          tm4SmxFx := (List.range maxSpdMdNum).foldl (packMode timing) host.tm4SmxFx } := by
  constructor
  · intro result
    obtain ⟨timing, tables, result⟩ := Option.bind_eq_some_iff.mp result
    exact ⟨timing, tables, (Option.some.inj result).symm⟩
  · rintro ⟨timing, tables, rfl⟩
    exact Option.bind_eq_some_iff.mpr ⟨timing, tables, rfl⟩

/-- A packed word, bit by bit -/
theorem getLsbD_packed (timing : TimingMode) (words : Nat → U32) {spdMd freq word place : Nat}
    (mode : spdMd < maxSpdMdNum) (entry : freq < maxClkFreqNum)
    (inside : InLane spdMd freq word place) :
    ((List.range maxSpdMdNum).foldl (packMode timing) words word).getLsbD place =
      (timing.delays spdMd freq).getLsbD (place - 8 * (freq % 4)) := by
  unfold maxClkFreqNum at entry
  unfold InLane at inside
  have within : place < 32 := by omega
  have speed : word / 2 = spdMd := by omega
  have lane : 4 * (word % 2) + place / 8 = freq := by omega
  have rest : place % 8 = place - 8 * (freq % 4) := by omega
  have fourLanes : place / 8 < 4 := by omega
  rw [packModes_apply, if_pos (by omega), packWord_eq, getLsbD_lanes _ _ _ _ within, speed, lane,
    rest, decide_eq_true fourLanes, Bool.true_and]

/-- What is read out of the packed words -/
theorem unpacked_packed (timing : TimingMode) (words : Nat → U32) {spdMd freq : Nat}
    (mode : spdMd < maxSpdMdNum) (entry : freq < maxClkFreqNum) :
    ((List.range maxSpdMdNum).foldl (packMode timing) words (spdMd * 2 + freq / 4) >>>
        (8 * (freq % 4))).setWidth 8 = timing.delays spdMd freq := by
  unfold maxClkFreqNum at entry
  have speed : (spdMd * 2 + freq / 4) / 2 = spdMd := by omega
  have lane : 4 * ((spdMd * 2 + freq / 4) % 2) + freq % 4 = freq := by omega
  rw [packModes_apply, if_pos (by omega), packWord_eq, speed,
    lane_lanes _ _ (by omega) (by decide), lane]

/-- In the timing modes that have tables, each entry comes back for its speed mode and frequency
in a start from the card, in whatever host the words are, and it is in eight bits of the words that
are in the lane of no other entry. -/
theorem sdlyAutoSample_of_packed (host : TuningHost) :
    ((sunxiPackTuningResult host).isSome ↔
      host.timingMode = sunxiMmcTimingMode2 ∨ host.timingMode = sunxiMmcTimingMode4) ∧
    ∀ packed timing, host.timing = some timing → sunxiPackTuningResult host = some packed →
      (∀ restarted : TuningHost,
        (∀ word < 2 * maxSpdMdNum, restarted.tm4SmxFx word = packed.tm4SmxFx word) →
        ∀ spdMd < maxSpdMdNum, ∀ freq < maxClkFreqNum,
          (mmcGetSdlyAutoSample 2 workModeBoot restarted).2.tm4.delays spdMd freq =
            timing.delays spdMd freq) ∧
      (∀ spdMd < maxSpdMdNum, ∀ freq < maxClkFreqNum, ∀ word place,
        InLane spdMd freq word place →
          (packed.tm4SmxFx word).getLsbD place =
            (timing.delays spdMd freq).getLsbD (place - 8 * (freq % 4))) ∧
      ∀ spdMd < maxSpdMdNum, ∀ freq < maxClkFreqNum,
        ∀ spdMd' < maxSpdMdNum, ∀ freq' < maxClkFreqNum, ∀ word place,
          InLane spdMd freq word place → InLane spdMd' freq' word place →
            spdMd = spdMd' ∧ freq = freq' := by
  refine ⟨?_, ?_⟩
  · rw [Option.isSome_iff_exists]
    simp only [sunxiPackTuningResult_eq_some_iff]
    unfold TuningHost.timing
    by_cases mode2 : host.timingMode = sunxiMmcTimingMode2
    · simp [mode2]
    · by_cases mode4 : host.timingMode = sunxiMmcTimingMode4
      · rw [if_neg mode2, if_pos mode4]
        simp [mode4]
      · simp [mode2, mode4]
  · intro packed timing tables result
    obtain ⟨_, tables', rfl⟩ := sunxiPackTuningResult_eq_some_iff.mp result
    obtain rfl := Option.some.inj (tables.symm.trans tables')
    refine ⟨fun restarted kept spdMd mode freq entry => ?_,
      fun spdMd mode freq entry word place inside => getLsbD_packed _ _ mode entry inside,
      fun spdMd mode freq entry spdMd' mode' freq' entry' word place inside inside' =>
        inLane_unique entry entry' inside inside'⟩
    show ((List.range maxSpdMdNum).foldl (unpackMode restarted.tm4SmxFx) restarted.tm4).delays
      spdMd freq = _
    have inTable : spdMd * 2 + freq / 4 < 2 * maxSpdMdNum := by
      unfold maxSpdMdNum at *
      unfold maxClkFreqNum at entry
      omega
    rw [delays_unpackModes _ _ _ _ entry, if_pos mode, kept _ inTable]
    exact unpacked_packed _ _ mode entry

end PinePhonePkg
