/-
This file models how the host driver decides whether a failed transfer is tried
again, at the next sample point, and follows the decisions from one reset of the
counter to the next.

The points of a speed mode and frequency are in a table; the counter is one for
all of them. As long as the entries that are moved on are points, they stay so,
and a point that has failed does not come back. An entry that marks that no point
is chosen is moved on like a point.
-/

import PinePhonePkg.Host.Setup
import PinePhonePkg.Library.Bits
import PinePhonePkg.Library.Runs
import Mathlib.Data.List.Nodup
import Mathlib.Data.List.Range
import Mathlib.Data.Nat.ModEq

namespace PinePhonePkg

open Library

/-! ### The decision -/

/-- There was no response. -/
def sdxcRespTimeout : U32 := bit 8

/-- The host with its counter of retries -/
structure RetryHost : Type where
  host : SunxiMmcHost
  retryCnt : U32

/-- An entry of the tables of sample points; those of the data strobe are in one of their own. -/
abbrev SampleSlot : Type := Bool × Nat

namespace TimingMode

/-- The delay that was tuned -/
def tuned (timing : TimingMode) (slot : SampleSlot) : U8 :=
  if slot.1 then timing.dsdly slot.2 else timing.sdly slot.2

/-- The sample point that is in effect -/
def point (timing : TimingMode) (slot : SampleSlot) : U8 :=
  if slot.1 then chosenDelay timing.dsdly timing.defDsdly slot.2
  else chosenDelay timing.sdly timing.defSdly slot.2

/-- An entry holds another delay. -/
def tune (timing : TimingMode) (slot : SampleSlot) (sdly : U8) : TimingMode :=
  if slot.1 then { timing with dsdly := Function.update timing.dsdly slot.2 sdly }
  else { timing with sdly := Function.update timing.sdly slot.2 sdly }

/-- The entry of the current speed mode and frequency -/
def slot (timing : TimingMode) : SampleSlot :=
  (false, delayIndex timing.curSpdMd timing.curFreq)

/-- The same in timing mode 4, where HS400 is tuned by the data strobe -/
def slot4 (timing : TimingMode) : SampleSlot :=
  if timing.curSpdMd = hs400 then (true, timing.curFreq.toNat) else timing.slot

end TimingMode

/-- The next sample point, unless there were too many retries -/
def nextSample (gap : U8) (points retryCnt : U32) (sdly : U8) : Option U8 :=
  if retryCnt * gap.setWidth 32 < points then
    if sdly.setWidth 32 + gap.setWidth 32 < points then some (sdly + gap)
    else some ((sdly.setWidth 32 + gap.setWidth 32 - points).setWidth 8)
  else none

/-- The entry is moved on, unless there were too many retries. -/
def TimingMode.retry (timing : TimingMode) (slot : SampleSlot) (gap : U8)
    (points retryCnt : U32) : Option TimingMode :=
  (nextSample gap points retryCnt (timing.tuned slot)).map (timing.tune slot)

/-- The numbers of sample points of the timing modes -/
def mmcClkSamplePoinitMode1 : U32 := 3
def mmcClkSamplePoinitMode3 : U32 := 64
def mmcClkSamplePoinitMode4 : U32 := 64

/-- An error other than that of a card that does not answer -/
def WorthRetry (errNo : U32) : Prop :=
  errNo ≠ 0 ∧ (errNo &&& sdxcRespTimeout = 0 ∨ errNo = 0xffffffff)

instance (errNo : U32) : Decidable (WorthRetry errNo) := inferInstanceAs (Decidable (_ ∧ _))

/-- Decides whether a transfer is tried again with the next sample point. -/
def sunxiDecideRty (mmchost : RetryHost) (errNo rstCnt : U32) : Int × RetryHost :=
  let mmchost := if rstCnt ≠ 0 then { mmchost with retryCnt := 0 } else mmchost
  if WorthRetry errNo then
    let mmchost : RetryHost := { mmchost with retryCnt := mmchost.retryCnt + 1 }
    let host := mmchost.host
    let again (host : SunxiMmcHost) : Int × RetryHost :=
      (0, { mmchost with host := { host with rawIntBak := 0 } })
    if host.timingMode = sunxiMmcTimingMode1 then
      match host.tm1.retry host.tm1.slot 1 mmcClkSamplePoinitMode1 mmchost.retryCnt with
      | some tm1 => again { host with tm1 := tm1 }
      | none => (-1, mmchost)
    else if host.timingMode = sunxiMmcTimingMode3 then
      match host.tm3.retry host.tm3.slot 8 mmcClkSamplePoinitMode3 mmchost.retryCnt with
      | some tm3 => again { host with tm3 := tm3 }
      | none => (-1, mmchost)
    else if host.timingMode = sunxiMmcTimingMode4 then
      match host.tm4.retry host.tm4.slot4 8 mmcClkSamplePoinitMode4 mmchost.retryCnt with
      | some tm4 => again { host with tm4 := tm4 }
      | none => (-1, mmchost)
    else again host
  else (-1, mmchost)

/-! ### The current timing mode -/

namespace SunxiMmcHost

variable (host : SunxiMmcHost)

/-- The delays of the timing mode -/
def timing : TimingMode :=
  if host.timingMode = sunxiMmcTimingMode1 then host.tm1
  else if host.timingMode = sunxiMmcTimingMode3 then host.tm3
  else host.tm4

/-- Other delays of the timing mode -/
def withTiming (timing : TimingMode) : SunxiMmcHost :=
  if host.timingMode = sunxiMmcTimingMode1 then { host with tm1 := timing }
  else if host.timingMode = sunxiMmcTimingMode3 then { host with tm3 := timing }
  else { host with tm4 := timing }

/-- The entry that is moved on -/
def slot : SampleSlot :=
  if host.timingMode = sunxiMmcTimingMode4 then host.timing.slot4 else host.timing.slot

/-- The distance of the points that are tried -/
def retryGap : U8 := if host.timingMode = sunxiMmcTimingMode1 then 1 else 8

/-- The number of sample points -/
def samplePoints : U32 := if host.timingMode = sunxiMmcTimingMode1 then 3 else 64

@[simp]
theorem timingMode_withTiming (timing : TimingMode) :
    (host.withTiming timing).timingMode = host.timingMode := by
  unfold withTiming
  split_ifs <;> rfl

@[simp]
theorem timing_withTiming (timing : TimingMode) : (host.withTiming timing).timing = timing := by
  unfold SunxiMmcHost.timing withTiming
  split_ifs <;> rfl

end SunxiMmcHost

/-! ### What the controller gets -/

/-- The register of the sample point, which in timing mode 4 is another one in HS400 -/
def SunxiMmcHost.delayReg (host : SunxiMmcHost) : HostReg :=
  if host.timingMode = sunxiMmcTimingMode1 then .ntsr
  else if host.slot.1 then .dsDl
  else .sampDl

/-- The sample point in what is written there -/
def SunxiMmcHost.delayField (host : SunxiMmcHost) (value : U32) : U32 :=
  if host.timingMode = sunxiMmcTimingMode1 then value >>> 4 &&& 3 else value &&& sdxcCfgDly

/-- The bits of a sample point that the register has room for -/
def SunxiMmcHost.delayMask (host : SunxiMmcHost) : U32 :=
  if host.timingMode = sunxiMmcTimingMode1 then 3 else sdxcCfgDly

/-- What the controller gets for the sample point of an entry -/
def SunxiMmcHost.written (host : SunxiMmcHost) (slot : SampleSlot) : U32 :=
  (host.timing.point slot).setWidth 32 &&& host.delayMask

/-! ### The decision in the timing modes -/

/-- In the three timing modes a transfer that is worth it is tried again at the next point, until
the counter has gone through the points. -/
theorem sunxiDecideRty_eq {mmchost : RetryHost} (mode : HasTimingMode mmchost.host) {errNo : U32}
    (worth : WorthRetry errNo) :
    sunxiDecideRty mmchost errNo 0 =
      match nextSample mmchost.host.retryGap mmchost.host.samplePoints (mmchost.retryCnt + 1)
        (mmchost.host.timing.tuned mmchost.host.slot) with
      | some sdly => (0, {
          host := { mmchost.host.withTiming
            (mmchost.host.timing.tune mmchost.host.slot sdly) with rawIntBak := 0 }
          retryCnt := mmchost.retryCnt + 1 })
      | none => (-1, { mmchost with retryCnt := mmchost.retryCnt + 1 }) := by
  unfold sunxiDecideRty
  rw [if_neg (not_not_intro rfl), if_pos worth]
  unfold TimingMode.retry SunxiMmcHost.retryGap SunxiMmcHost.samplePoints SunxiMmcHost.slot
    SunxiMmcHost.withTiming SunxiMmcHost.timing mmcClkSamplePoinitMode1 mmcClkSamplePoinitMode3
    mmcClkSamplePoinitMode4
  rcases mode with mode | mode | mode
  · have not4 : sunxiMmcTimingMode1 ≠ sunxiMmcTimingMode4 := by decide
    simp only [mode, if_true, if_neg not4]
    cases nextSample 1 3 (mmchost.retryCnt + 1) (mmchost.host.tm1.tuned mmchost.host.tm1.slot) with
    | none | some => rfl
  · have not1 : sunxiMmcTimingMode3 ≠ sunxiMmcTimingMode1 := by decide
    have not4 : sunxiMmcTimingMode3 ≠ sunxiMmcTimingMode4 := by decide
    simp only [mode, if_true, if_neg not1, if_neg not4]
    cases nextSample 8 64 (mmchost.retryCnt + 1)
        (mmchost.host.tm3.tuned mmchost.host.tm3.slot) with
    | none | some => rfl
  · have not1 : sunxiMmcTimingMode4 ≠ sunxiMmcTimingMode1 := by decide
    have not3 : sunxiMmcTimingMode4 ≠ sunxiMmcTimingMode3 := by decide
    simp only [mode, if_true, if_neg not1, if_neg not3]
    cases nextSample 8 64 (mmchost.retryCnt + 1)
        (mmchost.host.tm4.tuned mmchost.host.tm4.slot4) with
    | none | some => rfl

/-! ### Sample points as numbers -/

theorem retryGap_samplePoints (host : SunxiMmcHost) :
    host.retryGap.toNat = 1 ∧ host.samplePoints.toNat = 3 ∨
      host.retryGap.toNat = 8 ∧ host.samplePoints.toNat = 64 := by
  unfold SunxiMmcHost.retryGap SunxiMmcHost.samplePoints
  split_ifs
  · exact .inl ⟨rfl, rfl⟩
  · exact .inr ⟨rfl, rfl⟩

theorem samplePoints_pos (host : SunxiMmcHost) : 0 < host.samplePoints.toNat := by
  rcases retryGap_samplePoints host with ⟨-, points⟩ | ⟨-, points⟩ <;> omega

theorem retryGap_pos (host : SunxiMmcHost) : 0 < host.retryGap.toNat := by
  rcases retryGap_samplePoints host with ⟨gap, -⟩ | ⟨gap, -⟩ <;> omega

section Numbers

variable {gap : U8} {points retryCnt : U32} {sdly next : U8}

theorem nextSample_isSome :
    (nextSample gap points retryCnt sdly).isSome = true ↔
      retryCnt * gap.setWidth 32 < points := by
  unfold nextSample
  split_ifs with less sum
  · exact ⟨fun _ => less, fun _ => rfl⟩
  · exact ⟨fun _ => less, fun _ => rfl⟩
  · exact ⟨fun none => absurd none Bool.false_ne_true, fun less' => absurd less' less⟩

/-- As long as the product does not wrap, it decides whether there is a next point. -/
theorem nextSample_isSome_iff (fits : retryCnt.toNat * gap.toNat < 2 ^ 32) :
    (nextSample gap points retryCnt sdly).isSome = true ↔
      retryCnt.toNat * gap.toNat < points.toNat := by
  have product : (retryCnt * gap.setWidth 32).toNat = retryCnt.toNat * gap.toNat := by
    have narrow : gap.toNat < 2 ^ 32 := by omega
    rw [BitVec.toNat_mul, BitVec.toNat_setWidth, Nat.mod_eq_of_lt narrow, Nat.mod_eq_of_lt fits]
  rw [nextSample_isSome, BitVec.lt_def, product]

theorem toNat_nextSample (found : nextSample gap points retryCnt sdly = some next) :
    next.toNat =
      if sdly.toNat + gap.toNat < points.toNat then (sdly.toNat + gap.toNat) % 256
      else (sdly.toNat + gap.toNat - points.toNat) % 256 := by
  have sum : (sdly.setWidth 32 + gap.setWidth 32).toNat = sdly.toNat + gap.toNat := by
    rw [BitVec.toNat_add, BitVec.toNat_setWidth, BitVec.toNat_setWidth]
    omega
  have order : sdly.setWidth 32 + gap.setWidth 32 < points ↔
      sdly.toNat + gap.toNat < points.toNat := by
    rw [BitVec.lt_def, sum]
  unfold nextSample at found
  split_ifs at found with less inside
  · rw [if_pos (order.mp inside), ← Option.some.inj found, BitVec.toNat_add]
  · have behind : ¬ sdly.toNat + gap.toNat < points.toNat :=
      fun less' => inside (order.mpr less')
    rw [if_neg behind, ← Option.some.inj found, BitVec.toNat_setWidth,
      BitVec.toNat_sub_of_le (by rw [BitVec.le_def, sum]; omega), sum]

end Numbers

/-! ### Entries -/

theorem tuned_tune (timing : TimingMode) (slot other : SampleSlot) (sdly : U8) :
    (timing.tune slot sdly).tuned other = if other = slot then sdly else timing.tuned other := by
  obtain ⟨strobe, index⟩ := slot
  obtain ⟨strobe', index'⟩ := other
  unfold TimingMode.tune TimingMode.tuned
  cases strobe <;> cases strobe' <;> simp [Function.update_apply]

/-- A chosen point is in effect, as long as it is not the mark of no point. -/
theorem point_of_tuned {timing : TimingMode} {slot : SampleSlot} (some : timing.tuned slot ≠ 0xff) :
    timing.point slot = timing.tuned slot := by
  unfold TimingMode.point chosenDelay
  unfold TimingMode.tuned at *
  split_ifs at * <;> rfl

theorem point_tune_other (timing : TimingMode) {slot other : SampleSlot} (sdly : U8)
    (different : other ≠ slot) : (timing.tune slot sdly).point other = timing.point other := by
  obtain ⟨strobe, index⟩ := slot
  obtain ⟨strobe', index'⟩ := other
  unfold TimingMode.tune TimingMode.point chosenDelay
  cases strobe <;> cases strobe' <;> simp_all

theorem slot_tune (timing : TimingMode) (slot : SampleSlot) (sdly : U8) :
    (timing.tune slot sdly).slot = timing.slot ∧ (timing.tune slot sdly).slot4 = timing.slot4 := by
  unfold TimingMode.slot4 TimingMode.slot TimingMode.tune
  split_ifs <;> exact ⟨rfl, rfl⟩

namespace SunxiMmcHost

/-- In timing mode 1 it is a point; in the others the register has room for the points only. -/
def Circles (host : SunxiMmcHost) (sdly : U8) : Prop :=
  host.timingMode = sunxiMmcTimingMode1 → sdly.toNat < host.samplePoints.toNat

/-- An entry that can be moved on. The mark of no point is moved on like the last point; the point
that is in effect instead must not be one of those that follow. -/
structure Sweepable (host : SunxiMmcHost) (slot : SampleSlot) : Prop where
  circles : host.Circles (host.timing.tuned slot)
  mark : host.timing.tuned slot = 0xff → (host.timing.point slot).toNat % 8 = 7 →
    (host.timing.point slot).toNat % 64 = 63

section

variable {host : SunxiMmcHost} {sdly : U8}

/-- What is written is the place in the circle of points. -/
theorem toNat_and_delayMask (circles : host.Circles sdly) :
    (sdly.setWidth 32 &&& host.delayMask).toNat = sdly.toNat % host.samplePoints.toNat := by
  have octet : (sdly.setWidth 32).toNat = sdly.toNat := by
    rw [BitVec.toNat_setWidth]
    omega
  unfold Circles samplePoints at circles
  unfold delayMask samplePoints
  split_ifs with mode
  · have inside := circles mode
    rw [if_pos mode] at inside
    have two : (3 : U32).toNat = 2 ^ 2 - 1 := rfl
    rw [toNat_and_low _ two, octet, Nat.mod_eq_of_lt inside]
    exact Nat.mod_eq_of_lt (Nat.lt_of_lt_of_le inside (by decide))
  · have six : sdxcCfgDly.toNat = 2 ^ 6 - 1 := rfl
    rw [toNat_and_low _ six, octet]
    rfl

/-- The next place in the circle, and never the mark of no point -/
theorem Circles.next {retryCnt : U32} {next : U8} (circles : host.Circles sdly)
    (found : nextSample host.retryGap host.samplePoints retryCnt sdly = some next) :
    next.toNat % host.samplePoints.toNat =
        (sdly.toNat + host.retryGap.toNat) % host.samplePoints.toNat ∧
      next ≠ 0xff ∧ host.Circles next := by
  have value := toNat_nextSample found
  have different : next.toNat ≠ 255 → next ≠ 0xff := fun other same => other (same ▸ rfl)
  by_cases mode : host.timingMode = sunxiMmcTimingMode1
  · have gap : host.retryGap.toNat = 1 := congrArg BitVec.toNat (if_pos mode)
    have points : host.samplePoints.toNat = 3 := congrArg BitVec.toNat (if_pos mode)
    have inside := circles mode
    rw [points] at inside
    rw [gap, points] at value
    rw [gap, points]
    have below : next.toNat < 3 := by split_ifs at value <;> omega
    refine ⟨?_, different (by omega), fun _ => points ▸ below⟩
    split_ifs at value <;> omega
  · have gap : host.retryGap.toNat = 8 := congrArg BitVec.toNat (if_neg mode)
    have points : host.samplePoints.toNat = 64 := congrArg BitVec.toNat (if_neg mode)
    rw [gap, points] at value
    rw [gap, points]
    refine ⟨?_, different ?_, fun mode1 => absurd mode1 mode⟩
    · split_ifs at value <;> omega
    · split_ifs at value <;> omega

variable {slot : SampleSlot}

/-- What is written for an entry at first is its place in the circle, or the default one instead of
the mark of no point. -/
theorem Sweepable.written_cases (sweepable : host.Sweepable slot) :
    (host.written slot).toNat = (host.timing.tuned slot).toNat % host.samplePoints.toNat ∨
      host.retryGap.toNat = 8 ∧ host.samplePoints.toNat = 64 ∧
        (host.timing.tuned slot).toNat = 255 ∧ (host.written slot).toNat < 64 ∧
        ((host.written slot).toNat % 8 = 7 → (host.written slot).toNat = 63) := by
  by_cases mark : host.timing.tuned slot = 0xff
  · have tuned : (host.timing.tuned slot).toNat = 255 := congrArg BitVec.toNat mark
    have mode : host.timingMode ≠ sunxiMmcTimingMode1 := by
      intro mode
      have points : host.samplePoints.toNat = 3 := congrArg BitVec.toNat (if_pos mode)
      have inside := sweepable.circles mode
      omega
    have circles : host.Circles (host.timing.point slot) := fun mode1 => absurd mode1 mode
    have points : host.samplePoints.toNat = 64 := congrArg BitVec.toNat (if_neg mode)
    have value : (host.written slot).toNat = (host.timing.point slot).toNat % 64 :=
      points ▸ toNat_and_delayMask circles
    have late := sweepable.mark mark
    refine .inr ⟨congrArg BitVec.toNat (if_neg mode), points, tuned, ?_, ?_⟩ <;> omega
  · refine .inl ?_
    unfold written
    rw [point_of_tuned mark, toNat_and_delayMask sweepable.circles]

theorem Sweepable.written_lt (sweepable : host.Sweepable slot) :
    (host.written slot).toNat < host.samplePoints.toNat := by
  rcases sweepable.written_cases with place | ⟨-, points, -, less, -⟩
  · exact place ▸ Nat.mod_lt _ (samplePoints_pos host)
  · omega

/-- None of the points that follow is the first one. -/
theorem Sweepable.written_ne (sweepable : host.Sweepable slot) (index : Nat)
    (room : (index + 1) * host.retryGap.toNat < host.samplePoints.toNat) :
    (host.written slot).toNat ≠ ((host.timing.tuned slot).toNat +
      (index + 1) * host.retryGap.toNat) % host.samplePoints.toNat := by
  have positive : 0 < (index + 1) * host.retryGap.toNat :=
    Nat.mul_pos (Nat.succ_pos index) (retryGap_pos host)
  intro same
  rcases sweepable.written_cases with place | ⟨gap, points, mark, less, late⟩
  · rw [place] at same
    have step : 0 ≡ (index + 1) * host.retryGap.toNat [MOD host.samplePoints.toNat] :=
      Nat.ModEq.add_left_cancel' (host.timing.tuned slot).toNat same
    exact absurd (step.eq_of_lt_of_lt (samplePoints_pos host) room) (Nat.ne_of_lt positive)
  · rw [gap, points, mark] at same
    rw [gap, points] at room
    omega

end

end SunxiMmcHost

/-! ### From one reset of the counter to the next -/

/-- A decision about an error, or another clock of the card -/
inductive RetryEvent : Type where
  | decide (errNo : U32)
  | clock (mmc : HostCard) (clk : U32)

namespace RetryHost

variable (mmchost : RetryHost)

/-- The state after an event -/
def after (mmchost : RetryHost) : RetryEvent → RetryHost
  | .decide errNo => (sunxiDecideRty mmchost errNo 0).2
  | .clock mmc clk => { mmchost with host := { mmchost.host with mmc := mmc }.setCurrent clk }

/-- The transfer is tried again. -/
def retries : RetryEvent → Bool
  | .decide errNo => (sunxiDecideRty mmchost errNo 0).1 = 0
  | .clock _ _ => false

/-- The number of retries -/
def retryTotal (mmchost : RetryHost) : List RetryEvent → Nat
  | [] => 0
  | event :: rest =>
    (if mmchost.retries event then 1 else 0) + (mmchost.after event).retryTotal rest

/-- What was written for an entry when a transfer failed that was then tried again, and what is
written for it in the end -/
def tried (slot : SampleSlot) (mmchost : RetryHost) : List RetryEvent → List U32
  | [] => [mmchost.host.written slot]
  | event :: rest =>
    if mmchost.retries event ∧ mmchost.host.slot = slot then
      mmchost.host.written slot :: tried slot (mmchost.after event) rest
    else tried slot (mmchost.after event) rest

/-- There are not more retries than points, all that is written is a point of the mode where there
was a retry, and no point is tried twice. -/
structure RetriesWell (events : List RetryEvent) : Prop where
  total : mmchost.retryTotal events * mmchost.host.retryGap.toNat < mmchost.host.samplePoints.toNat
  inside : ∀ slot, 1 < (tried slot mmchost events).length → ∀ sdly ∈ tried slot mmchost events,
    sdly < mmchost.host.samplePoints
  distinct : ∀ slot, (tried slot mmchost events).Nodup

/-- An entry that is moved on can be. -/
def MovesWell (event : RetryEvent) : Prop :=
  mmchost.retries event = true → mmchost.host.Sweepable mmchost.host.slot

end RetryHost

/-! ### One event -/

namespace RetryHost

/-- What is written for an entry depends on the timing mode and the point. -/
theorem written_congr {host other : SunxiMmcHost} {slot : SampleSlot}
    (mode : other.timingMode = host.timingMode)
    (point : other.timing.point slot = host.timing.point slot) :
    other.written slot = host.written slot := by
  unfold SunxiMmcHost.written SunxiMmcHost.delayMask
  rw [mode, point]

theorem circles_congr {host other : SunxiMmcHost} (mode : other.timingMode = host.timingMode)
    {sdly : U8} : other.Circles sdly ↔ host.Circles sdly := by
  unfold SunxiMmcHost.Circles SunxiMmcHost.samplePoints
  rw [mode]

theorem sweepable_congr {host other : SunxiMmcHost} {slot : SampleSlot}
    (mode : other.timingMode = host.timingMode)
    (tuned : other.timing.tuned slot = host.timing.tuned slot)
    (point : other.timing.point slot = host.timing.point slot) :
    other.Sweepable slot ↔ host.Sweepable slot := by
  refine ⟨fun sweepable => ⟨?_, ?_⟩, fun sweepable => ⟨?_, ?_⟩⟩
  · rw [← circles_congr mode, ← tuned]
    exact sweepable.circles
  · rw [← tuned, ← point]
    exact sweepable.mark
  · rw [circles_congr mode, tuned]
    exact sweepable.circles
  · rw [tuned, point]
    exact sweepable.mark

/-- The tables and what they choose are the same. -/
def SameTables (before after : RetryHost) : Prop :=
  after.host.timingMode = before.host.timingMode ∧
    ∀ slot, after.host.timing.tuned slot = before.host.timing.tuned slot ∧
      after.host.timing.point slot = before.host.timing.point slot

theorem sameTables_clock (mmchost : RetryHost) (mmc : HostCard) (clk : U32) :
    SameTables mmchost (mmchost.after (.clock mmc clk)) := by
  have mode : ({ mmchost.host with mmc := mmc }.setCurrent clk).timingMode =
      mmchost.host.timingMode := by
    unfold SunxiMmcHost.setCurrent
    split_ifs <;> rfl
  refine ⟨mode, fun slot => ?_⟩
  show ({ mmchost.host with mmc := mmc }.setCurrent clk).timing.tuned slot = _ ∧
    ({ mmchost.host with mmc := mmc }.setCurrent clk).timing.point slot = _
  unfold SunxiMmcHost.timing SunxiMmcHost.setCurrent
  split_ifs <;> exact ⟨rfl, rfl⟩

/-- What an event can do: nothing to the counter, a count without a retry, or a retry at the next
point. -/
theorem after_cases {mmchost : RetryHost} (mode : HasTimingMode mmchost.host) (event : RetryEvent) :
    (mmchost.retries event = false ∧ SameTables mmchost (mmchost.after event) ∧
      (mmchost.after event).retryCnt = mmchost.retryCnt) ∨
    (mmchost.retries event = false ∧ SameTables mmchost (mmchost.after event) ∧
      (mmchost.after event).retryCnt = mmchost.retryCnt + 1 ∧
      nextSample mmchost.host.retryGap mmchost.host.samplePoints (mmchost.retryCnt + 1)
        (mmchost.host.timing.tuned mmchost.host.slot) = none) ∨
    ∃ next, mmchost.retries event = true ∧
      nextSample mmchost.host.retryGap mmchost.host.samplePoints (mmchost.retryCnt + 1)
        (mmchost.host.timing.tuned mmchost.host.slot) = some next ∧
      (mmchost.after event).retryCnt = mmchost.retryCnt + 1 ∧
      (mmchost.after event).host.timingMode = mmchost.host.timingMode ∧
      (mmchost.after event).host.timing = mmchost.host.timing.tune mmchost.host.slot next := by
  cases event with
  | clock mmc clk => exact .inl ⟨rfl, sameTables_clock mmchost mmc clk, rfl⟩
  | decide errNo =>
    unfold retries after
    dsimp only
    by_cases worth : WorthRetry errNo
    · rw [sunxiDecideRty_eq mode worth]
      cases found : nextSample mmchost.host.retryGap mmchost.host.samplePoints
          (mmchost.retryCnt + 1) (mmchost.host.timing.tuned mmchost.host.slot) with
      | none => exact .inr (.inl ⟨rfl, ⟨rfl, fun _ => ⟨rfl, rfl⟩⟩, rfl, rfl⟩)
      | some next =>
        refine .inr (.inr ⟨next, rfl, rfl, rfl, ?_, ?_⟩)
        · exact SunxiMmcHost.timingMode_withTiming _ _
        · exact SunxiMmcHost.timing_withTiming _ _
    · have kept : sunxiDecideRty mmchost errNo 0 = (-1, mmchost) := by
        unfold sunxiDecideRty
        rw [if_neg (not_not_intro rfl), if_neg worth]
      rw [kept]
      exact .inl ⟨rfl, ⟨rfl, fun _ => ⟨rfl, rfl⟩⟩, rfl⟩

theorem timingMode_after {mmchost : RetryHost} (mode : HasTimingMode mmchost.host)
    (event : RetryEvent) : (mmchost.after event).host.timingMode = mmchost.host.timingMode := by
  rcases after_cases mode event with ⟨-, same, -⟩ | ⟨-, same, -, -⟩ | ⟨_, -, -, -, same, -⟩
  · exact same.1
  · exact same.1
  · exact same

theorem hasTimingMode_after {mmchost : RetryHost} (mode : HasTimingMode mmchost.host)
    (event : RetryEvent) : HasTimingMode (mmchost.after event).host := by
  unfold HasTimingMode
  rw [timingMode_after mode event]
  exact mode

theorem retryGap_after {mmchost : RetryHost} (mode : HasTimingMode mmchost.host)
    (event : RetryEvent) : (mmchost.after event).host.retryGap = mmchost.host.retryGap := by
  unfold SunxiMmcHost.retryGap
  rw [timingMode_after mode event]

theorem samplePoints_after {mmchost : RetryHost} (mode : HasTimingMode mmchost.host)
    (event : RetryEvent) :
    (mmchost.after event).host.samplePoints = mmchost.host.samplePoints := by
  unfold SunxiMmcHost.samplePoints
  rw [timingMode_after mode event]

/-- An entry that is moved on can be moved on again. -/
theorem sweepable_moved {mmchost other : RetryHost} {sdly : U8} {retryCnt : U32}
    (same : other.host.timingMode = mmchost.host.timingMode)
    (moved : other.host.timing = mmchost.host.timing.tune mmchost.host.slot sdly)
    (circles : mmchost.host.Circles (mmchost.host.timing.tuned mmchost.host.slot))
    (found : nextSample mmchost.host.retryGap mmchost.host.samplePoints retryCnt
      (mmchost.host.timing.tuned mmchost.host.slot) = some sdly) :
    other.host.Sweepable mmchost.host.slot ∧
      (other.host.written mmchost.host.slot).toNat =
        ((mmchost.host.timing.tuned mmchost.host.slot).toNat + mmchost.host.retryGap.toNat) %
          mmchost.host.samplePoints.toNat := by
  obtain ⟨place, chosen, circles⟩ := circles.next found
  have tuned : other.host.timing.tuned mmchost.host.slot = sdly := by
    rw [moved, tuned_tune, if_pos rfl]
  have mask : other.host.delayMask = mmchost.host.delayMask := by
    unfold SunxiMmcHost.delayMask
    rw [same]
  refine ⟨⟨?_, fun mark => absurd (tuned.symm.trans mark) chosen⟩, ?_⟩
  · rw [circles_congr same, tuned]
    exact circles
  · unfold SunxiMmcHost.written
    rw [point_of_tuned (tuned.symm ▸ chosen), tuned, mask,
      SunxiMmcHost.toNat_and_delayMask circles, place]

/-! ### A run -/

section Counter

variable {mmchost : RetryHost} {events : Nat}
  (few : (mmchost.retryCnt.toNat + (events + 1)) * mmchost.host.retryGap.toNat < 2 ^ 32)
include few

theorem toNat_retryCnt_succ : (mmchost.retryCnt + 1).toNat = mmchost.retryCnt.toNat + 1 := by
  have one : (1 : U32).toNat = 1 := rfl
  rw [BitVec.toNat_add, one, Nat.mod_eq_of_lt]
  rcases retryGap_samplePoints mmchost.host with ⟨gap, -⟩ | ⟨gap, -⟩
  · rw [gap] at few
    omega
  · rw [gap] at few
    omega

/-- As long as the counter does not wrap, it decides whether there is a retry. -/
theorem nextSample_succ_isSome_iff (sdly : U8) :
    (nextSample mmchost.host.retryGap mmchost.host.samplePoints (mmchost.retryCnt + 1)
        sdly).isSome = true ↔
      (mmchost.retryCnt.toNat + 1) * mmchost.host.retryGap.toNat <
        mmchost.host.samplePoints.toNat := by
  have counter := toNat_retryCnt_succ few
  have fits : (mmchost.retryCnt + 1).toNat * mmchost.host.retryGap.toNat < 2 ^ 32 := by
    rw [counter]
    exact Nat.lt_of_le_of_lt (Nat.mul_le_mul_right _ (by omega)) few
  rw [nextSample_isSome_iff fits, counter]

theorem full_of_nextSample_succ {sdly : U8}
    (full : nextSample mmchost.host.retryGap mmchost.host.samplePoints (mmchost.retryCnt + 1)
      sdly = none) (count : Nat) :
    ¬ (mmchost.retryCnt.toNat + 1 + count) * mmchost.host.retryGap.toNat <
      mmchost.host.samplePoints.toNat := by
  intro room
  have isSome := (nextSample_succ_isSome_iff few sdly).mpr
    (Nat.lt_of_le_of_lt (Nat.mul_le_mul_right _ (Nat.le_add_right _ _)) room)
  rw [full] at isSome
  exact Bool.false_ne_true isSome

end Counter

section Run

variable {mmchost : RetryHost} (mode : HasTimingMode mmchost.host)
include mode

/-- The retries that are still made go through the points at most once. -/
theorem retryTotal_lt (events : List RetryEvent)
    (few : (mmchost.retryCnt.toNat + events.length) * mmchost.host.retryGap.toNat < 2 ^ 32) :
    mmchost.retryTotal events = 0 ∨
      (mmchost.retryCnt.toNat + mmchost.retryTotal events) * mmchost.host.retryGap.toNat <
        mmchost.host.samplePoints.toNat := by
  induction events generalizing mmchost with
  | nil => exact .inl rfl
  | cons event rest inductionHypothesis =>
    have next := @inductionHypothesis (mmchost.after event) (hasTimingMode_after mode event)
    rw [retryGap_after mode, samplePoints_after mode] at next
    rw [List.length_cons] at few
    have fewer : (mmchost.retryCnt.toNat + rest.length) * mmchost.host.retryGap.toNat < 2 ^ 32 :=
      Nat.lt_of_le_of_lt (Nat.mul_le_mul_right _ (by omega)) few
    have counted : (mmchost.retryCnt.toNat + 1 + rest.length) * mmchost.host.retryGap.toNat <
        2 ^ 32 := by
      rw [Nat.add_assoc, Nat.add_comm 1]
      exact few
    rw [retryTotal]
    rcases after_cases mode event with ⟨none, -, counter⟩ | ⟨none, -, counter, full⟩ |
      ⟨_, some, found, counter, -, -⟩
    · rw [none, if_neg Bool.false_ne_true, Nat.zero_add]
      rw [counter] at next
      exact next fewer
    · rw [none, if_neg Bool.false_ne_true, Nat.zero_add]
      rw [counter, toNat_retryCnt_succ few] at next
      exact .inl ((next counted).resolve_right (full_of_nextSample_succ few full _))
    · have room := (nextSample_succ_isSome_iff few _).mp (Option.isSome_of_eq_some found)
      rw [counter, toNat_retryCnt_succ few] at next
      rw [some, if_pos rfl]
      refine .inr ?_
      rcases next counted with zero | less
      · rw [zero]
        exact room
      · rw [← Nat.add_assoc]
        exact less

/-- What is written for an entry that is moved on, one gap after the other in a circle -/
theorem tried_eq (slot : SampleSlot) (events : List RetryEvent)
    (few : (mmchost.retryCnt.toNat + events.length) * mmchost.host.retryGap.toNat < 2 ^ 32)
    (along : Along after MovesWell mmchost events) :
    ∃ count, (tried slot mmchost events).map BitVec.toNat =
        (mmchost.host.written slot).toNat :: (List.range count).map (fun index =>
          ((mmchost.host.timing.tuned slot).toNat + (index + 1) * mmchost.host.retryGap.toNat) %
            mmchost.host.samplePoints.toNat) ∧
      (0 < count → mmchost.host.Sweepable slot ∧
        (mmchost.retryCnt.toNat + count) * mmchost.host.retryGap.toNat <
          mmchost.host.samplePoints.toNat) := by
  induction events generalizing mmchost with
  | nil => exact ⟨0, rfl, fun positive => absurd positive (Nat.lt_irrefl 0)⟩
  | cons event rest inductionHypothesis =>
    have next := @inductionHypothesis (mmchost.after event) (hasTimingMode_after mode event)
    rw [retryGap_after mode, samplePoints_after mode] at next
    rw [List.length_cons] at few
    have fewer : (mmchost.retryCnt.toNat + rest.length) * mmchost.host.retryGap.toNat < 2 ^ 32 :=
      Nat.lt_of_le_of_lt (Nat.mul_le_mul_right _ (by omega)) few
    have counted : (mmchost.retryCnt.toNat + 1 + rest.length) * mmchost.host.retryGap.toNat <
        2 ^ 32 := by
      rw [Nat.add_assoc, Nat.add_comm 1]
      exact few
    obtain ⟨moves, along⟩ := along
    rw [tried]
    rcases after_cases mode event with ⟨none, same, counter⟩ | ⟨none, same, counter, full⟩ |
      ⟨sdly, some, found, counter, sameMode, moved⟩
    · rw [none, if_neg (fun both => Bool.false_ne_true both.1)]
      rw [counter, written_congr same.1 (same.2 slot).2, (same.2 slot).1,
        sweepable_congr same.1 (same.2 slot).1 (same.2 slot).2] at next
      exact next fewer along
    · rw [none, if_neg (fun both => Bool.false_ne_true both.1)]
      rw [counter, toNat_retryCnt_succ few, written_congr same.1 (same.2 slot).2,
        (same.2 slot).1] at next
      obtain ⟨count, behind, room⟩ := next counted along
      refine ⟨count, behind, fun positive => ?_⟩
      exact absurd (room positive).2 (full_of_nextSample_succ few full count)
    · have room := (nextSample_succ_isSome_iff few _).mp (Option.isSome_of_eq_some found)
      have sweepable := moves some
      obtain ⟨-, place⟩ := sweepable_moved sameMode moved sweepable.circles found
      obtain ⟨circle, -⟩ := sweepable.circles.next found
      rw [counter, toNat_retryCnt_succ few, moved, tuned_tune] at next
      rw [some]
      by_cases here : mmchost.host.slot = slot
      · subst here
        rw [if_pos rfl] at next
        rw [if_pos ⟨rfl, rfl⟩]
        obtain ⟨count, behind, further⟩ := next counted along
        refine ⟨count + 1, ?_, fun _ => ⟨sweepable, ?_⟩⟩
        · rw [List.map_cons, behind, List.range_succ_eq_map, List.map_cons, List.map_map, place,
            Nat.zero_add, Nat.one_mul]
          refine congrArg (List.cons _) (congrArg (List.cons _)
            (List.map_congr_left fun index _ => ?_))
          show _ = (_ + (index + 1 + 1) * _) % _
          rw [Nat.add_mod, circle, ← Nat.add_mod, Nat.succ_mul (index + 1), Nat.add_assoc,
            Nat.add_comm (mmchost.host.retryGap.toNat)]
        · rcases Nat.eq_zero_or_pos count with zero | positive
          · rw [zero]
            exact room
          · rw [Nat.add_comm count, ← Nat.add_assoc]
            exact (further positive).2
      · have other : slot ≠ mmchost.host.slot := fun same => here same.symm
        have tuned : (mmchost.after event).host.timing.tuned slot =
            mmchost.host.timing.tuned slot := by rw [moved, tuned_tune, if_neg other]
        have point : (mmchost.after event).host.timing.point slot =
            mmchost.host.timing.point slot := by rw [moved, point_tune_other _ _ other]
        rw [if_neg other, written_congr sameMode point, sweepable_congr sameMode tuned point]
          at next
        rw [if_neg (fun both => here both.2)]
        obtain ⟨count, behind, further⟩ := next counted along
        refine ⟨count, behind, fun positive => ⟨(further positive).1, ?_⟩⟩
        exact Nat.lt_of_le_of_lt (Nat.mul_le_mul_right _ (by omega)) (further positive).2

/-- Where each entry that is moved on can be, all is well. -/
theorem retriesWell_of_along {events : List RetryEvent} (start : mmchost.retryCnt = 0)
    (few : events.length * mmchost.host.retryGap.toNat < 2 ^ 32)
    (along : Along after MovesWell mmchost events) : mmchost.RetriesWell events := by
  have zero : mmchost.retryCnt.toNat = 0 := congrArg BitVec.toNat start
  have few' : (mmchost.retryCnt.toNat + events.length) * mmchost.host.retryGap.toNat < 2 ^ 32 := by
    rw [zero, Nat.zero_add]
    exact few
  refine ⟨?_, fun slot several sdly member => ?_, fun slot => ?_⟩
  · rcases retryTotal_lt mode events few' with none | less
    · rw [none, Nat.zero_mul]
      exact samplePoints_pos _
    · rw [zero, Nat.zero_add] at less
      exact less
  · obtain ⟨count, circle, further⟩ := tried_eq mode slot events few' along
    have length := congrArg List.length circle
    rw [List.length_map, List.length_cons, List.length_map, List.length_range] at length
    obtain ⟨sweepable, -⟩ := further (by omega)
    have inCircle := List.mem_map_of_mem (f := BitVec.toNat) member
    rw [circle, List.mem_cons] at inCircle
    rw [BitVec.lt_def]
    rcases inCircle with first | later
    · exact first ▸ sweepable.written_lt
    · obtain ⟨index, -, value⟩ := List.mem_map.mp later
      exact value ▸ Nat.mod_lt _ (samplePoints_pos _)
  · obtain ⟨count, circle, further⟩ := tried_eq mode slot events few' along
    rw [zero, Nat.zero_add] at further
    refine List.Nodup.of_map BitVec.toNat ?_
    rw [circle]
    rcases Nat.eq_zero_or_pos count with none | positive
    · rw [none]
      exact List.nodup_singleton _
    obtain ⟨sweepable, room⟩ := further positive
    have below : ∀ index ≤ count,
        index * mmchost.host.retryGap.toNat < mmchost.host.samplePoints.toNat := fun index less =>
      Nat.lt_of_le_of_lt (Nat.mul_le_mul_right _ less) room
    refine List.nodup_cons.mpr ⟨fun again => ?_, ?_⟩
    · obtain ⟨index, inRange, value⟩ := List.mem_map.mp again
      rw [List.mem_range] at inRange
      exact sweepable.written_ne index (below _ inRange) value.symm
    · refine (List.nodup_map_iff_inj_on List.nodup_range).mpr fun first inFirst second inSecond
        same => ?_
      rw [List.mem_range] at inFirst inSecond
      have steps : (first + 1) * mmchost.host.retryGap.toNat ≡
          (second + 1) * mmchost.host.retryGap.toNat [MOD mmchost.host.samplePoints.toNat] :=
        Nat.ModEq.add_left_cancel' _ same
      exact Nat.succ.inj (Nat.eq_of_mul_eq_mul_right (retryGap_pos _)
        (steps.eq_of_lt_of_lt (below _ inFirst) (below _ inSecond)))

/-! ### Errors and nothing else -/

/-- A decision leaves the speed mode and the frequency alone. -/
theorem slot_decide (errNo : U32) :
    (mmchost.after (.decide errNo)).host.slot = mmchost.host.slot := by
  unfold after
  dsimp only
  by_cases worth : WorthRetry errNo
  · rw [sunxiDecideRty_eq mode worth]
    split
    next sdly found =>
      obtain ⟨same, same4⟩ := slot_tune mmchost.host.timing mmchost.host.slot sdly
      show (mmchost.host.withTiming _).slot = _
      unfold SunxiMmcHost.slot at *
      rw [SunxiMmcHost.timingMode_withTiming, SunxiMmcHost.timing_withTiming, same, same4]
    next none => rfl
  · unfold sunxiDecideRty
    rw [if_neg (not_not_intro rfl), if_neg worth]

/-- After errors alone the entry is still one that can be moved on. -/
theorem along_decide (sweepable : mmchost.host.Sweepable mmchost.host.slot) (errs : List U32) :
    Along after MovesWell mmchost (errs.map .decide) := by
  induction errs generalizing mmchost with
  | nil => trivial
  | cons errNo rest inductionHypothesis =>
    refine ⟨fun _ => sweepable, inductionHypothesis (hasTimingMode_after mode _) ?_⟩
    rw [slot_decide mode errNo]
    rcases after_cases mode (.decide errNo) with ⟨-, same, -⟩ | ⟨-, same, -⟩ |
      ⟨sdly, -, found, -, sameMode, moved⟩
    · exact (sweepable_congr same.1 (same.2 _).1 (same.2 _).2).mpr sweepable
    · exact (sweepable_congr same.1 (same.2 _).1 (same.2 _).2).mpr sweepable
    · exact (sweepable_moved sameMode moved sweepable.circles found).1

/-- An error of the data -/
def dataError : RetryEvent := .decide (bit 7)

/-- While there is room, an error of the data is followed by the next point. -/
theorem after_dataError
    (room : (mmchost.retryCnt.toNat + 1) * mmchost.host.retryGap.toNat <
      mmchost.host.samplePoints.toNat) :
    ∃ sdly, mmchost.retries dataError = true ∧
      nextSample mmchost.host.retryGap mmchost.host.samplePoints (mmchost.retryCnt + 1)
        (mmchost.host.timing.tuned mmchost.host.slot) = some sdly ∧
      (mmchost.after dataError).retryCnt.toNat = mmchost.retryCnt.toNat + 1 ∧
      (mmchost.after dataError).host.slot = mmchost.host.slot ∧
      (mmchost.after dataError).host.timing =
        mmchost.host.timing.tune mmchost.host.slot sdly := by
  have small : mmchost.host.samplePoints.toNat ≤ 64 := by
    rcases retryGap_samplePoints mmchost.host with ⟨-, points⟩ | ⟨-, points⟩ <;> omega
  have few : (mmchost.retryCnt.toNat + (0 + 1)) * mmchost.host.retryGap.toNat < 2 ^ 32 := by
    rw [Nat.zero_add]
    omega
  have isSome := (nextSample_succ_isSome_iff few
    (mmchost.host.timing.tuned mmchost.host.slot)).mpr room
  obtain ⟨sdly, found⟩ := Option.isSome_iff_exists.mp isSome
  have decided := sunxiDecideRty_eq mode (show WorthRetry (bit 7) by decide)
  rw [found] at decided
  refine ⟨sdly, ?_, found, ?_, slot_decide mode (bit 7), ?_⟩
  · show decide ((sunxiDecideRty mmchost (bit 7) 0).1 = 0) = true
    rw [decided]
    rfl
  · show (sunxiDecideRty mmchost (bit 7) 0).2.retryCnt.toNat = _
    rw [decided]
    exact toNat_retryCnt_succ few
  · show (sunxiDecideRty mmchost (bit 7) 0).2.host.timing = _
    rw [decided]
    exact SunxiMmcHost.timing_withTiming _ _

omit mode in
/-- What is written in the end has been tried. -/
theorem written_mem_tried (slot : SampleSlot) (events : List RetryEvent) :
    (run after mmchost events).host.written slot ∈ tried slot mmchost events := by
  induction events generalizing mmchost with
  | nil => exact List.mem_singleton_self _
  | cons event rest inductionHypothesis =>
    rw [tried]
    split
    · exact List.mem_cons_of_mem _ inductionHypothesis
    · exact inductionHypothesis

omit mode in
/-- Where all is well, the first and the last are points, and not the same. -/
theorem RetriesWell.first_last {event : RetryEvent} {rest : List RetryEvent}
    (well : mmchost.RetriesWell (event :: rest)) (retried : mmchost.retries event = true) :
    (mmchost.host.written mmchost.host.slot).toNat < mmchost.host.samplePoints.toNat ∧
      ((run after mmchost (event :: rest)).host.written mmchost.host.slot).toNat <
        mmchost.host.samplePoints.toNat ∧
      mmchost.host.written mmchost.host.slot ≠
        (run after mmchost (event :: rest)).host.written mmchost.host.slot := by
  have last : (run after mmchost (event :: rest)).host.written mmchost.host.slot ∈
      tried mmchost.host.slot (mmchost.after event) rest := written_mem_tried _ rest
  have inside := well.inside mmchost.host.slot
  have distinct := well.distinct mmchost.host.slot
  rw [tried, if_pos ⟨retried, rfl⟩] at inside distinct
  have several := Nat.succ_lt_succ (List.length_pos_of_mem last)
  refine ⟨inside several _ List.mem_cons_self, inside several _ (List.mem_cons_of_mem _ last),
    fun same => ?_⟩
  rw [List.nodup_cons, same] at distinct
  exact distinct.1 last

/-- Errors of the data go round the circle. -/
theorem written_dataErrors (count : Nat)
    (circles : mmchost.host.Circles (mmchost.host.timing.tuned mmchost.host.slot))
    (chosen : mmchost.host.timing.tuned mmchost.host.slot ≠ 0xff)
    (room : (mmchost.retryCnt.toNat + count) * mmchost.host.retryGap.toNat <
      mmchost.host.samplePoints.toNat) :
    ((run after mmchost (List.replicate count dataError)).host.written mmchost.host.slot).toNat =
      ((mmchost.host.timing.tuned mmchost.host.slot).toNat +
        count * mmchost.host.retryGap.toNat) % mmchost.host.samplePoints.toNat := by
  induction count generalizing mmchost with
  | zero =>
    rw [Nat.zero_mul, Nat.add_zero, ← SunxiMmcHost.toNat_and_delayMask circles,
      ← point_of_tuned chosen]
    rfl
  | succ count inductionHypothesis =>
    obtain ⟨sdly, -, found, counter, slot, moved⟩ := after_dataError mode
      (Nat.lt_of_le_of_lt (Nat.mul_le_mul_right _ (by omega)) room)
    obtain ⟨place, mark, circles⟩ := circles.next found
    have tuned : (mmchost.after dataError).host.timing.tuned mmchost.host.slot = sdly := by
      rw [moved, tuned_tune, if_pos rfl]
    have rest := @inductionHypothesis (mmchost.after dataError)
      (hasTimingMode_after mode dataError)
    rw [counter, retryGap_after mode, samplePoints_after mode, slot,
      circles_congr (timingMode_after mode dataError), tuned] at rest
    rw [List.replicate_succ]
    refine (rest circles mark ?_).trans ?_
    · rw [Nat.add_assoc, Nat.add_comm 1]
      exact room
    · rw [Nat.add_mod, place, ← Nat.add_mod, Nat.succ_mul, Nat.add_assoc,
        Nat.add_comm mmchost.host.retryGap.toNat]

/-- In timing mode 1 an entry that is no point goes wrong at the second retry at the latest. -/
theorem lt_of_retriesWell (start : mmchost.retryCnt = 0)
    (mode1 : mmchost.host.timingMode = sunxiMmcTimingMode1)
    (well : mmchost.RetriesWell (List.replicate 2 dataError)) :
    (mmchost.host.timing.tuned mmchost.host.slot).toNat < 3 := by
  have zero : mmchost.retryCnt.toNat = 0 := congrArg BitVec.toNat start
  have gap : mmchost.host.retryGap.toNat = 1 := congrArg BitVec.toNat (if_pos mode1)
  have points : mmchost.host.samplePoints.toNat = 3 := congrArg BitVec.toNat (if_pos mode1)
  by_contra outside
  obtain ⟨first, retried, found, counter, slot, moved⟩ := after_dataError mode
    (by rw [zero, gap, points]; decide)
  have value := toNat_nextSample found
  rw [gap, points, if_neg (by omega)] at value
  have tuned : (mmchost.after dataError).host.timing.tuned mmchost.host.slot = first := by
    rw [moved, tuned_tune, if_pos rfl]
  have next := after_dataError (hasTimingMode_after mode dataError)
  rw [counter, slot, tuned, retryGap_after mode, samplePoints_after mode, zero, gap, points] at next
  obtain ⟨second, -, found, -, -, moved⟩ := next (by decide)
  have value' := toNat_nextSample found
  rw [gap, points] at value'
  have other : second ≠ 0xff := by
    intro mark
    have top : second.toNat = 255 := congrArg BitVec.toNat mark
    split_ifs at value' <;> omega
  have field : ∀ host : SunxiMmcHost, host.timingMode = sunxiMmcTimingMode1 → ∀ slot,
      (host.written slot).toNat = (host.timing.point slot).toNat % 4 := by
    intro host mode slot
    unfold SunxiMmcHost.written SunxiMmcHost.delayMask
    have two : (3 : U32).toNat = 2 ^ 2 - 1 := rfl
    rw [if_pos mode, toNat_and_low _ two, BitVec.toNat_setWidth]
    omega
  have last : ((run after mmchost (List.replicate 2 dataError)).host.written
      mmchost.host.slot).toNat = second.toNat % 4 := by
    have mode2 := (timingMode_after (hasTimingMode_after mode dataError) dataError).trans
      ((timingMode_after mode dataError).trans mode1)
    have chosen : ((mmchost.after dataError).after dataError).host.timing.tuned
        mmchost.host.slot = second := by rw [moved, tuned_tune, if_pos rfl]
    refine (field _ mode2 _).trans ?_
    rw [point_of_tuned (chosen.symm ▸ other), chosen]
  obtain ⟨firstLess, lastLess, different⟩ := well.first_last retried
  have different' : (mmchost.host.written mmchost.host.slot).toNat ≠ second.toNat % 4 :=
    fun same => different (BitVec.eq_of_toNat_eq (same.trans last.symm))
  rw [points, field _ mode1] at firstLess
  rw [points] at lastLess
  rw [field _ mode1] at different'
  by_cases mark : mmchost.host.timing.tuned mmchost.host.slot = 0xff
  · have top : (mmchost.host.timing.tuned mmchost.host.slot).toNat = 255 :=
      congrArg BitVec.toNat mark
    have lastLess' := last ▸ lastLess
    split_ifs at value' <;> omega
  · rw [point_of_tuned mark] at firstLess different'
    split_ifs at value' <;> omega

/-- Where the current entry cannot be moved on, all is not well with some errors. -/
theorem sweepable_of_retriesWell (start : mmchost.retryCnt = 0)
    (well : ∀ count < 8, mmchost.RetriesWell (List.replicate count dataError)) :
    mmchost.host.Sweepable mmchost.host.slot := by
  have zero : mmchost.retryCnt.toNat = 0 := congrArg BitVec.toNat start
  by_cases mode1 : mmchost.host.timingMode = sunxiMmcTimingMode1
  · have points : mmchost.host.samplePoints.toNat = 3 := congrArg BitVec.toNat (if_pos mode1)
    have inside := lt_of_retriesWell mode start mode1 (well 2 (by decide))
    refine ⟨fun _ => points ▸ inside, fun mark => ?_⟩
    have value : (mmchost.host.timing.tuned mmchost.host.slot).toNat = 255 :=
      congrArg BitVec.toNat mark
    omega
  · have gap : mmchost.host.retryGap.toNat = 8 := congrArg BitVec.toNat (if_neg mode1)
    have points : mmchost.host.samplePoints.toNat = 64 := congrArg BitVec.toNat (if_neg mode1)
    have circles : ∀ sdly, mmchost.host.Circles sdly := fun _ same => absurd same mode1
    refine ⟨circles _, fun mark odd => ?_⟩
    by_contra early
    have value : (mmchost.host.timing.tuned mmchost.host.slot).toNat = 255 :=
      congrArg BitVec.toNat mark
    -- the point in effect comes back after so many errors
    obtain ⟨count, back⟩ : ∃ count,
        (mmchost.host.timing.point mmchost.host.slot).toNat % 64 = 7 + 8 * count :=
      ⟨(mmchost.host.timing.point mmchost.host.slot).toNat % 64 / 8, by omega⟩
    obtain ⟨sdly, retried, found, counter, slot, moved⟩ := after_dataError mode
      (by rw [zero, gap, points]; decide)
    obtain ⟨place, chosen, -⟩ := (circles _).next found
    have tuned : (mmchost.after dataError).host.timing.tuned mmchost.host.slot = sdly := by
      rw [moved, tuned_tune, if_pos rfl]
    have last := written_dataErrors (hasTimingMode_after mode dataError) count
    rw [slot, tuned, circles_congr (timingMode_after mode dataError), counter,
      retryGap_after mode, samplePoints_after mode, zero, gap, points] at last
    have first := SunxiMmcHost.toNat_and_delayMask
      (circles (mmchost.host.timing.point mmchost.host.slot))
    obtain ⟨-, -, different⟩ :=
      RetriesWell.first_last (well (count + 1) (by omega)) retried
    refine different (BitVec.eq_of_toNat_eq (first.trans ?_))
    refine Eq.trans ?_ (last (circles _) chosen (by omega)).symm
    rw [gap, points, value] at place
    rw [points]
    omega

/-- With errors alone all is well exactly if the current entry can be moved on. -/
theorem retriesWell_errors_iff (start : mmchost.retryCnt = 0) :
    (∀ errs : List U32, errs.length * mmchost.host.retryGap.toNat < 2 ^ 32 →
      mmchost.RetriesWell (errs.map .decide)) ↔ mmchost.host.Sweepable mmchost.host.slot := by
  constructor
  · intro well
    refine sweepable_of_retriesWell mode start fun count few => ?_
    have errors := well (List.replicate count (bit 7))
    rw [List.map_replicate, List.length_replicate] at errors
    refine errors ?_
    have gap : mmchost.host.retryGap.toNat ≤ 8 := by
      rcases retryGap_samplePoints mmchost.host with ⟨gap, -⟩ | ⟨gap, -⟩ <;> omega
    exact Nat.lt_of_le_of_lt (Nat.mul_le_mul (Nat.le_of_lt few) gap) (by decide)
  · intro sweepable errs few
    refine retriesWell_of_along mode start ?_ (along_decide mode sweepable errs)
    rw [List.length_map]
    exact few

end Run

end RetryHost

/-! ### What is written -/

theorem delayField_ntsr (rval delay : U32) :
    (rval &&& ~~~((3 : U32) <<< 4) ||| (delay &&& 3) <<< 4) >>> 4 &&& 3 = delay &&& 3 := by
  have low : ∀ place, (3 : U32).getLsbD place = decide (place < 2) :=
    Nat.testBit_two_pow_sub_one 2
  refine BitVec.eq_of_getLsbD_eq fun place inside => ?_
  simp only [BitVec.getLsbD_and, BitVec.getLsbD_or, BitVec.getLsbD_ushiftRight,
    BitVec.getLsbD_not, BitVec.getLsbD_shiftLeft, low]
  by_cases two : place < 2
  · have within : 4 + place < 32 := by omega
    have above : ¬ 4 + place < 4 := by omega
    simp [two, within, above]
  · simp [two]

theorem delayField_chain (rval delay : U32) :
    (rval &&& ~~~sdxcCfgDly ||| (delay &&& sdxcCfgDly ||| sdxcEnableDly)) &&& sdxcCfgDly =
      delay &&& sdxcCfgDly := by
  have low : ∀ place, sdxcCfgDly.getLsbD place = decide (place < 6) :=
    Nat.testBit_two_pow_sub_one 6
  have enable : ∀ place, place < 6 → sdxcEnableDly.getLsbD place = false := by decide
  refine BitVec.eq_of_getLsbD_eq fun place inside => ?_
  simp only [BitVec.getLsbD_and, BitVec.getLsbD_or, BitVec.getLsbD_not, low]
  by_cases six : place < 6
  · simp [six, enable place six]
  · simp [six]

theorem run_writeDelay {delay : U8} {reg : HostReg}
    {trace : List (Exchange HostRequest HostRequest.Reply)}
    (run : Program.Run (writeDelay delay reg) trace ()) :
    ∃ value, (∃ exchange ∈ trace, exchange.request = .writel value reg) ∧
      value &&& sdxcCfgDly = delay.setWidth 32 &&& sdxcCfgDly := by
  obtain ⟨rval, rest, rfl, goesOn⟩ := Program.run_send_bind_iff.mp run
  obtain ⟨_, rest, rfl, -⟩ := Program.run_call_iff.mp goesOn
  exact ⟨_, ⟨_, List.mem_cons_of_mem _ List.mem_cons_self, rfl⟩, delayField_chain rval _⟩

/-- The point in effect is written to the controller, as far as the register has room for it. -/
theorem run_mmcConfigDelay {host after : SunxiMmcHost} (mode : HasTimingMode host)
    {trace : List (Exchange HostRequest HostRequest.Reply)}
    (run : Program.Run (mmcConfigDelay host) trace after) :
    ∃ value, (∃ exchange ∈ trace, exchange.request = .writel value host.delayReg) ∧
      host.delayField value = host.written host.slot := by
  unfold mmcConfigDelay at run
  unfold SunxiMmcHost.written SunxiMmcHost.delayReg SunxiMmcHost.delayField
    SunxiMmcHost.delayMask SunxiMmcHost.timing
    SunxiMmcHost.slot SunxiMmcHost.timing
  rcases mode with mode | mode | mode
  · have not4 : sunxiMmcTimingMode1 ≠ sunxiMmcTimingMode4 := by decide
    simp only [mode, if_true, if_neg not4] at run ⊢
    obtain ⟨front, _, rest, rfl, -, run⟩ := Program.run_bind_iff.mp run
    obtain ⟨rval, rest, rfl, goesOn⟩ := Program.run_send_bind_iff.mp run
    obtain ⟨_, rest, rfl, -⟩ := Program.run_send_bind_iff.mp goesOn
    exact ⟨_, ⟨_, List.mem_append_right _ (List.mem_cons_of_mem _ List.mem_cons_self), rfl⟩,
      delayField_ntsr rval _⟩
  · have not1 : sunxiMmcTimingMode3 ≠ sunxiMmcTimingMode1 := by decide
    have not4 : sunxiMmcTimingMode3 ≠ sunxiMmcTimingMode4 := by decide
    simp only [mode, if_true, if_neg not1, if_neg not4] at run ⊢
    obtain ⟨front, _, rest, rfl, -, run⟩ := Program.run_bind_iff.mp run
    obtain ⟨here, _, rest, rfl, written, -⟩ := Program.run_bind_iff.mp run
    obtain ⟨value, ⟨exchange, member, writes⟩, field⟩ := run_writeDelay written
    exact ⟨value, ⟨exchange, List.mem_append_right _ (List.mem_append_left _ member), writes⟩,
      field⟩
  · have not1 : sunxiMmcTimingMode4 ≠ sunxiMmcTimingMode1 := by decide
    have not3 : sunxiMmcTimingMode4 ≠ sunxiMmcTimingMode3 := by decide
    simp only [mode, if_true, if_neg not1, if_neg not3] at run ⊢
    obtain ⟨front, _, rest, rfl, -, run⟩ := Program.run_bind_iff.mp run
    obtain ⟨here, _, rest, rfl, written, run⟩ := Program.run_bind_iff.mp run
    unfold TimingMode.slot4
    by_cases strobe : host.tm4.curSpdMd = hs400
    · rw [if_pos strobe] at run ⊢
      obtain ⟨there, _, rest, rfl, written, -⟩ := Program.run_bind_iff.mp run
      obtain ⟨value, ⟨exchange, member, writes⟩, field⟩ := run_writeDelay written
      exact ⟨value, ⟨exchange, List.mem_append_right _ (List.mem_append_right _
        (List.mem_append_left _ member)), writes⟩, field⟩
    · rw [if_neg strobe] at written ⊢
      obtain ⟨value, ⟨exchange, member, writes⟩, field⟩ := run_writeDelay written
      exact ⟨value, ⟨exchange, List.mem_append_right _ (List.mem_append_left _ member), writes⟩,
        field⟩

end PinePhonePkg
