/-
This file models the two loops that the decision to retry drives, the
identification of a card and the test of a frequency for writing, and proves
that they end, whatever the card answers. With the decisions it settles what the
retries are good for.
-/

import PinePhonePkg.Host.Retry
import PinePhonePkg.Host.KeptSettings
import PinePhonePkg.Start.Identify

namespace PinePhonePkg

open Library

/-! ### The loops -/

/-- What is done with the card and the host in one pass of the identification -/
inductive InitCall : Type where
  | init
  | setBusWidth
  | setClock
  | goIdle
  | sendIfCond
  | sdSendOpCond
  | mmcSendOpCond
  | mmcCompleteOpCond
  | startup

/-- How a call ends: its result, the interrupts of the last transfer, and the card and the clock
that it leaves -/
structure CallOutcome : Type where
  err : Int
  opCondPending : Bool
  rawIntBak : U32
  mmc : HostCard
  clk : U32

/-- A program of the calls that set up a card -/
abbrev InitProgram (Result : Type) : Type := Program InitCall (fun _ => CallOutcome) Result

/-- What a call leaves -/
def RetryHost.leave (mmchost : RetryHost) (outcome : CallOutcome) : RetryHost :=
  { mmchost with
    host := { mmchost.host with rawIntBak := outcome.rawIntBak, mmc := outcome.mmc }.setCurrent
      outcome.clk }

/-- Makes a call and keeps what it leaves. -/
def initCall (call : InitCall) (mmchost : RetryHost) : InitProgram (CallOutcome × RetryHost) := do
  let outcome ← Program.send call
  return (outcome, mmchost.leave outcome)

/-- The error of the last transfer is asked for, and cleared. -/
def sunxiNeedRty (mmchost : RetryHost) : Int × RetryHost :=
  let errNo := mmchost.host.rawIntBak
  let (ret, mmchost) :=
    sunxiDecideRty { mmchost with host := { mmchost.host with rawIntBak := 0 } } errNo 0
  (if ret = 0 then 0 else -1, mmchost)

section Pass

variable {Result : Type} (again : RetryHost → InitProgram Result)

/-- `if (err && !sunxi_need_rty(mmc)) goto retry;` -/
def gotoRetry (next : RetryHost → InitProgram Result) (err : Int) (mmchost : RetryHost) :
    InitProgram Result :=
  if err ≠ 0 then
    if (sunxiNeedRty mmchost).1 = 0 then again (sunxiNeedRty mmchost).2
    else next (sunxiNeedRty mmchost).2
  else next mmchost

end Pass

/-- From `mmc_startup` on -/
def initStartup (again : RetryHost → InitProgram (Option (Int × RetryHost)))
    (mmchost : RetryHost) : InitProgram (Option (Int × RetryHost)) := do
  let (outcome, mmchost) ← initCall .startup mmchost
  gotoRetry again (fun mmchost => return some (outcome.err, mmchost)) outcome.err mmchost

/-- The test for an MMC card -/
def initMmc (again : RetryHost → InitProgram (Option (Int × RetryHost)))
    (mmchost : RetryHost) : InitProgram (Option (Int × RetryHost)) := do
  let (outcome, mmchost) ← initCall .mmcSendOpCond mmchost
  let (outcome, mmchost) ←
    if outcome.opCondPending then initCall .mmcCompleteOpCond mmchost
    else pure (outcome, mmchost)
  gotoRetry again (fun mmchost =>
    if outcome.err ≠ 0 then return some (unusableErr, mmchost)
    else initStartup again mmchost) outcome.err mmchost

/-- The test for an SD card. A time-out is asked about twice. -/
def initSd (again : RetryHost → InitProgram (Option (Int × RetryHost)))
    (mmchost : RetryHost) : InitProgram (Option (Int × RetryHost)) := do
  let (outcome, mmchost) ← initCall .sdSendOpCond mmchost
  gotoRetry again (fun mmchost =>
    if outcome.err = -1 then gotoRetry again (initMmc again) outcome.err mmchost
    else initStartup again mmchost) outcome.err mmchost

/-- From `retry:` on -/
def initPass (again : RetryHost → InitProgram (Option (Int × RetryHost)))
    (mmchost : RetryHost) : InitProgram (Option (Int × RetryHost)) := do
  let (outcome, mmchost) ← initCall .init mmchost
  if outcome.err ≠ 0 then
    return some (outcome.err, mmchost)
  let (_, mmchost) ← initCall .setBusWidth mmchost
  let (_, mmchost) ← initCall .setClock mmchost
  let (outcome, mmchost) ← initCall .goIdle mmchost
  if outcome.err ≠ 0 then
    return some (outcome.err, mmchost)
  let (outcome, mmchost) ← initCall .sendIfCond mmchost
  gotoRetry again (initSd again) outcome.err mmchost

/-- `mmc_init_product` up to the end of its loop, or nothing after more passes than `turns` -/
def mmcInitProduct : Nat → RetryHost → InitProgram (Option (Int × RetryHost))
  | 0, _ => pure none
  | turns + 1, mmchost => initPass (mmcInitProduct turns) mmchost

/-- What comes of writing and reading back a pattern; an error is left in `raw_int_bak`, and the
transfer is then stopped. -/
inductive PatternOutcome : Type where
  | ok (outcome : CallOutcome)
  | transferFails (outcome stop : CallOutcome)
  | compareFails (outcome : CallOutcome)

/-- The loop of `write_tuning_try_freq`; the request is one write and read of the pattern. -/
def writeTuningTryFreq : Nat → RetryHost →
    Program Unit (fun _ => PatternOutcome) (Option (Int × RetryHost))
  | 0, _ => pure none
  | turns + 1, mmchost => do
    let (errNo, mmchost) ←
      match ← Program.send () with
      | .ok outcome => return some (0, mmchost.leave outcome)
      | .transferFails outcome stop =>
        let mmchost := mmchost.leave outcome
        let errNo := mmchost.host.rawIntBak
        let mmchost := { mmchost with host := { mmchost.host with rawIntBak := 0 } }
        pure (errNo, mmchost.leave stop)
      | .compareFails outcome => pure (0xffffffff, mmchost.leave outcome)
    let (ret, mmchost) := sunxiDecideRty mmchost errNo 0
    if ret = 0 then writeTuningTryFreq turns mmchost else return some (-1, mmchost)

/-! ### The counter -/

namespace RetryHost

/-- What the decision compares with the number of points -/
def swept (mmchost : RetryHost) : Nat :=
  (mmchost.retryCnt * mmchost.host.retryGap.setWidth 32).toNat

/-- The timing mode, by its numbers -/
def InMode (gap points : Nat) (mmchost : RetryHost) : Prop :=
  HasTimingMode mmchost.host ∧ mmchost.host.retryGap.toNat = gap ∧
    mmchost.host.samplePoints.toNat = points

theorem InMode.of_timingMode {gap points : Nat} {mmchost other : RetryHost}
    (inMode : InMode gap points mmchost)
    (same : other.host.timingMode = mmchost.host.timingMode) : InMode gap points other := by
  unfold InMode HasTimingMode SunxiMmcHost.retryGap SunxiMmcHost.samplePoints
  rw [same]
  exact inMode

theorem swept_of_timingMode {mmchost other : RetryHost}
    (same : other.host.timingMode = mmchost.host.timingMode)
    (counter : other.retryCnt = mmchost.retryCnt) : other.swept = mmchost.swept := by
  unfold swept SunxiMmcHost.retryGap
  rw [same, counter]

/-- The counter stands at some number of points, or it has gone beyond the points in a few counts
before. -/
def SweptTo (gap points start counts : Nat) (mmchost : RetryHost) : Prop :=
  InMode gap points mmchost ∧
    (mmchost.swept = start ∨ points ≤ mmchost.swept ∧ mmchost.swept < points + counts * gap)

theorem SweptTo.mono {gap points start counts : Nat} {mmchost : RetryHost}
    (swept : SweptTo gap points start counts mmchost) :
    SweptTo gap points start (counts + 1) mmchost := by
  refine ⟨swept.1, swept.2.imp id fun beyond => ⟨beyond.1, ?_⟩⟩
  rw [Nat.succ_mul]
  omega

theorem SweptTo.of_timingMode {gap points start counts : Nat} {mmchost other : RetryHost}
    (swept : SweptTo gap points start counts mmchost)
    (same : other.host.timingMode = mmchost.host.timingMode)
    (counter : other.retryCnt = mmchost.retryCnt) : SweptTo gap points start counts other := by
  refine ⟨swept.1.of_timingMode same, ?_⟩
  rw [swept_of_timingMode same counter]
  exact swept.2

theorem timingMode_leave (mmchost : RetryHost) (outcome : CallOutcome) :
    (mmchost.leave outcome).host.timingMode = mmchost.host.timingMode := by
  unfold RetryHost.leave SunxiMmcHost.setCurrent
  split_ifs <;> rfl

/-- A count moves on by the gap. -/
theorem swept_succ {mmchost other : RetryHost}
    (same : other.host.timingMode = mmchost.host.timingMode)
    (counter : other.retryCnt = mmchost.retryCnt + 1) :
    other.swept = (mmchost.swept + mmchost.host.retryGap.toNat) % 2 ^ 32 := by
  have gap : other.host.retryGap = mmchost.host.retryGap := by
    unfold SunxiMmcHost.retryGap
    rw [same]
  have wide : (mmchost.host.retryGap.setWidth 32).toNat = mmchost.host.retryGap.toNat := by
    rw [BitVec.toNat_setWidth]
    omega
  have one : (1 : U32) * mmchost.host.retryGap.setWidth 32 =
      mmchost.host.retryGap.setWidth 32 := BitVec.one_mul _
  unfold swept
  rw [gap, counter, BitVec.add_mul, one, BitVec.toNat_add, wide]

/-- There is a next point as long as the count is among the points. -/
theorem swept_lt_iff {mmchost other : RetryHost} (sdly : U8)
    (same : other.host.timingMode = mmchost.host.timingMode)
    (counter : other.retryCnt = mmchost.retryCnt + 1) :
    other.swept < mmchost.host.samplePoints.toNat ↔
      (nextSample mmchost.host.retryGap mmchost.host.samplePoints (mmchost.retryCnt + 1)
        sdly).isSome = true := by
  have gap : other.host.retryGap = mmchost.host.retryGap := by
    unfold SunxiMmcHost.retryGap
    rw [same]
  rw [nextSample_isSome, BitVec.lt_def, swept, counter, gap]

/-- A retry is decided with the next number of points only, and otherwise a count is made at
most. -/
structure Decided (gap points start counts : Nat) (outcome : Int × RetryHost) : Prop where
  retry : outcome.1 = 0 →
    start + gap < points ∧ InMode gap points outcome.2 ∧ outcome.2.swept = start + gap
  no : outcome.1 ≠ 0 → SweptTo gap points start (counts + 1) outcome.2

theorem SweptTo.decide {gap points start counts : Nat} {mmchost : RetryHost}
    (swept : SweptTo gap points start counts mmchost) (below : start < points)
    (few : counts ≤ 6) (errNo : U32) :
    Decided gap points start counts (sunxiDecideRty mmchost errNo 0) := by
  obtain ⟨⟨mode, gapIs, pointsIs⟩, place⟩ := swept
  have small : gap ≤ 8 ∧ points ≤ 64 := by
    rcases retryGap_samplePoints mmchost.host with numbers | numbers <;> omega
  have room : counts * gap ≤ 6 * 8 := Nat.mul_le_mul few small.1
  rcases after_cases mode (.decide errNo) with ⟨none, same, counter⟩ | ⟨none, same, counter, full⟩ |
    ⟨sdly, some, found, counter, same, -⟩
  · refine ⟨fun retry => absurd retry (of_decide_eq_false none), fun _ => ?_⟩
    exact (SweptTo.of_timingMode ⟨⟨mode, gapIs, pointsIs⟩, place⟩ same.1 counter).mono
  · have moved : (sunxiDecideRty mmchost errNo 0).2.swept = _ := swept_succ same.1 counter
    have notLess : ¬ (sunxiDecideRty mmchost errNo 0).2.swept < points := by
      intro less
      rw [← pointsIs] at less
      have isSome := (swept_lt_iff (mmchost.host.timing.tuned mmchost.host.slot) same.1 counter).mp
        less
      rw [full] at isSome
      exact Bool.false_ne_true isSome
    refine ⟨fun retry => absurd retry (of_decide_eq_false none), fun _ => ?_⟩
    refine ⟨InMode.of_timingMode ⟨mode, gapIs, pointsIs⟩ same.1,
      .inr ⟨Nat.le_of_not_lt notLess, ?_⟩⟩
    rw [moved, gapIs, Nat.succ_mul]
    omega
  · have moved : (sunxiDecideRty mmchost errNo 0).2.swept = _ := swept_succ same counter
    have less : (sunxiDecideRty mmchost errNo 0).2.swept < points :=
      pointsIs ▸ (swept_lt_iff _ same counter).mpr (Option.isSome_of_eq_some found)
    rw [moved, gapIs] at less
    refine ⟨fun _ => ?_, fun no => absurd (of_decide_eq_true some) no⟩
    refine ⟨?_, InMode.of_timingMode ⟨mode, gapIs, pointsIs⟩ same, ?_⟩
    · omega
    · rw [moved, gapIs]
      omega

/-- `sunxi_need_rty` decides about the last error. -/
theorem needRty_eq (mmchost : RetryHost) :
    ((sunxiNeedRty mmchost).1 = 0 ↔
      (sunxiDecideRty { mmchost with host := { mmchost.host with rawIntBak := 0 } }
        mmchost.host.rawIntBak 0).1 = 0) ∧
    (sunxiNeedRty mmchost).2 =
      (sunxiDecideRty { mmchost with host := { mmchost.host with rawIntBak := 0 } }
        mmchost.host.rawIntBak 0).2 := by
  unfold sunxiNeedRty
  dsimp only
  constructor
  · split <;> simp_all
  · rfl

end RetryHost

/-! ### The loops end -/

/-- What holds in a pass of the identification, after some decisions, and after a decision to start
again -/
structure PassInvariant (inPass : Nat → RetryHost → Prop) (retried : RetryHost → Prop) : Prop where
  mono : ∀ counts mmchost, inPass counts mmchost → inPass (counts + 1) mmchost
  leave : ∀ counts mmchost outcome, inPass counts mmchost → inPass counts (mmchost.leave outcome)
  decide : ∀ counts mmchost, counts ≤ 5 → inPass counts mmchost →
    ((sunxiNeedRty mmchost).1 = 0 → retried (sunxiNeedRty mmchost).2) ∧
      ((sunxiNeedRty mmchost).1 ≠ 0 → inPass (counts + 1) (sunxiNeedRty mmchost).2)

/-- The program always ends within its turns. -/
abbrev EndsInTime {Request Result : Type} {Reply : Request → Type}
    (program : Program Request Reply (Option Result)) : Prop :=
  Program.Always (fun _ => True) (fun _ => True) (fun result => result.isSome = true) program

namespace PassInvariant

variable {inPass : Nat → RetryHost → Prop} {retried : RetryHost → Prop} {counts : Nat}
  {mmchost : RetryHost} {again next : RetryHost → InitProgram (Option (Int × RetryHost))}
  (invariant : PassInvariant inPass retried)
include invariant

theorem ends_initCall
    {rest : CallOutcome × RetryHost → InitProgram (Option (Int × RetryHost))} (call : InitCall)
    (holds : inPass counts mmchost)
    (goesOn : ∀ outcome mmchost, inPass counts mmchost → EndsInTime (rest (outcome, mmchost))) :
    EndsInTime (initCall call mmchost >>= rest) :=
  ⟨trivial, fun outcome _ => goesOn outcome _ (invariant.leave counts mmchost outcome holds)⟩

variable (startsAgain : ∀ mmchost, retried mmchost → EndsInTime (again mmchost))
include startsAgain

theorem ends_gotoRetry (few : counts ≤ 5) (holds : inPass counts mmchost)
    (goesOn : ∀ mmchost, inPass (counts + 1) mmchost → EndsInTime (next mmchost)) (err : Int) :
    EndsInTime (gotoRetry again next err mmchost) := by
  obtain ⟨retry, no⟩ := invariant.decide counts mmchost few holds
  unfold gotoRetry
  split
  · split
    next again => exact startsAgain _ (retry again)
    next done => exact goesOn _ (no done)
  · exact goesOn _ (invariant.mono counts mmchost holds)

theorem ends_initStartup (few : counts ≤ 5) (holds : inPass counts mmchost) :
    EndsInTime (initStartup again mmchost) :=
  invariant.ends_initCall _ holds fun outcome _ holds =>
    invariant.ends_gotoRetry startsAgain few holds
      (fun mmchost _ => (Program.always_pure (some (outcome.err, mmchost))).mpr rfl) outcome.err

theorem ends_initMmc (few : counts ≤ 4) (holds : inPass counts mmchost) :
    EndsInTime (initMmc again mmchost) := by
  refine invariant.ends_initCall _ holds fun outcome mmchost holds => ?_
  have goesOn : ∀ (outcome : CallOutcome) mmchost, inPass counts mmchost →
      EndsInTime (gotoRetry again (fun mmchost =>
        if outcome.err ≠ 0 then pure (some (unusableErr, mmchost))
        else initStartup again mmchost) outcome.err mmchost) := by
    intro outcome mmchost holds
    refine invariant.ends_gotoRetry startsAgain (by omega) holds (fun mmchost holds => ?_)
      outcome.err
    split
    · exact rfl
    · exact invariant.ends_initStartup startsAgain (by omega) holds
  dsimp only
  split
  · exact invariant.ends_initCall _ holds goesOn
  · exact goesOn outcome mmchost holds

theorem ends_initSd (few : counts ≤ 2) (holds : inPass counts mmchost) :
    EndsInTime (initSd again mmchost) := by
  refine invariant.ends_initCall _ holds fun outcome mmchost holds => ?_
  refine invariant.ends_gotoRetry startsAgain (by omega) holds (fun mmchost holds => ?_) outcome.err
  split
  · exact invariant.ends_gotoRetry startsAgain (by omega) holds
      (fun mmchost holds => invariant.ends_initMmc startsAgain (by omega) holds) outcome.err
  · exact invariant.ends_initStartup startsAgain (by omega) holds

/-- In one pass the decision is made five times at most. -/
theorem ends_initPass (holds : inPass 0 mmchost) : EndsInTime (initPass again mmchost) := by
  refine invariant.ends_initCall _ holds fun outcome mmchost holds => ?_
  dsimp only
  split
  · exact rfl
  refine invariant.ends_initCall _ holds fun _ mmchost holds => ?_
  refine invariant.ends_initCall _ holds fun _ mmchost holds => ?_
  refine invariant.ends_initCall _ holds fun outcome mmchost holds => ?_
  dsimp only
  split
  · exact rfl
  refine invariant.ends_initCall _ holds fun outcome mmchost holds => ?_
  exact invariant.ends_gotoRetry startsAgain (by decide) holds
    (fun mmchost holds => invariant.ends_initSd startsAgain (by decide) holds) outcome.err

end PassInvariant

namespace RetryHost

variable {gap points : Nat} {mmchost : RetryHost}

/-- The decision after the error of the last transfer -/
theorem SweptTo.needRty {start counts : Nat} (swept : SweptTo gap points start counts mmchost)
    (below : start < points) (few : counts ≤ 6) :
    Decided gap points start counts (sunxiNeedRty mmchost) := by
  have taken : SweptTo gap points start counts
      { mmchost with host := { mmchost.host with rawIntBak := 0 } } :=
    swept.of_timingMode rfl rfl
  have decided := taken.decide below few mmchost.host.rawIntBak
  obtain ⟨same, left⟩ := needRty_eq mmchost
  refine ⟨fun retry => ?_, fun no => ?_⟩
  · rw [left]
    exact decided.retry (same.mp retry)
  · rw [left]
    exact decided.no fun retry => no (same.mpr retry)

/-- From a number of points on -/
theorem passInvariant_swept {start : Nat} (below : start < points) :
    PassInvariant (SweptTo gap points start) fun mmchost =>
      start + gap < points ∧ InMode gap points mmchost ∧ mmchost.swept = start + gap where
  mono _ _ swept := swept.mono
  leave _ mmchost outcome swept := swept.of_timingMode (timingMode_leave mmchost outcome) rfl
  decide _ _ few swept :=
    have decided := swept.needRty below (Nat.le_succ_of_le few)
    ⟨decided.retry, decided.no⟩

/-- Wherever the counter stands, a retry is decided among the points only. -/
theorem InMode.decide (inMode : InMode gap points mmchost) (errNo : U32) :
    InMode gap points (sunxiDecideRty mmchost errNo 0).2 ∧
      ((sunxiDecideRty mmchost errNo 0).1 = 0 →
        (sunxiDecideRty mmchost errNo 0).2.swept < points) := by
  refine ⟨inMode.of_timingMode (timingMode_after inMode.1 (.decide errNo)), fun retry => ?_⟩
  rcases after_cases inMode.1 (.decide errNo) with ⟨none, -⟩ | ⟨none, -⟩ |
    ⟨sdly, -, found, counter, same, -⟩
  · exact absurd retry (of_decide_eq_false none)
  · exact absurd retry (of_decide_eq_false none)
  · exact inMode.2.2 ▸ (swept_lt_iff _ same counter).mpr (Option.isSome_of_eq_some found)

theorem passInvariant_inMode :
    PassInvariant (fun _ => InMode gap points) fun mmchost =>
      InMode gap points mmchost ∧ mmchost.swept < points where
  mono _ _ inMode := inMode
  leave _ mmchost outcome inMode := inMode.of_timingMode (timingMode_leave mmchost outcome)
  decide _ mmchost _ inMode := by
    have taken : InMode gap points
        { mmchost with host := { mmchost.host with rawIntBak := 0 } } := inMode.of_timingMode rfl
    have decided := taken.decide mmchost.host.rawIntBak
    obtain ⟨same, left⟩ := needRty_eq mmchost
    rw [left]
    exact ⟨fun retry => ⟨decided.1, decided.2 (same.mp retry)⟩, fun _ => decided.1⟩

/-- From a number of points on there are as many passes left as there are gaps. -/
theorem ends_mmcInitProduct_of_swept (turns : Nat) (inMode : InMode gap points mmchost)
    (below : mmchost.swept < points) (enough : points ≤ mmchost.swept + turns * gap) :
    EndsInTime (mmcInitProduct turns mmchost) := by
  induction turns generalizing mmchost with
  | zero => omega
  | succ turns inductionHypothesis =>
    refine (passInvariant_swept below).ends_initPass (fun mmchost' retried => ?_)
      ⟨inMode, .inl rfl⟩
    obtain ⟨further, inMode, swept⟩ := retried
    refine inductionHypothesis inMode (swept ▸ further) ?_
    rw [swept, Nat.add_assoc, Nat.add_comm gap, ← Nat.succ_mul]
    exact enough

/-- Wherever the counter stands, the identification ends, with one pass more. -/
theorem ends_mmcInitProduct {turns : Nat} (inMode : InMode gap points mmchost)
    (enough : points ≤ turns * gap) : EndsInTime (mmcInitProduct (turns + 1) mmchost) := by
  refine passInvariant_inMode.ends_initPass (fun mmchost' retried => ?_) inMode
  exact ends_mmcInitProduct_of_swept turns retried.1 retried.2
    (Nat.le_trans enough (Nat.le_add_left _ _))

/-! ### The test of a frequency -/

/-- One write and read of the pattern, and the decision -/
theorem ends_writeTuningTryFreq_succ {turns : Nat} (inMode : InMode gap points mmchost)
    (goesOn : ∀ other : RetryHost, other.swept = mmchost.swept ∧ InMode gap points other →
      ∀ errNo, (sunxiDecideRty other errNo 0).1 = 0 →
        EndsInTime (writeTuningTryFreq turns (sunxiDecideRty other errNo 0).2)) :
    EndsInTime (writeTuningTryFreq (turns + 1) mmchost) := by
  refine ⟨trivial, fun outcome _ => ?_⟩
  have decides : ∀ other : RetryHost, other.host.timingMode = mmchost.host.timingMode →
      other.retryCnt = mmchost.retryCnt → ∀ errNo, EndsInTime
        (if (sunxiDecideRty other errNo 0).1 = 0 then
          writeTuningTryFreq turns (sunxiDecideRty other errNo 0).2
        else return some (-1, (sunxiDecideRty other errNo 0).2)) := by
    intro other same counter errNo
    split
    next retry =>
      exact goesOn other ⟨swept_of_timingMode same counter, inMode.of_timingMode same⟩ errNo retry
    next => exact rfl
  cases outcome with
  | ok outcome => exact rfl
  | transferFails outcome stop =>
    refine decides (RetryHost.leave { mmchost.leave outcome with
      host := { (mmchost.leave outcome).host with rawIntBak := 0 } } stop) ?_ rfl
      (mmchost.leave outcome).host.rawIntBak
    exact (timingMode_leave _ stop).trans (timingMode_leave mmchost outcome)
  | compareFails outcome =>
    exact decides _ (timingMode_leave mmchost outcome) rfl 0xffffffff

theorem ends_writeTuningTryFreq_of_swept (turns : Nat) (inMode : InMode gap points mmchost)
    (below : mmchost.swept < points) (enough : points ≤ mmchost.swept + turns * gap) :
    EndsInTime (writeTuningTryFreq turns mmchost) := by
  induction turns generalizing mmchost with
  | zero => omega
  | succ turns inductionHypothesis =>
    refine ends_writeTuningTryFreq_succ inMode fun other same errNo retry => ?_
    have swept : SweptTo gap points mmchost.swept 0 other := ⟨same.2, .inl same.1⟩
    have decided := swept.decide below (by decide) errNo
    obtain ⟨further, inMode, swept⟩ := decided.retry retry
    refine inductionHypothesis inMode (swept ▸ further) ?_
    rw [swept, Nat.add_assoc, Nat.add_comm gap, ← Nat.succ_mul]
    exact enough

/-- Wherever the counter stands, the test ends, with one turn more. -/
theorem ends_writeTuningTryFreq {turns : Nat} (inMode : InMode gap points mmchost)
    (enough : points ≤ turns * gap) : EndsInTime (writeTuningTryFreq (turns + 1) mmchost) := by
  refine ends_writeTuningTryFreq_succ inMode fun other same errNo retry => ?_
  have decided := InMode.decide same.2 errNo
  exact ends_writeTuningTryFreq_of_swept turns decided.1 (decided.2 retry)
    (Nat.le_trans enough (Nat.le_add_left _ _))

end RetryHost

/-! ### The loops and the decisions -/

/-- Whatever the card answers, the loops end within nine passes. From a reset of the counter on, all
is well as long as each entry that is moved on can be; and if the current entry cannot, there are
errors with which it is not. -/
theorem sunxiDecideRty_retries {mmchost : RetryHost} (mode : HasTimingMode mmchost.host) :
    EndsInTime (mmcInitProduct 9 mmchost) ∧ EndsInTime (writeTuningTryFreq 9 mmchost) ∧
      (mmchost.retryCnt = 0 →
        (∀ events : List RetryEvent, events.length * mmchost.host.retryGap.toNat < 2 ^ 32 →
          Along RetryHost.after RetryHost.MovesWell mmchost events → mmchost.RetriesWell events) ∧
        ((∀ errs : List U32, errs.length * mmchost.host.retryGap.toNat < 2 ^ 32 →
          mmchost.RetriesWell (errs.map .decide)) ↔
          mmchost.host.Sweepable mmchost.host.slot)) ∧
      ∀ (trace : List (Exchange HostRequest HostRequest.Reply)) (after : SunxiMmcHost),
        Program.Run (mmcConfigDelay mmchost.host) trace after →
        ∃ value, (∃ exchange ∈ trace, exchange.request = .writel value mmchost.host.delayReg) ∧
          mmchost.host.delayField value = mmchost.host.written mmchost.host.slot := by
  have enough : mmchost.host.samplePoints.toNat ≤ 8 * mmchost.host.retryGap.toNat := by
    rcases retryGap_samplePoints mmchost.host with ⟨gap, points⟩ | ⟨gap, points⟩ <;> omega
  have inMode : RetryHost.InMode mmchost.host.retryGap.toNat mmchost.host.samplePoints.toNat
      mmchost := ⟨mode, rfl, rfl⟩
  refine ⟨RetryHost.ends_mmcInitProduct inMode enough,
    RetryHost.ends_writeTuningTryFreq inMode enough, fun reset => ⟨?_, ?_⟩, ?_⟩
  · exact fun events few along => RetryHost.retriesWell_of_along mode reset few along
  · exact RetryHost.retriesWell_errors_iff mode reset
  · exact fun trace after written => run_mmcConfigDelay mode written

/-- The first controller, with the default delays of 400 kHz -/
def cardSlotHost : RetryHost where
  host := { emmcHost with
    mmcNo := 0
    timingMode := sunxiMmcTimingMode1
    tm1 := { noDelays with defOdly := fun _ => 1, defSdly := fun _ => 1 } }
  retryCnt := 0

/-- The controller of the eMMC, tuned to point 31 at 50 MHz and to point 63 at 100 MHz -/
def tunedHost : RetryHost where
  host := { emmcHost with
    tm4 := { noDelays with
      curSpdMd := hsddr52Ddr50
      curFreq := 2
      sdly := Function.update (Function.update noDelays.sdly (delayIndex hsddr52Ddr50 2) 31)
        (delayIndex hsddr52Ddr50 3) 63
      defSdly := fun _ => 7 } }
  retryCnt := 0

/-- Three errors of the data: the points go up in steps of eight, from the one that was tuned. -/
theorem sunxiDecideRty_retries_tuned :
    EndsInTime (mmcInitProduct 9 tunedHost) ∧ EndsInTime (writeTuningTryFreq 9 tunedHost) ∧
      tunedHost.RetriesWell [.decide (bit 7), .decide (bit 7), .decide (bit 9)] ∧
      tunedHost.tried tunedHost.host.slot [.decide (bit 7), .decide (bit 7), .decide (bit 9)] =
        [31, 39, 47, 55] := by
  have mode : HasTimingMode tunedHost.host := by decide
  obtain ⟨initEnds, tuningEnds, fromReset, -⟩ := sunxiDecideRty_retries mode
  have sweepable : tunedHost.host.Sweepable tunedHost.host.slot :=
    ⟨fun first => absurd first (by decide), fun mark => absurd mark (by decide)⟩
  have well := (fromReset rfl).2.mpr sweepable [bit 7, bit 7, bit 9] (by decide)
  exact ⟨initEnds, tuningEnds, well, by decide⟩

/-- After two errors of the data a third point is written that the mode does not have. -/
theorem not_retriesWell :
    ¬∀ (mmchost : RetryHost) (errs : List U32), HasTimingMode mmchost.host →
      mmchost.retryCnt = 0 → mmchost.RetriesWell (errs.map .decide) := by
  intro all
  have well := all cardSlotHost [bit 7, bit 7] (by decide) rfl
  have inside := well.inside (false, 0) (by decide) 3 (by decide)
  exact absurd inside (by decide)

end PinePhonePkg
