/-
This file follows the identification of an MMC. It is polled twice by
`mmc_start_init`, the first time without an announcement, and if it is not ready
then by `mmc_complete_init`.
-/

import PinePhonePkg.Start.IdentCard

namespace PinePhonePkg

open Library Program

/-! ### Polling an MMC -/

section PollMmc

variable {card : IdentCard} {fates : Nat → Fate} {sectorMode : Bool} {mmc : StartMmc}

/-- The first poll announces nothing. -/
theorem mmcSendOpCondCmd_silent : (mmcSendOpCondCmd mmc false).announces = false := by
  have silent : (mmcSendOpCondCmd mmc false).cmdarg = 0 := rfl
  unfold MmcCmd.announces
  rw [silent]
  decide

theorem mmcSendOpCondCmd_announces (supports : mmc.cfg.hostCaps &&& mmcModeHc ≠ 0) :
    (mmcSendOpCondCmd mmc true).announces = true := by
  have absorbed (word : U32) : (word ||| ocrHcs) &&& ocrHcs = ocrHcs := by
    refine BitVec.eq_of_getLsbD_eq fun index _ => ?_
    rw [BitVec.getLsbD_and, BitVec.getLsbD_or]
    cases ocrHcs.getLsbD index with
    | true => rw [Bool.or_true, Bool.and_true]
    | false => rw [Bool.and_false]
  unfold MmcCmd.announces mmcSendOpCondCmd
  dsimp only
  rw [if_pos rfl, if_pos supports, absorbed]
  decide

/-- What is announced in this turn -/
theorem mmcSendOpCondCmd_announces_eq (supports : mmc.cfg.hostCaps &&& mmcModeHc ≠ 0)
    (useArg : Bool) : (mmcSendOpCondCmd mmc useArg).announces = useArg := by
  cases useArg with
  | true => exact mmcSendOpCondCmd_announces supports
  | false => exact mmcSendOpCondCmd_silent

/-- A poll that is heard tells OCR. -/
theorem exec_mmcSendOpCondIter_heard (family : card.family = .mmc sectorMode)
    (supports : mmc.cfg.hostCaps &&& mmcModeHc ≠ 0) (useArg : Bool) {bench : Bench}
    (heard : fates bench.sent = .heard) :
    (mmcSendOpCondIter mmc useArg).exec (serveIdent card fates) bench =
      ((0, { mmc with opCondResponse := card.ocr useArg bench.state.polled }),
        ⟨bench.sent + 1, ⟨bench.state.polled + 1, false⟩⟩) := by
  have answered : card.answer (mmcSendOpCondCmd mmc useArg) bench.state =
      some (card.ocr useArg bench.state.polled, ⟨bench.state.polled + 1, false⟩) := by
    have notSd : ¬card.family.isSd := by
      rw [family]
      exact Bool.false_ne_true
    refine (if_neg notSd).trans ?_
    rw [mmcSendOpCondCmd_announces_eq supports]
  unfold mmcSendOpCondIter
  rw [exec_bind, exec_heard heard answered, if_neg (not_not.mpr rfl)]
  rfl

/-- The card is taken for an MMC, addressed as it has told. -/
structure TakenForMmc (byBlocks : Bool) (left : StartMmc) : Prop where
  version : left.version = mmcVersionUnknown
  highCapacity : left.highCapacity = byBlocks
  rca : left.rca = 1
  notPending : left.opCondPending = 0

theorem takenForMmc_of_ready (announced : Bool) {polled : Nat} (ready : card.polls ≤ polled)
    (response : mmc.opCondResponse = card.ocr announced polled) (done : mmc.opCondPending = 0) :
    TakenForMmc (card.family.byBlocks && announced) mmc.takeMmcOcr := by
  refine ⟨rfl, ?_, rfl, done⟩
  show (mmc.opCondResponse &&& ocrHcs == ocrHcs) = _
  rw [response]
  exact ocr_hcs card announced ready

/-- The polls that are left are heard, and the timeout is long enough for them. -/
def MmcReady (card : IdentCard) (fates : Nat → Fate) (bench : Bench) (timeout : Nat) : Prop :=
  card.polls - bench.state.polled < timeout ∧
    Heard fates bench.sent (card.polls - bench.state.polled + 1)

theorem mmcReady_succ_iff {bench : Bench} {timeout : Nat}
    (notReady : ¬card.polls ≤ bench.state.polled) :
    MmcReady card fates bench (timeout + 1) ↔ fates bench.sent = .heard ∧
      MmcReady card fates ⟨bench.sent + 1, ⟨bench.state.polled + 1, false⟩⟩ timeout := by
  obtain ⟨rest, left⟩ : ∃ rest, card.polls - bench.state.polled = rest + 1 :=
    Nat.exists_eq_succ_of_ne_zero (Nat.sub_ne_zero_of_lt (Nat.lt_of_not_le notReady))
  have next : card.polls - (bench.state.polled + 1) = rest := by omega
  unfold MmcReady
  rw [left, next, Nat.add_lt_add_iff_right, heard_succ_iff]
  exact and_left_comm

/-- A poll that is not heard ends the loop. -/
theorem mmcTurn_failed (timeout : Nat) {bench : Bench} (failed : fates bench.sent ≠ .heard) :
    ((mmcCompleteOpCondLoop mmc timeout).exec (serveIdent card fates) bench).1.1 = -1 := by
  obtain ⟨after, lost⟩ := @exec_mmcSendOpCondIter_failed card fates true mmc bench fun heard =>
    absurd heard failed
  unfold mmcCompleteOpCondLoop
  rw [exec_bind, lost]
  rfl

/-- The loop ends well if the polls that are needed are heard and do not take too long. -/
theorem exec_mmcCompleteOpCondLoop (family : card.family = .mmc sectorMode)
    (supports : mmc.cfg.hostCaps &&& mmcModeHc ≠ 0) (done : mmc.opCondPending = 0) (timeout : Nat)
    (bench : Bench) :
    (MmcReady card fates bench timeout → ∃ left,
        ((mmcCompleteOpCondLoop mmc timeout).exec (serveIdent card fates) bench).1 = (0, left) ∧
          TakenForMmc card.family.byBlocks left) ∧
      (¬MmcReady card fates bench timeout →
        ((mmcCompleteOpCondLoop mmc timeout).exec (serveIdent card fates) bench).1.1 ∈
          [-1, unusableErr]) := by
  induction timeout generalizing mmc bench with
  | zero =>
    refine ⟨fun ready => absurd ready.1 (Nat.not_lt_zero _), fun _ => ?_⟩
    by_cases heard : fates bench.sent = .heard
    · unfold mmcCompleteOpCondLoop
      rw [exec_bind, exec_mmcSendOpCondIter_heard family supports true heard]
      exact List.mem_cons_of_mem _ List.mem_cons_self
    · rw [mmcTurn_failed 0 heard]
      exact List.mem_cons_self
  | succ timeout inductionHypothesis =>
    by_cases heard : fates bench.sent = .heard
    · let polled : StartMmc :=
        { mmc with opCondResponse := card.ocr true bench.state.polled }
      have turn : (mmcCompleteOpCondLoop mmc (timeout + 1)).exec (serveIdent card fates) bench =
          (if polled.opCondResponse &&& ocrBusy ≠ 0 then pure (0, polled.takeMmcOcr)
            else mmcCompleteOpCondLoop polled timeout : StartDriver (Int × StartMmc)).exec
              (serveIdent card fates) ⟨bench.sent + 1, ⟨bench.state.polled + 1, false⟩⟩ := by
        rw [mmcCompleteOpCondLoop, exec_bind,
          exec_mmcSendOpCondIter_heard family supports true heard]
        rfl
      have busy : polled.opCondResponse &&& ocrBusy ≠ 0 ↔ card.polls ≤ bench.state.polled :=
        ocr_busy_iff card true
      rw [turn]
      by_cases ready : card.polls ≤ bench.state.polled
      · rw [if_pos (busy.mpr ready)]
        have taken := takenForMmc_of_ready true ready (show polled.opCondResponse = _ from rfl) done
        rw [Bool.and_true] at taken
        refine ⟨fun _ => ⟨_, rfl, taken⟩, fun notReady => absurd ⟨?_, ?_⟩ notReady⟩
        · omega
        · rw [Nat.sub_eq_zero_of_le ready]
          exact fun index first => Nat.lt_one_iff.mp first ▸ heard
      · rw [if_neg fun given => ready (busy.mp given)]
        have rest := @inductionHypothesis polled supports done
          ⟨bench.sent + 1, ⟨bench.state.polled + 1, false⟩⟩
        rw [mmcReady_succ_iff ready, and_iff_right heard]
        exact rest
    · rw [mmcTurn_failed _ heard]
      exact ⟨fun ready => absurd (ready.2 0 (Nat.succ_pos _)) heard, fun _ => List.mem_cons_self⟩

end PollMmc

/-! ### Trying an MMC -/

section TryMmc

variable {card : IdentCard} {fates : Nat → Fate} {sectorMode : Bool} {mmc : StartMmc}
  {platform : StartPlatform}

/-- The state of a card behind a command that is no poll of it -/
theorem exec_mmcGoIdle (bench : Bench) (fresh : bench.state.polled = 0) :
    ∃ err state, mmcGoIdle.exec (serveIdent card fates) bench = (err, ⟨bench.sent + 1, state⟩) ∧
      state.polled = 0 := by
  unfold mmcGoIdle
  rw [exec_bind]
  by_cases heard : fates bench.sent = .heard
  · rw [@exec_heard card fates goIdleCmd bench _ _ heard rfl]
    exact ⟨_, _, rfl, rfl⟩
  · obtain ⟨state, lost, after⟩ := @exec_failed card fates goIdleCmd bench fun given =>
      absurd given heard
    rw [lost]
    refine ⟨_, _, rfl, ?_⟩
    rcases after with rfl | ⟨response, reset⟩
    · exact fresh
    · obtain rfl := congrArg Prod.snd (Option.some.inj reset)
      rfl

/-- A poll of `mmc_send_op_cond` that is not heard -/
theorem sendOpCondTurn_failed (useArg : Bool) (turns : List Bool) {bench : Bench}
    (failed : fates bench.sent ≠ .heard) :
    ((mmcSendOpCondLoop mmc (useArg :: turns)).exec (serveIdent card fates) bench).1.1 = -1 := by
  obtain ⟨after, lost⟩ := @exec_mmcSendOpCondIter_failed card fates useArg mmc bench fun heard =>
    absurd heard failed
  unfold mmcSendOpCondLoop
  rw [exec_bind, lost]
  rfl

/-- A poll of `mmc_send_op_cond` that is heard -/
theorem sendOpCondTurn_heard (family : card.family = .mmc sectorMode)
    (supports : mmc.cfg.hostCaps &&& mmcModeHc ≠ 0) (useArg : Bool) (turns : List Bool)
    {bench : Bench} (heard : fates bench.sent = .heard) :
    (mmcSendOpCondLoop mmc (useArg :: turns)).exec (serveIdent card fates) bench =
      let polled := { mmc with opCondResponse := card.ocr useArg bench.state.polled }
      let after : Bench := ⟨bench.sent + 1, ⟨bench.state.polled + 1, false⟩⟩
      if card.polls ≤ bench.state.polled then
        ((0, { polled with opCondPending := 0 }.takeMmcOcr), after)
      else (mmcSendOpCondLoop polled turns).exec (serveIdent card fates) after := by
  have busy := @ocr_busy_iff card useArg bench.state.polled
  rw [mmcSendOpCondLoop, exec_bind,
    exec_mmcSendOpCondIter_heard family supports useArg heard]
  dsimp only
  rw [if_neg (not_not.mpr rfl), exec_ite]
  by_cases ready : card.polls ≤ bench.state.polled
  · rw [if_pos ready, if_pos (busy.mpr ready)]
    rfl
  · rw [if_neg ready, if_neg fun given => ready (busy.mp given)]

/-- The two polls of `mmc_send_op_cond`: a card that is ready behind one poll at most is taken, and
any other is waited for. -/
theorem exec_mmcSendOpCondLoop (family : card.family = .mmc sectorMode)
    (supports : mmc.cfg.hostCaps &&& mmcModeHc ≠ 0) (bench : Bench)
    (fresh : bench.state.polled = 0) :
    (Heard fates bench.sent (min card.polls 1 + 1) →
      if card.polls ≤ 1 then
        ∃ left, ((mmcSendOpCondLoop mmc [false, true]).exec (serveIdent card fates) bench).1 =
            (0, left) ∧ TakenForMmc (card.family.byBlocks && decide (card.polls ≠ 0)) left
      else
        ∃ left, (mmcSendOpCondLoop mmc [false, true]).exec (serveIdent card fates) bench =
            ((inProgress, left), ⟨bench.sent + 2, ⟨2, false⟩⟩) ∧
          left.opCondPending = mmc.opCondPending ∧ left.cfg = mmc.cfg) ∧
      (¬Heard fates bench.sent (min card.polls 1 + 1) →
        ((mmcSendOpCondLoop mmc [false, true]).exec (serveIdent card fates) bench).1.1 = -1) := by
  by_cases first : fates bench.sent = .heard
  · have turn := @sendOpCondTurn_heard card fates sectorMode mmc family supports false [true] bench
      first
    dsimp only at turn
    rw [fresh] at turn
    by_cases once : card.polls ≤ 0
    · rw [if_pos once] at turn
      have heard : Heard fates bench.sent (min card.polls 1 + 1) := by
        intro index below
        have zero : index = 0 := by omega
        exact zero ▸ first
      refine ⟨fun _ => ?_, fun failed => absurd heard failed⟩
      rw [if_pos (Nat.le_trans once (Nat.zero_le 1)), turn, decide_eq_false (not_not.mpr
        (Nat.le_zero.mp once))]
      exact ⟨_, rfl, takenForMmc_of_ready false once rfl rfl⟩
    · rw [if_neg once] at turn
      have both : Heard fates bench.sent (min card.polls 1 + 1) ↔
          fates (bench.sent + 1) = .heard := by
        rw [show min card.polls 1 + 1 = 2 by omega, heard_succ_iff, heard_succ_iff,
          and_iff_right first]
        exact and_iff_left fun index none => absurd none (Nat.not_lt_zero _)
      rw [turn, both]
      by_cases second : fates (bench.sent + 1) = .heard
      · have again := @sendOpCondTurn_heard card fates sectorMode
          { mmc with opCondResponse := card.ocr false 0 } family (by exact supports) true []
          ⟨bench.sent + 1, ⟨1, false⟩⟩ second
        dsimp only at again
        refine ⟨fun _ => ?_, fun failed => absurd second failed⟩
        rw [again]
        by_cases twice : card.polls ≤ 1
        · rw [if_pos twice, if_pos twice, decide_eq_true (by omega : card.polls ≠ 0)]
          exact ⟨_, rfl, takenForMmc_of_ready true twice rfl rfl⟩
        · rw [if_neg twice, if_neg twice]
          exact ⟨_, rfl, rfl, rfl⟩
      · refine ⟨fun given => absurd given second, fun _ => ?_⟩
        exact sendOpCondTurn_failed true [] second
  · refine ⟨fun heard => absurd (heard 0 (Nat.succ_pos _)) first, fun _ => ?_⟩
    exact sendOpCondTurn_failed false [true] first

theorem exec_tryMmc (family : card.family = .mmc sectorMode)
    (supports : mmc.cfg.hostCaps &&& mmcModeHc ≠ 0) (bench : Bench)
    (fresh : bench.state.polled = 0) :
    (Heard fates (bench.sent + 1) (min card.polls 1 + 1) →
      if card.polls ≤ 1 then
        ∃ left, ((tryMmc mmc).exec (serveIdent card fates) bench).1 = (0, left) ∧
          TakenForMmc (card.family.byBlocks && decide (card.polls ≠ 0)) left
      else
        ∃ left, (tryMmc mmc).exec (serveIdent card fates) bench =
            ((inProgress, left), ⟨bench.sent + 3, ⟨2, false⟩⟩) ∧
          left.opCondPending = 1 ∧ left.cfg = mmc.cfg) ∧
      (¬Heard fates (bench.sent + 1) (min card.polls 1 + 1) →
        ((tryMmc mmc).exec (serveIdent card fates) bench).1.1 = unusableErr) := by
  obtain ⟨err, state, idle, polled⟩ := @exec_mmcGoIdle card fates bench fresh
  obtain ⟨heard, failed⟩ := @exec_mmcSendOpCondLoop card fates sectorMode
    { mmc with opCondPending := 1 } family (by exact supports) ⟨bench.sent + 1, state⟩ polled
  have whole : (tryMmc mmc).exec (serveIdent card fates) bench =
      (unlessInProgress ((mmcSendOpCondLoop { mmc with opCondPending := 1 } [false, true]).exec
          (serveIdent card fates) ⟨bench.sent + 1, state⟩).1,
        ((mmcSendOpCondLoop { mmc with opCondPending := 1 } [false, true]).exec
          (serveIdent card fates) ⟨bench.sent + 1, state⟩).2) := by
    unfold tryMmc mmcSendOpCond
    rw [exec_bind, exec_bind, idle]
    rfl
  rw [whole]
  refine ⟨fun given => ?_, fun given => ?_⟩
  · have polls := heard given
    by_cases early : card.polls ≤ 1
    · rw [if_pos early] at polls ⊢
      obtain ⟨left, ends, taken⟩ := polls
      refine ⟨left, ?_, taken⟩
      rw [ends]
      rfl
    · rw [if_neg early] at polls ⊢
      obtain ⟨left, ends, pending, cfg⟩ := polls
      refine ⟨left, ?_, pending, cfg⟩
      rw [ends]
      rfl
  · have error := failed given
    unfold unlessInProgress
    rw [error, if_pos (by decide)]

/-- An MMC answers neither CMD8 nor CMD55. -/
theorem exec_trySd_mmc (family : card.family = .mmc sectorMode) (bench : Bench) :
    ∃ state, (trySd mmc).exec (serveIdent card fates) bench =
      ((-1, mmc), ⟨bench.sent + 2, state⟩) ∧ state.polled = bench.state.polled := by
  have other (highCapacity : Bool) : card.family ≠ .sdV2 highCapacity := by
    rw [family]
    exact fun same => CardFamily.noConfusion same
  have notSd : ¬card.family.isSd := by
    rw [family]
    exact Bool.false_ne_true
  obtain ⟨err, state, asked, polled⟩ := @exec_mmcSendIfCond card fates mmc bench
  have unchanged : card.asked (fates bench.sent) mmc = mmc := by
    unfold IdentCard.asked
    rw [(answer_sendIfCond_none other mmc state).2]
    exact if_neg Bool.false_ne_true
  rw [unchanged] at asked
  have silent : card.answer sdAppCmd state = none := if_neg notSd
  obtain ⟨last, lost, after⟩ := @exec_failed card fates sdAppCmd ⟨bench.sent + 1, state⟩ fun _ =>
    silent
  refine ⟨last, ?_, ?_⟩
  · unfold trySd sdSendOpCond
    rw [exec_bind, asked]
    dsimp only
    rw [sdSendOpCondLoop, exec_bind, lost]
    rfl
  · rcases after with rfl | ⟨response, told⟩
    · exact polled
    · exact absurd (silent.symm.trans told).symm (Option.some_ne_none _)

/-- The command that carries the first poll of an MMC -/
def StartPlatform.firstPoll (platform : StartPlatform) : Nat :=
  if platform.workMode = workModeBoot ∧ platform.cardType = cardTypeMmc then 2 else 4

theorem exec_tryCard_mmc (family : card.family = .mmc sectorMode) :
    (platform.tries false → ∃ bench, bench.sent + 1 = platform.firstPoll ∧
        bench.state.polled = 0 ∧
        (tryCard platform mmc).exec (serveIdent card fates) ⟨1, ⟨0, false⟩⟩ =
          (tryMmc mmc).exec (serveIdent card fates) bench) ∧
      (¬platform.tries false →
        ((tryCard platform mmc).exec (serveIdent card fates) ⟨1, ⟨0, false⟩⟩).1.1 =
          unusableErr) := by
  obtain ⟨state, silent, polled⟩ := @exec_trySd_mmc card fates sectorMode mmc family
    ⟨1, ⟨0, false⟩⟩
  have both : (trySdThenMmc mmc).exec (serveIdent card fates) ⟨1, ⟨0, false⟩⟩ =
      (tryMmc mmc).exec (serveIdent card fates) ⟨3, state⟩ := by
    unfold trySdThenMmc
    rw [exec_bind, silent]
    rfl
  unfold tryCard StartPlatform.tries StartPlatform.firstPoll
  by_cases boot : platform.workMode = workModeBoot
  · rw [if_pos boot, if_pos boot]
    by_cases recordedSd : platform.cardType = cardTypeSd
    · rw [if_pos recordedSd, if_pos recordedSd]
      refine ⟨fun given => absurd given Bool.false_ne_true, fun _ => ?_⟩
      unfold trySdOnly
      rw [exec_bind, silent]
      rfl
    · rw [if_neg recordedSd, if_neg recordedSd]
      by_cases recordedMmc : platform.cardType = cardTypeMmc
      · rw [if_pos recordedMmc, if_pos recordedMmc, if_pos ⟨boot, recordedMmc⟩]
        exact ⟨fun _ => ⟨⟨1, ⟨0, false⟩⟩, rfl, rfl, rfl⟩, fun untried => absurd rfl untried⟩
      · rw [if_neg recordedMmc, if_neg recordedMmc, if_neg fun given => recordedMmc given.2]
        exact ⟨fun _ => ⟨⟨3, state⟩, rfl, polled, both⟩, fun untried => absurd rfl untried⟩
  · rw [if_neg boot, if_neg boot, if_neg fun given => boot given.1]
    exact ⟨fun _ => ⟨⟨3, state⟩, rfl, polled, both⟩, fun untried => absurd rfl untried⟩

end TryMmc

/-! ### An MMC -/

section IdentifyMmc

variable {card : IdentCard} {fates : Nat → Fate} {platform : StartPlatform} {mmc : StartMmc}
  {sectorMode : Bool}

/-- What has to go well for an MMC to be accepted: its family is tried, the reset and the polls are
heard, and it is ready in time -/
structure MmcGoes (platform : StartPlatform) (card : IdentCard) (fates : Nat → Fate) : Prop where
  present : platform.Present
  tried : platform.tries false
  reset : fates 0 = .heard
  timely : card.polls ≤ 1001
  polls : Heard fates platform.firstPoll (card.polls + 1)

/-- The polls of `mmc_send_op_cond` and those of `mmc_complete_op_cond` behind them -/
theorem heard_polls_iff (start : Nat) (late : ¬card.polls ≤ 1) (first : Heard fates start 2) :
    Heard fates start (card.polls + 1) ↔ Heard fates (start + 2) (card.polls - 2 + 1) := by
  have count : card.polls + 1 = card.polls - 2 + 1 + 1 + 1 := by omega
  have zero : fates start = .heard := first 0 (by decide)
  rw [count, heard_succ_iff, heard_succ_iff, and_iff_right zero,
    and_iff_right (first 1 (by decide))]

/-- What follows on a card that is waited for -/
theorem exec_completeOpCondStep_mmc (family : card.family = .mmc sectorMode)
    (supports : mmc.cfg.hostCaps &&& mmcModeHc ≠ 0) (pending : mmc.opCondPending = 1)
    (bench : Bench) :
    (MmcReady card fates bench 1000 → ∃ left,
        ((completeOpCondStep mmc).exec (serveIdent card fates) bench).1 = (0, left) ∧
          TakenForMmc card.family.byBlocks left) ∧
      (¬MmcReady card fates bench 1000 →
        ((completeOpCondStep mmc).exec (serveIdent card fates) bench).1.1 ∈
          [-1, unusableErr]) := by
  have waits : mmc.opCondPending ≠ 0 := by
    rw [pending]
    decide
  unfold completeOpCondStep mmcCompleteOpCond
  rw [if_pos waits, if_neg waits]
  exact @exec_mmcCompleteOpCondLoop card fates sectorMode { mmc with opCondPending := 0 } family
    (by exact supports) rfl 1000 bench

theorem exec_completeOpCondStep_done (done : mmc.opCondPending = 0) (bench : Bench) :
    ((completeOpCondStep mmc).exec (serveIdent card fates) bench).1 = (0, mmc) := by
  unfold completeOpCondStep
  rw [if_neg (not_not.mpr done)]
  rfl

theorem identified_mmc (family : card.family = .mmc sectorMode)
    (startable : Startable platform mmc) (state : IdentState) :
    (MmcGoes platform card fates → ∃ left,
        identified platform card fates state mmc = (0, left) ∧
          TakenForMmc (card.family.byBlocks && decide (card.polls ≠ 0)) left) ∧
      (¬MmcGoes platform card fates →
        (identified platform card fates state mmc).1 ≠ 0) := by
  have supports : mmc.reset.cfg.hostCaps &&& mmcModeHc ≠ 0 := startable.supports
  by_cases present : platform.Present
  · obtain ⟨heard, lost⟩ := @exec_resetAndTry card fates platform mmc ⟨0, state⟩
    rw [← mmcStartInit_present startable present] at heard lost
    by_cases reset : fates 0 = .heard
    · have started := heard reset
      obtain ⟨tries, refuses⟩ := @exec_tryCard_mmc card fates sectorMode mmc.reset platform family
      by_cases tried : platform.tries false
      · obtain ⟨bench, sent, fresh, same⟩ := tries tried
        obtain ⟨polled, unheard⟩ := @exec_tryMmc card fates sectorMode mmc.reset family supports
          bench fresh
        rw [same] at started
        rw [sent] at polled unheard
        by_cases first : Heard fates platform.firstPoll (min card.polls 1 + 1)
        · have result := polled first
          by_cases early : card.polls ≤ 1
          · rw [if_pos early] at result
            obtain ⟨left, ends, taken⟩ := result
            rw [Nat.min_eq_left early] at first
            refine ⟨fun _ => ⟨left, ?_, taken⟩, fun stops => absurd
              ⟨present, tried, reset, Nat.le_trans early (by decide), first⟩ stops⟩
            rw [exec_identify, started, ends]
            exact exec_completeOpCondStep_done taken.notPending _
          · rw [if_neg early] at result
            obtain ⟨left, ends, pending, cfg⟩ := result
            rw [Nat.min_eq_right (by omega)] at first
            have waits := @exec_completeOpCondStep_mmc card fates { left with initInProgress := 1 }
              sectorMode family (cfg ▸ supports) pending ⟨bench.sent + 3, ⟨2, false⟩⟩
            have goes : MmcGoes platform card fates ↔
                MmcReady card fates ⟨bench.sent + 3, ⟨2, false⟩⟩ 1000 := by
              have rest := heard_polls_iff platform.firstPoll early first
              rw [← sent] at rest
              refine ⟨fun goes => ⟨?_, rest.mp (sent ▸ goes.polls)⟩, fun ready =>
                ⟨present, tried, reset, ?_, sent ▸ rest.mpr ready.2⟩⟩
              · have timely := goes.timely
                dsimp only
                omega
              · have timely := ready.1
                dsimp only at timely
                omega
            rw [goes, exec_identify, started, ends, decide_eq_true (by omega : card.polls ≠ 0),
              Bool.and_true]
            have fails : ∀ err ∈ [-1, unusableErr], err ≠ 0 := by decide
            exact ⟨waits.1, fun late => fails _ (waits.2 late)⟩
        · refine ⟨fun goes => absurd (fun index below => goes.polls index (by omega)) first,
            fun _ => ?_⟩
          refine @identified_of_error card fates platform mmc state unusableErr ?_ (by decide)
          rw [started]
          dsimp only
          unfold markProgress
          exact unheard first
      · refine ⟨fun goes => absurd goes.tried tried, fun _ => ?_⟩
        refine @identified_of_error card fates platform mmc state unusableErr ?_ (by decide)
        rw [started]
        exact refuses tried
    · refine ⟨fun goes => absurd goes.reset reset, fun _ => ?_⟩
      exact @identified_of_error card fates platform mmc state (-1) (lost reset) (by decide)
  · exact ⟨fun goes => absurd goes.present present, fun _ =>
      identified_absent startable present state⟩

end IdentifyMmc

end PinePhonePkg
