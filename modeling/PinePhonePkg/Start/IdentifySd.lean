/-
This file follows the identification of an SD card. Whether the card is accepted
is a matter of the commands that are heard and of the number of polls; what is
left in the descriptor is then decided by CMD8 and by the version that was there.
-/

import PinePhonePkg.Start.IdentCard

namespace PinePhonePkg

open Library Program

/-! ### Polling an SD card -/

section SdCard

variable {card : IdentCard} {fates : Nat → Fate}

/-- The commands of the polls that are left are heard, and the timeout is long enough for them. -/
def SdReady (card : IdentCard) (fates : Nat → Fate) (bench : Bench) (timeout : Nat) : Prop :=
  card.polls - bench.state.polled ≤ timeout ∧
    Heard fates bench.sent (2 * (card.polls - bench.state.polled + 1))

theorem sdReady_iff_of_ready {bench : Bench} {timeout : Nat}
    (ready : card.polls ≤ bench.state.polled) :
    SdReady card fates bench timeout ↔
      fates bench.sent = .heard ∧ fates (bench.sent + 1) = .heard := by
  unfold SdReady
  rw [Nat.sub_eq_zero_of_le ready, and_iff_right (Nat.zero_le _), heard_succ_iff, heard_succ_iff]
  exact and_congr_right fun _ => and_iff_left fun index none => absurd none (Nat.not_lt_zero _)

theorem sdReady_succ_iff {bench : Bench} {timeout : Nat}
    (notReady : ¬card.polls ≤ bench.state.polled) :
    SdReady card fates bench (timeout + 1) ↔
      fates bench.sent = .heard ∧ fates (bench.sent + 1) = .heard ∧
        SdReady card fates ⟨bench.sent + 2, ⟨bench.state.polled + 1, false⟩⟩ timeout := by
  obtain ⟨rest, left⟩ : ∃ rest, card.polls - bench.state.polled = rest + 1 :=
    Nat.exists_eq_succ_of_ne_zero (Nat.sub_ne_zero_of_lt (Nat.lt_of_not_le notReady))
  have next : card.polls - (bench.state.polled + 1) = rest := by omega
  unfold SdReady
  rw [left, next, Nat.add_le_add_iff_right, show 2 * (rest + 1 + 1) = 2 * (rest + 1) + 1 + 1 from rfl,
    heard_succ_iff, heard_succ_iff]
  tauto

theorem sdSendOpCondCmd_announces (mmc : StartMmc) :
    (sdSendOpCondCmd mmc).announces = decide (mmc.version = sdVersion2) := by
  have voltages : mmc.cfg.voltages &&& 0xff8000 &&& ocrHcs = 0#32 := by
    rw [BitVec.and_assoc, show (0xff8000 &&& ocrHcs : U32) = 0 by decide]
    exact BitVec.and_zero
  unfold MmcCmd.announces sdSendOpCondCmd
  dsimp only
  rw [BitVec.and_or_distrib_right, voltages, BitVec.zero_or]
  split
  · rename_i second
    rw [decide_eq_true second]
    decide
  · rename_i other
    rw [decide_eq_false other]
    decide

/-- What the card leaves when it is ready -/
def IdentCard.sdLeft (card : IdentCard) (mmc : StartMmc) : StartMmc :=
  mmc.takeSdOcr (card.ocr (mmc.version = sdVersion2) card.polls)

theorem ocr_of_ready (card : IdentCard) (announced : Bool) {polled : Nat}
    (ready : card.polls ≤ polled) : card.ocr announced polled = card.ocr announced card.polls := by
  unfold IdentCard.ocr
  rw [if_pos ready, if_pos (Nat.le_refl _)]

/-- What the loop goes on with behind a poll that finds the card busy -/
def sdNextTurn (mmc : StartMmc) : Nat → StartDriver (Int × StartMmc)
  | 0 => pure (unusableErr, mmc)
  | timeout + 1 => sdSendOpCondLoop mmc timeout

/-- A poll of which one of the two commands is not heard ends the loop. -/
theorem sdTurn_failed (sd : card.family.isSd) (mmc : StartMmc) (timeout : Nat) {bench : Bench}
    (failed : ¬(fates bench.sent = .heard ∧ fates (bench.sent + 1) = .heard)) :
    ((sdSendOpCondLoop mmc timeout).exec (serveIdent card fates) bench).1.1 = -1 := by
  unfold sdSendOpCondLoop
  rw [exec_bind]
  by_cases first : fates bench.sent = .heard
  · have app : card.answer sdAppCmd bench.state = some (0x120, { bench.state with app := true }) :=
      if_pos sd
    rw [exec_heard first app, if_neg (not_not.mpr rfl), exec_bind]
    obtain ⟨state, second, -⟩ := @exec_failed card fates (sdSendOpCondCmd mmc)
      ⟨bench.sent + 1, { bench.state with app := true }⟩ fun heard => absurd ⟨first, heard⟩ failed
    rw [second]
    rfl
  · obtain ⟨state, second, -⟩ := @exec_failed card fates sdAppCmd bench fun heard =>
      absurd heard first
    rw [second]
    rfl

/-- A poll that is heard tells OCR. -/
theorem sdTurn_heard (sd : card.family.isSd) (mmc : StartMmc) (timeout : Nat) {bench : Bench}
    (first : fates bench.sent = .heard) (second : fates (bench.sent + 1) = .heard) :
    (sdSendOpCondLoop mmc timeout).exec (serveIdent card fates) bench =
      let ocr := card.ocr (mmc.version = sdVersion2) bench.state.polled
      if card.polls ≤ bench.state.polled then
        ((0, mmc.takeSdOcr ocr), ⟨bench.sent + 2, ⟨bench.state.polled + 1, false⟩⟩)
      else
        (sdNextTurn mmc timeout).exec (serveIdent card fates)
          ⟨bench.sent + 2, ⟨bench.state.polled + 1, false⟩⟩ := by
  have app : card.answer sdAppCmd bench.state = some (0x120, { bench.state with app := true }) :=
    if_pos sd
  have poll : card.answer (sdSendOpCondCmd mmc) { bench.state with app := true } =
      some (card.ocr (mmc.version = sdVersion2) bench.state.polled,
        ⟨bench.state.polled + 1, false⟩) := by
    rw [← sdSendOpCondCmd_announces]
    exact if_pos (by rw [sd]; rfl)
  unfold sdSendOpCondLoop
  rw [exec_bind, exec_heard first app, if_neg (not_not.mpr rfl), exec_bind,
    @exec_heard card fates _ ⟨bench.sent + 1, { bench.state with app := true }⟩ _ _ second poll,
    if_neg (not_not.mpr rfl), exec_ite]
  have busy := @ocr_busy_iff card (mmc.version = sdVersion2) bench.state.polled
  dsimp only
  by_cases ready : card.polls ≤ bench.state.polled
  · rw [if_pos ready]
    exact if_pos (busy.mpr ready)
  · rw [if_neg ready]
    refine (if_neg fun given => ready (busy.mp given)).trans ?_
    cases timeout with
    | zero | succ => rfl

theorem SdReady.heard {bench : Bench} {timeout : Nat} (ready : SdReady card fates bench timeout) :
    fates bench.sent = .heard ∧ fates (bench.sent + 1) = .heard :=
  ⟨ready.2 0 (by omega), ready.2 1 (by omega)⟩

/-- The loop ends well if the polls that are needed are heard and do not take too long. -/
abbrev SdOutcome (card : IdentCard) (fates : Nat → Fate) (mmc : StartMmc) (timeout : Nat)
    (bench : Bench) : Prop :=
  Outcome (SdReady card fates bench timeout) (card.sdLeft mmc) [-1, unusableErr]
    ((sdSendOpCondLoop mmc timeout).exec (serveIdent card fates) bench).1

theorem sdOutcome_of_failed (sd : card.family.isSd) (mmc : StartMmc) (timeout : Nat)
    {bench : Bench} (failed : ¬(fates bench.sent = .heard ∧ fates (bench.sent + 1) = .heard)) :
    SdOutcome card fates mmc timeout bench := by
  refine ⟨fun ready => absurd ready.heard failed, fun _ => ?_⟩
  rw [sdTurn_failed sd mmc timeout failed]
  exact List.mem_cons_self

theorem sdOutcome_of_ready (sd : card.family.isSd) (mmc : StartMmc) (timeout : Nat)
    {bench : Bench} (heard : fates bench.sent = .heard ∧ fates (bench.sent + 1) = .heard)
    (ready : card.polls ≤ bench.state.polled) : SdOutcome card fates mmc timeout bench := by
  refine ⟨fun _ => ?_, fun failed => absurd ((sdReady_iff_of_ready ready).mpr heard) failed⟩
  rw [sdTurn_heard sd mmc timeout heard.1 heard.2]
  dsimp only
  rw [if_pos ready, ocr_of_ready card _ ready]
  rfl

theorem sdOutcome (sd : card.family.isSd) (mmc : StartMmc) (timeout : Nat) (bench : Bench) :
    SdOutcome card fates mmc timeout bench := by
  induction timeout generalizing bench with
  | zero =>
    by_cases heard : fates bench.sent = .heard ∧ fates (bench.sent + 1) = .heard
    · by_cases ready : card.polls ≤ bench.state.polled
      · exact sdOutcome_of_ready sd mmc 0 heard ready
      · refine ⟨fun given => absurd given.1 (by omega), fun _ => ?_⟩
        rw [sdTurn_heard sd mmc 0 heard.1 heard.2]
        dsimp only
        rw [if_neg ready]
        exact List.mem_cons_of_mem _ List.mem_cons_self
    · exact sdOutcome_of_failed sd mmc 0 heard
  | succ timeout inductionHypothesis =>
    by_cases heard : fates bench.sent = .heard ∧ fates (bench.sent + 1) = .heard
    · by_cases ready : card.polls ≤ bench.state.polled
      · exact sdOutcome_of_ready sd mmc _ heard ready
      · have rest := inductionHypothesis ⟨bench.sent + 2, ⟨bench.state.polled + 1, false⟩⟩
        have turn := sdTurn_heard sd mmc (timeout + 1) heard.1 heard.2
        dsimp only at turn
        rw [if_neg ready] at turn
        have left : SdReady card fates bench (timeout + 1) ↔ SdReady card fates
            ⟨bench.sent + 2, ⟨bench.state.polled + 1, false⟩⟩ timeout :=
          (sdReady_succ_iff ready).trans
            ⟨fun given => given.2.2, fun given => ⟨heard.1, heard.2, given⟩⟩
        refine ⟨fun given => ?_, fun given => ?_⟩
        · rw [turn]
          exact rest.done (left.mp given)
        · rw [turn]
          exact rest.failed fun other => given (left.mpr other)
    · exact sdOutcome_of_failed sd mmc _ heard

end SdCard

/-! ### Trying an SD card -/

section TrySd

variable {card : IdentCard} {fates : Nat → Fate}

theorem exec_trySd (sd : card.family.isSd) (mmc : StartMmc) (bench : Bench) :
    Outcome (SdReady card fates ⟨bench.sent + 1, bench.state⟩ 1000)
      (card.sdLeft (card.asked (fates bench.sent) mmc)) [-1, unusableErr]
      ((trySd mmc).exec (serveIdent card fates) bench).1 := by
  obtain ⟨err, state, asked, polled⟩ := @exec_mmcSendIfCond card fates mmc bench
  have same : SdReady card fates ⟨bench.sent + 1, bench.state⟩ 1000 ↔
      SdReady card fates ⟨bench.sent + 1, state⟩ 1000 := by
    unfold SdReady
    rw [← polled]
  unfold trySd
  rw [exec_bind, asked, same]
  exact sdOutcome sd _ 1000 _

/-- An SD card does not answer CMD1. -/
theorem answer_sendOpCond_sd (sd : card.family.isSd) (mmc : StartMmc) (useArg : Bool)
    (state : IdentState) : card.answer (mmcSendOpCondCmd mmc useArg) state = none :=
  if_pos sd

theorem exec_tryMmc_sd (sd : card.family.isSd) (mmc : StartMmc) (bench : Bench) :
    ((tryMmc mmc).exec (serveIdent card fates) bench).1.1 = unusableErr := by
  unfold tryMmc mmcSendOpCond mmcSendOpCondLoop
  rw [exec_bind, exec_bind, exec_bind]
  obtain ⟨after, silent⟩ := @exec_mmcSendOpCondIter_failed card fates false
    { mmc with opCondPending := 1 } (exec (serveIdent card fates) mmcGoIdle bench).2
    fun _ => answer_sendOpCond_sd sd _ _ _
  rw [silent]
  rfl

theorem exec_trySdOnly (sd : card.family.isSd) (mmc : StartMmc) (bench : Bench) :
    Outcome (SdReady card fates ⟨bench.sent + 1, bench.state⟩ 1000)
      (card.sdLeft (card.asked (fates bench.sent) mmc)) [unusableErr]
      ((trySdOnly mmc).exec (serveIdent card fates) bench).1 := by
  have first := @exec_trySd card fates sd mmc bench
  unfold trySdOnly
  rw [exec_bind]
  show Outcome _ _ _ (unlessInProgress ((trySd mmc).exec (serveIdent card fates) bench).1)
  generalize ((trySd mmc).exec (serveIdent card fates) bench).1 = result at first
  refine ⟨fun ready => ?_, fun notReady => ?_⟩
  · rw [first.done ready]
    rfl
  · have error := first.failed notReady
    unfold unlessInProgress
    rw [if_pos ?_]
    · exact List.mem_cons_self
    · have either : ∀ err ∈ [-1, unusableErr], err ≠ 0 ∧ err ≠ inProgress := by decide
      exact either _ error

theorem exec_trySdThenMmc_sd (sd : card.family.isSd) (mmc : StartMmc) (bench : Bench) :
    Outcome (SdReady card fates ⟨bench.sent + 1, bench.state⟩ 1000)
      (card.sdLeft (card.asked (fates bench.sent) mmc)) [unusableErr]
      ((trySdThenMmc mmc).exec (serveIdent card fates) bench).1 := by
  have first := @exec_trySd card fates sd mmc bench
  unfold trySdThenMmc
  rw [exec_bind]
  generalize (trySd mmc).exec (serveIdent card fates) bench = outcome at first
  obtain ⟨⟨err, tried⟩, after⟩ := outcome
  refine ⟨fun ready => ?_, fun notReady => ?_⟩
  · obtain ⟨rfl, rfl⟩ := Prod.mk.inj (first.done ready)
    rfl
  · have error : err ∈ [-1, unusableErr] := first.failed notReady
    show (exec (serveIdent card fates)
      (if err = -1 then tryMmc tried else pure (err, tried)) after).1.1 ∈ [unusableErr]
    rcases List.mem_cons.mp error with rfl | unusable
    · rw [if_pos rfl, exec_tryMmc_sd sd]
      exact List.mem_cons_self
    · obtain rfl := List.mem_singleton.mp unusable
      rw [if_neg (by decide)]
      exact List.mem_cons_self

theorem exec_tryCard_sd (sd : card.family.isSd) (platform : StartPlatform) (mmc : StartMmc)
    (bench : Bench) :
    Outcome (platform.tries true ∧ SdReady card fates ⟨bench.sent + 1, bench.state⟩ 1000)
      (card.sdLeft (card.asked (fates bench.sent) mmc)) [unusableErr]
      ((tryCard platform mmc).exec (serveIdent card fates) bench).1 := by
  have both : Outcome (true ∧ SdReady card fates ⟨bench.sent + 1, bench.state⟩ 1000)
      (card.sdLeft (card.asked (fates bench.sent) mmc)) [unusableErr]
      ((trySdThenMmc mmc).exec (serveIdent card fates) bench).1 := by
    rw [and_iff_right rfl]
    exact exec_trySdThenMmc_sd sd mmc bench
  unfold tryCard StartPlatform.tries
  split
  · split
    · rw [and_iff_right rfl]
      exact exec_trySdOnly sd mmc bench
    · split
      · refine ⟨fun goes => absurd goes.1 Bool.false_ne_true, fun _ => ?_⟩
        rw [exec_tryMmc_sd sd]
        exact List.mem_cons_self
      · exact both
  · exact both

end TrySd

/-! ### An SD card -/

section IdentifySd

variable {card : IdentCard} {fates : Nat → Fate} {platform : StartPlatform} {mmc : StartMmc}

/-- What has to go well for an SD card to be accepted: its family is tried, the reset and the polls
are heard, it is ready in time, and no MMC is waited for from before -/
structure SdGoes (platform : StartPlatform) (card : IdentCard) (fates : Nat → Fate)
    (mmc : StartMmc) : Prop where
  present : platform.Present
  tried : platform.tries true
  reset : fates 0 = .heard
  timely : card.polls ≤ 1000
  polls : Heard fates 2 (2 * (card.polls + 1))
  notPending : mmc.opCondPending = 0

/-- An SD card fails to end an operating condition that is left over from before. -/
theorem exec_completeOpCondStep_sd (sd : card.family.isSd) (pending : mmc.opCondPending ≠ 0)
    (bench : Bench) :
    ((completeOpCondStep mmc).exec (serveIdent card fates) bench).1.1 = -1 := by
  unfold completeOpCondStep mmcCompleteOpCond mmcCompleteOpCondLoop
  rw [if_pos pending, if_neg pending, exec_bind]
  obtain ⟨after, silent⟩ := @exec_mmcSendOpCondIter_failed card fates true
    { mmc with opCondPending := 0 } bench fun _ => answer_sendOpCond_sd sd _ _ _
  rw [silent]
  rfl

theorem asked_opCondPending (fate : Fate) :
    (card.asked fate mmc).opCondPending = mmc.opCondPending := by
  unfold IdentCard.asked
  split
  · rfl
  · rfl

theorem identified_sd (sd : card.family.isSd) (startable : Startable platform mmc)
    (state : IdentState) :
    (SdGoes platform card fates mmc → identified platform card fates state mmc =
        (0, card.sdLeft (card.asked (fates 1) mmc.reset))) ∧
      (¬SdGoes platform card fates mmc →
        (identified platform card fates state mmc).1 ≠ 0) := by
  by_cases present : platform.Present
  · obtain ⟨heard, failed⟩ := @exec_resetAndTry card fates platform mmc ⟨0, state⟩
    by_cases reset : fates 0 = .heard
    · have tried := @exec_tryCard_sd card fates sd platform mmc.reset ⟨1, ⟨0, false⟩⟩
      have started := heard reset
      rw [← mmcStartInit_present startable present] at started
      by_cases ready : platform.tries true ∧ SdReady card fates ⟨2, ⟨0, false⟩⟩ 1000
      · have first : ((mmcStartInit platform mmc).exec (serveIdent card fates) ⟨0, state⟩).1 =
            (0, card.sdLeft (card.asked (fates 1) mmc.reset)) := by
          rw [started, tried.done ready]
          rfl
        have kept : (card.sdLeft (card.asked (fates 1) mmc.reset)).opCondPending =
            mmc.opCondPending := asked_opCondPending (fates 1)
        rw [exec_identify]
        dsimp only
        rw [first, if_pos (Or.inl rfl)]
        by_cases pending : mmc.opCondPending = 0
        · refine ⟨fun _ => ?_, fun stops => absurd
            ⟨present, ready.1, reset, ready.2.1, ready.2.2, pending⟩ stops⟩
          unfold completeOpCondStep
          rw [if_neg (not_not.mpr (kept.trans pending))]
          rfl
        · refine ⟨fun goes => absurd goes.notPending pending, fun _ => ?_⟩
          rw [exec_completeOpCondStep_sd sd (kept.symm ▸ pending)]
          decide
      · refine ⟨fun goes => absurd ⟨goes.tried, goes.timely, goes.polls⟩ ready, fun _ => ?_⟩
        have error := List.mem_singleton.mp (tried.failed ready)
        refine @identified_of_error card fates platform mmc state unusableErr ?_ (by decide)
        rw [started]
        exact error
    · refine ⟨fun goes => absurd goes.reset reset, fun _ => ?_⟩
      refine @identified_of_error card fates platform mmc state (-1) ?_ (by decide)
      rw [mmcStartInit_present startable present]
      exact failed reset
  · exact ⟨fun goes => absurd goes.present present, fun _ =>
      identified_absent startable present state⟩

end IdentifySd

end PinePhonePkg
