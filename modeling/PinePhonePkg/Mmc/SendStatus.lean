/-
This file settles what `mmc_send_status` makes of a sequence of replies to CMD13.
The loop stops at the first status of a card that is ready, but what it returns
then also depends on the counter of the loop: the last poll counts as a timeout,
and of the error bits only two are looked at.
-/

import PinePhonePkg.Mmc.Command

namespace PinePhonePkg

open Library

/-! ### Statuses -/

/-- The card is ready for data and not programming. -/
def StatusReady (response : U32) : Prop :=
  response &&& mmcStatusRdyForData ≠ 0 ∧ response &&& mmcStatusCurrState ≠ mmcStatePrg

instance (response : U32) : Decidable (StatusReady response) :=
  inferInstanceAs (Decidable (_ ∧ _))

/-- The card is ready and reports no error. -/
structure StatusClean (response : U32) : Prop where
  ready : StatusReady response
  noError : response &&& mmcStatusMask = 0
  noSwitchError : response &&& mmcStatusSwitchError = 0
  inRange : response &&& mmcStatusAddrOutOfRange = 0

/-- The error of the command, or an error bit of the status it got -/
def ReportsError (outcome : Int × U32) : Prop :=
  outcome.1 ≠ 0 ∨ outcome.2 &&& mmcStatusMask ≠ 0

/-- Bits of a mask that are all clear are clear in each part of it. -/
theorem and_eq_zero_of_part {word mask part : U32} (inside : mask &&& part = part)
    (clear : word &&& mask = 0) : word &&& part = 0 := by
  rw [← inside, ← BitVec.and_assoc, clear]
  exact BitVec.zero_and

/-- The mask has the bits of a switch error and of an address that is out of range. -/
theorem statusClean_iff (response : U32) :
    StatusClean response ↔ StatusReady response ∧ response &&& mmcStatusMask = 0 :=
  ⟨fun clean => ⟨clean.ready, clean.noError⟩, fun ⟨ready, noError⟩ =>
    ⟨ready, noError, and_eq_zero_of_part (by decide) noError,
      and_eq_zero_of_part (by decide) noError⟩⟩

/-! ### The replies -/

/-- The outcomes of CMD13 in order; the state is the number of those that were asked for. -/
def serveStatuses (status : Nat → Int × U32) : (request : Request) → Nat → request.Reply × Nat
  | .sendCmd _ _, turn => (⟨(status turn).1, (status turn).2, fun _ => 0⟩, turn + 1)
  | .setIos _ _ _, turn => ((), turn)
  | .updatePhase, turn => (0, turn)
  | .malloc _, turn => (none, turn)
  | .unsetWord, turn => (0, turn)

/-- Where the states are passed through in turn, the loop follows the replies. -/
theorem exec_statusLoop {State : Type} (serve : (request : Request) → State → request.Reply × State)
    (mmc : Mmc) (status : Nat → Int × U32) (bytes : Buffer) (state : Nat → State)
    (sent : ∀ turn, (mmcSendCmd (sendStatusCmd mmc) none).exec serve (state turn) =
      (⟨(status turn).1, (status turn).2, bytes⟩, state (turn + 1)))
    (timeout retries turn : Nat) :
    (mmcSendStatusLoop mmc timeout retries).exec serve (state turn) =
      ((pollStatus (fun later => status (turn + later)) timeout retries).1,
        state (turn + (pollStatus (fun later => status (turn + later)) timeout retries).2)) := by
  induction timeout generalizing retries turn with
  | zero =>
    unfold mmcSendStatusLoop pollStatus
    rw [Program.exec_bind, sent]
    dsimp only [Nat.add_zero]
    cases statusPoll retries (status turn).1 (status turn).2 with
    | ready | failed | again => rfl
  | succ timeout inductionHypothesis =>
    unfold mmcSendStatusLoop pollStatus
    rw [Program.exec_bind, sent]
    dsimp only [Nat.add_zero]
    cases statusPoll retries (status turn).1 (status turn).2 with
    | ready | failed => rfl
    | again retries =>
      dsimp only
      rw [inductionHypothesis]
      simp only [Nat.add_assoc, Nat.add_comm 1]

theorem exec_mmcSendStatus_statuses (mmc : Mmc) (status : Nat → Int × U32) (timeout : U32) :
    (mmcSendStatus mmc timeout).exec (serveStatuses status) 0 =
      pollStatus status timeout.toNat 5 := by
  have polled := exec_statusLoop (serveStatuses status) mmc status (fun _ => 0) id
    (fun _ => rfl) timeout.toNat 5 0
  simp only [Nat.zero_add, id] at polled
  exact polled

/-! ### The poll that decides -/

/-- The loop goes on after this poll, as far as the status decides. -/
def PollGoesOn (outcome : Int × U32) : Prop :=
  outcome.1 = 0 → ¬StatusReady outcome.2 ∧ outcome.2 &&& mmcStatusMask = 0

/-- The loop gets to this poll, and stops there as the card is ready. -/
structure Decides (status : Nat → Int × U32) (retries timeout turn : Nat) : Prop where
  inTime : turn ≤ timeout
  goesOn : ∀ earlier < turn, PollGoesOn (status earlier)
  retried : ((List.range turn).countP fun earlier => (status earlier).1 ≠ 0) ≤ retries
  answered : (status turn).1 = 0
  ready : StatusReady (status turn).2

section Polls

variable {retries left : Nat} {outcome : Int × U32}

theorem statusPoll_stops (answered : outcome.1 = 0) (ready : StatusReady outcome.2) :
    statusPoll retries outcome.1 outcome.2 = .ready outcome.2 := by
  unfold statusPoll
  rw [if_pos answered]
  exact if_pos ready

theorem statusPoll_again (goesOn : PollGoesOn outcome)
    (counted : retries = left + if outcome.1 ≠ 0 then 1 else 0) :
    statusPoll retries outcome.1 outcome.2 = .again left := by
  unfold statusPoll
  by_cases answered : outcome.1 = 0
  · obtain ⟨notReady, noError⟩ := goesOn answered
    rw [if_neg (not_not.mpr answered)] at counted
    rw [if_pos answered, counted]
    exact (if_neg notReady).trans (if_neg (not_not.mpr noError))
  · rw [if_pos answered] at counted
    rw [if_neg answered, counted]

/-- A poll that is not ready and does not go on fails. -/
theorem statusPoll_failed (notReady : outcome.1 = 0 → ¬StatusReady outcome.2)
    (stops : PollGoesOn outcome → outcome.1 ≠ 0 ∧ retries = 0) :
    ∃ error, error ≠ 0 ∧ statusPoll retries outcome.1 outcome.2 = .failed error := by
  unfold statusPoll
  by_cases answered : outcome.1 = 0
  · have failed : outcome.2 &&& mmcStatusMask ≠ 0 := fun noError =>
      (stops fun _ => ⟨notReady answered, noError⟩).1 answered
    refine ⟨commErr, by decide, ?_⟩
    rw [if_pos answered]
    exact (if_neg (notReady answered)).trans (if_pos failed)
  · obtain ⟨-, rfl⟩ := stops fun none => absurd none answered
    exact ⟨outcome.1, answered, if_neg answered⟩

end Polls

theorem countP_range_succ (holds : Nat → Bool) (count : Nat) :
    (List.range (count + 1)).countP holds =
      (List.range count).countP (fun index => holds (index + 1)) + if holds 0 then 1 else 0 := by
  rw [List.range_succ_eq_map, List.countP_cons, List.countP_map]
  rfl

/-- Behind a poll that goes on, the loop decides as it does on the replies that are left. -/
theorem decides_succ {status : Nat → Int × U32} {retries left timeout turn : Nat}
    (goesOn : PollGoesOn (status 0))
    (counted : retries = left + if (status 0).1 ≠ 0 then 1 else 0) :
    Decides status retries (timeout + 1) (turn + 1) ↔
      Decides (fun later => status (later + 1)) left timeout turn := by
  have count := countP_range_succ (fun earlier => decide ((status earlier).1 ≠ 0)) turn
  simp only [decide_eq_true_eq] at count
  constructor
  · intro decides
    have retried := decides.retried
    refine ⟨Nat.le_of_succ_le_succ decides.inTime, fun earlier before => ?_, by omega,
      decides.answered, decides.ready⟩
    exact decides.goesOn _ (Nat.succ_lt_succ before)
  · intro decides
    have retried := decides.retried
    refine ⟨Nat.succ_le_succ decides.inTime, fun earlier before => ?_, by omega,
      decides.answered, decides.ready⟩
    cases earlier with
    | zero => exact goesOn
    | succ earlier => exact decides.goesOn earlier (Nat.lt_of_succ_lt_succ before)

section Loop

variable {status : Nat → Int × U32} {retries timeout turn : Nat}

theorem pollStatus_again {left : Nat} (goesOn : PollGoesOn (status 0))
    (counted : retries = left + if (status 0).1 ≠ 0 then 1 else 0) :
    pollStatus status (timeout + 1) retries =
      ((pollStatus (fun later => status (later + 1)) timeout left).1,
        (pollStatus (fun later => status (later + 1)) timeout left).2 + 1) := by
  rw [pollStatus, statusPoll_again goesOn counted]

/-- A poll that decides ends the loop with what the checks behind it make of its status. -/
theorem pollStatus_decided (decides : Decides status retries timeout turn) :
    pollStatus status timeout retries =
      (statusResult (timeout - turn) (status turn).2, turn + 1) := by
  induction turn generalizing status timeout retries with
  | zero =>
    cases timeout with
    | zero => rw [pollStatus, statusPoll_stops decides.answered decides.ready]
    | succ timeout =>
      rw [pollStatus, statusPoll_stops decides.answered decides.ready]
      rfl
  | succ turn inductionHypothesis =>
    have positive : 0 < timeout := Nat.lt_of_lt_of_le (Nat.succ_pos _) decides.inTime
    obtain ⟨timeout, rfl⟩ : ∃ left, timeout = left + 1 :=
      Nat.exists_eq_succ_of_ne_zero (Nat.ne_of_gt positive)
    have goesOn := decides.goesOn 0 (Nat.succ_pos _)
    have count := countP_range_succ (fun earlier => decide ((status earlier).1 ≠ 0)) turn
    simp only [decide_eq_true_eq] at count
    have retried := decides.retried
    have counted : retries = (retries - if (status 0).1 ≠ 0 then 1 else 0) +
        if (status 0).1 ≠ 0 then 1 else 0 := by omega
    rw [pollStatus_again goesOn counted,
      inductionHypothesis ((decides_succ goesOn counted).mp decides), Nat.add_sub_add_right]

/-- Where no poll decides, the first does not find the card ready. -/
theorem not_ready_of_undecided (none : ∀ turn, ¬Decides status retries timeout turn) :
    (status 0).1 = 0 → ¬StatusReady (status 0).2 := fun answered ready =>
  none 0 ⟨Nat.zero_le _, fun _ before => absurd before (Nat.not_lt_zero _), Nat.zero_le _,
    answered, ready⟩

theorem goes_on_of_not_stops (stops : ¬(PollGoesOn (status 0) → (status 0).1 ≠ 0 ∧ retries = 0)) :
    PollGoesOn (status 0) ∧ ∃ left, retries = left + if (status 0).1 ≠ 0 then 1 else 0 := by
  obtain ⟨goesOn, retried⟩ := Classical.not_imp.mp stops
  refine ⟨goesOn, retries - if (status 0).1 ≠ 0 then 1 else 0, ?_⟩
  by_cases failed : (status 0).1 ≠ 0
  · have left : retries ≠ 0 := fun none => retried ⟨failed, none⟩
    rw [if_pos failed]
    exact (Nat.sub_add_cancel (Nat.pos_of_ne_zero left)).symm
  · rw [if_neg failed]
    rfl

/-- Where no poll decides, the loop fails, and no poll it makes finds the card ready. -/
theorem pollStatus_undecided (none : ∀ turn, ¬Decides status retries timeout turn) :
    (pollStatus status timeout retries).1 ≠ 0 ∧
      ∀ turn < (pollStatus status timeout retries).2,
        (status turn).1 = 0 → ¬StatusReady (status turn).2 := by
  induction timeout generalizing status retries with
  | zero =>
    have notReady := not_ready_of_undecided none
    have only : ∀ turn < 1, (status turn).1 = 0 → ¬StatusReady (status turn).2 := by
      intro turn first
      rw [Nat.lt_one_iff.mp first]
      exact notReady
    unfold pollStatus
    by_cases stops : PollGoesOn (status 0) → (status 0).1 ≠ 0 ∧ retries = 0
    · obtain ⟨error, failed, poll⟩ := statusPoll_failed notReady stops
      rw [poll]
      exact ⟨failed, only⟩
    · obtain ⟨goesOn, left, counted⟩ := goes_on_of_not_stops stops
      rw [statusPoll_again goesOn counted]
      exact ⟨show timeoutErr ≠ 0 by decide, only⟩
  | succ timeout inductionHypothesis =>
    have notReady := not_ready_of_undecided none
    by_cases stops : PollGoesOn (status 0) → (status 0).1 ≠ 0 ∧ retries = 0
    · obtain ⟨error, failed, poll⟩ := statusPoll_failed notReady stops
      unfold pollStatus
      rw [poll]
      refine ⟨failed, fun turn first => ?_⟩
      rw [Nat.lt_one_iff.mp first]
      exact notReady
    · obtain ⟨goesOn, left, counted⟩ := goes_on_of_not_stops stops
      have rest := @inductionHypothesis (fun later => status (later + 1)) left
        fun turn decides => none (turn + 1) ((decides_succ goesOn counted).mpr decides)
      rw [pollStatus_again goesOn counted]
      refine ⟨rest.1, fun turn made => ?_⟩
      cases turn with
      | zero => exact notReady
      | succ turn => exact rest.2 turn (Nat.lt_of_succ_lt_succ made)

/-- Each poll uses up one of the counter, whether it was answered or not. -/
theorem pollStatus_le : (pollStatus status timeout retries).2 ≤ timeout + 1 := by
  induction timeout generalizing status retries with
  | zero =>
    unfold pollStatus
    cases statusPoll retries (status 0).1 (status 0).2 <;> exact Nat.le_refl 1
  | succ timeout inductionHypothesis =>
    unfold pollStatus
    cases statusPoll retries (status 0).1 (status 0).2 with
    | ready | failed => exact Nat.le_add_left 1 (timeout + 1)
    | again retries => exact Nat.succ_le_succ inductionHypothesis

end Loop

/-! ### The contract -/

/-- What is asked of the result and the number of polls -/
structure StatusContract (status : Nat → Int × U32) (timeout : Nat) (outcome : Int × Nat) :
    Prop where
  ends : outcome.2 ≤ timeout + 1
  success : outcome.1 = 0 →
    ∃ last, outcome.2 = last + 1 ∧ (status last).1 = 0 ∧ StatusClean (status last).2
  found : ∀ turn < outcome.2, (status turn).1 = 0 → StatusClean (status turn).2 →
    (∀ earlier < turn, ¬ReportsError (status earlier)) → outcome.1 = 0

/-- The poll with which the loop ends, as it would have to be for the result to be right:
before the last poll only the two error bits that are looked at may be set, and on the last
poll there has to be an error. -/
structure RightlyJudged (status : Nat → Int × U32) (timeout turn : Nat) : Prop where
  before : turn < timeout → (status turn).2 &&& mmcStatusMask = 0 ∨
    (status turn).2 &&& mmcStatusSwitchError ≠ 0 ∨ (status turn).2 &&& mmcStatusAddrOutOfRange ≠ 0
  last : turn = timeout → (status turn).2 &&& mmcStatusMask ≠ 0 ∨
    ∃ earlier < turn, (status earlier).1 ≠ 0

section Contract

variable {status : Nat → Int × U32} {timeout turn : Nat}

theorem statusResult_of_last (response : U32) : statusResult 0 response ≠ 0 := by
  simp [statusResult, timeoutErr]

theorem statusResult_eq_zero {left : Nat} (positive : 0 < left) (small : left < 2 ^ 31)
    (response : U32) : statusResult left response = 0 ↔
      response &&& mmcStatusSwitchError = 0 ∧ response &&& mmcStatusAddrOutOfRange = 0 := by
  have running : ¬(left = 0 ∨ 2 ^ 31 ≤ left) := by omega
  unfold statusResult
  rw [if_neg running]
  by_cases switchError : response &&& mmcStatusSwitchError = 0
  · rw [if_neg (not_not.mpr switchError), and_iff_right switchError]
    by_cases outOfRange : response &&& mmcStatusAddrOutOfRange = 0
    · rw [if_neg (not_not.mpr outOfRange)]
      exact iff_of_true rfl outOfRange
    · rw [if_pos outOfRange]
      exact iff_of_false (by decide) outOfRange
  · rw [if_pos switchError]
    exact iff_of_false (by decide) fun clear => switchError clear.1

/-- Before the poll that decides, an answered status is not ready. -/
theorem Decides.not_clean {retries : Nat} (decides : Decides status retries timeout turn)
    {earlier : Nat} (before : earlier < turn) (answered : (status earlier).1 = 0) :
    ¬StatusClean (status earlier).2 :=
  fun clean => (decides.goesOn earlier before answered).1 clean.ready

theorem Decides.contract_before {retries : Nat} (decides : Decides status retries timeout turn)
    (before : turn < timeout) (small : timeout < 2 ^ 31) :
    StatusContract status timeout (pollStatus status timeout retries) ↔
      RightlyJudged status timeout turn := by
  have result := statusResult_eq_zero (Nat.sub_pos_of_lt before)
    (Nat.lt_of_le_of_lt (Nat.sub_le timeout turn) small) (status turn).2
  rw [pollStatus_decided decides]
  constructor
  · intro contract
    refine ⟨fun _ => ?_, fun last => absurd last (Nat.ne_of_lt before)⟩
    by_cases noError : (status turn).2 &&& mmcStatusSwitchError = 0 ∧
        (status turn).2 &&& mmcStatusAddrOutOfRange = 0
    · obtain ⟨found, counted, -, clean⟩ := contract.success (result.mpr noError)
      rw [Nat.succ.inj counted]
      exact Or.inl clean.noError
    · exact Or.inr (not_and_or.mp noError)
  · intro judged
    refine ⟨Nat.succ_le_succ decides.inTime, fun succeeded => ?_,
      fun found made answered clean _ => ?_⟩
    · obtain ⟨noSwitchError, inRange⟩ := result.mp succeeded
      refine ⟨turn, rfl, decides.answered, decides.ready, ?_, noSwitchError, inRange⟩
      rcases judged.before before with noError | switchError | outOfRange
      · exact noError
      · exact absurd noSwitchError switchError
      · exact absurd inRange outOfRange
    · rcases Nat.lt_succ_iff_lt_or_eq.mp made with earlier | rfl
      · exact absurd clean (decides.not_clean earlier answered)
      · exact result.mpr ⟨clean.noSwitchError, clean.inRange⟩

/-- On the last poll the counter is zero, and the result is a timeout. -/
theorem Decides.contract_last {retries : Nat} (decides : Decides status retries timeout timeout) :
    StatusContract status timeout (pollStatus status timeout retries) ↔
      RightlyJudged status timeout timeout := by
  have failed := statusResult_of_last (status timeout).2
  rw [pollStatus_decided decides, Nat.sub_self]
  constructor
  · intro contract
    refine ⟨fun before => absurd before (Nat.lt_irrefl _), fun _ => ?_⟩
    by_contra! right
    obtain ⟨noError, answered⟩ := right
    refine failed (contract.found timeout (Nat.lt_succ_self _) decides.answered
      ((statusClean_iff _).mpr ⟨decides.ready, noError⟩) fun earlier before => ?_)
    rintro (unanswered | error)
    · exact unanswered (answered earlier before)
    · exact error (decides.goesOn earlier before (answered earlier before)).2
  · intro judged
    refine ⟨Nat.le_refl _, fun succeeded => absurd succeeded failed,
      fun found made answered clean noError => ?_⟩
    rcases Nat.lt_succ_iff_lt_or_eq.mp made with earlier | rfl
    · exact absurd clean (decides.not_clean earlier answered)
    · rcases judged.last rfl with error | ⟨earlier, before, unanswered⟩
      · exact absurd clean.noError error
      · exact absurd (Or.inl unanswered) (noError earlier before)

theorem contract_of_undecided {retries : Nat}
    (none : ∀ turn, ¬Decides status retries timeout turn) :
    StatusContract status timeout (pollStatus status timeout retries) := by
  obtain ⟨failed, notReady⟩ := pollStatus_undecided none
  exact ⟨pollStatus_le, fun succeeded => absurd succeeded failed,
    fun turn made answered clean _ => absurd clean.ready (notReady turn made answered)⟩

end Contract

/-- Only one poll decides. -/
theorem Decides.unique {status : Nat → Int × U32} {retries timeout turn other : Nat}
    (decides : Decides status retries timeout turn)
    (also : Decides status retries timeout other) : other = turn := by
  rcases Nat.lt_trichotomy other turn with before | same | behind
  · exact absurd also.ready (decides.goesOn other before also.answered).1
  · exact same
  · exact absurd decides.ready (also.goesOn turn behind decides.answered).1

/-- The result is right exactly if the poll the loop ends with, if there is one, is not one
of the two kinds that are judged wrongly. -/
theorem mmcSendStatus_contract_iff (mmc : Mmc) (status : Nat → Int × U32) (timeout : U32)
    (signed : timeout.toNat < 2 ^ 31) :
    StatusContract status timeout.toNat
        ((mmcSendStatus mmc timeout).exec (serveStatuses status) 0) ↔
      ∀ turn, Decides status 5 timeout.toNat turn → RightlyJudged status timeout.toNat turn := by
  rw [exec_mmcSendStatus_statuses]
  by_cases decided : ∃ turn, Decides status 5 timeout.toNat turn
  · obtain ⟨turn, decides⟩ := decided
    have same : StatusContract status timeout.toNat (pollStatus status timeout.toNat 5) ↔
        RightlyJudged status timeout.toNat turn := by
      rcases Nat.lt_or_eq_of_le decides.inTime with before | rfl
      · exact decides.contract_before before signed
      · exact decides.contract_last
    rw [same]
    refine ⟨fun judged other also => ?_, fun judged => judged turn decides⟩
    rw [decides.unique also]
    exact judged
  · have none := not_exists.mp decided
    exact iff_of_true (contract_of_undecided none) fun turn decides => absurd decides (none turn)

theorem mmcSendStatus_contract_iff_busy :
    (10 : U32).toNat < 2 ^ 31 ∧
      (StatusContract (fun _ => (0, 0xe00)) (10 : U32).toNat
          ((mmcSendStatus .unidentified 10).exec (serveStatuses fun _ => (0, 0xe00)) 0) ↔
        ∀ turn, Decides (fun _ => (0, 0xe00)) 5 (10 : U32).toNat turn →
          RightlyJudged (fun _ => (0, 0xe00)) (10 : U32).toNat turn) :=
  ⟨by decide, mmcSendStatus_contract_iff _ _ 10 (by decide)⟩

/-- The card is ready on the one poll there is and the result is a timeout, and it is ready with
the bit of a misaligned address set and the result is a success. -/
theorem mmcSendStatus_misjudges :
    ¬StatusContract (fun _ => (0, 0x900)) 0
        ((mmcSendStatus .unidentified 0).exec (serveStatuses fun _ => (0, 0x900)) 0) ∧
      ¬StatusContract (fun _ => (0, 0x40000900)) 10
        ((mmcSendStatus .unidentified 10).exec (serveStatuses fun _ => (0, 0x40000900)) 0) := by
  rw [exec_mmcSendStatus_statuses, exec_mmcSendStatus_statuses]
  constructor
  · intro contract
    have clean : StatusClean 0x900 := (statusClean_iff _).mpr (by decide)
    have succeeded := contract.found 0 (by decide) rfl clean fun _ before =>
      absurd before (Nat.not_lt_zero _)
    exact absurd succeeded (by decide)
  · intro contract
    obtain ⟨last, -, -, clean⟩ := contract.success (by decide)
    exact absurd clean.noError (by decide)

end PinePhonePkg
