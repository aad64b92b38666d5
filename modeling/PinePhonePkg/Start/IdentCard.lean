/-
This file gives the card that is identified, and what the parts of the
identification that do not depend on its family come to. The card tells its
addressing mode only to a host that announces support for it, and is ready behind
a number of polls; each command to it may be heard, get lost, or be answered
without the host hearing it.
-/

import PinePhonePkg.Start.Identify

namespace PinePhonePkg

open Library

/-! ### The card -/

/-- The families of cards, with whether blocks are addressed by sectors -/
inductive CardFamily where
  | sdV1
  | sdV2 (highCapacity : Bool)
  | mmc (sectorMode : Bool)
  deriving DecidableEq

namespace CardFamily

/-- The card is an SD card. -/
def isSd : CardFamily → Bool
  | mmc _ => false
  | _ => true

/-- The addressing mode -/
def byBlocks : CardFamily → Bool
  | sdV1 => false
  | sdV2 highCapacity => highCapacity
  | mmc sectorMode => sectorMode

/-- The version that is kept for the family -/
def version : CardFamily → U32
  | sdV1 => sdVersion10
  | sdV2 _ => sdVersion2
  | mmc _ => mmcVersionUnknown

theorem eq_mmc_of_not_isSd {family : CardFamily} (notSd : family.isSd = false) :
    ∃ sectorMode, family = .mmc sectorMode := by
  cases family with
  | mmc sectorMode => exact ⟨sectorMode, rfl⟩
  | _ => exact Bool.noConfusion (show true = false from notSd)

/-- An SD card tells its address later, and an MMC is given one. -/
def rca : CardFamily → BitVec 16
  | mmc _ => 1
  | _ => 0

end CardFamily

/-- A card with the number of polls behind which it is ready, the voltages it tells in OCR, and the
word it answers CMD8 with -/
structure IdentCard where
  family : CardFamily
  polls : Nat
  window : BitVec 24
  echo : U32

/-- How often the card has been polled since its reset, and whether CMD55 came last -/
structure IdentState where
  polled : Nat
  app : Bool

/-- The host announces that it supports addressing by blocks. -/
def MmcCmd.announces (cmd : MmcCmd) : Bool := cmd.cmdarg &&& ocrHcs ≠ 0

namespace IdentCard

variable (card : IdentCard)

/-- What the card answers to a poll: its voltages and, once it is up, how it is addressed -/
def ocr (announced : Bool) (polled : Nat) : U32 :=
  card.window.setWidth 32 |||
    if card.polls ≤ polled then
      ocrBusy ||| if card.family.byBlocks && announced then ocrHcs else 0
    else 0

/-- The answer to a command and the state behind it, if the card answers at all -/
def answer (cmd : MmcCmd) (state : IdentState) : Option (U32 × IdentState) :=
  match cmd.cmdidx with
  | mmcCmdGoIdleState => some (0, ⟨0, false⟩)
  | mmcCmdSendOpCond =>
    if card.family.isSd then none
    else some (card.ocr cmd.announces state.polled, ⟨state.polled + 1, false⟩)
  | sdCmdSendIfCond =>
    match card.family with
    | .sdV2 _ => some (card.echo, { state with app := false })
    | _ => none
  | mmcCmdAppCmd => if card.family.isSd then some (0x120, { state with app := true }) else none
  | sdCmdAppSendOpCond =>
    if card.family.isSd && state.app then
      some (card.ocr cmd.announces state.polled, ⟨state.polled + 1, false⟩)
    else none
  | _ => none

/-- If the card answers CMD8, it does with the pattern it was sent. -/
def EchoesRight : Prop :=
  ∀ highCapacity, card.family = .sdV2 highCapacity → card.echo &&& 0xff = 0xaa

end IdentCard

/-- What becomes of a command: the host hears the answer, the card does not get the command, or
the host does not hear the answer. -/
inductive Fate where
  | heard
  | lost
  | unheard
  deriving DecidableEq

/-- The card, and how many commands have been sent to it -/
structure Bench where
  sent : Nat
  state : IdentState

/-- What comes back from a command that is not heard -/
def failedReply : StartCmdReply := ⟨-1, noWords, fun _ => 0⟩

theorem failedReply_error : failedReply.error ≠ 0 := by decide

section Serving

variable (card : IdentCard) (fates : Nat → Fate)

/-- The commands are heard by the card or not, and everything else goes well. -/
def serveIdent : (request : Request) → Bench → request.StartReply × Bench
  | .sendCmd cmd _, bench =>
    match fates bench.sent, card.answer cmd bench.state with
    | .heard, some (response, state) =>
      (⟨0, #v[response, 0, 0, 0], fun _ => 0⟩, ⟨bench.sent + 1, state⟩)
    | .unheard, some (_, state) => (failedReply, ⟨bench.sent + 1, state⟩)
    | _, _ => (failedReply, ⟨bench.sent + 1, bench.state⟩)
  | .setIos _ _ _, bench => ((), bench)
  | .updatePhase, bench => (0, bench)
  | .malloc _, bench => (none, bench)
  | .unsetWord, bench => (0, bench)

variable {card fates} {cmd : MmcCmd} {bench : Bench}

theorem exec_heard {response : U32} {state : IdentState} (heard : fates bench.sent = .heard)
    (answered : card.answer cmd bench.state = some (response, state)) :
    (startCmd cmd none).exec (serveIdent card fates) bench =
      (⟨0, #v[response, 0, 0, 0], fun _ => 0⟩, ⟨bench.sent + 1, state⟩) := by
  show serveIdent card fates (.sendCmd cmd none) bench = _
  unfold serveIdent
  dsimp only
  rw [heard, answered]

/-- A command that fails leaves the card as it is, or as if it had been heard. -/
theorem exec_failed (failed : fates bench.sent = .heard → card.answer cmd bench.state = none) :
    ∃ state, (startCmd cmd none).exec (serveIdent card fates) bench =
        (failedReply, ⟨bench.sent + 1, state⟩) ∧
      (state = bench.state ∨ ∃ response, card.answer cmd bench.state = some (response, state)) := by
  show ∃ state, serveIdent card fates (.sendCmd cmd none) bench = _ ∧ _
  unfold serveIdent
  dsimp only
  cases fate : fates bench.sent with
  | heard =>
    rw [failed fate]
    exact ⟨bench.state, rfl, Or.inl rfl⟩
  | lost => exact ⟨bench.state, rfl, Or.inl rfl⟩
  | unheard =>
    cases card.answer cmd bench.state with
    | none => exact ⟨bench.state, rfl, Or.inl rfl⟩
    | some answered => exact ⟨answered.2, rfl, Or.inr ⟨answered.1, rfl⟩⟩

end Serving

/-- So many commands from one on are heard. -/
def Heard (fates : Nat → Fate) (start count : Nat) : Prop :=
  ∀ index < count, fates (start + index) = .heard

theorem heard_succ_iff {fates : Nat → Fate} {start count : Nat} :
    Heard fates start (count + 1) ↔ fates start = .heard ∧ Heard fates (start + 1) count := by
  unfold Heard
  rw [Nat.forall_lt_succ_left]
  simp only [Nat.add_zero, Nat.add_assoc, Nat.add_comm 1]

/-! ### OCR -/

section Ocr

variable (card : IdentCard) (announced : Bool) {polled : Nat}

theorem ocr_and {mask : U32} (high : 0xffffff &&& mask = 0) :
    card.ocr announced polled &&& mask =
      (if card.polls ≤ polled then
        ocrBusy ||| if card.family.byBlocks && announced then ocrHcs else 0
      else 0) &&& mask := by
  have window : card.window.setWidth 32 = card.window.setWidth 32 &&& (0xffffff : U32) := by
    refine BitVec.eq_of_toNat_eq ?_
    have bound := card.window.isLt
    rw [BitVec.toNat_and, show (0xffffff : U32).toNat = 2 ^ 24 - 1 by decide,
      Nat.and_two_pow_sub_one_eq_mod, BitVec.toNat_setWidth_of_le (by decide),
      Nat.mod_eq_of_lt bound]
  have none : card.window.setWidth 32 &&& mask = 0 := by
    rw [window, BitVec.and_assoc, high]
    exact BitVec.and_zero
  unfold IdentCard.ocr
  rw [BitVec.and_or_distrib_right, none]
  exact BitVec.zero_or

/-- The card is ready as soon as it has been polled often enough. -/
theorem ocr_busy_iff : card.ocr announced polled &&& ocrBusy ≠ 0 ↔ card.polls ≤ polled := by
  rw [ocr_and card announced (by decide)]
  split
  · rename_i ready
    refine iff_of_true ?_ ready
    split
    · decide
    · decide
  · rename_i notReady
    exact iff_of_false (by decide) notReady

theorem ocr_hcs (ready : card.polls ≤ polled) :
    (card.ocr announced polled &&& ocrHcs == ocrHcs) = (card.family.byBlocks && announced) := by
  rw [ocr_and card announced (by decide), if_pos ready]
  cases card.family.byBlocks && announced with
  | true | false => decide

end Ocr

/-- Under the condition a part comes back without an error and leaves this descriptor, and
otherwise it comes back with one of these errors. -/
structure Outcome (goes : Prop) (left : StartMmc) (errors : List Int) (result : Int × StartMmc) :
    Prop where
  done : goes → result = (0, left)
  failed : ¬goes → result.1 ∈ errors

/-! ### CMD8, and CMD1 that is not answered -/

section IfCond

variable {card : IdentCard} {fates : Nat → Fate}

/-- The card tells that it is of the second version, and the host hears it. -/
def IdentCard.tellsV2 (card : IdentCard) (fate : Fate) : Bool :=
  match card.family with
  | .sdV2 _ => card.echo &&& 0xff = 0xaa ∧ fate = .heard
  | _ => false

theorem tellsV2_eq {highCapacity : Bool} (family : card.family = .sdV2 highCapacity)
    (fate : Fate) : card.tellsV2 fate = decide (card.echo &&& 0xff = 0xaa ∧ fate = .heard) := by
  unfold IdentCard.tellsV2
  rw [family]

/-- What CMD8 leaves in the descriptor -/
def IdentCard.asked (card : IdentCard) (fate : Fate) (mmc : StartMmc) : StartMmc :=
  if card.tellsV2 fate then { mmc with version := sdVersion2 } else mmc

theorem answer_sendIfCond_eq {highCapacity : Bool} (family : card.family = .sdV2 highCapacity)
    (mmc : StartMmc) (state : IdentState) :
    card.answer (sendIfCondCmd mmc) state = some (card.echo, { state with app := false }) := by
  show (match card.family with
    | .sdV2 _ => some (card.echo, { state with app := false })
    | _ => none) = _
  rw [family]

/-- Only a card of the second version answers CMD8. -/
theorem answer_sendIfCond_none (other : ∀ highCapacity, card.family ≠ .sdV2 highCapacity)
    (mmc : StartMmc) (state : IdentState) :
    card.answer (sendIfCondCmd mmc) state = none ∧ ∀ fate, card.tellsV2 fate = false := by
  have silent : (match card.family with
      | .sdV2 _ => some (card.echo, { state with app := false })
      | _ => none) = none := by
    split
    · rename_i highCapacity family
      exact absurd family (other highCapacity)
    · rfl
  refine ⟨silent, fun fate => ?_⟩
  unfold IdentCard.tellsV2
  split
  · rename_i highCapacity family
    exact absurd family (other highCapacity)
  · rfl

/-- CMD8 is no poll, and its error decides nothing. -/
theorem exec_mmcSendIfCond (mmc : StartMmc) (bench : Bench) :
    ∃ err state, (mmcSendIfCond mmc).exec (serveIdent card fates) bench =
        ((err, card.asked (fates bench.sent) mmc), ⟨bench.sent + 1, state⟩) ∧
      state.polled = bench.state.polled := by
  unfold mmcSendIfCond IdentCard.asked
  rw [Program.exec_bind]
  by_cases second : ∃ highCapacity, card.family = .sdV2 highCapacity
  · obtain ⟨highCapacity, family⟩ := second
    have answered := answer_sendIfCond_eq family mmc bench.state
    rw [tellsV2_eq family]
    by_cases heard : fates bench.sent = .heard
    · rw [exec_heard heard answered, if_neg (not_not.mpr rfl), Program.exec_ite]
      by_cases right : (#v[card.echo, 0, 0, 0] : Vector U32 4)[0] &&& 0xff = 0xaa
      · dsimp only
        rw [if_neg (not_not.mpr right), if_pos (decide_eq_true ⟨right, heard⟩)]
        exact ⟨_, _, rfl, rfl⟩
      · dsimp only
        rw [if_pos right, if_neg fun given => right (of_decide_eq_true given).1]
        exact ⟨_, _, rfl, rfl⟩
    · obtain ⟨state, failed, after⟩ := @exec_failed card fates (sendIfCondCmd mmc) bench fun fate =>
        absurd fate heard
      rw [failed]
      dsimp only
      rw [if_pos failedReply_error, if_neg fun given => heard (of_decide_eq_true given).2]
      refine ⟨_, _, rfl, ?_⟩
      rcases after with rfl | ⟨response, told⟩
      · rfl
      · obtain rfl := congrArg Prod.snd (Option.some.inj (answered.symm.trans told))
        rfl
  · obtain ⟨none, silent⟩ := answer_sendIfCond_none (not_exists.mp second) mmc bench.state
    obtain ⟨state, failed, after⟩ := @exec_failed card fates (sendIfCondCmd mmc) bench fun _ => none
    rw [failed, silent]
    dsimp only
    rw [if_pos failedReply_error, if_neg Bool.false_ne_true]
    refine ⟨_, _, rfl, ?_⟩
    rcases after with rfl | ⟨response, told⟩
    · rfl
    · exact absurd (none.symm.trans told).symm (Option.some_ne_none _)

/-- CMD1 that fails, or that the card does not answer -/
theorem exec_mmcSendOpCondIter_failed {useArg : Bool} {mmc : StartMmc} {bench : Bench}
    (failed : fates bench.sent = .heard →
      card.answer (mmcSendOpCondCmd mmc useArg) bench.state = none) :
    ∃ after, (mmcSendOpCondIter mmc useArg).exec (serveIdent card fates) bench =
      ((-1, mmc), after) := by
  obtain ⟨state, fails, -⟩ := exec_failed failed
  unfold mmcSendOpCondIter
  rw [Program.exec_bind, fails]
  exact ⟨_, rfl⟩

end IfCond

/-! ### Resetting the card -/

section Reset

variable {card : IdentCard} {fates : Nat → Fate} {platform : StartPlatform}

theorem exec_setIos (mmc : StartMmc) (bench : Bench) :
    mmc.setIos.exec (serveIdent card fates) bench = ((), bench) := by
  unfold StartMmc.setIos mmcSetIos
  split
  · rfl
  · rfl

/-- The descriptor when the card has been reset -/
def StartMmc.reset (mmc : StartMmc) : StartMmc :=
  let clock := if 1 > mmc.cfg.fMax then mmc.cfg.fMax else 1
  { mmc with
    busWidth := 1
    clock := if clock < mmc.cfg.fMin then mmc.cfg.fMin else clock
    partNum := 0 }

/-- What `mmc_start_init` marks in the descriptor at its end -/
def markProgress (result : Int × StartMmc) : Int × StartMmc :=
  (result.1, if result.1 = inProgress then { result.2 with initInProgress := 1 } else result.2)

theorem exec_resetAndTry (mmc : StartMmc) (bench : Bench) :
    (fates bench.sent = .heard →
        ((resetAndTry platform mmc).exec (serveIdent card fates) bench) =
          (markProgress ((tryCard platform mmc.reset).exec (serveIdent card fates)
              ⟨bench.sent + 1, ⟨0, false⟩⟩).1,
            ((tryCard platform mmc.reset).exec (serveIdent card fates)
              ⟨bench.sent + 1, ⟨0, false⟩⟩).2)) ∧
      (fates bench.sent ≠ .heard →
        ((resetAndTry platform mmc).exec (serveIdent card fates) bench).1.1 = -1) := by
  unfold resetAndTry StartMmc.setBusWidth mmcSetClock mmcGoIdle
  dsimp only
  simp only [Program.exec_bind, exec_setIos, Program.exec_pure]
  refine ⟨fun heard => ?_, fun failed => ?_⟩
  · rw [@exec_heard card fates goIdleCmd bench _ _ heard rfl, if_neg (not_not.mpr rfl),
      Program.exec_bind]
    rfl
  · obtain ⟨state, lost, -⟩ := @exec_failed card fates goIdleCmd bench fun heard =>
      absurd heard failed
    rw [lost]
    dsimp only
    rw [if_pos failedReply_error]
    rfl

/-- What `mmc_start_init` gets from elsewhere, and from the callers -/
structure Startable (platform : StartPlatform) (mmc : StartMmc) : Prop where
  /-- `mmc_init` comes back at once with a card that has been started. -/
  fresh : mmc.hasInit = 0
  /-- The host supports addressing by blocks. -/
  supports : mmc.cfg.hostCaps &&& mmcModeHc ≠ 0
  /-- The host's `init` does not come back with `IN_PROGRESS`. -/
  settled : platform.init ≠ some inProgress

/-- There is a card, and the host could be initialised. -/
def StartPlatform.Present (platform : StartPlatform) : Prop :=
  platform.cardDetect ≠ 0 ∧ platform.init = some 0

theorem mmcStartInit_present {mmc : StartMmc} (startable : Startable platform mmc)
    (present : platform.Present) : mmcStartInit platform mmc = resetAndTry platform mmc := by
  unfold mmcStartInit
  rw [present.2]
  dsimp only
  rw [if_neg present.1, if_neg (not_not.mpr startable.fresh), if_neg (not_not.mpr rfl)]

/-- Without a card, or with a host that cannot be initialised, it comes back with an error. -/
theorem mmcStartInit_absent {mmc : StartMmc} (startable : Startable platform mmc)
    (absent : ¬platform.Present) : ∃ err left, mmcStartInit platform mmc = pure (err, left) ∧
      err ≠ 0 ∧ err ≠ inProgress := by
  have settled := startable.settled
  unfold mmcStartInit
  cases init : platform.init with
  | none => exact ⟨_, _, rfl, by decide, by decide⟩
  | some err =>
    rw [init] at settled
    dsimp only
    by_cases none : platform.cardDetect = 0
    · rw [if_pos none]
      exact ⟨_, _, rfl, by decide, by decide⟩
    · have failed : err ≠ 0 := fun zero => absent ⟨none, init.trans (congrArg some zero)⟩
      rw [if_neg none, if_neg (not_not.mpr startable.fresh), if_pos failed]
      exact ⟨_, _, rfl, failed, fun progress => settled (congrArg some progress)⟩

/-- The boot head does not say that the card is of the other family. -/
def StartPlatform.tries (platform : StartPlatform) (sd : Bool) : Bool :=
  if platform.workMode = workModeBoot then
    if platform.cardType = cardTypeSd then sd
    else if platform.cardType = cardTypeMmc then !sd
    else true
  else true

end Reset

/-! ### The whole -/

/-- The result of the identification -/
def identified (platform : StartPlatform) (card : IdentCard) (fates : Nat → Fate)
    (state : IdentState) (mmc : StartMmc) : Int × StartMmc :=
  ((identify platform mmc).exec (serveIdent card fates) ⟨0, state⟩).1

section Whole

variable {card : IdentCard} {fates : Nat → Fate} {platform : StartPlatform} {mmc : StartMmc}

/-- What follows on `mmc_start_init` -/
theorem exec_identify (state : IdentState) :
    identified platform card fates state mmc =
      let started := (mmcStartInit platform mmc).exec (serveIdent card fates) ⟨0, state⟩
      if started.1.1 = 0 ∨ started.1.1 = inProgress then
        ((completeOpCondStep started.1.2).exec (serveIdent card fates) started.2).1
      else started.1 := by
  unfold identified identify
  rw [Program.exec_bind]
  dsimp only
  split
  · rfl
  · rfl

/-- An error of `mmc_start_init` is the error of the identification. -/
theorem identified_of_error {state : IdentState} {err : Int}
    (error : ((mmcStartInit platform mmc).exec (serveIdent card fates) ⟨0, state⟩).1.1 = err)
    (failed : err ≠ 0 ∧ err ≠ inProgress) :
    (identified platform card fates state mmc).1 ≠ 0 := by
  rw [exec_identify]
  dsimp only
  rw [error, if_neg (not_or.mpr failed), error]
  exact failed.1

theorem identified_absent (startable : Startable platform mmc) (absent : ¬platform.Present)
    (state : IdentState) : (identified platform card fates state mmc).1 ≠ 0 := by
  obtain ⟨err, left, fails, failed⟩ := mmcStartInit_absent startable absent
  exact identified_of_error (congrArg (fun program =>
    (Program.exec (serveIdent card fates) program ⟨0, state⟩).1.1) fails) failed

end Whole

end PinePhonePkg
