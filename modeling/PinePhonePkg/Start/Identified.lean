/-
This file settles which cards the identification gets right: a card that is
accepted is marked for what it is, one to which no command fails is accepted, one
with a wrong echo is not, and the polling loops end. The last holds always; the
others hold but for a few kinds of inputs, which are named.
-/

import PinePhonePkg.Start.IdentifyMmc
import PinePhonePkg.Start.IdentifySd
import PinePhonePkg.Start.Runs

namespace PinePhonePkg

open Library Program

/-! ### How many commands are sent -/

section Length

variable (mmc : StartMmc)

theorem within_startCmd {Result : Type} {count : Nat} (cmd : MmcCmd) {data : Option MmcData}
    {next : StartCmdReply → StartDriver Result} (rest : ∀ reply, (next reply).Within count) :
    (startCmd cmd data >>= next).Within (count + 1) :=
  rest

theorem within_sdSendOpCondLoop (timeout : Nat) :
    (sdSendOpCondLoop mmc timeout).Within (2 * (timeout + 1)) := by
  induction timeout with
  | zero =>
    refine within_startCmd _ fun reply => (within_pure _).ite (within_startCmd _ fun ocr => ?_)
    exact (within_pure _).ite ((within_pure _).ite (within_pure _))
  | succ timeout inductionHypothesis =>
    refine within_startCmd _ fun reply => (within_pure _).ite (within_startCmd _ fun ocr => ?_)
    exact (within_pure _).ite ((within_pure _).ite inductionHypothesis)

theorem within_trySd : (trySd mmc).Within (1 + 2 * 1001) := by
  refine Within.bind ?_ fun _ => within_sdSendOpCondLoop _ 1000
  exact within_startCmd _ fun reply => (within_pure _).ite
    ((within_pure _).ite (within_pure _))

theorem within_mmcSendOpCondIter (useArg : Bool) : (mmcSendOpCondIter mmc useArg).Within 1 :=
  within_startCmd _ fun _ => (within_pure _).ite (within_pure _)

theorem within_mmcSendOpCondLoop (turns : List Bool) :
    (mmcSendOpCondLoop mmc turns).Within turns.length := by
  induction turns generalizing mmc with
  | nil => exact within_pure _
  | cons useArg turns inductionHypothesis =>
    rw [List.length_cons, Nat.add_comm]
    refine (within_mmcSendOpCondIter mmc useArg).bind fun polled => ?_
    exact (within_pure _).ite ((within_pure _).ite (inductionHypothesis _))

theorem within_tryMmc : (tryMmc mmc).Within 3 := by
  have idle : mmcGoIdle.Within 1 := within_startCmd _ fun _ => within_pure _
  have polls : (mmcSendOpCond mmc).Within (1 + 2) :=
    idle.bind fun _ => within_mmcSendOpCondLoop _ [false, true]
  exact polls.andReturn _

theorem within_tryCard (platform : StartPlatform) :
    (tryCard platform mmc).Within (1 + 2 * 1001 + 3) := by
  have both : (trySdThenMmc mmc).Within (1 + 2 * 1001 + 3) :=
    (within_trySd mmc).bind fun tried => (within_tryMmc _).ite (within_pure _)
  have only : (trySdOnly mmc).Within (1 + 2 * 1001 + 3) :=
    ((within_trySd mmc).andReturn _).mono (by decide)
  exact (only.ite (((within_tryMmc mmc).mono (by decide)).ite both)).ite both

theorem within_setIos : mmc.setIos.Within 1 := by
  unfold StartMmc.setIos mmcSetIos
  split
  · exact fun _ => trivial
  · exact within_pure _

theorem within_resetAndTry (platform : StartPlatform) :
    (resetAndTry platform mmc).Within (1 + (1 + (1 + (1 + 2 * 1001 + 3)))) := by
  have width : (mmc.setBusWidth 1).Within 1 := (within_setIos _).andReturn _
  have clock (narrow : StartMmc) : (mmcSetClock narrow 1).Within 1 := (within_setIos _).andReturn _
  have idle : mmcGoIdle.Within 1 := within_startCmd _ fun _ => within_pure _
  refine width.bind fun narrow => (clock narrow).bind fun slow => idle.bind fun err => ?_
  exact (within_pure _).ite ((within_tryCard _ platform).andReturn _)

theorem within_mmcCompleteOpCondLoop (timeout : Nat) :
    (mmcCompleteOpCondLoop mmc timeout).Within (timeout + 1) := by
  induction timeout generalizing mmc with
  | zero =>
    refine ((within_mmcSendOpCondIter mmc true).bind ?_ : Within (1 + 0) _)
    rintro ⟨err, polled⟩
    exact (within_pure _).ite (within_pure _)
  | succ timeout inductionHypothesis =>
    rw [Nat.add_comm]
    refine (within_mmcSendOpCondIter mmc true).bind ?_
    rintro ⟨err, polled⟩
    exact (within_pure _).ite ((within_pure _).ite (inductionHypothesis _))

theorem within_mmcStartInit (platform : StartPlatform) :
    (mmcStartInit platform mmc).Within 2009 := by
  unfold mmcStartInit
  split
  · exact within_pure _
  · exact (within_pure _).ite ((within_pure _).ite
      ((within_pure _).ite (within_resetAndTry mmc platform)))

/-- The polling loops end, whatever they are answered. -/
theorem within_identify (platform : StartPlatform) :
    (identify platform mmc).Within (2009 + 1001) := by
  refine (within_mmcStartInit mmc platform).bind fun started => ?_
  refine Within.ite ?_ (within_pure _)
  refine Within.ite ?_ (within_pure _)
  exact (within_pure _).ite (within_mmcCompleteOpCondLoop _ 1000)

end Length

/-! ### What the identification gets right -/

/-- The descriptor marks the family of the card and its addressing mode. -/
structure Marks (family : CardFamily) (mmc : StartMmc) : Prop where
  version : mmc.version = family.version
  highCapacity : mmc.highCapacity = family.byBlocks
  rca : mmc.rca = family.rca

section Right

variable {platform : StartPlatform} {card : IdentCard} {fates : Nat → Fate} {mmc : StartMmc}

theorem marks_sdLeft_v1 (family : card.family = .sdV1) :
    Marks card.family (card.sdLeft mmc) ↔ mmc.version ≠ sdVersion2 := by
  have bytes : (card.sdLeft mmc).highCapacity = card.family.byBlocks := by
    refine (ocr_hcs card _ (Nat.le_refl _)).trans ?_
    rw [family]
    rfl
  have version : (card.sdLeft mmc).version = card.family.version ↔ mmc.version ≠ sdVersion2 := by
    show (if mmc.version ≠ sdVersion2 then sdVersion10 else mmc.version) = _ ↔ _
    rw [family]
    split
    · rename_i other
      exact iff_of_true rfl other
    · rename_i second
      rw [not_not.mp second]
      decide
  refine ⟨fun marks => version.mp marks.version, fun other => ⟨version.mpr other, bytes, ?_⟩⟩
  rw [family]
  rfl

theorem marks_sdLeft_v2 {highCapacity : Bool} (family : card.family = .sdV2 highCapacity) :
    Marks card.family (card.sdLeft mmc) ↔ mmc.version = sdVersion2 := by
  constructor
  · intro marks
    have version : (if mmc.version ≠ sdVersion2 then sdVersion10 else mmc.version) =
        card.family.version := marks.version
    rw [family] at version
    split at version
    · exact absurd (show sdVersion10 = sdVersion2 from version) (by decide)
    · exact version
  · intro second
    refine ⟨?_, ?_, ?_⟩
    · show (if mmc.version ≠ sdVersion2 then sdVersion10 else mmc.version) = _
      rw [if_neg (not_not.mpr second), second, family]
      rfl
    · refine (ocr_hcs card _ (Nat.le_refl _)).trans ?_
      rw [decide_eq_true second, Bool.and_true]
    · rw [family]
      rfl

theorem asked_version_v1 (family : card.family = .sdV1) (fate : Fate) :
    card.asked fate mmc = mmc := by
  have other (highCapacity : Bool) : card.family ≠ .sdV2 highCapacity := by
    rw [family]
    exact fun same => CardFamily.noConfusion same
  unfold IdentCard.asked
  rw [(answer_sendIfCond_none other mmc ⟨0, false⟩).2]
  exact if_neg Bool.false_ne_true

theorem asked_version_v2 {highCapacity : Bool} (family : card.family = .sdV2 highCapacity)
    (right : card.echo &&& 0xff = 0xaa) (fate : Fate) :
    (card.asked fate mmc).version = sdVersion2 ↔ fate = .heard ∨ mmc.version = sdVersion2 := by
  unfold IdentCard.asked
  rw [tellsV2_eq family]
  by_cases heard : fate = .heard
  · rw [if_pos (decide_eq_true ⟨right, heard⟩)]
    exact iff_of_true rfl (Or.inl heard)
  · rw [if_neg fun given => heard (of_decide_eq_true given).2, or_iff_right heard]

theorem TakenForMmc.marks_iff {sectorMode byBlocks : Bool} {left : StartMmc}
    (taken : TakenForMmc byBlocks left) : Marks (.mmc sectorMode) left ↔ byBlocks = sectorMode :=
  ⟨fun marks => taken.highCapacity.symm.trans marks.highCapacity, fun same =>
    ⟨taken.version, taken.highCapacity.trans same, taken.rca⟩⟩

end Right

section Asked

variable (platform : StartPlatform) (card : IdentCard) (fates : Nat → Fate) (state : IdentState)
  (mmc : StartMmc)

/-- What is asked of the identification of a card -/
structure Identifies : Prop where
  /-- A card that is accepted is marked for what it is. -/
  marks : card.EchoesRight → (identified platform card fates state mmc).1 = 0 →
    Marks card.family (identified platform card fates state mmc).2
  /-- Where no command fails, a card is accepted that is ready in time and of a family tried. -/
  accepts : card.EchoesRight → (∀ index, fates index = .heard) → card.polls ≤ 1000 →
    platform.Present → platform.tries card.family.isSd →
      (identified platform card fates state mmc).1 = 0
  /-- A card with a wrong echo is not accepted. -/
  refuses : ¬card.EchoesRight → (identified platform card fates state mmc).1 ≠ 0
  /-- The polling loops end. -/
  ends : ((identify platform mmc).trace (serveIdent card fates) ⟨0, state⟩).length ≤ 3010

/-- What the identification gets right -/
structure IdentificationFits : Prop where
  /-- The version of an earlier card is not left for one that does not answer CMD8. -/
  sdV1 : card.family = .sdV1 → SdGoes platform card fates mmc → mmc.version ≠ sdVersion2
  /-- CMD8 tells the version, or it is left from before. -/
  sdV2 : ∀ highCapacity, card.family = .sdV2 highCapacity → SdGoes platform card fates mmc →
    card.echo &&& 0xff = 0xaa ∧ (fates 1 = .heard ∨ mmc.version = sdVersion2)
  /-- The card is not ready at the poll that announces nothing. -/
  sectorMode : card.family = .mmc true → MmcGoes platform card fates → card.polls ≠ 0
  /-- No MMC is waited for from before. -/
  notPending : card.family.isSd → card.EchoesRight → (∀ index, fates index = .heard) →
    card.polls ≤ 1000 → platform.Present → platform.tries true → mmc.opCondPending = 0

end Asked

section Exactly

variable {platform : StartPlatform} {card : IdentCard} {fates : Nat → Fate} {state : IdentState}
  {mmc : StartMmc} (startable : Startable platform mmc)

include startable

/-- An SD card that is accepted has gone through all of its steps. -/
theorem sdGoes_of_accepted (sd : card.family.isSd)
    (accepted : (identified platform card fates state mmc).1 = 0) :
    SdGoes platform card fates mmc := by
  by_contra stops
  exact (identified_sd sd startable state).2 stops accepted

theorem mmcGoes_of_accepted {sectorMode : Bool} (family : card.family = .mmc sectorMode)
    (accepted : (identified platform card fates state mmc).1 = 0) :
    MmcGoes platform card fates := by
  by_contra stops
  exact (identified_mmc family startable state).2 stops accepted

theorem marks_v1_iff (family : card.family = .sdV1) (goes : SdGoes platform card fates mmc) :
    Marks card.family (identified platform card fates state mmc).2 ↔
      mmc.version ≠ sdVersion2 := by
  have sd : card.family.isSd := by
    rw [family]
    rfl
  rw [(identified_sd sd startable state).1 goes, asked_version_v1 family]
  exact marks_sdLeft_v1 family

theorem marks_v2_iff {highCapacity : Bool} (family : card.family = .sdV2 highCapacity)
    (right : card.echo &&& 0xff = 0xaa) (goes : SdGoes platform card fates mmc) :
    Marks card.family (identified platform card fates state mmc).2 ↔
      fates 1 = .heard ∨ mmc.version = sdVersion2 := by
  have sd : card.family.isSd := by
    rw [family]
    rfl
  rw [(identified_sd sd startable state).1 goes, marks_sdLeft_v2 family]
  exact asked_version_v2 family right (fates 1)

theorem marks_mmc_iff {sectorMode : Bool} (family : card.family = .mmc sectorMode)
    (goes : MmcGoes platform card fates) :
    Marks card.family (identified platform card fates state mmc).2 ↔
      (sectorMode → card.polls ≠ 0) := by
  obtain ⟨left, ends, taken⟩ := (identified_mmc family startable state).1 goes
  rw [family] at taken ⊢
  rw [ends]
  refine taken.marks_iff.trans ?_
  cases sectorMode with
  | true =>
    show (true && decide (card.polls ≠ 0)) = true ↔ _
    rw [Bool.true_and, decide_eq_true_iff, imp_iff_right rfl]
  | false => exact iff_of_true rfl fun given => absurd given Bool.false_ne_true

/-- Where the inputs fit, what is accepted is marked right. -/
theorem marks_of_fits (fits : IdentificationFits platform card fates mmc)
    (accepted : (identified platform card fates state mmc).1 = 0) :
    Marks card.family (identified platform card fates state mmc).2 := by
  cases family : card.family with
  | sdV1 =>
    have goes := sdGoes_of_accepted startable (by rw [family]; rfl) accepted
    exact family ▸ (marks_v1_iff startable family goes).mpr (fits.sdV1 family goes)
  | sdV2 highCapacity =>
    have goes := sdGoes_of_accepted startable (by rw [family]; rfl) accepted
    obtain ⟨right, told⟩ := fits.sdV2 highCapacity family goes
    exact family ▸ (marks_v2_iff startable family right goes).mpr told
  | mmc sectorMode =>
    have goes := mmcGoes_of_accepted startable family accepted
    refine family ▸ (marks_mmc_iff startable family goes).mpr fun sector => ?_
    exact fits.sectorMode (sector ▸ family) goes

/-- Where the inputs fit, a card is accepted if no command fails. -/
theorem accepts_of_fits (fits : IdentificationFits platform card fates mmc)
    (echo : card.EchoesRight) (all : ∀ index, fates index = .heard) (timely : card.polls ≤ 1000)
    (present : platform.Present) (tried : platform.tries card.family.isSd) :
    (identified platform card fates state mmc).1 = 0 := by
  have polls (start count : Nat) : Heard fates start count := fun index _ => all _
  cases sd : card.family.isSd with
  | true =>
    rw [sd] at tried
    have notPending := fits.notPending sd echo all timely present tried
    exact congrArg Prod.fst ((identified_sd sd startable state).1
      ⟨present, tried, all 0, timely, polls _ _, notPending⟩)
  | false =>
    rw [sd] at tried
    obtain ⟨sectorMode, family⟩ := CardFamily.eq_mmc_of_not_isSd sd
    obtain ⟨left, ends, -⟩ := (identified_mmc family startable state).1
      ⟨present, tried, all 0, Nat.le_succ_of_le timely, polls _ _⟩
    exact congrArg Prod.fst ends

end Exactly

/-- The identification does what is asked of it exactly for the inputs that fit. -/
theorem identifies_iff (platform : StartPlatform) (card : IdentCard) (fates : Nat → Fate)
    (state : IdentState) (mmc : StartMmc) (startable : Startable platform mmc) :
    Identifies platform card fates state mmc ↔ IdentificationFits platform card fates mmc := by
  constructor
  · intro right
    refine ⟨fun family goes => ?_, fun highCapacity family goes => ?_, fun family goes => ?_,
      fun sd echo all timely present tried => ?_⟩
    · have sd : card.family.isSd := by
        rw [family]
        rfl
      have accepted := congrArg Prod.fst ((identified_sd sd startable state).1 goes)
      have echo : card.EchoesRight := fun highCapacity other =>
        CardFamily.noConfusion (family.symm.trans other)
      exact (marks_v1_iff startable family goes).mp (right.marks echo accepted)
    · have sd : card.family.isSd := by
        rw [family]
        rfl
      have accepted := congrArg Prod.fst ((identified_sd sd startable state).1 goes)
      have echo : card.EchoesRight := by
        by_contra wrong
        exact right.refuses wrong accepted
      have echoes := echo highCapacity family
      exact ⟨echoes, (marks_v2_iff startable family echoes goes).mp (right.marks echo accepted)⟩
    · obtain ⟨left, ends, -⟩ := (identified_mmc family startable state).1 goes
      have echo : card.EchoesRight := fun highCapacity other =>
        CardFamily.noConfusion (family.symm.trans other)
      exact (marks_mmc_iff startable family goes).mp
        (right.marks echo (congrArg Prod.fst ends)) rfl
    · by_contra pending
      exact (identified_sd sd startable state).2 (fun goes => pending goes.notPending)
        (right.accepts echo all timely present (sd ▸ tried))
  · intro fits
    refine ⟨fun _ accepted => marks_of_fits startable fits accepted,
      accepts_of_fits startable fits, fun wrong accepted => ?_, ?_⟩
    · obtain ⟨highCapacity, family, echo⟩ := not_forall₂.mp wrong
      have sd : card.family.isSd := by
        rw [family]
        rfl
      exact echo (fits.sdV2 highCapacity family (sdGoes_of_accepted startable sd accepted)).1
    · exact (within_identify mmc platform).run (run_exec _ _ _)

/-- A platform on which both families are tried -/
def StartPlatform.unrecorded : StartPlatform := ⟨1, 0, 1, some 0⟩

/-- The descriptor in front of the first start-up -/
def StartMmc.unknown : StartMmc := (StartMmc.answered false).withHostCaps mmcModeHc

/-- An SD card of high capacity that is ready behind three polls -/
theorem identifies_iff_highCapacity :
    Identifies .unrecorded ⟨.sdV2 true, 3, 0xff8000, 0x1aa⟩ (fun _ => .heard) ⟨0, false⟩ .unknown ↔
      IdentificationFits .unrecorded ⟨.sdV2 true, 3, 0xff8000, 0x1aa⟩ (fun _ => .heard) .unknown :=
  identifies_iff _ _ _ _ _ ⟨rfl, by decide, by decide⟩

/-- Not every card is identified for what it is: one that answers CMD8 with another pattern is
accepted. -/
theorem identify_accepts_wrong_echo :
    ¬∀ (platform : StartPlatform) (card : IdentCard) (fates : Nat → Fate) (state : IdentState)
      (mmc : StartMmc), Startable platform mmc → Identifies platform card fates state mmc := by
  intro all
  have right := all .unrecorded ⟨.sdV2 true, 0, 0xff8000, 0x155⟩ (fun _ => .heard) ⟨0, false⟩
    .unknown ⟨rfl, by decide, by decide⟩
  refine right.refuses (fun echo => ?_) (by decide +kernel)
  exact absurd (echo true rfl) (by decide)

end PinePhonePkg
