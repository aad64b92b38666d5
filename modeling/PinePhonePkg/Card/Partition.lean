/-
This file follows the hardware partition the card is switched to through the
writing and the reading of the boot image. A switch that reports success has
read the register back, so the card is where the host thinks it is; a switch
that reports a failure may have been carried out all the same, and then it
depends on the next switch whether the card comes back to the user area.
-/

import PinePhonePkg.Card.Frame
import PinePhonePkg.Mmc.Boot

namespace PinePhonePkg

open Library Program

/-! ### Programs that leave the registers alone -/

/-- A request that writes no byte of the register -/
def Request.KeepsRegisters : Request → Prop
  | .sendCmd cmd _ => cmd.cmdidx ≠ mmcCmdSwitch
  | _ => True

/-- The data commands a card served after it was in the state `before`. -/
def transfersSince (before after : Card) : List Transfer :=
  after.transfers.drop before.transfers.length

/-- The registers are the same, and the transfers in between went to the current partition. -/
structure Card.Served (before after : Card) (transfers : List Transfer) : Prop where
  extCsd : after.extCsd = before.extCsd
  appended : after.transfers = before.transfers ++ transfers
  accessed : ∀ transfer ∈ transfers, transfer.access = before.access

namespace Card.Served

variable {before middle after : Card} {earlier later : List Transfer}

theorem access (served : before.Served after later) : after.access = before.access := by
  unfold Card.access
  rw [served.extCsd]

theorem since (served : before.Served after later) : transfersSince before after = later := by
  unfold transfersSince
  rw [served.appended, List.drop_left]

theorem trans (first : before.Served middle earlier) (second : middle.Served after later) :
    before.Served after (earlier ++ later) where
  extCsd := second.extCsd.trans first.extCsd
  appended := by rw [second.appended, first.appended, List.append_assoc]
  accessed transfer member := by
    rcases List.mem_append.mp member with member | member
    · exact first.accessed transfer member
    · exact (second.accessed transfer member).trans first.access

theorem nothing (registers : after.extCsd = before.extCsd)
    (same : after.transfers = before.transfers) : before.Served after [] :=
  ⟨registers, same.trans (List.append_nil _).symm, fun _ member => absurd member List.not_mem_nil⟩

theorem one (registers : after.extCsd = before.extCsd) {transfer : Transfer}
    (appended : after.transfers = before.transfers ++ [transfer])
    (access : transfer.access = before.access) : before.Served after [transfer] :=
  ⟨registers, appended, fun _ member => List.mem_singleton.mp member ▸ access⟩

end Card.Served

/-- A command other than CMD6 is recorded exactly when it is a data command. -/
theorem perform_served (card : Card) (cmd : MmcCmd) (notSwitch : cmd.cmdidx ≠ mmcCmdSwitch)
    (data : Option MmcData) (answer : Answer) :
    ∃ transfers, card.Served (card.perform cmd data answer) transfers ∧
      (transfers = [] ↔ ¬ (Request.sendCmd cmd data).IsData) := by
  cases data with
  | none =>
    have kept : (card.perform cmd none answer).extCsd = card.extCsd ∧
        (card.perform cmd none answer).transfers = card.transfers := by
      unfold Card.perform
      dsimp only
      split
      · exact absurd (by assumption) notSwitch
      all_goals first | trivial | (split <;> exact ⟨rfl, rfl⟩)
    exact ⟨[], .nothing kept.1 kept.2, ⟨fun _ data => data, fun _ => rfl⟩⟩
  | some data =>
    by_cases isData : cmd.IsData
    · obtain ⟨write, recorded⟩ : ∃ write : Bool,
          (card.perform cmd (some data) answer).extCsd = card.extCsd ∧
          (card.perform cmd (some data) answer).transfers = card.transfers ++
            [⟨card.access, write, card.byteAddress cmd.cmdarg,
              data.blocks.toNat * data.blocksize.toNat⟩] := by
        unfold Card.perform
        rcases isData with equal | equal | equal | equal <;> rw [equal]
        · exact ⟨false, rfl, rfl⟩
        · exact ⟨false, rfl, rfl⟩
        · exact ⟨true, rfl, rfl⟩
        · exact ⟨true, rfl, rfl⟩
      exact ⟨_, .one recorded.1 recorded.2 rfl,
        ⟨fun empty => absurd empty (List.cons_ne_nil _ _), fun none => absurd isData none⟩⟩
    · have kept : card.perform cmd (some data) answer = card := by
        unfold MmcCmd.IsData at isData
        simp only [not_or] at isData
        unfold Card.perform
        split <;> simp_all
      exact ⟨[], .nothing (by rw [kept]) (by rw [kept]), ⟨fun _ => isData, fun _ => rfl⟩⟩

theorem serve_served (request : Request) (keeps : request.KeepsRegisters) (world : World) :
    ∃ transfers, world.card.Served (serve request world).2.card transfers ∧
      (transfers = [] ↔ ¬ request.IsData) := by
  cases request with
  | sendCmd cmd data =>
    rw [serve_sendCmd]
    split
    · rename_i status
      refine ⟨[], .nothing rfl rfl, fun _ isData => ?_, fun _ => rfl⟩
      cases data with
      | none => exact isData
      | some data =>
        rcases isData with equal | equal | equal | equal <;>
          exact absurd (status.symm.trans equal) (by decide)
    · exact perform_served world.card cmd keeps data _
  | setIos | updatePhase | malloc | unsetWord =>
    exact ⟨[], .nothing rfl rfl, fun _ => id, fun _ => rfl⟩

/-- A program without CMD6 keeps the registers, and transfers when it sends a data command. -/
theorem exec_served {Result : Type} {program : Driver Result}
    (keeps : Always (fun _ => True) Request.KeepsRegisters (fun _ => True) program)
    (world : World) :
    ∃ transfers, world.card.Served (program.exec serve world).2.card transfers ∧
      (transfers = [] ↔ ∀ exchange ∈ program.trace serve world, ¬ exchange.request.IsData) := by
  induction program generalizing world with
  | done result =>
    exact ⟨[], .nothing rfl rfl, fun _ _ member => absurd member List.not_mem_nil, fun _ => rfl⟩
  | call request next inductionHypothesis =>
    obtain ⟨earlier, first, firstData⟩ := serve_served request keeps.1 world
    obtain ⟨later, second, secondData⟩ :=
      inductionHypothesis _ (keeps.2 _ trivial) (serve request world).2
    refine ⟨earlier ++ later, first.trans second, ?_⟩
    rw [List.append_eq_nil_iff, firstData, secondData]
    constructor
    · rintro ⟨none, rest⟩ exchange member
      rcases List.mem_cons.mp member with rfl | member
      · exact none
      · exact rest exchange member
    · intro none
      exact ⟨none _ List.mem_cons_self, fun exchange member =>
        none exchange (List.mem_cons_of_mem _ member)⟩

/-! ### Transfers keep the registers -/

theorem keepsRegisters_readBlocks (mmc : Mmc) (start blkcnt : U32) (data : MmcData) :
    Request.KeepsRegisters (.sendCmd (readBlocksCmd mmc start blkcnt) (some data)) := by
  show (readBlocksCmd mmc start blkcnt).cmdidx ≠ mmcCmdSwitch
  rcases readBlocksCmd_cases mmc start blkcnt with equal | equal <;> rw [equal] <;> decide

theorem keepsRegisters_writeBlocks (mmc : Mmc) (start blkcnt : U32) (data : MmcData) :
    Request.KeepsRegisters (.sendCmd (writeBlocksCmd mmc start blkcnt) (some data)) := by
  show (writeBlocksCmd mmc start blkcnt).cmdidx ≠ mmcCmdSwitch
  rcases writeBlocksCmd_cases mmc start blkcnt with equal | equal <;> rw [equal] <;> decide

theorem keepsRegisters_quiet {cmd : MmcCmd} (quiet : cmd.Quiet) (data : Option MmcData) :
    Request.KeepsRegisters (.sendCmd cmd data) := by
  intro switch
  unfold MmcCmd.Quiet at quiet
  rw [switch] at quiet
  exact absurd quiet (by decide)

theorem always_mmcBread_keepsRegisters (mmc : Mmc) (start blkcnt : U32) (dst : Buffer) :
    Always (fun _ => True) Request.KeepsRegisters (fun _ => True)
      (mmcBread (some mmc) start blkcnt dst) :=
  always_mmcBread_chunks mmc start blkcnt dst (fun _ _ _ => keepsRegisters_readBlocks mmc _ _ _)
    (keepsRegisters_quiet (stopTransmissionCmd_quiet (some 0)) none)
    (keepsRegisters_quiet (sendStatusCmd_quiet mmc) none)
    (keepsRegisters_quiet (setBlocklenCmd_quiet _) none)

theorem always_mmcBwrite_keepsRegisters (mmc : Mmc) (start blkcnt : U32) (src : Buffer) :
    Always (fun _ => True) Request.KeepsRegisters (fun _ => True)
      (mmcBwrite (some mmc) start blkcnt src) :=
  always_mmcBwrite_chunks mmc start blkcnt src
    (fun _ _ _ _ => keepsRegisters_writeBlocks mmc _ _ _)
    (keepsRegisters_quiet (stopTransmissionCmd_quiet none) none)
    (keepsRegisters_quiet (sendStatusCmd_quiet mmc) none)
    (keepsRegisters_quiet (setBlocklenCmd_quiet _) none)

theorem always_mmcDoBurnBoot_keepsRegisters (mmc : Mmc) (start blkcnt : U32) (src : Buffer) :
    Always (fun _ => True) Request.KeepsRegisters (fun _ => True)
      (mmcDoBurnBoot mmc start blkcnt src) := by
  refine ⟨trivial, fun reply _ => ?_⟩
  cases reply with
  | none => trivial
  | some dst =>
    refine (always_mmcBwrite_keepsRegisters mmc start blkcnt src).bind fun blocksDo _ => ?_
    split
    · trivial
    refine (always_mmcBread_keepsRegisters mmc start blkcnt dst).bind fun result _ => ?_
    show Always _ _ _ (if _ ∨ _ then _ else _)
    split <;> trivial

/-! ### Switching the partition -/

section Switch

/-- The card as CMD6 leaves it. -/
def Card.afterSwitch (card : Card) (index value : U8) (answer : Answer) : Card :=
  if answer.accepted then card.writeExtCsd index value else card

/-- A checked switch leaves what CMD6 leaves; it succeeds only when the register has the value. -/
theorem exec_mmcSwitchChecked (mmc : Mmc) (index value : U8) (updated : Mmc) (world : World) :
    ((mmcSwitchChecked mmc index value updated).exec serve world).2.card =
        world.card.afterSwitch index value (world.answer (switchCmd index value) none) ∧
      (((mmcSwitchChecked mmc index value updated).exec serve world).1 = (0, updated) ∧
        ((mmcSwitchChecked mmc index value updated).exec serve world).2.card.extCsd index.toNat =
          value ∨
      ((mmcSwitchChecked mmc index value updated).exec serve world).1 = (-1, mmc)) := by
  have switched : (mmcSwitch mmc index value).exec serve world = _ :=
    exec_mmcDoSwitch mmc index value 1000 world
  have card : ((world.command (switchCmd index value) none).polled
      ((world.answer (switchCmd index value) none).switchPolls mmc 1000).2).card =
      world.card.afterSwitch index value (world.answer (switchCmd index value) none) :=
    perform_switch world.card index value _
  unfold mmcSwitchChecked
  rw [exec_bind, switched]
  generalize (world.command (switchCmd index value) none).polled _ = switched at card ⊢
  split
  · exact ⟨card, Or.inr rfl⟩
  · rw [exec_bind, exec_mmcSendExtCsd]
    have unchanged : (switched.command sendExtCsdCmd (some sendExtCsdData)).card = switched.card :=
      perform_quiet switched.card sendExtCsdCmd sendExtCsdCmd_quiet (some sendExtCsdData)
        (switched.answer sendExtCsdCmd (some sendExtCsdData))
    dsimp only
    split
    · exact ⟨unchanged.trans card, Or.inr rfl⟩
    rename_i read
    have fetched : switched.card.fetch sendExtCsdCmd
        (switched.answer sendExtCsdCmd (some sendExtCsdData)) = switched.card.extCsd :=
      if_pos (not_not.mp read)
    rw [fetched]
    split
    · exact ⟨unchanged.trans card, Or.inr rfl⟩
    rename_i written
    refine ⟨unchanged.trans card, Or.inl ⟨?_, ?_⟩⟩
    · exact Prod.ext (not_not.mp read) rfl
    · rw [exec_pure, unchanged]
      exact (not_not.mp written).symm

/-! ### The access bits -/

theorem accessMask_bits : ∀ bit : Fin 8, partAccessMask.getLsbD bit = true →
    mmcSwitchPartBootPartMask.getLsbD bit = false ∧
      mmcSwitchPartBootAckMask.getLsbD bit = false ∧ bit.val < 6 := by
  decide

theorem access_bootPartConfig (mmc : Mmc) (bootAck bootPart : U32) :
    mmc.bootPartConfig bootAck bootPart &&& partAccessMask = mmc.partConfig &&& partAccessMask := by
  unfold Mmc.bootPartConfig
  ext bit small
  simp only [← BitVec.getLsbD_eq_getElem, BitVec.getLsbD_and, BitVec.getLsbD_or,
    BitVec.getLsbD_not, BitVec.getLsbD_setWidth, BitVec.getLsbD_shiftLeft]
  cases masked : partAccessMask.getLsbD bit with
  | false => simp
  | true =>
    obtain ⟨part, ack, low⟩ := accessMask_bits ⟨bit, small⟩ masked
    have part : mmcSwitchPartBootPartMask.getLsbD bit = false := part
    have ack : mmcSwitchPartBootAckMask.getLsbD bit = false := ack
    have low : bit < 6 := low
    rw [part, ack]
    simp [low, small]

theorem access_accessConfig (mmc : Mmc) (partNum : U32) :
    mmc.accessConfig partNum &&& partAccessMask = partNum.setWidth 8 &&& partAccessMask := by
  unfold Mmc.accessConfig
  ext bit small
  simp only [BitVec.getElem_and, BitVec.getElem_or, BitVec.getElem_not]
  cases partAccessMask[bit] <;> simp

theorem afterSwitch_access (card : Card) (value : U8) (answer : Answer) :
    (card.afterSwitch extCsdPartConf value answer).access =
      if answer.accepted then value &&& partAccessMask else card.access := by
  unfold Card.afterSwitch
  split
  · unfold Card.access Card.writeExtCsd
    dsimp only
    rw [Function.update_self]
  · rfl

theorem afterSwitch_transfers (card : Card) (index value : U8) (answer : Answer) :
    (card.afterSwitch index value answer).transfers = card.transfers := by
  unfold Card.afterSwitch
  split <;> rfl

/-- The answer the next CMD6 gets. -/
def World.nextSwitch (world : World) : Answer :=
  world.plan.command mmcCmdSwitch (world.sent mmcCmdSwitch)

theorem answer_switchCmd (world : World) (index value : U8) :
    world.answer (switchCmd index value) none = world.nextSwitch :=
  if_neg (fun both => absurd both.2 Bool.false_ne_true)

/-- The descriptors differ in what they know of the boot configuration at most. -/
def Mmc.SameButBoot (mmc other : Mmc) : Prop :=
  other = { mmc with partConfig := other.partConfig, bootBusCond := other.bootBusCond }

theorem sameButBoot_refl (mmc : Mmc) : mmc.SameButBoot mmc := rfl

theorem Mmc.SameButBoot.trans {mmc other last : Mmc} (first : mmc.SameButBoot other)
    (second : other.SameButBoot last) : mmc.SameButBoot last := by
  unfold Mmc.SameButBoot at first second ⊢
  rw [second, first]

/-- How a switch of the partition register ends, when it writes `value`. -/
structure SwitchEnds (mmc : Mmc) (world : World) (value : U8) (run : (Int × Mmc) × World) :
    Prop where
  same : mmc.SameButBoot run.1.2
  transfers : run.2.card.transfers = world.card.transfers
  access : run.2.card.access =
    if world.nextSwitch.accepted then value &&& partAccessMask else world.card.access
  succeeded : run.1.1 = 0 → run.1.2.partConfig = value ∧
    run.2.card.access = value &&& partAccessMask
  failed : run.1.1 ≠ 0 → run.1.2 = mmc

theorem switchEnds_mmcSwitchChecked (mmc : Mmc) (world : World) (value : U8) :
    SwitchEnds mmc world value
      ((mmcSwitchChecked mmc extCsdPartConf value { mmc with partConfig := value }).exec serve
        world) := by
  obtain ⟨card, ended⟩ := exec_mmcSwitchChecked mmc extCsdPartConf value
    { mmc with partConfig := value } world
  rw [answer_switchCmd] at card
  refine ⟨?_, ?_, ?_, fun done => ?_, fun wrong => ?_⟩
  · rcases ended with ⟨done, _⟩ | failed
    · rw [done]
      rfl
    · rw [failed]
      exact sameButBoot_refl mmc
  · rw [card]
    exact afterSwitch_transfers _ _ _ _
  · rw [card]
    exact afterSwitch_access _ _ _
  · rcases ended with ⟨equal, register⟩ | failed
    · exact ⟨by rw [equal], by unfold Card.access; rw [register]⟩
    · rw [failed] at done
      exact absurd (show (-1 : Int) = 0 from done) (by decide)
  · rcases ended with ⟨equal, _⟩ | failed
    · rw [equal] at wrong
      exact absurd rfl wrong
    · rw [failed]

/-- The boot bus register has no part in the partition. -/
theorem exec_mmcSwitchBootBusCond (mmc : Mmc) (bootMode rstBusCond busWidth : U32) (world : World) :
    mmc.SameButBoot ((mmcSwitchBootBusCond mmc bootMode rstBusCond busWidth).exec serve world).1.2 ∧
      ((mmcSwitchBootBusCond mmc bootMode rstBusCond busWidth).exec serve world).1.2.partConfig =
        mmc.partConfig ∧
      ((mmcSwitchBootBusCond mmc bootMode rstBusCond busWidth).exec serve world).2.card.access =
        world.card.access ∧
      ((mmcSwitchBootBusCond mmc bootMode rstBusCond busWidth).exec serve world).2.card.transfers =
        world.card.transfers := by
  obtain ⟨card, ended⟩ := exec_mmcSwitchChecked mmc extCsdBootBusCond
    (mmc.bootBusCondFor bootMode rstBusCond busWidth)
    { mmc with bootBusCond := mmc.bootBusCondFor bootMode rstBusCond busWidth } world
  refine ⟨?_, ?_, ?_, ?_⟩
  · rcases ended with ⟨done, _⟩ | failed
    · exact congrArg (fun result : Int × Mmc => result.2) done ▸ rfl
    · exact congrArg (fun result : Int × Mmc => result.2) failed ▸ sameButBoot_refl mmc
  · rcases ended with ⟨done, _⟩ | failed
    · exact congrArg (fun result : Int × Mmc => result.2.partConfig) done
    · exact congrArg (fun result : Int × Mmc => result.2.partConfig) failed
  · refine (congrArg Card.access card).trans ?_
    unfold Card.afterSwitch
    split
    · unfold Card.access Card.writeExtCsd
      dsimp only
      rw [Function.update_of_ne (by decide)]
    · rfl
  · exact (congrArg Card.transfers card).trans (afterSwitch_transfers _ _ _ _)

/-- The host and the card agree on the partition that is accessed. -/
structure Mmc.At (mmc : Mmc) (card : Card) (access : U8) : Prop where
  card : card.access = access
  host : mmc.partConfig &&& partAccessMask = access

/-- The partition the host takes the card to be in. -/
def Mmc.hostAccess (mmc : Mmc) : U8 :=
  mmc.partConfig &&& partAccessMask

/-- Configuring the boot partition sends the host's access bits, and the host keeps them. -/
theorem switchEnds_mmcSwitchBootPart (mmc : Mmc) (world : World) (bootAck bootPart : U32) :
    SwitchEnds mmc world (mmc.bootPartConfig bootAck bootPart)
        ((mmcSwitchBootPart mmc bootAck bootPart).exec serve world) ∧
      ((mmcSwitchBootPart mmc bootAck bootPart).exec serve world).1.2.hostAccess =
        mmc.hostAccess := by
  have ends : SwitchEnds mmc world (mmc.bootPartConfig bootAck bootPart)
      ((mmcSwitchBootPart mmc bootAck bootPart).exec serve world) :=
    switchEnds_mmcSwitchChecked mmc world _
  refine ⟨ends, ?_⟩
  by_cases done : ((mmcSwitchBootPart mmc bootAck bootPart).exec serve world).1.1 = 0
  · unfold Mmc.hostAccess
    rw [(ends.succeeded done).1]
    exact access_bootPartConfig mmc bootAck bootPart
  · rw [ends.failed done]

theorem switchEnds_mmcSwitchPart (mmc : Mmc) (world : World) (partNum : U32) :
    SwitchEnds mmc world (mmc.accessConfig partNum)
      ((mmcSwitchPart mmc partNum).exec serve world) :=
  switchEnds_mmcSwitchChecked mmc world _

theorem at_mmcSwitchPart (mmc : Mmc) (world : World) (partNum : U32)
    (done : ((mmcSwitchPart mmc partNum).exec serve world).1.1 = 0) :
    ((mmcSwitchPart mmc partNum).exec serve world).1.2.At
      ((mmcSwitchPart mmc partNum).exec serve world).2.card
      (partNum.setWidth 8 &&& partAccessMask) := by
  obtain ⟨config, access⟩ := (switchEnds_mmcSwitchPart mmc world partNum).succeeded done
  have value := access_accessConfig mmc partNum
  exact ⟨access.trans value, by rw [config]; exact value⟩

end Switch

/-! ### The copy in the boot partition -/

section Burn

/-- The first three steps of `mmc_burn_boot`, each run after the one before it. -/
def busCondRun (mmc : Mmc) (world : World) : (Int × Mmc) × World :=
  (mmcSwitchBootBusCond mmc mmcSwitchBootSdrNormal mmcSwitchBootRstBusCond
    mmcSwitchBootBusSdrx4Ddrx4).exec serve world

/-- The switch of the partition that is booted from -/
def bootPartRun (mmc : Mmc) (world : World) : (Int × Mmc) × World :=
  (mmcSwitchBootPart (busCondRun mmc world).1.2 mmcSwitchPartBootAckEnb
    mmcSwitchPartBootPart1).exec serve (busCondRun mmc world).2

/-- The switch to the boot partition -/
def toBootRun (mmc : Mmc) (world : World) : (Int × Mmc) × World :=
  (mmcSwitchPart (bootPartRun mmc world).1.2 mmcSwitchPartBootPart1).exec serve
    (bootPartRun mmc world).2

/-- The copy to the boot partition, and the switch back after it. -/
def burnCopyRun (mmc : Mmc) (devNum : Int) (blkcnt : U32) (src : Buffer) (world : World) :
    Ulong × World :=
  (mmcDoBurnBoot (toBootRun mmc world).1.2 (bootPartStart devNum) blkcnt src).exec serve
    (toBootRun mmc world).2

/-- The switch back -/
def burnBackRun (mmc : Mmc) (devNum : Int) (blkcnt : U32) (src : Buffer) (world : World) :
    (Int × Mmc) × World :=
  (mmcSwitchPart (toBootRun mmc world).1.2 0).exec serve (burnCopyRun mmc devNum blkcnt src world).2

/-- The access bits the card was given last, as far as it took them, when the part before the
label ends: the host's own by the configuration of the boot partition, those of the boot
partition by the switch to it, and none but zero after a switch back that is counted. -/
def burnAccess (mmc : Mmc) (world : World) : U8 :=
  if (busCondRun mmc world).1.1 ≠ 0 then world.card.access
  else if (bootPartRun mmc world).1.1 ≠ 0 then
    if (busCondRun mmc world).2.nextSwitch.accepted then mmc.hostAccess else world.card.access
  else if (toBootRun mmc world).1.1 ≠ 0 then
    if (bootPartRun mmc world).2.nextSwitch.accepted then 1 else mmc.hostAccess
  else 0

variable {mmc : Mmc} {world : World} (devNum : Int) (blkcnt : U32) (src : Buffer)

/-- The part of `mmc_burn_boot` before its label, when the boot partition is used. -/
def burnBootPartRun (mmc : Mmc) (devNum : Int) (blkcnt : U32) (src : Buffer) (world : World) :
    (Option (Int × U32) × Mmc) × World :=
  (burnBootPart mmc devNum blkcnt src).exec serve world

theorem burnBootPartRun_eq (mmc : Mmc) (devNum : Int) (blkcnt : U32) (src : Buffer)
    (world : World) :
    burnBootPartRun mmc devNum blkcnt src world =
      if (busCondRun mmc world).1.1 ≠ 0 then
        ((some ((busCondRun mmc world).1.1, 0), (busCondRun mmc world).1.2), (busCondRun mmc world).2)
      else if (bootPartRun mmc world).1.1 ≠ 0 then
        ((some ((bootPartRun mmc world).1.1, 0), (bootPartRun mmc world).1.2),
          (bootPartRun mmc world).2)
      else if (toBootRun mmc world).1.1 ≠ 0 then
        ((some ((toBootRun mmc world).1.1, 0), (toBootRun mmc world).1.2), (toBootRun mmc world).2)
      else if (burnBackRun mmc devNum blkcnt src world).1.1 ≠ 0 then
        ((none, (burnBackRun mmc devNum blkcnt src world).1.2),
          (burnBackRun mmc devNum blkcnt src world).2)
      else
        ((some ((burnBackRun mmc devNum blkcnt src world).1.1,
            (burnCopyRun mmc devNum blkcnt src world).1.setWidth 32),
          (burnBackRun mmc devNum blkcnt src world).1.2),
          (burnBackRun mmc devNum blkcnt src world).2) := by
  rcases busEqual : busCondRun mmc world with ⟨⟨busErr, busMmc⟩, busWorld⟩
  rcases partEqual : bootPartRun mmc world with ⟨⟨partErr, partMmc⟩, partWorld⟩
  rcases toBootEqual : toBootRun mmc world with ⟨⟨toBootErr, toBootMmc⟩, toBootWorld⟩
  rcases copyEqual : burnCopyRun mmc devNum blkcnt src world with ⟨blocks, copyWorld⟩
  rcases backEqual : burnBackRun mmc devNum blkcnt src world with ⟨⟨backErr, backMmc⟩, backWorld⟩
  unfold burnBackRun at backEqual
  rw [toBootEqual, copyEqual] at backEqual
  unfold burnCopyRun at copyEqual
  rw [toBootEqual] at copyEqual
  unfold toBootRun at toBootEqual
  rw [partEqual] at toBootEqual
  unfold bootPartRun at partEqual
  rw [busEqual] at partEqual
  unfold busCondRun at busEqual
  unfold burnBootPartRun burnBootPart
  rw [exec_bind, busEqual]
  dsimp only
  rw [exec_ite]
  refine if_congr Iff.rfl rfl ?_
  rw [exec_bind, partEqual]
  dsimp only
  rw [exec_ite]
  refine if_congr Iff.rfl rfl ?_
  rw [exec_bind, toBootEqual]
  dsimp only
  rw [exec_ite]
  refine if_congr Iff.rfl rfl ?_
  rw [exec_bind, copyEqual, exec_bind, backEqual]
  dsimp only
  rw [exec_ite]
  rfl

/-- How that part ends. -/
structure BurnBootPartEnds (mmc : Mmc) (world : World)
    (run : (Option (Int × U32) × Mmc) × World) : Prop where
  same : mmc.SameButBoot run.1.2
  transfers : ∃ transfers, run.2.card.transfers = world.card.transfers ++ transfers ∧
    ∀ transfer ∈ transfers, transfer.access = 1
  host : ∀ err blocks, run.1.1 = some (err, blocks) → err ≠ 0 →
    run.1.2.hostAccess = mmc.hostAccess
  failed : ∀ err blocks, run.1.1 = some (err, blocks) → err ≠ 0 → blocks = 0
  back : ∀ blocks, run.1.1 = some (0, blocks) → burnAccess mmc world = 0
  access : run.1.1 ≠ none → run.2.card.access = burnAccess mmc world

/-- A step before the switch to the boot partition keeps the descriptor and the host's access
bits, and transfers nothing. -/
structure BurnStep (mmc : Mmc) (world : World) (run : (Int × Mmc) × World) : Prop where
  same : mmc.SameButBoot run.1.2
  transfers : run.2.card.transfers = world.card.transfers
  host : run.1.2.hostAccess = mmc.hostAccess

theorem burnStep_busCond (mmc : Mmc) (world : World) :
    BurnStep mmc world (busCondRun mmc world) ∧
      (busCondRun mmc world).2.card.access = world.card.access := by
  obtain ⟨same, config, access, transfers⟩ :=
    exec_mmcSwitchBootBusCond mmc mmcSwitchBootSdrNormal mmcSwitchBootRstBusCond
      mmcSwitchBootBusSdrx4Ddrx4 world
  exact ⟨⟨same, transfers, congrArg (· &&& partAccessMask) config⟩, access⟩

theorem burnStep_bootPart (mmc : Mmc) (world : World) :
    BurnStep mmc world (bootPartRun mmc world) ∧
      (bootPartRun mmc world).2.card.access =
        (if (busCondRun mmc world).2.nextSwitch.accepted then mmc.hostAccess
          else world.card.access) ∧
      ((bootPartRun mmc world).1.1 = 0 →
        (bootPartRun mmc world).2.card.access = mmc.hostAccess) := by
  obtain ⟨first, access⟩ := burnStep_busCond mmc world
  obtain ⟨ends, host⟩ := switchEnds_mmcSwitchBootPart (busCondRun mmc world).1.2
    (busCondRun mmc world).2 mmcSwitchPartBootAckEnb mmcSwitchPartBootPart1
  have value : (busCondRun mmc world).1.2.bootPartConfig mmcSwitchPartBootAckEnb
      mmcSwitchPartBootPart1 &&& partAccessMask = mmc.hostAccess :=
    (access_bootPartConfig _ _ _).trans first.host
  refine ⟨⟨first.same.trans ends.same, ends.transfers.trans first.transfers,
    host.trans first.host⟩, ?_, fun done => ?_⟩
  · rw [← value, ← access]
    exact ends.access
  · exact (ends.succeeded done).2.trans value

theorem toBoot_ends (mmc : Mmc) (world : World) :
    SwitchEnds (bootPartRun mmc world).1.2 (bootPartRun mmc world).2
      ((bootPartRun mmc world).1.2.accessConfig mmcSwitchPartBootPart1) (toBootRun mmc world) :=
  switchEnds_mmcSwitchPart _ _ mmcSwitchPartBootPart1

theorem toBoot_access (configured : (bootPartRun mmc world).1.1 = 0) :
    (toBootRun mmc world).2.card.access =
      if (bootPartRun mmc world).2.nextSwitch.accepted then 1 else mmc.hostAccess := by
  rw [(toBoot_ends mmc world).access, access_accessConfig,
    (burnStep_bootPart mmc world).2.2 configured]
  rfl

/-- A step that failed ends the part before the label with its error. -/
theorem burnBootPartEnds_failed {run : (Int × Mmc) × World} (same : mmc.SameButBoot run.1.2)
    (transfers : run.2.card.transfers = world.card.transfers)
    (host : run.1.2.hostAccess = mmc.hostAccess) (failed : run.1.1 ≠ 0)
    (access : run.2.card.access = burnAccess mmc world) :
    BurnBootPartEnds mmc world ((some (run.1.1, 0), run.1.2), run.2) where
  same := same
  transfers := ⟨[], transfers.trans (List.append_nil _).symm,
    fun _ member => absurd member List.not_mem_nil⟩
  host _ _ _ _ := host
  failed _ _ equal _ := (congrArg Prod.snd (Option.some.inj equal)).symm
  back _ equal := absurd (congrArg Prod.fst (Option.some.inj equal)) failed
  access _ := access

/-- The switch before the copy leads to the boot partition. -/
theorem toBootRun_at (toBoot : (toBootRun mmc world).1.1 = 0) :
    (toBootRun mmc world).1.2.At (toBootRun mmc world).2.card 1 := by
  unfold toBootRun at toBoot ⊢
  exact at_mmcSwitchPart _ _ mmcSwitchPartBootPart1 toBoot

theorem burnCopyRun_served : ∃ transfers, (toBootRun mmc world).2.card.Served
    (burnCopyRun mmc devNum blkcnt src world).2.card transfers := by
  unfold burnCopyRun
  obtain ⟨transfers, served, _⟩ := exec_served (always_mmcDoBurnBoot_keepsRegisters
    (toBootRun mmc world).1.2 (bootPartStart devNum) blkcnt src) (toBootRun mmc world).2
  exact ⟨transfers, served⟩

/-- After the copy the host either leaves by `return 0`, or is back in the user area. -/
theorem burnBack_ends (toBoot : (toBootRun mmc world).1.1 = 0) :
    mmc.SameButBoot (burnBackRun mmc devNum blkcnt src world).1.2 ∧
      (∃ transfers, (burnBackRun mmc devNum blkcnt src world).2.card.transfers =
        world.card.transfers ++ transfers ∧ ∀ transfer ∈ transfers, transfer.access = 1) ∧
      ((burnBackRun mmc devNum blkcnt src world).1.1 = 0 →
        (burnBackRun mmc devNum blkcnt src world).2.card.access = 0) := by
  have first := (burnStep_bootPart mmc world).1
  have bootAt := toBootRun_at toBoot
  obtain ⟨transfers, served⟩ := burnCopyRun_served devNum blkcnt src
  have ends : SwitchEnds (toBootRun mmc world).1.2 (burnCopyRun mmc devNum blkcnt src world).2 _
      (burnBackRun mmc devNum blkcnt src world) := switchEnds_mmcSwitchPart _ _ 0
  have bootSame : mmc.SameButBoot (toBootRun mmc world).1.2 :=
    first.same.trans (toBoot_ends mmc world).same
  refine ⟨bootSame.trans ends.same, ⟨transfers, ?_, fun transfer member => ?_⟩, fun done => ?_⟩
  · rw [ends.transfers, ← first.transfers, ← (toBoot_ends mmc world).transfers]
    exact served.appended
  · exact (served.accessed transfer member).trans bootAt.card
  · unfold burnBackRun at done ⊢
    exact (at_mmcSwitchPart _ _ 0 done).card

theorem burnBootPart_ends :
    BurnBootPartEnds mmc world (burnBootPartRun mmc devNum blkcnt src world) := by
  obtain ⟨busCond, busAccess⟩ := burnStep_busCond mmc world
  obtain ⟨bootPart, partAccess, _⟩ := burnStep_bootPart mmc world
  have toBoot := toBoot_ends mmc world
  have backEnds (reached : (toBootRun mmc world).1.1 = 0) :=
    burnBack_ends devNum blkcnt src reached
  rw [burnBootPartRun_eq]
  by_cases busFailed : (busCondRun mmc world).1.1 ≠ 0
  · rw [if_pos busFailed]
    refine burnBootPartEnds_failed busCond.same busCond.transfers busCond.host busFailed ?_
    unfold burnAccess
    rw [if_pos busFailed]
    exact busAccess
  rw [if_neg busFailed]
  by_cases partFailed : (bootPartRun mmc world).1.1 ≠ 0
  · rw [if_pos partFailed]
    refine burnBootPartEnds_failed bootPart.same bootPart.transfers bootPart.host partFailed ?_
    unfold burnAccess
    rw [if_neg busFailed, if_pos partFailed]
    exact partAccess
  rw [if_neg partFailed]
  by_cases toBootFailed : (toBootRun mmc world).1.1 ≠ 0
  · rw [if_pos toBootFailed]
    refine burnBootPartEnds_failed (bootPart.same.trans toBoot.same)
      (toBoot.transfers.trans bootPart.transfers) ?_ toBootFailed ?_
    · rw [toBoot.failed toBootFailed]
      exact bootPart.host
    · unfold burnAccess
      rw [if_neg busFailed, if_neg partFailed, if_pos toBootFailed]
      exact toBoot_access (not_not.mp partFailed)
  rw [if_neg toBootFailed]
  obtain ⟨allSame, allTransfers, backAccess⟩ := backEnds (not_not.mp toBootFailed)
  have counted : burnAccess mmc world = 0 := by
    unfold burnAccess
    rw [if_neg busFailed, if_neg partFailed, if_neg toBootFailed]
  generalize burnBackRun mmc devNum blkcnt src world = back at allSame allTransfers backAccess ⊢
  by_cases backFailed : back.1.1 ≠ 0
  · rw [if_pos backFailed]
    exact ⟨allSame, allTransfers, fun err blocks equal => absurd equal.symm (Option.some_ne_none _),
      fun err blocks equal => absurd equal.symm (Option.some_ne_none _),
      fun blocks equal => absurd equal.symm (Option.some_ne_none _), fun some => absurd rfl some⟩
  · rw [if_neg backFailed]
    have noError {err : Int} {blocks : U32} {mmc : Mmc} {value : U32}
        (equal : ((some (back.1.1, value), mmc) : Option (Int × U32) × Mmc).1 =
          some (err, blocks)) : err = 0 :=
      (congrArg Prod.fst (Option.some.inj equal)).symm.trans (not_not.mp backFailed)
    exact ⟨allSame, allTransfers, fun err blocks equal failed => absurd (noError equal) failed,
      fun err blocks equal failed => absurd (noError equal) failed, fun _ _ => counted,
      fun _ => (backAccess (not_not.mp backFailed)).trans counted.symm⟩

end Burn

/-! ### From the label on -/

section Label

/-- The label is left without disabling the boot mode, unless this holds. -/
def Disables (mmc : Mmc) (err : Int) : Prop :=
  (err ≠ 0 ∨ mmc.cfg.platformCaps.drvBurnBootPos &&& drvParaBurnEmmcBootPart = 0) ∧
    mmc.bootSupport ≠ 0

instance (mmc : Mmc) (err : Int) : Decidable (Disables mmc err) :=
  inferInstanceAs (Decidable (_ ∧ _))

theorem exec_disableBootMode (mmc : Mmc) (err : Int) (world : World) :
    mmc.SameButBoot ((disableBootMode mmc err).exec serve world).1 ∧
      ((disableBootMode mmc err).exec serve world).2.card.transfers = world.card.transfers ∧
      ((disableBootMode mmc err).exec serve world).2.card.access =
        if Disables mmc err ∧ world.nextSwitch.accepted = true then mmc.hostAccess
        else world.card.access := by
  unfold disableBootMode
  rw [exec_ite]
  by_cases disables : Disables mmc err
  · have condition := disables
    unfold Disables at condition
    rw [if_pos condition, exec_bind]
    have ends := (switchEnds_mmcSwitchBootPart mmc world 0 mmcSwitchPartBootPartNone).1
    refine ⟨ends.same, ends.transfers, ends.access.trans ?_⟩
    rw [access_bootPartConfig]
    refine if_congr ?_ rfl rfl
    exact ⟨fun accepted => ⟨disables, accepted⟩, fun both => both.2⟩
  · have condition := disables
    unfold Disables at condition
    rw [if_neg condition]
    refine ⟨sameButBoot_refl mmc, rfl, ?_⟩
    rw [if_neg (fun both => disables both.1)]
    rfl

/-- What `mmc_burn_boot` does before its label. -/
def burnFirstRun (mmc : Mmc) (devNum : Int) (blkcnt : U32) (src : Buffer) (world : World) :
    (Option (Int × U32) × Mmc) × World :=
  (if mmc.usesBootPart then burnBootPart mmc devNum blkcnt src
    else pure (some (0, 0), mmc)).exec serve world

/-- What it does at the label. -/
def burnLabelRun (mmc : Mmc) (devNum : Int) (blkcnt : U32) (src : Buffer) (world : World)
    (err : Int) : Mmc × World :=
  (disableBootMode (burnFirstRun mmc devNum blkcnt src world).1.2 err).exec serve
    (burnFirstRun mmc devNum blkcnt src world).2

/-- The copy in the user area. -/
def burnUserRun (mmc : Mmc) (start blkcnt : U32) (src : Buffer) (world : World) : Ulong × World :=
  (if mmc.usesUserPart then mmcDoBurnBoot mmc start blkcnt src else pure 0).exec serve world

/-- `mmc_burn_boot` from the label on. -/
def burnFromLabel (start blkcnt : U32) (src : Buffer) :
    Option (Int × U32) × Mmc → Driver (Ulong × Mmc)
  | (none, mmc) => return (0, mmc)
  | (some (err, blocksDoBoot), mmc) => do
    let mmc ← disableBootMode mmc err
    let blocksDoUser ←
      if mmc.usesUserPart then mmcDoBurnBoot mmc start blkcnt src else pure 0
    return (if blocksDoUser.setWidth 32 = blkcnt ∨ blocksDoBoot = blkcnt then
      blkcnt.setWidth 64 else 0, mmc)

theorem exec_mmcBurnBoot_first (mmc : Mmc) (devNum : Int) (start blkcnt : U32) (src : Buffer)
    (world : World) :
    (mmcBurnBoot mmc devNum start blkcnt src).exec serve world =
      (burnFromLabel start blkcnt src (burnFirstRun mmc devNum blkcnt src world).1).exec serve
        (burnFirstRun mmc devNum blkcnt src world).2 := by
  have rest (first : Option (Int × U32) × Mmc) :
      burnFromLabel start blkcnt src first = match first with
      | (none, mmc) => return (0, mmc)
      | (some (err, blocksDoBoot), mmc) => do
        let mmc ← disableBootMode mmc err
        let blocksDoUser ←
          if mmc.usesUserPart then mmcDoBurnBoot mmc start blkcnt src else pure 0
        return (if blocksDoUser.setWidth 32 = blkcnt ∨ blocksDoBoot = blkcnt then
          blkcnt.setWidth 64 else 0, mmc) := by
    obtain ⟨_ | ended, mmc⟩ := first <;> rfl
  unfold mmcBurnBoot burnFirstRun
  cases uses : mmc.usesBootPart with
  | true =>
    refine (exec_bind serve _ _ world).trans ?_
    rw [if_pos rfl]
    generalize (burnBootPart mmc devNum blkcnt src).exec serve world = first
    obtain ⟨⟨_ | ended, firstMmc⟩, after⟩ := first <;> rfl
  | false => rfl

theorem exec_mmcBurnBoot (mmc : Mmc) (devNum : Int) (start blkcnt : U32) (src : Buffer)
    (world : World) :
    (mmcBurnBoot mmc devNum start blkcnt src).exec serve world =
      match (burnFirstRun mmc devNum blkcnt src world).1.1 with
      | none => ((0, (burnFirstRun mmc devNum blkcnt src world).1.2),
          (burnFirstRun mmc devNum blkcnt src world).2)
      | some (err, blocksDoBoot) =>
        let label := burnLabelRun mmc devNum blkcnt src world err
        let user := burnUserRun label.1 start blkcnt src label.2
        ((if user.1.setWidth 32 = blkcnt ∨ blocksDoBoot = blkcnt then blkcnt.setWidth 64 else 0,
          label.1), user.2) := by
  rw [exec_mmcBurnBoot_first]
  unfold burnLabelRun burnUserRun
  generalize burnFirstRun mmc devNum blkcnt src world = first
  obtain ⟨⟨_ | ended, firstMmc⟩, after⟩ := first
  · rfl
  · unfold burnFromLabel
    dsimp only
    rw [exec_bind]
    cases uses : ((disableBootMode firstMmc ended.1).exec serve after).1.usesUserPart with
    | true =>
      refine (exec_bind serve _ _ _).trans ?_
      rw [if_pos rfl]
      rfl
    | false => rfl

end Label

end PinePhonePkg
