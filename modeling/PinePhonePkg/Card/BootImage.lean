/-
This file settles whether a boot image that was written with success is read
back. Each copy is compared with the source after it was written, so a copy that
is counted is read back. But success takes one copy only, and the reading takes
the copy in the user area whenever it can be read, also when this is the copy
that failed.
-/

import PinePhonePkg.Card.BootDiscipline
import PinePhonePkg.Card.Leftover

namespace PinePhonePkg

open Library Program

/-! ### Partitions that are not written -/

theorem perform_media_other (card : Card) (cmd : MmcCmd) (data : Option MmcData) (answer : Answer)
    {partition : U8} (other : partition ≠ card.access) :
    (card.perform cmd data answer).media partition = card.media partition := by
  unfold Card.perform
  dsimp only
  split
  any_goals first | rfl | (split <;> rfl)
  all_goals exact Function.update_of_ne other _ _

theorem serve_media_other (request : Request) (world : World) {partition : U8}
    (other : partition ≠ world.card.access) :
    (serve request world).2.card.media partition = world.card.media partition := by
  cases request with
  | sendCmd cmd data =>
    rw [serve_sendCmd]
    split
    · rfl
    · exact perform_media_other _ _ _ _ other
  | setIos | updatePhase | malloc | unsetWord => rfl

/-- A program without CMD6 leaves the other partitions alone. -/
theorem exec_media_other {Result : Type} {program : Driver Result}
    (keeps : Always (fun _ => True) Request.KeepsRegisters (fun _ => True) program)
    (world : World) {partition : U8} (other : partition ≠ world.card.access) :
    (program.exec serve world).2.card.media partition = world.card.media partition := by
  induction program generalizing world with
  | done result => rfl
  | call request next inductionHypothesis =>
    obtain ⟨transfers, served, _⟩ := serve_served request keeps.1 world
    refine (inductionHypothesis _ (keeps.2 _ trivial) _ ?_).trans
      (serve_media_other request world other)
    rw [served.access]
    exact other

theorem afterSwitch_media (card : Card) (index value : U8) (answer : Answer) :
    (card.afterSwitch index value answer).media = card.media := by
  unfold Card.afterSwitch
  split <;> rfl

theorem mmcSwitchChecked_media (mmc : Mmc) (index value : U8) (updated : Mmc) (world : World) :
    ((mmcSwitchChecked mmc index value updated).exec serve world).2.card.media =
      world.card.media := by
  rw [(exec_mmcSwitchChecked mmc index value updated world).1]
  exact afterSwitch_media _ _ _ _

theorem disableBootMode_media (mmc : Mmc) (err : Int) (world : World) :
    ((disableBootMode mmc err).exec serve world).2.card.media = world.card.media := by
  unfold disableBootMode
  split
  · rw [exec_bind]
    exact mmcSwitchChecked_media mmc extCsdPartConf _ _ world
  · rfl

theorem disableBootMode_stays {mmc : Mmc} {err : Int} (stays : ¬ Disables mmc err) :
    disableBootMode mmc err = pure mmc :=
  if_neg stays

/-! ### Copies that are counted -/

theorem Mmc.SameButBoot.usesUserPart {mmc other : Mmc} (same : mmc.SameButBoot other) :
    other.usesUserPart = mmc.usesUserPart := by
  unfold Mmc.SameButBoot at same
  rw [same]
  rfl

theorem Mmc.SameButBoot.usesBootPart {mmc other : Mmc} (same : mmc.SameButBoot other) :
    other.usesBootPart = mmc.usesBootPart := by
  unfold Mmc.SameButBoot at same
  rw [same]
  rfl

theorem Mmc.SameButBoot.blockDev {mmc other : Mmc} (same : mmc.SameButBoot other) :
    other.blockDev = mmc.blockDev := by
  unfold Mmc.SameButBoot at same
  rw [same]

theorem Mmc.SameButBoot.blockLengths {mmc other : Mmc} (same : mmc.SameButBoot other) :
    other.readBlLen = mmc.readBlLen ∧ other.writeBlLen = mmc.writeBlLen := by
  unfold Mmc.SameButBoot at same
  rw [same]
  exact ⟨rfl, rfl⟩

theorem image_sameButBoot {mmc other : Mmc} (same : mmc.SameButBoot other) (card : Card)
    (start blkcnt : U32) (dst : Buffer) :
    card.image other start blkcnt dst = card.image mmc start blkcnt dst := by
  unfold Mmc.SameButBoot at same
  have readBack (turns : Nat) (start blocksTodo : U32) (offset : Nat) (dst : Buffer) :
      card.readBack other turns start blocksTodo offset dst =
        card.readBack mmc turns start blocksTodo offset dst := by
    induction turns generalizing start blocksTodo offset dst with
    | zero => rfl
    | succ turns inductionHypothesis =>
      unfold Card.readBack
      dsimp only
      rw [inductionHypothesis, same]
      rfl
  exact readBack _ _ _ _ _

/-- A copy that is counted lies inside the device, and is what a read brings back. -/
theorem mmcDoBurnBoot_image {mmc : Mmc} {start blkcnt : U32} {src : Buffer} {world : World}
    (writeBlLen : mmc.writeBlLen = 512) (fits : blkcnt.toNat * 512 < 2 ^ 32)
    (counted : ((mmcDoBurnBoot mmc start blkcnt src).exec serve world).1 ≠ 0) :
    ((mmcDoBurnBoot mmc start blkcnt src).exec serve world).1 = blkcnt.setWidth 64 ∧
      0 < blkcnt ∧ start + blkcnt ≤ mmc.blockDev.lba ∧
      ∃ dst, Memory.Agree (blkcnt.toNat * 512) src
        (((mmcDoBurnBoot mmc start blkcnt src).exec serve world).2.card.image mmc start blkcnt
          dst) := by
  have size : (blkcnt * mmc.writeBlLen).toNat = blkcnt.toNat * 512 := by
    rw [writeBlLen]
    bv_omega
  unfold mmcDoBurnBoot at counted ⊢
  rw [exec_bind] at counted ⊢
  generalize (malloc (BitVec.setWidth 64 (blkcnt * mmc.writeBlLen))).exec serve world =
    allocated at counted ⊢
  obtain ⟨_ | memory, start₀⟩ := allocated
  · exact absurd rfl counted
  dsimp only at counted ⊢
  rw [exec_bind] at counted ⊢
  generalize (mmcBwrite (some mmc) start blkcnt src).exec serve start₀ = write at counted ⊢
  by_cases short : write.1 ≠ blkcnt.setWidth 64
  · rw [if_pos short] at counted
    exact absurd rfl counted
  rw [if_neg short, exec_bind] at counted ⊢
  obtain ⟨kept, image⟩ := exec_mmcBread_image mmc start blkcnt memory write.2
  generalize (mmcBread (some mmc) start blkcnt memory).exec serve write.2 = read
    at counted kept image ⊢
  by_cases differs : read.1.1 < blkcnt.setWidth 64 ∨
      ¬ Memory.Agree (blkcnt * mmc.writeBlLen).toNat src read.1.2
  · rw [if_pos differs] at counted
    exact absurd rfl counted
  rw [if_neg differs] at counted ⊢
  rw [not_or, not_not] at differs
  have whole : write.1 = blkcnt.setWidth 64 := not_not.mp short
  have some : write.1 ≠ 0 := counted
  obtain ⟨positive, inside, bytes⟩ := image fun none => by
    rw [whole] at some
    rw [none] at differs
    exact differs.1 (by bv_omega)
  refine ⟨whole, positive, inside, memory, ?_⟩
  have same : read.2.card.image mmc start blkcnt memory = read.1.2 :=
    (kept.sameBlocks.readBack mmc _ _ _ _ _).trans bytes.symm
  show Memory.Agree _ src (read.2.card.image mmc start blkcnt memory)
  rw [same, ← size]
  exact differs.2

/-- A copy that counts in the boot partition was compared there, and the card is back from it. -/
structure BootCopyCounted (mmc : Mmc) (devNum : Int) (blkcnt : U32) (src : Buffer) (world : World) :
    Prop where
  uses : mmc.usesBootPart = true
  busCond : (busCondRun mmc world).1.1 = 0
  bootPart : (bootPartRun mmc world).1.1 = 0
  toBoot : (toBootRun mmc world).1.1 = 0
  back : (burnBackRun mmc devNum blkcnt src world).1.1 = 0
  copied : (burnCopyRun mmc devNum blkcnt src world).1 ≠ 0
  descriptor : (burnFirstRun mmc devNum blkcnt src world).1.2 =
    (burnBackRun mmc devNum blkcnt src world).1.2
  after : (burnFirstRun mmc devNum blkcnt src world).2 =
    (burnBackRun mmc devNum blkcnt src world).2

theorem bootCopyCounted {mmc : Mmc} {devNum : Int} {blkcnt : U32} {src : Buffer} {world : World}
    {err : Int} {blocks : U32}
    (reached : (burnFirstRun mmc devNum blkcnt src world).1.1 = some (err, blocks))
    (counted : blocks ≠ 0) : BootCopyCounted mmc devNum blkcnt src world := by
  cases uses : mmc.usesBootPart with
  | false =>
    have first := burnFirstRun_unused uses devNum blkcnt src world
    rw [first] at reached
    exact absurd (congrArg Prod.snd (Option.some.inj reached)).symm counted
  | true =>
    have first := burnFirstRun_uses uses devNum blkcnt src world
    rw [burnBootPartRun_eq] at first
    have noBlocks {run : (Int × Mmc) × World}
        (failed : burnFirstRun mmc devNum blkcnt src world =
          ((some (run.1.1, 0), run.1.2), run.2)) : False := by
      rw [failed] at reached
      exact counted (congrArg Prod.snd (Option.some.inj reached)).symm
    by_cases busFailed : (busCondRun mmc world).1.1 ≠ 0
    · rw [if_pos busFailed] at first
      exact (noBlocks first).elim
    rw [if_neg busFailed] at first
    by_cases partFailed : (bootPartRun mmc world).1.1 ≠ 0
    · rw [if_pos partFailed] at first
      exact (noBlocks first).elim
    rw [if_neg partFailed] at first
    by_cases toBootFailed : (toBootRun mmc world).1.1 ≠ 0
    · rw [if_pos toBootFailed] at first
      exact (noBlocks first).elim
    rw [if_neg toBootFailed] at first
    by_cases backFailed : (burnBackRun mmc devNum blkcnt src world).1.1 ≠ 0
    · rw [if_pos backFailed] at first
      rw [first] at reached
      exact absurd reached.symm (Option.some_ne_none _)
    rw [if_neg backFailed] at first
    refine ⟨uses, not_not.mp busFailed, not_not.mp partFailed, not_not.mp toBootFailed,
      not_not.mp backFailed, fun none => counted ?_, by rw [first], by rw [first]⟩
    rw [first] at reached
    have value := congrArg Prod.snd (Option.some.inj reached)
    dsimp only at value
    rw [← value, none]
    rfl

/-! ### Switches that are obeyed -/

/-- Every command to come succeeds, and the card takes every CMD6. -/
structure Plan.Obeyed (plan : Plan) : Prop where
  succeed : plan.AllSucceed
  accepted : ∀ turn, (plan.command mmcCmdSwitch turn).accepted = true

theorem fine_obeyed : Plan.fine.Obeyed :=
  ⟨fine_allSucceed, fun _ => rfl⟩

theorem succeeds_mmcSwitch (mmc : Mmc) (index value : U8) :
    Always Succeeds (fun _ => True) (fun result => result = 0)
      (mmcSwitch mmc index value) := by
  have setIos : Always Succeeds (fun _ => True) (fun _ => True) (mmcSetIos mmc) :=
    always_any _
  have phase : Always Succeeds (fun _ => True) (fun result => result = 0)
      (mmcUpdatePhase mmc) := by
    unfold mmcUpdatePhase
    split
    · exact ⟨trivial, fun _ good => good⟩
    · rfl
  unfold mmcSwitch mmcDoSwitch
  refine ⟨trivial, fun reply _ => ?_⟩
  refine setIos.bind fun _ _ => phase.bind fun result zero => ?_
  rw [if_neg (not_not.mpr zero)]
  exact succeeds_mmcSendStatus mmc 1000 (by decide) (by decide)

theorem mmcSwitchChecked_obeyed {mmc updated : Mmc} {index value : U8} {world : World}
    (well : world.Well) (accepted : world.nextSwitch.accepted = true) :
    ((mmcSwitchChecked mmc index value updated).exec serve world).1.1 = 0 := by
  obtain ⟨done, after⟩ := exec_succeeds (succeeds_mmcSwitch mmc index value) well
  have card : ((mmcSwitch mmc index value).exec serve world).2.card =
      world.card.writeExtCsd index value := by
    have switched : (mmcSwitch mmc index value).exec serve world = _ :=
      exec_mmcDoSwitch mmc index value 1000 world
    have taken : (world.answer (switchCmd index value) none).accepted = true := accepted
    rw [switched]
    refine (perform_switch world.card index value _).trans ?_
    rw [if_pos taken]
  have register : ((mmcSwitch mmc index value).exec serve world).2.card.extCsd index.toNat =
      value := by
    rw [card]
    exact Function.update_self _ _ _
  have read := (answer_good after sendExtCsdCmd (some sendExtCsdData)).1
  have fetched : ((mmcSwitch mmc index value).exec serve world).2.card.fetch sendExtCsdCmd
      (((mmcSwitch mmc index value).exec serve world).2.answer sendExtCsdCmd
        (some sendExtCsdData)) =
      ((mmcSwitch mmc index value).exec serve world).2.card.extCsd := if_pos read
  unfold mmcSwitchChecked
  rw [exec_bind, if_neg (not_not.mpr done), exec_bind, exec_mmcSendExtCsd]
  dsimp only
  rw [if_neg (not_not.mpr read), fetched, if_neg (not_not.mpr register.symm)]
  exact read

/-! ### Readings whose commands all succeed -/

theorem image_single (card : Card) {mmc : Mmc} {start : U32} {dst : Buffer}
    (whole : chunk mmc 1 = 1) :
    card.image mmc start 1 dst = dst.overwrite 0 mmc.readBlLen.toNat (card.blocks mmc start) := by
  have turn : (1 : U32).toNat = 1 := by decide
  have done : ¬ (1 : U32) - 1 > 0 := by decide
  unfold Card.image
  rw [turn, Card.readBack, whole, if_neg done, turn, Nat.one_mul]

section Get

variable {mmc : Mmc} (devNum : Int) {start blkcnt : U32} (dst : Buffer) (card : Card) {plan : Plan}

/-- What can be read in the user area is taken from there. -/
theorem get_found (obeyed : plan.Obeyed) (uses : mmc.usesUserPart = true) (positive : 0 < blkcnt)
    (inside : start + blkcnt ≤ mmc.blockDev.lba) :
    ((mmcGetBoot mmc devNum start blkcnt dst).exec serve (.start card plan)).1.1 =
        blkcnt.setWidth 64 ∧
      ((mmcGetBoot mmc devNum start blkcnt dst).exec serve (.start card plan)).1.2.1 =
        card.image mmc start blkcnt dst := by
  have read : getUserRun mmc start blkcnt dst (.start card plan) =
      (mmcBread (some mmc) start blkcnt dst).exec serve (.start card plan) := by
    unfold getUserRun
    rw [if_pos uses]
  have counted : ((mmcBread (some mmc) start blkcnt dst).exec serve (.start card plan)).1.1 =
      blkcnt.setWidth 64 :=
    (exec_succeeds (succeeds_mmcBread mmc start blkcnt dst positive inside)
      (start_well card obeyed.succeed)).1
  obtain ⟨_, _, image⟩ := (exec_mmcBread_image mmc start blkcnt dst (.start card plan)).2
    (by rw [counted]; bv_omega)
  have found : GetUserFound mmc start blkcnt dst (.start card plan) := by
    refine ⟨uses, ?_⟩
    rw [read, counted]
    bv_omega
  rw [exec_mmcGetBoot, if_pos (Or.inl found), read, counted]
  exact ⟨by bv_omega, image⟩

/-- What cannot is taken from the boot partition, once the card is switched to it. -/
theorem get_boot (obeyed : plan.Obeyed) (uses : mmc.usesBootPart = true) (positive : 0 < blkcnt)
    (unread : mmc.usesUserPart = false ∨ mmc.blockDev.lba < start + blkcnt)
    (inside : bootPartStart devNum + blkcnt ≤ mmc.blockDev.lba) :
    ((mmcGetBoot mmc devNum start blkcnt dst).exec serve (.start card plan)).1.1 =
        blkcnt.setWidth 64 ∧
      ∃ (switched : Card) (reader : Mmc), mmc.SameButBoot reader ∧
        switched.sectorAddressed = card.sectorAddressed ∧ switched.access = 1 ∧
        switched.media = card.media ∧
        ((mmcGetBoot mmc devNum start blkcnt dst).exec serve (.start card plan)).1.2.1 =
          switched.image reader (bootPartStart devNum) blkcnt dst := by
  have user : getUserRun mmc start blkcnt dst (.start card plan) = ((0, dst), .start card plan) := by
    unfold getUserRun
    rcases unread with unused | outside
    · rw [unused]
      rfl
    · split
      · unfold mmcBread
        rw [if_neg (by bv_omega)]
        dsimp only
        rw [if_pos outside]
        rfl
      · rfl
  have notFound : ¬ (GetUserFound mmc start blkcnt dst (.start card plan) ∨
      mmc.usesBootPart = false) := by
    rintro (⟨_, found⟩ | unused)
    · rw [user] at found
      bv_omega
    · exact Bool.false_ne_true (unused.symm.trans uses)
  have well : (World.start card plan).Well := start_well card obeyed.succeed
  have toBoot : getToBootRun mmc start blkcnt dst (.start card plan) =
      (mmcSwitchPart mmc mmcSwitchPartBootPart1).exec serve (.start card plan) := by
    unfold getToBootRun
    rw [user]
  have read : getReadRun mmc devNum start blkcnt dst (.start card plan) =
      (mmcBread (some ((mmcSwitchPart mmc mmcSwitchPartBootPart1).exec serve
        (.start card plan)).1.2) (bootPartStart devNum) blkcnt dst).exec serve
          ((mmcSwitchPart mmc mmcSwitchPartBootPart1).exec serve (.start card plan)).2 := by
    unfold getReadRun
    rw [toBoot, user]
  have switched : ((mmcSwitchPart mmc mmcSwitchPartBootPart1).exec serve
      (.start card plan)).1.1 = 0 := mmcSwitchChecked_obeyed well (obeyed.accepted _)
  have same := (switchEnds_mmcSwitchPart mmc (.start card plan) mmcSwitchPartBootPart1).same
  have access := (at_mmcSwitchPart mmc (.start card plan) mmcSwitchPartBootPart1 switched).card
  have media : ((mmcSwitchPart mmc mmcSwitchPartBootPart1).exec serve
      (.start card plan)).2.card.media = card.media :=
    mmcSwitchChecked_media mmc extCsdPartConf _ _ (.start card plan)
  have addressing := exec_sectorAddressed (mmcSwitchPart mmc mmcSwitchPartBootPart1)
    (.start card plan)
  have stillWell := (exec_succeeds
    (always_any (mmcSwitchPart mmc mmcSwitchPartBootPart1)) well).2
  rw [exec_mmcGetBoot, if_neg notFound, toBoot, if_neg (not_not.mpr switched), read]
  generalize (mmcSwitchPart mmc mmcSwitchPartBootPart1).exec serve (.start card plan) = after
    at same access media addressing stillWell ⊢
  have lba : after.1.2.blockDev = mmc.blockDev := by
    unfold Mmc.SameButBoot at same
    rw [same]
  have counted : ((mmcBread (some after.1.2) (bootPartStart devNum) blkcnt dst).exec serve
      after.2).1.1 = blkcnt.setWidth 64 :=
    (exec_succeeds (succeeds_mmcBread after.1.2 (bootPartStart devNum) blkcnt dst positive
      (by rw [lba]; exact inside)) stillWell).1
  obtain ⟨_, _, image⟩ := (exec_mmcBread_image after.1.2 (bootPartStart devNum) blkcnt dst
    after.2).2 (by rw [counted]; bv_omega)
  exact ⟨by rw [counted]; bv_omega, after.2.card, after.1.2, same, addressing, access, media, image⟩

end Get

/-! ### Writing and reading -/

section Image

variable (mmc : Mmc) (devNum : Int) (start blkcnt : U32) (src dst : Buffer) (world : World)

/-- After a writing that reports success, a reading whose commands all succeed counts all blocks
and brings back the source. -/
def BootImageKept : Prop :=
  let burn := (mmcBurnBoot mmc devNum start blkcnt src).exec serve world
  burn.1.1 ≠ 0 → ∀ plan : Plan, plan.Obeyed →
    let get := (mmcGetBoot burn.1.2 devNum start blkcnt dst).exec serve (.start burn.2.card plan)
    get.1.1 = blkcnt.setWidth 64 ∧ Memory.Agree (blkcnt.toNat * 512) get.1.2.1 src

/-- Every step of the copy in the boot partition succeeds: the boot configuration, the switch to
the partition, the commands of the copy, and the switch back. -/
structure BootCopyMade : Prop where
  uses : mmc.usesBootPart = true
  positive : 0 < blkcnt
  busCond : (busCondRun mmc world).1.1 = 0
  bootPart : (bootPartRun mmc world).1.1 = 0
  toBoot : (toBootRun mmc world).1.1 = 0
  copy : CopySucceeds (toBootRun mmc world).1.2 (bootPartStart devNum) blkcnt src
    (toBootRun mmc world).2
  back : (burnBackRun mmc devNum blkcnt src world).1.1 = 0

/-- When the copy in the boot partition is made and there is one in the user area that a read
takes, the commands of that one leave the source in the user area. -/
def UserCopyTrusted : Prop :=
  BootCopyMade mmc devNum blkcnt src world → mmc.usesUserPart = true →
    start + blkcnt ≤ mmc.blockDev.lba →
      (burnBackRun mmc devNum blkcnt src world).1.2.CopyLeaves start blkcnt src
        (burnBackRun mmc devNum blkcnt src world).2 (world.card.media 0)

variable {mmc devNum start blkcnt src dst world}

/-- What is known when a writing reports success. -/
structure BurnSucceeds (mmc : Mmc) (devNum : Int) (start blkcnt : U32) (src : Buffer)
    (world : World) (err : Int) (blocks : U32) : Prop where
  reached : (burnFirstRun mmc devNum blkcnt src world).1.1 = some (err, blocks)
  positive : 0 < blkcnt
  descriptor : ((mmcBurnBoot mmc devNum start blkcnt src).exec serve world).1.2 =
    (burnLabelRun mmc devNum blkcnt src world err).1
  after : ((mmcBurnBoot mmc devNum start blkcnt src).exec serve world).2 =
    (burnUserRun (burnLabelRun mmc devNum blkcnt src world err).1 start blkcnt src
      (burnLabelRun mmc devNum blkcnt src world err).2).2
  same : mmc.SameButBoot (burnLabelRun mmc devNum blkcnt src world err).1
  counted : (burnUserRun (burnLabelRun mmc devNum blkcnt src world err).1 start blkcnt src
      (burnLabelRun mmc devNum blkcnt src world err).2).1 = 0 → blocks ≠ 0

theorem burnSucceeds
    (success : ((mmcBurnBoot mmc devNum start blkcnt src).exec serve world).1.1 ≠ 0) :
    ∃ err blocks, BurnSucceeds mmc devNum start blkcnt src world err blocks := by
  have exec : (mmcBurnBoot mmc devNum start blkcnt src).exec serve world = _ :=
    exec_mmcBurnBoot mmc devNum start blkcnt src world
  cases reached : (burnFirstRun mmc devNum blkcnt src world).1.1 with
  | none =>
    rw [reached] at exec
    rw [exec] at success
    exact absurd rfl success
  | some state =>
    obtain ⟨err, blocks⟩ := state
    rw [reached] at exec
    dsimp only at exec
    rw [exec] at success
    dsimp only at success
    have positive : 0 < blkcnt := by
      by_contra empty
      have zero : blkcnt = 0 := by bv_omega
      rw [zero] at success
      split at success
      · exact success (by decide)
      · exact success rfl
    refine ⟨err, blocks, reached, positive, by rw [exec], by rw [exec],
      (burnFirst_ends reached).same.trans (exec_disableBootMode _ _ _).1, fun unwritten none => ?_⟩
    rw [unwritten, none, if_neg (by bv_omega)] at success
    exact success rfl

theorem burnBackRun_sectorAddressed :
    (burnBackRun mmc devNum blkcnt src world).2.card.sectorAddressed =
      (burnCopyRun mmc devNum blkcnt src world).2.card.sectorAddressed := by
  unfold burnBackRun
  generalize burnCopyRun mmc devNum blkcnt src world = copy
  exact exec_sectorAddressed _ _

theorem burnBackRun_media :
    (burnBackRun mmc devNum blkcnt src world).2.card.media =
      (burnCopyRun mmc devNum blkcnt src world).2.card.media := by
  unfold burnBackRun mmcSwitchPart
  dsimp only
  rw [mmcSwitchChecked_media]

/-- The copy is made on the boot partition. -/
theorem burnCopyRun_access (toBoot : (toBootRun mmc world).1.1 = 0) :
    (burnCopyRun mmc devNum blkcnt src world).2.card.access = 1 := by
  obtain ⟨transfers, served⟩ := burnCopyRun_served devNum blkcnt src
  exact served.access.trans (toBootRun_at toBoot).card

theorem burnLabelRun_sectorAddressed (err : Int) :
    (burnLabelRun mmc devNum blkcnt src world err).2.card.sectorAddressed =
      (burnFirstRun mmc devNum blkcnt src world).2.card.sectorAddressed := by
  unfold burnLabelRun
  generalize burnFirstRun mmc devNum blkcnt src world = first
  exact exec_sectorAddressed _ _

theorem burnUserRun_sectorAddressed :
    (burnUserRun mmc start blkcnt src world).2.card.sectorAddressed =
      world.card.sectorAddressed := by
  unfold burnUserRun
  exact exec_sectorAddressed _ _

theorem sameButBoot_toBoot (mmc : Mmc) (world : World) :
    mmc.SameButBoot (toBootRun mmc world).1.2 :=
  (burnStep_bootPart mmc world).1.same.trans (toBoot_ends mmc world).same

theorem boot_copy_inside (writeBlLen : mmc.writeBlLen = 512) (fits : blkcnt.toNat * 512 < 2 ^ 32)
    (counted : BootCopyCounted mmc devNum blkcnt src world) :
    bootPartStart devNum + blkcnt ≤ mmc.blockDev.lba := by
  have same := sameButBoot_toBoot mmc world
  rw [← same.blockDev]
  exact (mmcDoBurnBoot_image (same.blockLengths.2.trans writeBlLen) fits counted.copied).2.2.1

/-- Where the boot partition is read back, its copy has been compared with the source. -/
theorem boot_copy_read {err : Int} {blocks : U32} (readBlLen : mmc.readBlLen = 512)
    (writeBlLen : mmc.writeBlLen = 512) (fits : blkcnt.toNat * 512 < 2 ^ 32)
    (burn : BurnSucceeds mmc devNum start blkcnt src world err blocks) (some : blocks ≠ 0)
    {switched : Card} {reader : Mmc} (reads : mmc.SameButBoot reader)
    (addressing : switched.sectorAddressed =
      ((mmcBurnBoot mmc devNum start blkcnt src).exec serve world).2.card.sectorAddressed)
    (access : switched.access = 1)
    (media : switched.media =
      ((mmcBurnBoot mmc devNum start blkcnt src).exec serve world).2.card.media) :
    Memory.Agree (blkcnt.toNat * 512)
      (switched.image reader (bootPartStart devNum) blkcnt dst) src := by
  have counted := bootCopyCounted burn.reached some
  have bootSame := sameButBoot_toBoot mmc world
  have lengths := bootSame.blockLengths
  obtain ⟨_, _, _, memory, agree⟩ :=
    mmcDoBurnBoot_image (lengths.2.trans writeBlLen) fits counted.copied
  have copyAccess : (burnCopyRun mmc devNum blkcnt src world).2.card.access = 1 :=
    burnCopyRun_access counted.toBoot
  -- from the copy on: the switch back, the label, the copy in the user area
  have backMedia : (burnFirstRun mmc devNum blkcnt src world).2.card.media =
      (burnCopyRun mmc devNum blkcnt src world).2.card.media := by
    rw [counted.after]
    exact burnBackRun_media
  have labelMedia : (burnLabelRun mmc devNum blkcnt src world err).2.card.media =
      (burnFirstRun mmc devNum blkcnt src world).2.card.media := disableBootMode_media _ _ _
  have labelAccess : (burnLabelRun mmc devNum blkcnt src world err).2.card.access = 0 :=
    (burnLabel_access (burnFirst_ends burn.reached)).trans
      ((burnFirst_ends burn.reached).counted some)
  have userMedia : ((mmcBurnBoot mmc devNum start blkcnt src).exec serve world).2.card.media 1 =
      (burnLabelRun mmc devNum blkcnt src world err).2.card.media 1 := by
    rw [burn.after]
    refine exec_media_other ?_ _ (by rw [labelAccess]; decide)
    split
    · exact always_mmcDoBurnBoot_keepsRegisters _ _ _ _
    · trivial
  have sectorAddressed :
      ((mmcBurnBoot mmc devNum start blkcnt src).exec serve world).2.card.sectorAddressed =
        (burnCopyRun mmc devNum blkcnt src world).2.card.sectorAddressed := by
    rw [burn.after, burnUserRun_sectorAddressed, burnLabelRun_sectorAddressed, counted.after,
      burnBackRun_sectorAddressed]
  have sameBlocks : (burnCopyRun mmc devNum blkcnt src world).2.card.SameBlocks switched := by
    refine ⟨addressing.trans sectorAddressed, ?_⟩
    rw [access, copyAccess, media, userMedia, labelMedia, backMedia]
  have images : switched.image reader (bootPartStart devNum) blkcnt dst =
      (burnCopyRun mmc devNum blkcnt src world).2.card.image (toBootRun mmc world).1.2
        (bootPartStart devNum) blkcnt dst :=
    (image_sameButBoot reads _ _ _ _).trans ((image_sameButBoot bootSame _ _ _ _).symm.trans
      (sameBlocks.readBack _ _ _ _ _ _))
  rw [images]
  exact (image_agree _ dst memory (lengths.1.trans readBlLen) fits).trans agree.symm

/-- A copy in the user area that is counted is what a read brings back from there. -/
theorem user_copy_read {label : Mmc} {before : World} (dst : Buffer)
    (same : mmc.SameButBoot label)
    (readBlLen : mmc.readBlLen = 512) (writeBlLen : mmc.writeBlLen = 512)
    (fits : blkcnt.toNat * 512 < 2 ^ 32)
    (counted : (burnUserRun label start blkcnt src before).1 ≠ 0) :
    start + blkcnt ≤ mmc.blockDev.lba ∧
      Memory.Agree (blkcnt.toNat * 512)
        ((burnUserRun label start blkcnt src before).2.card.image mmc start blkcnt dst) src := by
  have lengths := same.blockLengths
  unfold burnUserRun at counted ⊢
  split at counted
  case isFalse => exact absurd rfl counted
  case isTrue uses =>
    rw [if_pos uses]
    obtain ⟨_, _, inside, memory, agree⟩ :=
      mmcDoBurnBoot_image (lengths.2.trans writeBlLen) fits counted
    refine ⟨same.blockDev ▸ inside, ?_⟩
    rw [image_sameButBoot same] at agree
    exact (image_agree _ dst memory readBlLen fits).trans agree.symm

/-- A user area that is not to be read leaves the image to the boot partition's copy. -/
theorem boot_copy_trusted {err : Int} {blocks : U32} (readBlLen : mmc.readBlLen = 512)
    (writeBlLen : mmc.writeBlLen = 512) (fits : blkcnt.toNat * 512 < 2 ^ 32)
    (burn : BurnSucceeds mmc devNum start blkcnt src world err blocks)
    (unread : mmc.usesUserPart = false ∨ mmc.blockDev.lba < start + blkcnt) : blocks ≠ 0 := by
  refine burn.counted (by_contra fun counted => ?_)
  rcases unread with unused | outside
  · refine counted ?_
    unfold burnUserRun
    rw [burn.same.usesUserPart, unused]
    rfl
  · have inside := (user_copy_read src burn.same readBlLen writeBlLen fits counted).1
    bv_omega

/-- What the copy in the boot partition leaves behind when it is made. -/
structure BootCopyEnds (mmc : Mmc) (devNum : Int) (start blkcnt : U32) (src : Buffer)
    (world : World) : Prop where
  burn : BurnSucceeds mmc devNum start blkcnt src world 0 blkcnt
  label : burnLabelRun mmc devNum blkcnt src world 0 =
    ((burnBackRun mmc devNum blkcnt src world).1.2, (burnBackRun mmc devNum blkcnt src world).2)
  success : ((mmcBurnBoot mmc devNum start blkcnt src).exec serve world).1.1 ≠ 0
  access : (burnBackRun mmc devNum blkcnt src world).2.card.access = 0
  media : (burnBackRun mmc devNum blkcnt src world).2.card.media 0 = world.card.media 0

theorem Matches.sameButBoot {mmc other : Mmc} {card after : Card} (matched : Matches mmc card)
    (same : mmc.SameButBoot other) (addressing : after.sectorAddressed = card.sectorAddressed) :
    Matches other after := by
  unfold Mmc.SameButBoot at same
  rw [same]
  exact ⟨addressing.trans matched.addressing, matched.readBlLen, matched.writeBlLen⟩

theorem toBootRun_sectorAddressed (mmc : Mmc) (world : World) :
    (toBootRun mmc world).2.card.sectorAddressed = world.card.sectorAddressed := by
  unfold toBootRun
  rw [exec_sectorAddressed]
  unfold bootPartRun
  rw [exec_sectorAddressed]
  unfold busCondRun
  rw [exec_sectorAddressed]

theorem toBootRun_media (mmc : Mmc) (world : World) :
    (toBootRun mmc world).2.card.media = world.card.media := by
  unfold toBootRun mmcSwitchPart
  dsimp only
  rw [mmcSwitchChecked_media]
  unfold bootPartRun mmcSwitchBootPart
  dsimp only
  rw [mmcSwitchChecked_media]
  unfold busCondRun mmcSwitchBootBusCond
  dsimp only
  rw [mmcSwitchChecked_media]

theorem burnBackRun_same :
    mmc.SameButBoot (burnBackRun mmc devNum blkcnt src world).1.2 := by
  have ends : SwitchEnds (toBootRun mmc world).1.2 (burnCopyRun mmc devNum blkcnt src world).2 _
      (burnBackRun mmc devNum blkcnt src world) := switchEnds_mmcSwitchPart _ _ 0
  exact (sameButBoot_toBoot mmc world).trans ends.same

theorem burnBackRun_access (back : (burnBackRun mmc devNum blkcnt src world).1.1 = 0) :
    (burnBackRun mmc devNum blkcnt src world).2.card.access = 0 := by
  unfold burnBackRun at back ⊢
  exact (at_mmcSwitchPart _ _ 0 back).card

/-- The copy in the boot partition and the switches around it leave the user area alone. -/
theorem burnBackRun_user (toBoot : (toBootRun mmc world).1.1 = 0) :
    (burnBackRun mmc devNum blkcnt src world).2.card.media 0 = world.card.media 0 := by
  have access : (0 : U8) ≠ (toBootRun mmc world).2.card.access := by
    rw [(toBootRun_at toBoot).card]
    decide
  rw [burnBackRun_media, ← toBootRun_media mmc world]
  unfold burnCopyRun
  exact exec_media_other (always_mmcDoBurnBoot_keepsRegisters _ _ _ _) _ access

theorem toBootRun_matches (matched : Matches mmc world.card) :
    Matches (toBootRun mmc world).1.2 (toBootRun mmc world).2.card :=
  matched.sameButBoot (sameButBoot_toBoot mmc world) (toBootRun_sectorAddressed mmc world)

theorem bootCopyMade_of_counted (matched : Matches mmc world.card)
    (fits : blkcnt.toNat * 512 < 2 ^ 32) (counted : BootCopyCounted mmc devNum blkcnt src world) :
    BootCopyMade mmc devNum blkcnt src world := by
  have bootMatched := toBootRun_matches matched
  have positive := (mmcDoBurnBoot_image bootMatched.writeBlLen fits counted.copied).2.1
  exact ⟨counted.uses, positive, counted.busCond, counted.bootPart, counted.toBoot,
    (mmcDoBurnBoot_counted_iff bootMatched positive fits).mp counted.copied, counted.back⟩

theorem burnFirstRun_made (matched : Matches mmc world.card) (fits : blkcnt.toNat * 512 < 2 ^ 32)
    (made : BootCopyMade mmc devNum blkcnt src world) :
    burnFirstRun mmc devNum blkcnt src world =
      ((some (0, blkcnt), (burnBackRun mmc devNum blkcnt src world).1.2),
        (burnBackRun mmc devNum blkcnt src world).2) := by
  have bootMatched := toBootRun_matches matched
  have counted : (burnCopyRun mmc devNum blkcnt src world).1 = blkcnt.setWidth 64 :=
    (mmcDoBurnBoot_image bootMatched.writeBlLen fits
      ((mmcDoBurnBoot_counted_iff bootMatched made.positive fits).mpr made.copy)).1
  have cut : (blkcnt.setWidth 64).setWidth 32 = blkcnt := by bv_omega
  have first := burnFirstRun_uses made.uses devNum blkcnt src world
  rw [first, burnBootPartRun_eq, if_neg (not_not.mpr made.busCond),
    if_neg (not_not.mpr made.bootPart), if_neg (not_not.mpr made.toBoot),
    if_neg (not_not.mpr made.back), made.back, counted, cut]

theorem bootCopy_ends (matched : Matches mmc world.card) (fits : blkcnt.toNat * 512 < 2 ^ 32)
    (made : BootCopyMade mmc devNum blkcnt src world) :
    BootCopyEnds mmc devNum start blkcnt src world := by
  have first := burnFirstRun_made matched fits made
  have reached : (burnFirstRun mmc devNum blkcnt src world).1.1 = some (0, blkcnt) := by rw [first]
  have success : ((mmcBurnBoot mmc devNum start blkcnt src).exec serve world).1.1 ≠ 0 := by
    have positive := made.positive
    rw [exec_mmcBurnBoot, reached]
    dsimp only
    rw [if_pos (.inr rfl)]
    bv_omega
  obtain ⟨err, blocks, burn⟩ := @burnSucceeds mmc devNum start blkcnt src world success
  obtain ⟨rfl, rfl⟩ := Prod.mk.inj (Option.some.inj (reached.symm.trans burn.reached))
  have stays : ¬ Disables (burnBackRun mmc devNum blkcnt src world).1.2 0 := by
    rw [burnBackRun_same.disables]
    intro disables
    exact (usesBootPart_iff.mp made.uses).1 (disables.1.resolve_left fun not => not rfl)
  refine ⟨burn, ?_, success, burnBackRun_access made.back, burnBackRun_user made.toBoot⟩
  unfold burnLabelRun
  rw [first, disableBootMode_stays stays, exec_pure]

/-- The image in the user area after a writing whose copy in the boot partition is made. -/
theorem user_image_iff (matched : Matches mmc world.card) (fits : blkcnt.toNat * 512 < 2 ^ 32)
    (made : BootCopyMade mmc devNum blkcnt src world) (uses : mmc.usesUserPart = true) :
    Memory.Agree (blkcnt.toNat * 512)
        (((mmcBurnBoot mmc devNum start blkcnt src).exec serve world).2.card.image mmc start
          blkcnt dst) src ↔
      (burnBackRun mmc devNum blkcnt src world).1.2.CopyLeaves start blkcnt src
        (burnBackRun mmc devNum blkcnt src world).2 (world.card.media 0) := by
  have ends := @bootCopy_ends mmc devNum start blkcnt src world matched fits made
  have same : mmc.SameButBoot (burnBackRun mmc devNum blkcnt src world).1.2 := burnBackRun_same
  have addressing : (burnBackRun mmc devNum blkcnt src world).2.card.sectorAddressed =
      world.card.sectorAddressed := by
    rw [burnBackRun_sectorAddressed, burnCopyRun, exec_sectorAddressed,
      toBootRun_sectorAddressed]
  have user : burnUserRun (burnLabelRun mmc devNum blkcnt src world 0).1 start blkcnt src
      (burnLabelRun mmc devNum blkcnt src world 0).2 =
      (mmcDoBurnBoot (burnBackRun mmc devNum blkcnt src world).1.2 start blkcnt src).exec serve
        (burnBackRun mmc devNum blkcnt src world).2 := by
    rw [ends.label, burnUserRun, same.usesUserPart, if_pos uses]
  have leaves := @exec_mmcDoBurnBoot_leaves (burnBackRun mmc devNum blkcnt src world).1.2 start
    blkcnt src (burnBackRun mmc devNum blkcnt src world).2 (matched.sameButBoot same addressing)
    made.positive fits dst
  rw [ends.access, ends.media] at leaves
  rw [ends.burn.after, user, ← image_sameButBoot same]
  exact leaves

/-- With an image whose length in bytes is a word, a boot image that is written with success is
read back exactly when the copy in the user area can be trusted. -/
theorem boot_image_kept_iff (mmc : Mmc) (devNum : Int) (start blkcnt : U32) (src dst : Buffer)
    (world : World) (matched : Matches mmc world.card) (fits : blkcnt.toNat * 512 < 2 ^ 32) :
    BootImageKept mmc devNum start blkcnt src dst world ↔
      UserCopyTrusted mmc devNum start blkcnt src world := by
  constructor
  · intro kept made uses inside
    have ends := @bootCopy_ends mmc devNum start blkcnt src world matched fits made
    have labelUses : (burnLabelRun mmc devNum blkcnt src world 0).1.usesUserPart = true :=
      ends.burn.same.usesUserPart.trans uses
    have labelInside : start + blkcnt ≤
        (burnLabelRun mmc devNum blkcnt src world 0).1.blockDev.lba := by
      rw [ends.burn.same.blockDev]
      exact inside
    rw [← user_image_iff matched fits made uses]
    have read := (kept ends.success .fine fine_obeyed).2
    rw [ends.burn.descriptor,
      (get_found _ _ _ fine_obeyed labelUses made.positive labelInside).2,
      image_sameButBoot ends.burn.same] at read
    exact read
  · intro trusted success plan obeyed
    obtain ⟨err, blocks, burn⟩ := burnSucceeds success
    by_cases read : mmc.usesUserPart = true ∧ start + blkcnt ≤ mmc.blockDev.lba
    · have found := get_found devNum dst
        ((mmcBurnBoot mmc devNum start blkcnt src).exec serve world).2.card obeyed
        (burn.same.usesUserPart.trans read.1) burn.positive (burn.same.blockDev ▸ read.2)
      dsimp only
      rw [burn.descriptor, found.1, found.2, image_sameButBoot burn.same]
      refine ⟨rfl, ?_⟩
      by_cases counted : (burnUserRun (burnLabelRun mmc devNum blkcnt src world err).1 start
          blkcnt src (burnLabelRun mmc devNum blkcnt src world err).2).1 = 0
      · have made := bootCopyMade_of_counted matched fits
          (bootCopyCounted burn.reached (burn.counted counted))
        rw [user_image_iff matched fits made read.1]
        exact trusted made read.1 read.2
      · rw [burn.after]
        exact (user_copy_read dst burn.same matched.readBlLen matched.writeBlLen fits counted).2
    · have unread : mmc.usesUserPart = false ∨ mmc.blockDev.lba < start + blkcnt := by
        rw [not_and_or, Bool.not_eq_true] at read
        exact read.imp_right BitVec.not_le.mp
      have some := boot_copy_trusted matched.readBlLen matched.writeBlLen fits burn unread
      have copied := bootCopyCounted burn.reached some
      have inside := boot_copy_inside matched.writeBlLen fits copied
      rw [← burn.same.usesUserPart, ← burn.same.blockDev] at unread
      rw [← burn.same.blockDev] at inside
      obtain ⟨read, switched, reader, same, addressing, access, media, image⟩ :=
        get_boot devNum dst ((mmcBurnBoot mmc devNum start blkcnt src).exec serve world).2.card
          obeyed (burn.same.usesBootPart.trans copied.uses) burn.positive unread inside
      dsimp only
      rw [burn.descriptor, read, image]
      exact ⟨rfl, boot_copy_read matched.readBlLen matched.writeBlLen fits burn some
        (burn.same.trans same) addressing access media⟩

end Image

theorem burnBackRun_well {mmc : Mmc} {devNum : Int} {blkcnt : U32} {src : Buffer} {world : World}
    (well : world.Well) : (burnBackRun mmc devNum blkcnt src world).2.Well := by
  have after {Result : Type} (program : Driver Result) {world : World} (well : world.Well) :
      (program.exec serve world).2.Well :=
    (exec_succeeds (always_any program) well).2
  unfold burnBackRun burnCopyRun toBootRun bootPartRun busCondRun
  exact after _ (after _ (after _ (after _ (after _ well))))

/-- A copy of one block whose commands all succeed leaves the source. -/
theorem copyLeaves_single {mmc : Mmc} {start : U32} {world : World} (src before : Buffer)
    (well : world.Well) (inside : start + 1 ≤ mmc.blockDev.lba) :
    mmc.CopyLeaves start 1 src world before := by
  have single : chunk mmc 1 = 1 := by
    have positive := chunk_pos mmc 1 (by decide)
    have atMost := chunk_le mmc 1
    bv_omega
  have memory : Always Succeeds (fun _ => True) (fun memory => memory.isSome = true)
      (malloc ((1 * mmc.writeBlLen).setWidth 64)) := ⟨trivial, fun _ some => some⟩
  have allocated := exec_succeeds memory well
  have ready := exec_succeeds (succeeds_mmcSetBlocklen mmc mmc.writeBlLen) allocated.2
  have turn : (1 : U32).toNat = 1 := by decide
  unfold Mmc.CopyLeaves
  dsimp only
  rw [if_neg (not_or.mpr ⟨Option.isSome_iff_ne_none.mp allocated.1, not_not.mpr ready.1⟩), turn,
    Mmc.LeavesSource]
  rw [single, if_neg (BitVec.not_lt.mpr inside)]
  exact ⟨.inl (answer_good ready.2 _ _).1, fun more => absurd more (by decide)⟩

theorem boot_image_kept_iff_fine :
    Matches bootDevice (World.start (.blank true) .fine).card ∧ (1 : U32).toNat * 512 < 2 ^ 32 ∧
      BootImageKept bootDevice 2 16 1 (fun _ => 1) (fun _ => 0) (.start (.blank true) .fine) := by
  have matched : Matches bootDevice (World.start (.blank true) .fine).card := ⟨rfl, rfl, rfl⟩
  refine ⟨matched, by decide, (boot_image_kept_iff bootDevice 2 16 1 (fun _ => 1) (fun _ => 0)
    (.start (.blank true) .fine) matched (by decide)).mpr fun made uses inside => ?_⟩
  refine copyLeaves_single _ _ (burnBackRun_well (start_well _ fine_allSucceed)) ?_
  rw [burnBackRun_same.blockDev]
  exact inside

/-- Where the image is kept, the first byte of a block that is read from the user area is that of
the source. -/
theorem BootImageKept.first_byte {mmc : Mmc} {devNum : Int} {start : U32} {src dst : Buffer}
    {world : World} (kept : BootImageKept mmc devNum start 1 src dst world)
    {burn : (Ulong × Mmc) × World}
    (run : (mmcBurnBoot mmc devNum start 1 src).exec serve world = burn) (burnt : burn.1.1 ≠ 0)
    (uses : burn.1.2.usesUserPart = true) (inside : start + 1 ≤ burn.1.2.blockDev.lba)
    (whole : chunk burn.1.2 1 = 1) (sized : 0 < burn.1.2.readBlLen.toNat) :
    burn.2.card.blocks burn.1.2 start 0 = src 0 := by
  subst run
  have read := (kept burnt .fine fine_obeyed).2 0
    (Nat.mul_pos Nat.one_pos (by decide))
  rw [(get_found devNum dst _ fine_obeyed uses (by decide) inside).2, image_single _ whole] at read
  exact (Memory.overwrite_inside dst 0 _ _ 0 sized).symm.trans read

/-- The writes in the user area fail. -/
def staleUserPlan : Plan :=
  { Plan.fine with
    transfer := fun access cmdidx _ =>
      if access = 0 ∧ (cmdidx = mmcCmdWriteSingleBlock ∨ cmdidx = mmcCmdWriteMultipleBlock) then
        { Answer.fine with error := -1, accepted := false }
      else .fine }

/-- An image is written on a card whose writes in the user area fail. -/
def staleRun : (Ulong × Mmc) × World :=
  (mmcBurnBoot bootDevice 2 16 1 fun _ => 1).exec serve (.start (.blank true) staleUserPlan)

/-- The boot partition gets the image, and the reading brings the zeros of the user area. -/
theorem boot_image_not_kept :
    ¬ BootImageKept bootDevice 2 16 1 (fun _ => 1) (fun _ => 0)
      (.start (.blank true) staleUserPlan) := by
  intro kept
  have burnt : staleRun.1.1 ≠ 0 := by decide +kernel
  have uses : staleRun.1.2.usesUserPart = true := by decide +kernel
  have inside : (16 : U32) + 1 ≤ staleRun.1.2.blockDev.lba := by decide +kernel
  have whole : chunk staleRun.1.2 1 = 1 := by decide +kernel
  have sized : 0 < staleRun.1.2.readBlLen.toNat := by decide +kernel
  have place : staleRun.2.card.access = 0 ∧ staleRun.2.card.byteAddress
      (if staleRun.1.2.highCapacity then 16 else 16 * staleRun.1.2.readBlLen) = 8192 := by
    decide +kernel
  have zero : staleRun.2.card.media 0 8192 = 0 := by decide +kernel
  have one : staleRun.2.card.blocks staleRun.1.2 16 0 = 1 :=
    kept.first_byte rfl burnt uses inside whole sized
  rw [Card.blocks, place.1, place.2] at one
  exact absurd (zero.symm.trans one) (by decide)

end PinePhonePkg
