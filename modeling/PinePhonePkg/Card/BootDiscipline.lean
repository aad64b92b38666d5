/-
This file settles in which hardware partition the copies of the boot image are
written and read. A copy in the boot partition is always made in it, as the
switch to it is read back. The copy in the user area is made wherever the card
was left by the last CMD6 it took, and the image can be read with success
although the card was not switched back.
-/

import PinePhonePkg.Card.Partition

namespace PinePhonePkg

open Library Program

/-! ### Programs that send data commands -/

/-- A command with data is sent. -/
def SendsData {Result : Type} (program : Driver Result) (world : World) : Prop :=
  ∃ exchange ∈ program.trace serve world, exchange.request.IsData

theorem SendsData.first {First Result : Type} {program : Driver First}
    {next : First → Driver Result} {world : World} (sends : SendsData program world) :
    SendsData (program >>= next) world := by
  obtain ⟨exchange, member, isData⟩ := sends
  exact ⟨exchange, mem_trace_bind_first serve member, isData⟩

theorem SendsData.rest {First Result : Type} {program : Driver First}
    {next : First → Driver Result} {world : World}
    (sends : SendsData (next (program.exec serve world).1) (program.exec serve world).2) :
    SendsData (program >>= next) world := by
  obtain ⟨exchange, member, isData⟩ := sends
  exact ⟨exchange, mem_trace_bind_rest serve member, isData⟩

/-- A chunk that is counted was sent. -/
theorem sendsData_mmcWriteBlocks {mmc : Mmc} {start blkcnt : U32} {src : Buffer} {world : World}
    (counted : ((mmcWriteBlocks mmc start blkcnt src).exec serve world).1 ≠ 0) :
    SendsData (mmcWriteBlocks mmc start blkcnt src) world := by
  unfold mmcWriteBlocks at counted ⊢
  split at counted
  · exact absurd rfl counted
  rw [if_neg (by assumption)]
  split at counted
  · exact absurd rfl counted
  rw [if_neg (by assumption)]
  refine SendsData.first ⟨_, List.mem_cons_self, ?_⟩
  rcases writeBlocksCmd_cases mmc start blkcnt with single | multiple
  · exact Or.inr (Or.inr (Or.inl single))
  · exact Or.inr (Or.inr (Or.inr multiple))

theorem sendsData_mmcBwriteLoop {mmc : Mmc} {turns : Nat} {start blocksTodo : U32} {src : Buffer}
    {world : World} (positive : 0 < blocksTodo)
    (done : ((mmcBwriteLoop mmc turns start blocksTodo src).exec serve world).1 = true) :
    SendsData (mmcBwriteLoop mmc turns start blocksTodo src) world := by
  cases turns with
  | zero => exact absurd done Bool.false_ne_true
  | succ turns =>
    have advances := chunk_pos mmc blocksTodo positive
    unfold mmcBwriteLoop at done ⊢
    rw [exec_bind] at done
    refine SendsData.first (sendsData_mmcWriteBlocks fun none => ?_)
    rw [none, if_pos (by bv_omega)] at done
    exact absurd done Bool.false_ne_true

theorem sendsData_mmcBwrite {mmc : Mmc} {start blkcnt : U32} {src : Buffer} {world : World}
    (counted : ((mmcBwrite (some mmc) start blkcnt src).exec serve world).1 ≠ 0) :
    SendsData (mmcBwrite (some mmc) start blkcnt src) world := by
  unfold mmcBwrite at counted ⊢
  split at counted
  · exact absurd rfl counted
  rename_i some
  rw [if_neg some]
  dsimp only at counted ⊢
  rw [exec_bind] at counted
  refine SendsData.rest ?_
  split at counted
  · exact absurd rfl counted
  rw [if_neg (by assumption)]
  rw [exec_bind] at counted
  refine SendsData.first (sendsData_mmcBwriteLoop (by bv_omega) ?_)
  by_contra stopped
  rw [if_neg stopped] at counted
  exact counted rfl

/-- A copy that is counted was written. -/
theorem sendsData_mmcDoBurnBoot {mmc : Mmc} {start blkcnt : U32} {src : Buffer} {world : World}
    (counted : ((mmcDoBurnBoot mmc start blkcnt src).exec serve world).1 ≠ 0) :
    SendsData (mmcDoBurnBoot mmc start blkcnt src) world := by
  unfold mmcDoBurnBoot at counted ⊢
  rw [exec_bind] at counted
  refine SendsData.rest ?_
  cases allocated : ((malloc (BitVec.setWidth 64 (blkcnt * mmc.writeBlLen))).exec serve world).1 with
  | none =>
    rw [allocated] at counted
    exact absurd rfl counted
  | some dst =>
    rw [allocated] at counted
    dsimp only at counted ⊢
    rw [exec_bind] at counted
    refine SendsData.first (sendsData_mmcBwrite fun none => ?_)
    rw [none] at counted
    by_cases empty : blkcnt = 0
    · rw [if_neg (by bv_omega), exec_bind] at counted
      split at counted
      · exact counted rfl
      · exact counted rfl
    · rw [if_pos (by bv_omega)] at counted
      exact counted rfl

/-! ### Writing the image -/

section Burn

variable (mmc : Mmc) (devNum : Int) (start blkcnt : U32) (src : Buffer) (world : World)

/-- The copies of one writing of the image went where they were meant to go, and a success leaves
the card in the user area. -/
structure BurnDisciplined : Prop where
  bootCopy : ∀ transfer ∈ transfersSince world.card
    (burnFirstRun mmc devNum blkcnt src world).2.card, transfer.access = 1
  userCopy : ∀ err blocks, (burnFirstRun mmc devNum blkcnt src world).1.1 = some (err, blocks) →
    let label := burnLabelRun mmc devNum blkcnt src world err
    ∀ transfer ∈ transfersSince label.2.card (burnUserRun label.1 start blkcnt src label.2).2.card,
      transfer.access = 0
  success : ((mmcBurnBoot mmc devNum start blkcnt src).exec serve world).1.1 ≠ 0 →
    ((mmcBurnBoot mmc devNum start blkcnt src).exec serve world).2.card.access = 0

/-- The access bits the card was given last, as far as it took them, when the copy in the user
area begins: disabling the boot mode sends the host's once more. -/
def userCopyAccess (err : Int) : U8 :=
  if Disables mmc err ∧ (burnFirstRun mmc devNum blkcnt src world).2.nextSwitch.accepted then
    mmc.hostAccess
  else if mmc.usesBootPart then burnAccess mmc world
  else world.card.access

/-- `mmc_burn_boot` comes to the copy in the user area and writes something, after the card was
given other access bits than zero last. -/
def BurnStrays : Prop :=
  ∃ err blocks, (burnFirstRun mmc devNum blkcnt src world).1.1 = some (err, blocks) ∧
    userCopyAccess mmc devNum blkcnt src world err ≠ 0 ∧
    let label := burnLabelRun mmc devNum blkcnt src world err
    SendsData (if label.1.usesUserPart then mmcDoBurnBoot label.1 start blkcnt src else pure 0)
      label.2

theorem burnFirstRun_uses {mmc : Mmc} (uses : mmc.usesBootPart = true) (devNum : Int)
    (blkcnt : U32) (src : Buffer) (world : World) :
    burnFirstRun mmc devNum blkcnt src world = burnBootPartRun mmc devNum blkcnt src world := by
  unfold burnFirstRun burnBootPartRun
  rw [uses, if_pos rfl]

theorem burnFirstRun_unused {mmc : Mmc} (unused : mmc.usesBootPart = false) (devNum : Int)
    (blkcnt : U32) (src : Buffer) (world : World) :
    burnFirstRun mmc devNum blkcnt src world = ((some (0, 0), mmc), world) := by
  unfold burnFirstRun
  rw [unused]
  rfl

variable {mmc devNum start blkcnt src world}

theorem usesBootPart_iff : mmc.usesBootPart = true ↔
    mmc.cfg.platformCaps.drvBurnBootPos &&& drvParaBurnEmmcBootPart ≠ 0 ∧ mmc.bootSupport ≠ 0 := by
  unfold Mmc.usesBootPart
  rw [Bool.and_eq_true, bne_iff_ne, bne_iff_ne]

theorem Mmc.SameButBoot.disables {other : Mmc} (same : mmc.SameButBoot other) (err : Int) :
    Disables other err ↔ Disables mmc err := by
  unfold Mmc.SameButBoot at same
  unfold Disables
  rw [same]

/-- What the part before the label comes to, whether the boot partition is used or not. -/
structure BurnFirstEnds (mmc : Mmc) (devNum : Int) (blkcnt : U32) (src : Buffer) (world : World)
    (err : Int) (blocks : U32) : Prop where
  same : mmc.SameButBoot (burnFirstRun mmc devNum blkcnt src world).1.2
  host : Disables mmc err →
    (burnFirstRun mmc devNum blkcnt src world).1.2.hostAccess = mmc.hostAccess
  access : (burnFirstRun mmc devNum blkcnt src world).2.card.access =
    if mmc.usesBootPart then burnAccess mmc world else world.card.access
  counted : blocks ≠ 0 → userCopyAccess mmc devNum blkcnt src world err = 0

theorem burnFirst_ends {err : Int} {blocks : U32}
    (reached : (burnFirstRun mmc devNum blkcnt src world).1.1 = some (err, blocks)) :
    BurnFirstEnds mmc devNum blkcnt src world err blocks := by
  cases uses : mmc.usesBootPart with
  | true =>
    have first := burnFirstRun_uses uses devNum blkcnt src world
    have ends : BurnBootPartEnds mmc world (burnBootPartRun mmc devNum blkcnt src world) :=
      burnBootPart_ends devNum blkcnt src
    rw [← first] at ends
    have notNone : (burnFirstRun mmc devNum blkcnt src world).1.1 ≠ none := by
      rw [reached]
      exact Option.some_ne_none _
    have needsError (disables : Disables mmc err) : err ≠ 0 :=
      disables.1.resolve_right (usesBootPart_iff.mp uses).1
    refine ⟨ends.same, fun disables => ends.host err blocks reached (needsError disables), ?_,
      fun some => ?_⟩
    · rw [uses, if_pos rfl]
      exact ends.access notNone
    · have fine : err = 0 := by
        by_contra failed
        exact some (ends.failed err blocks reached failed)
      subst fine
      unfold userCopyAccess
      rw [if_neg (fun both => needsError both.1 rfl), uses, if_pos rfl]
      exact ends.back blocks reached
  | false =>
    have first := burnFirstRun_unused uses devNum blkcnt src world
    rw [first] at reached
    obtain ⟨rfl, rfl⟩ := Prod.mk.inj (Option.some.inj reached)
    refine ⟨by rw [first]; exact sameButBoot_refl mmc, fun _ => by rw [first], by rw [first, uses]; rfl,
      fun some => absurd rfl some⟩

theorem burnLabel_access {err : Int} {blocks : U32}
    (ends : BurnFirstEnds mmc devNum blkcnt src world err blocks) :
    (burnLabelRun mmc devNum blkcnt src world err).2.card.access =
      userCopyAccess mmc devNum blkcnt src world err := by
  obtain ⟨_, _, access⟩ := exec_disableBootMode (burnFirstRun mmc devNum blkcnt src world).1.2 err
    (burnFirstRun mmc devNum blkcnt src world).2
  refine access.trans ?_
  unfold userCopyAccess
  have disables := ends.same.disables err
  by_cases sent : Disables mmc err ∧
      (burnFirstRun mmc devNum blkcnt src world).2.nextSwitch.accepted = true
  · rw [if_pos (sent.imp_left disables.mpr), if_pos sent, ends.host sent.1]
  · rw [if_neg (fun both => sent (both.imp_left disables.mp)), if_neg sent, ends.access]

/-- The copy in the user area is served by the partition the card is in, which it leaves. -/
theorem burnUser_served (mmc : Mmc) (start blkcnt : U32) (src : Buffer) (world : World) :
    ∃ transfers, world.card.Served (burnUserRun mmc start blkcnt src world).2.card transfers ∧
      (transfers ≠ [] ↔ SendsData
        (if mmc.usesUserPart then mmcDoBurnBoot mmc start blkcnt src else pure 0) world) := by
  have keeps : Always (fun _ => True) Request.KeepsRegisters (fun _ => True)
      (if mmc.usesUserPart then mmcDoBurnBoot mmc start blkcnt src else pure 0) := by
    split
    · exact always_mmcDoBurnBoot_keepsRegisters mmc start blkcnt src
    · trivial
  obtain ⟨transfers, served, none⟩ := exec_served keeps world
  refine ⟨transfers, served, ?_⟩
  unfold SendsData
  rw [Ne, none]
  push Not
  rfl

theorem burnUser_counted {mmc : Mmc} {start blkcnt : U32} {src : Buffer} {world : World}
    (counted : (burnUserRun mmc start blkcnt src world).1 ≠ 0) :
    SendsData (if mmc.usesUserPart then mmcDoBurnBoot mmc start blkcnt src else pure 0) world := by
  unfold burnUserRun at counted
  split at counted
  · rw [if_pos (by assumption)]
    exact sendsData_mmcDoBurnBoot counted
  · exact absurd rfl counted

/-- Whatever the pattern of failures, the boot partition gets its own copy only. -/
theorem burnFirst_bootCopy : ∀ transfer ∈ transfersSince world.card
    (burnFirstRun mmc devNum blkcnt src world).2.card, transfer.access = 1 := by
  cases uses : mmc.usesBootPart with
  | true =>
    have first := burnFirstRun_uses uses devNum blkcnt src world
    have ends : BurnBootPartEnds mmc world (burnBootPartRun mmc devNum blkcnt src world) :=
      burnBootPart_ends devNum blkcnt src
    obtain ⟨transfers, appended, boot⟩ := ends.transfers
    unfold transfersSince
    rw [first, appended, List.drop_left]
    exact boot
  | false =>
    have first := burnFirstRun_unused uses devNum blkcnt src world
    unfold transfersSince
    rw [first, List.drop_length]
    exact fun _ member => absurd member List.not_mem_nil

theorem burn_disciplined_iff : BurnDisciplined mmc devNum start blkcnt src world ↔
    ¬ BurnStrays mmc devNum start blkcnt src world := by
  constructor
  · rintro disciplined ⟨err, blocks, reached, elsewhere, sends⟩
    have ends := burnFirst_ends reached
    obtain ⟨transfers, served, some⟩ := burnUser_served
      (burnLabelRun mmc devNum blkcnt src world err).1 start blkcnt src
      (burnLabelRun mmc devNum blkcnt src world err).2
    obtain ⟨transfer, member⟩ := List.exists_mem_of_ne_nil _ (some.mpr sends)
    have user := disciplined.userCopy err blocks reached transfer (by
      rw [served.since]
      exact member)
    rw [served.accessed transfer member, burnLabel_access ends] at user
    exact elsewhere user
  · intro strays
    refine ⟨burnFirst_bootCopy, fun err blocks reached => ?_, fun success => ?_⟩
    · have ends := burnFirst_ends reached
      obtain ⟨transfers, served, some⟩ := burnUser_served
        (burnLabelRun mmc devNum blkcnt src world err).1 start blkcnt src
        (burnLabelRun mmc devNum blkcnt src world err).2
      dsimp only
      rw [served.since]
      intro transfer member
      rw [served.accessed transfer member, burnLabel_access ends]
      by_contra elsewhere
      exact strays ⟨err, blocks, reached, elsewhere, some.mp (List.ne_nil_of_mem member)⟩
    · rw [exec_mmcBurnBoot] at success ⊢
      cases reached : (burnFirstRun mmc devNum blkcnt src world).1.1 with
      | none =>
        rw [reached] at success
        exact absurd rfl success
      | some state =>
        obtain ⟨err, blocks⟩ := state
        rw [reached] at success
        dsimp only at success ⊢
        have ends := burnFirst_ends reached
        obtain ⟨transfers, served, some⟩ := burnUser_served
          (burnLabelRun mmc devNum blkcnt src world err).1 start blkcnt src
          (burnLabelRun mmc devNum blkcnt src world err).2
        rw [served.access, burnLabel_access ends]
        by_contra elsewhere
        -- nothing was written in the user area, so the success is that of the boot partition
        have unwritten : (burnUserRun (burnLabelRun mmc devNum blkcnt src world err).1 start blkcnt
            src (burnLabelRun mmc devNum blkcnt src world err).2).1 = 0 := by
          by_contra written
          exact strays ⟨err, blocks, reached, elsewhere, burnUser_counted written⟩
        rw [unwritten] at success
        refine elsewhere (ends.counted fun none => ?_)
        rw [none] at success
        by_cases empty : blkcnt = 0
        · rw [empty] at success
          exact success (by decide)
        · rw [if_neg (by bv_omega)] at success
          exact success rfl

end Burn

/-! ### Reading the image -/

section Get

variable (mmc : Mmc) (devNum : Int) (start blkcnt : U32) (dst : Buffer) (world : World)

/-- The steps of `mmc_get_boot`, each run after the one before it: the read in the user area, the
switch to the boot partition, the read there, and the switch back. -/
def getUserRun : (Ulong × Buffer) × World :=
  (if mmc.usesUserPart then mmcBread (some mmc) start blkcnt dst else pure (0, dst)).exec serve
    world

/-- The switch to the boot partition -/
def getToBootRun : (Int × Mmc) × World :=
  (mmcSwitchPart mmc mmcSwitchPartBootPart1).exec serve (getUserRun mmc start blkcnt dst world).2

/-- The read there -/
def getReadRun : (Ulong × Buffer) × World :=
  (mmcBread (some (getToBootRun mmc start blkcnt dst world).1.2) (bootPartStart devNum) blkcnt
    (getUserRun mmc start blkcnt dst world).1.2).exec serve
      (getToBootRun mmc start blkcnt dst world).2

/-- The switch back -/
def getBackRun : (Int × Mmc) × World :=
  (mmcSwitchPart (getToBootRun mmc start blkcnt dst world).1.2 0).exec serve
    (getReadRun mmc devNum start blkcnt dst world).2

/-- The image was found in the user area. -/
def GetUserFound : Prop :=
  mmc.usesUserPart = true ∧ (getUserRun mmc start blkcnt dst world).1.1.setWidth 32 = blkcnt

instance : Decidable (GetUserFound mmc start blkcnt dst world) :=
  inferInstanceAs (Decidable (_ ∧ _))

/-- The boot partition is read. -/
def GetBootRead : Prop :=
  ¬ GetUserFound mmc start blkcnt dst world ∧ mmc.usesBootPart = true ∧
    (getToBootRun mmc start blkcnt dst world).1.1 = 0

/-- Both reads went to their partition, and a success leaves the card in the user area. -/
structure GetDisciplined : Prop where
  userCopy : ∀ transfer ∈ transfersSince world.card
    (getUserRun mmc start blkcnt dst world).2.card, transfer.access = 0
  bootCopy : GetBootRead mmc start blkcnt dst world →
    ∀ transfer ∈ transfersSince (getToBootRun mmc start blkcnt dst world).2.card
      (getReadRun mmc devNum start blkcnt dst world).2.card, transfer.access = 1
  success : ((mmcGetBoot mmc devNum start blkcnt dst).exec serve world).1.1 ≠ 0 →
    ((mmcGetBoot mmc devNum start blkcnt dst).exec serve world).2.card.access = 0

/-- The image is read in the boot partition, and the card does not take the CMD6 back. -/
def GetStrays : Prop :=
  GetBootRead mmc start blkcnt dst world ∧
    (getReadRun mmc devNum start blkcnt dst world).1.1 ≠ 0 ∧
    (getReadRun mmc devNum start blkcnt dst world).2.nextSwitch.accepted = false

variable {mmc devNum start blkcnt dst world}

theorem exec_getBootPart (mmc : Mmc) (devNum : Int) (blkcnt blocksDo : U32) (dst : Buffer)
    (world : World) :
    (getBootPart mmc devNum blkcnt blocksDo dst).exec serve world =
      if mmc.usesBootPart = false then ((blocksDo.setWidth 64, dst, mmc), world)
      else
        let toBoot := (mmcSwitchPart mmc mmcSwitchPartBootPart1).exec serve world
        if toBoot.1.1 ≠ 0 then ((blocksDo.setWidth 64, dst, toBoot.1.2), toBoot.2)
        else
          let read := (mmcBread (some toBoot.1.2) (bootPartStart devNum) blkcnt dst).exec serve
            toBoot.2
          let back := (mmcSwitchPart toBoot.1.2 0).exec serve read.2
          (((read.1.1.setWidth 32).setWidth 64, read.1.2, back.1.2), back.2) := by
  unfold getBootPart
  cases uses : mmc.usesBootPart with
  | false => rfl
  | true =>
    rw [if_pos rfl, if_neg (fun same => Bool.false_ne_true same.symm), exec_bind]
    dsimp only
    rw [exec_ite]
    refine if_congr Iff.rfl rfl ?_
    rw [exec_bind, exec_bind]
    rfl

theorem exec_mmcGetBoot :
    (mmcGetBoot mmc devNum start blkcnt dst).exec serve world =
      if GetUserFound mmc start blkcnt dst world ∨ mmc.usesBootPart = false then
        ((((getUserRun mmc start blkcnt dst world).1.1.setWidth 32).setWidth 64,
          (getUserRun mmc start blkcnt dst world).1.2, mmc),
          (getUserRun mmc start blkcnt dst world).2)
      else if (getToBootRun mmc start blkcnt dst world).1.1 ≠ 0 then
        ((((getUserRun mmc start blkcnt dst world).1.1.setWidth 32).setWidth 64,
          (getUserRun mmc start blkcnt dst world).1.2,
          (getToBootRun mmc start blkcnt dst world).1.2),
          (getToBootRun mmc start blkcnt dst world).2)
      else
        ((((getReadRun mmc devNum start blkcnt dst world).1.1.setWidth 32).setWidth 64,
          (getReadRun mmc devNum start blkcnt dst world).1.2,
          (getBackRun mmc devNum start blkcnt dst world).1.2),
          (getBackRun mmc devNum start blkcnt dst world).2) := by
  have afterUser (notFound : ¬ GetUserFound mmc start blkcnt dst world) :
      (mmcGetBoot mmc devNum start blkcnt dst).exec serve world =
        (getBootPart mmc devNum blkcnt ((getUserRun mmc start blkcnt dst world).1.1.setWidth 32)
          (getUserRun mmc start blkcnt dst world).1.2).exec serve
            (getUserRun mmc start blkcnt dst world).2 := by
    unfold GetUserFound at notFound
    unfold mmcGetBoot getUserRun at *
    cases uses : mmc.usesUserPart with
    | false => rfl
    | true =>
      rw [uses, if_pos rfl] at notFound
      rw [if_pos rfl, if_pos rfl, exec_bind]
      dsimp only
      rw [if_pos fun equal => notFound ⟨rfl, equal⟩]
  by_cases found : GetUserFound mmc start blkcnt dst world
  · rw [if_pos (Or.inl found)]
    obtain ⟨uses, equal⟩ := found
    unfold getUserRun at equal ⊢
    unfold mmcGetBoot
    rw [uses, if_pos rfl] at equal
    rw [uses, if_pos rfl, if_pos rfl, exec_bind]
    dsimp only
    rw [if_neg (not_not.mpr equal)]
    rfl
  · rw [afterUser found, exec_getBootPart]
    refine if_congr ⟨Or.inr, fun either => either.resolve_left found⟩ rfl ?_
    rfl

/-- A read counts nothing, or the number it was asked for. -/
theorem getUser_counted (notFound : ¬ GetUserFound mmc start blkcnt dst world) :
    (getUserRun mmc start blkcnt dst world).1.1 = 0 := by
  unfold GetUserFound getUserRun at notFound
  unfold getUserRun
  cases uses : mmc.usesUserPart with
  | false => rfl
  | true =>
    rw [uses, if_pos rfl] at notFound
    rw [if_pos rfl]
    refine ((always_mmcBread_count (some mmc) start blkcnt dst).result serve world).resolve_right
      fun counted => notFound ⟨rfl, ?_⟩
    rw [counted]
    bv_omega

theorem getUser_served (mmc : Mmc) (start blkcnt : U32) (dst : Buffer) (world : World) :
    ∃ transfers, world.card.Served (getUserRun mmc start blkcnt dst world).2.card transfers := by
  have keeps : Always (fun _ => True) Request.KeepsRegisters (fun _ => True)
      (if mmc.usesUserPart then mmcBread (some mmc) start blkcnt dst else pure (0, dst)) := by
    split
    · exact always_mmcBread_keepsRegisters mmc start blkcnt dst
    · trivial
  obtain ⟨transfers, served, _⟩ := exec_served keeps world
  exact ⟨transfers, served⟩

theorem getRead_served (devNum : Int) (read : GetBootRead mmc start blkcnt dst world) :
    (getToBootRun mmc start blkcnt dst world).2.card.access = 1 ∧
      ∃ transfers, (getToBootRun mmc start blkcnt dst world).2.card.Served
        (getReadRun mmc devNum start blkcnt dst world).2.card transfers := by
  obtain ⟨transfers, served, _⟩ := exec_served
    (always_mmcBread_keepsRegisters (getToBootRun mmc start blkcnt dst world).1.2
      (bootPartStart devNum) blkcnt (getUserRun mmc start blkcnt dst world).1.2)
    (getToBootRun mmc start blkcnt dst world).2
  refine ⟨?_, transfers, served⟩
  exact (at_mmcSwitchPart mmc (getUserRun mmc start blkcnt dst world).2 mmcSwitchPartBootPart1
    read.2.2).card

theorem getBack_access (devNum : Int) (read : GetBootRead mmc start blkcnt dst world) :
    (getBackRun mmc devNum start blkcnt dst world).2.card.access =
      if (getReadRun mmc devNum start blkcnt dst world).2.nextSwitch.accepted then 0 else 1 := by
  have ends := switchEnds_mmcSwitchPart (getToBootRun mmc start blkcnt dst world).1.2
    (getReadRun mmc devNum start blkcnt dst world).2 0
  obtain ⟨access, transfers, served⟩ := getRead_served devNum read
  refine ends.access.trans ?_
  rw [access_accessConfig, served.access, access]
  rfl

theorem get_disciplined_iff (user : world.card.access = 0) :
    GetDisciplined mmc devNum start blkcnt dst world ↔
      ¬ GetStrays mmc devNum start blkcnt dst world := by
  obtain ⟨transfers, served⟩ := getUser_served mmc start blkcnt dst world
  have userCopy : ∀ transfer ∈ transfersSince world.card
      (getUserRun mmc start blkcnt dst world).2.card, transfer.access = 0 := by
    rw [served.since]
    exact fun transfer member => (served.accessed transfer member).trans user
  have bootCopy (read : GetBootRead mmc start blkcnt dst world) :
      ∀ transfer ∈ transfersSince (getToBootRun mmc start blkcnt dst world).2.card
        (getReadRun mmc devNum start blkcnt dst world).2.card, transfer.access = 1 := by
    obtain ⟨access, transfers, served⟩ := getRead_served devNum read
    rw [served.since]
    exact fun transfer member => (served.accessed transfer member).trans access
  have counts := (always_mmcBread_count (some (getToBootRun mmc start blkcnt dst world).1.2)
    (bootPartStart devNum) blkcnt (getUserRun mmc start blkcnt dst world).1.2).result serve
      (getToBootRun mmc start blkcnt dst world).2
  constructor
  · rintro disciplined ⟨read, counted, refused⟩
    have ended : (mmcGetBoot mmc devNum start blkcnt dst).exec serve world = _ := exec_mmcGetBoot
    have bootUsed : ¬ (GetUserFound mmc start blkcnt dst world ∨ mmc.usesBootPart = false) := by
      rintro (found | unused)
      · exact read.1 found
      · exact Bool.false_ne_true (unused.symm.trans read.2.1)
    rw [if_neg bootUsed, if_neg (not_not.mpr read.2.2)] at ended
    have left := disciplined.success
    rw [ended, getBack_access devNum read, refused] at left
    have whole : (getReadRun mmc devNum start blkcnt dst world).1.1 = blkcnt.setWidth 64 :=
      counts.resolve_left counted
    rw [whole] at left counted
    exact absurd (left (by bv_omega)) (by decide)
  · intro strays
    refine ⟨userCopy, bootCopy, fun success => ?_⟩
    rw [exec_mmcGetBoot] at success ⊢
    by_cases ended : GetUserFound mmc start blkcnt dst world ∨ mmc.usesBootPart = false
    · rw [if_pos ended]
      exact served.access.trans user
    rw [if_neg ended] at success ⊢
    rw [not_or] at ended
    by_cases failed : (getToBootRun mmc start blkcnt dst world).1.1 ≠ 0
    · rw [if_pos failed, getUser_counted ended.1] at success
      exact absurd rfl success
    rw [if_neg failed] at success ⊢
    have read : GetBootRead mmc start blkcnt dst world :=
      ⟨ended.1, eq_true_of_ne_false ended.2, not_not.mp failed⟩
    rw [getBack_access devNum read]
    by_contra refused
    refine strays ⟨read, fun none => success ?_, ?_⟩
    · rw [none]
      rfl
    · by_contra accepted
      rw [eq_true_of_ne_false accepted] at refused
      exact refused rfl

end Get

/-! ### Both together -/

/-- From the user area, the copies of the image are written and read in their own partition and
success leaves the card in the user area, exactly when the card is not left elsewhere by the last
CMD6 it took before the copy in the user area, and takes the CMD6 back after a read in the boot
partition. -/
theorem boot_partition_discipline_iff (mmc : Mmc) (devNum : Int) (start blkcnt : U32)
    (src dst : Buffer) (world : World) (user : world.card.access = 0) :
    (BurnDisciplined mmc devNum start blkcnt src world ∧
        GetDisciplined mmc devNum start blkcnt dst world) ↔
      ¬ BurnStrays mmc devNum start blkcnt src world ∧
        ¬ GetStrays mmc devNum start blkcnt dst world :=
  and_congr burn_disciplined_iff (get_disciplined_iff user)

/-- An eMMC of 1000 sectors whose boot image is kept in both places. -/
def bootDevice : Mmc :=
  { Mmc.unidentified with
    highCapacity := true, bootSupport := 1, blockDev := ⟨1000⟩,
    cfg := ⟨true, true, 0, ⟨2, 0, 0⟩, 65535, blocks_pos⟩ }

theorem boot_partition_discipline_iff_fine :
    (World.start (Card.blank true) .fine).card.access = 0 ∧
      ((BurnDisciplined bootDevice 2 16 1 (fun _ => 1) (.start (.blank true) .fine) ∧
          GetDisciplined bootDevice 2 16 1 (fun _ => 0) (.start (.blank true) .fine)) ↔
        ¬ BurnStrays bootDevice 2 16 1 (fun _ => 1) (.start (.blank true) .fine) ∧
          ¬ GetStrays bootDevice 2 16 1 (fun _ => 0) (.start (.blank true) .fine)) :=
  ⟨by decide, boot_partition_discipline_iff bootDevice 2 16 1 (fun _ => 1) (fun _ => 0)
    (.start (.blank true) .fine) (by decide)⟩

/-- The CMD6 to the boot partition is taken and counted as failed, the next one is refused. -/
def strandingPlan : Plan :=
  { Plan.fine with
    command := fun cmdidx turn =>
      if cmdidx = mmcCmdSwitch ∧ turn = 2 then { Answer.fine with phase := -1 }
      else if cmdidx = mmcCmdSwitch ∧ turn = 3 then { Answer.fine with accepted := false, phase := -1 }
      else .fine }

/-- The read in the user area fails, and the CMD6 back is refused. -/
def strandedPlan : Plan :=
  { Plan.fine with
    command := fun cmdidx turn =>
      if cmdidx = mmcCmdSwitch ∧ turn = 1 then { Answer.fine with accepted := false, phase := -1 }
      else .fine
    transfer := fun access _ _ => if access = 0 then { Answer.fine with error := -1 } else .fine }

theorem boot_partition_not_disciplined :
    (Card.blank true).access = 0 ∧
      ¬ BurnDisciplined bootDevice 2 16 1 (fun _ => 1) (.start (.blank true) strandingPlan) ∧
      ¬ GetDisciplined bootDevice 2 16 1 (fun _ => 0) (.start (.blank true) strandedPlan) := by
  have burnt : ((mmcBurnBoot bootDevice 2 16 1 fun _ => 1).exec serve
        (.start (.blank true) strandingPlan)).1.1 ≠ 0 ∧
      ((mmcBurnBoot bootDevice 2 16 1 fun _ => 1).exec serve
        (.start (.blank true) strandingPlan)).2.card.access ≠ 0 := by
    decide +kernel
  have read : ((mmcGetBoot bootDevice 2 16 1 fun _ => 0).exec serve
        (.start (.blank true) strandedPlan)).1.1 ≠ 0 ∧
      ((mmcGetBoot bootDevice 2 16 1 fun _ => 0).exec serve
        (.start (.blank true) strandedPlan)).2.card.access ≠ 0 := by
    decide +kernel
  exact ⟨by decide, fun disciplined => burnt.2 (disciplined.success burnt.1),
    fun disciplined => read.2 (disciplined.success read.1)⟩

end PinePhonePkg
