/-
This file embeds the selection of a hardware partition of a card, and settles
when the size of the block device follows it. A selection changes the number and
the configuration of the partition only: the size that reads and writes are
compared with stays that of the partition in use when the card was started.
-/

import PinePhonePkg.Library.Runs
import PinePhonePkg.Mmc.Boot
import PinePhonePkg.Start.Runs

namespace PinePhonePkg

open Library

/-! ### The code -/

def enodev : Int := 19

def emediumtype : Int := 124

/-- `mmc_devices`, by the numbers that `find_mmc_device` is given -/
abbrev MmcDevices : Type := Int → Option StartMmc

/-- The function changes `part_config` only. -/
def StartMmc.switchPart (mmc : StartMmc) (partNum : U32) : Driver (Int × StartMmc) := do
  let (ret, updated) ← mmcSwitchPart mmc.described partNum
  return (ret, { mmc with partConfig := updated.partConfig })

/-- `mmc_switch_part`, which finds the device by its number -/
def mmcSwitchPartOf (devices : MmcDevices) (devNum : Int) (partNum : U32) :
    Driver (Int × MmcDevices) := do
  match devices devNum with
  | none => return (-1, devices)
  | some mmc =>
    let (ret, mmc) ← mmc.switchPart partNum
    return (ret, Function.update devices devNum (some mmc))

/-- `part_num` is a `char`, so it is compared with its 8 bits extended, and set to 8 bits. -/
def mmcSelectHwpart (devices : MmcDevices) (devNum : Int) (hwpart : U32) :
    Driver (Int × MmcDevices) := do
  match devices devNum with
  | none => return (-enodev, devices)
  | some mmc =>
    if mmc.partNum.setWidth 32 = hwpart then
      return (0, devices)
    if mmc.partConfig = mmcpartNoavailable then
      return (-emediumtype, devices)
    let (ret, devices) ← mmcSwitchPartOf devices devNum hwpart
    if ret ≠ 0 then
      return (ret, devices)
    return (0, Function.update devices devNum
      ((devices devNum).map fun mmc => { mmc with partNum := hwpart.setWidth 8 }))

/-! ### Sequences of requests -/

/-- The two ways in which a partition of a device is asked for -/
inductive HwpartRequest : Type where
  | select (devNum : Int) (hwpart : U32)
  | switch (devNum : Int) (partNum : U32)

namespace HwpartRequest

/-- The device that is meant -/
def devNum : HwpartRequest → Int
  | select devNum _ => devNum
  | switch devNum _ => devNum

/-- The partition that is asked for -/
def partition : HwpartRequest → U32
  | select _ hwpart => hwpart
  | switch _ partNum => partNum

/-- What the request does to the devices -/
def perform (devices : MmcDevices) : HwpartRequest → Driver (Int × MmcDevices)
  | select devNum hwpart => mmcSelectHwpart devices devNum hwpart
  | switch devNum partNum => mmcSwitchPartOf devices devNum partNum

end HwpartRequest

/-- The descriptors, and the cards with their hosts, of which nothing is known but that they
answer -/
structure Hardware (Cards : Type) : Type where
  devices : MmcDevices
  cards : Cards

section Requests

variable {Cards : Type} (serve : (request : Request) → Cards → request.Reply × Cards)

/-- The value that is returned -/
def Hardware.answer (before : Hardware Cards) (request : HwpartRequest) : Int :=
  ((request.perform before.devices).exec serve before.cards).1.1

/-- The devices and cards after a request -/
def Hardware.after (before : Hardware Cards) (request : HwpartRequest) : Hardware Cards where
  devices := ((request.perform before.devices).exec serve before.cards).1.2
  cards := ((request.perform before.devices).exec serve before.cards).2

/-! ### What is asked of it -/

/-- The capacity of a partition, if there is one of this number -/
def StartMmc.hwpartCapacity (mmc : StartMmc) (hwpart : U32) : Option Ulong :=
  if hwpart < 8 then mmc.partCapacity (hwpart.setWidth 8) else none

/-- The device has so many blocks, and reads and writes are refused exactly past them. The write
is refused chunk by chunk. -/
structure StartMmc.HasBlocks (mmc : StartMmc) (blocks : Nat) : Prop where
  lba : mmc.blockDev.lba.toNat = blocks
  read : ∀ start blkcnt dst, 0 < blkcnt →
    (mmcBread (some mmc.described) start blkcnt dst = pure (0, dst) ↔
      blocks < (start + blkcnt).toNat)
  write : ∀ start blkcnt src, 0 < blkcnt →
    (mmcWriteBlocks mmc.described start blkcnt src = pure 0 ↔ blocks < (start + blkcnt).toNat)

/-- There is such a device, with a capacity of so many blocks. -/
def MmcDevices.HasBlocks (devices : MmcDevices) (devNum : Int) (blocks : Nat) : Prop :=
  ∃ mmc, devices devNum = some mmc ∧ mmc.HasBlocks blocks

/-- After a selection that succeeds, the device has the blocks of the partition. A selection that
fails changes the blocks of no device, and any selection those of its own device only. -/
structure Hardware.SizeFollows (before : Hardware Cards) (request : HwpartRequest) : Prop where
  selected : before.answer serve request = 0 → ∃ mmc capacity,
    (before.after serve request).devices request.devNum = some mmc ∧
      mmc.hwpartCapacity request.partition = some capacity ∧
        mmc.HasBlocks (capacity.toNat / 512)
  kept : ∀ devNum blocks, before.answer serve request ≠ 0 ∨ devNum ≠ request.devNum →
    ((before.after serve request).devices.HasBlocks devNum blocks ↔
      before.devices.HasBlocks devNum blocks)

/-- The partition asked for has as many blocks as the device is known to have. -/
def MmcDevices.SizedLike (devices : MmcDevices) (request : HwpartRequest) : Prop :=
  ∃ mmc capacity, devices request.devNum = some mmc ∧
    mmc.hwpartCapacity request.partition = some capacity ∧
      mmc.blockDev.lba.toNat = capacity.toNat / 512

/-- The card takes the switch, and shows the new value when it is read back. -/
def Hardware.CardTakes (before : Hardware Cards) (mmc : StartMmc) (partNum : U32) : Prop :=
  let value := mmc.described.accessConfig partNum
  let switched := (mmcSwitch mmc.described extCsdPartConf value).exec serve before.cards
  let shown := mmcSendExtCsd.exec serve switched.2
  switched.1 = 0 ∧ shown.1.1 = 0 ∧ shown.1.2 extCsdPartConf.toNat = value

/-- The device is there, and its descriptor needs no switch, or lets it through to a card that
takes it. -/
def Hardware.Taken (before : Hardware Cards) : HwpartRequest → Prop
  | .select devNum hwpart => ∃ mmc, before.devices devNum = some mmc ∧
      (mmc.partNum.setWidth 32 = hwpart ∨
        mmc.partConfig ≠ mmcpartNoavailable ∧ before.CardTakes serve mmc hwpart)
  | .switch devNum partNum => ∃ mmc, before.devices devNum = some mmc ∧
      before.CardTakes serve mmc partNum

end Requests

/-! ### The bound of reads and writes -/

/-- A program that goes on after a command is not done. -/
theorem mmcSendCmd_bind_ne_pure {Result : Type} (cmd : MmcCmd) (data : Option MmcData)
    (next : CmdReply → Driver Result) (result : Result) :
    (mmcSendCmd cmd data >>= next : Driver Result) ≠ pure result :=
  nofun

theorem mmcReadBlocks_bind_ne_pure {Result : Type} (mmc : Mmc) (start blkcnt : U32)
    (next : U32 × Buffer → Driver Result) (result : Result) :
    (mmcReadBlocks mmc start blkcnt >>= next : Driver Result) ≠ pure result := by
  unfold mmcReadBlocks
  rw [LawfulMonad.bind_assoc]
  exact mmcSendCmd_bind_ne_pure _ _ _ _

theorem mmcBread_refused_iff (mmc : Mmc) (start blkcnt : U32) (dst : Buffer)
    (positive : 0 < blkcnt) :
    mmcBread (some mmc) start blkcnt dst = pure (0, dst) ↔ mmc.blockDev.lba < start + blkcnt := by
  have nonzero : blkcnt ≠ 0 := by bv_omega
  unfold mmcBread
  rw [if_neg nonzero]
  dsimp only
  by_cases past : start + blkcnt > mmc.blockDev.lba
  · rw [if_pos past]
    exact iff_of_true rfl past
  · rw [if_neg past]
    refine iff_of_false ?_ past
    obtain ⟨turns, loop⟩ : ∃ turns, blkcnt.toNat = turns + 1 :=
      Nat.exists_eq_succ_of_ne_zero (by bv_omega)
    unfold mmcSetBlocklen
    rw [loop, mmcBreadLoop]
    split
    · rw [pure_bind, if_neg (not_not_intro rfl), LawfulMonad.bind_assoc]
      exact mmcReadBlocks_bind_ne_pure _ _ _ _ _
    · rw [LawfulMonad.bind_assoc]
      exact mmcSendCmd_bind_ne_pure _ _ _ _

theorem mmcWriteBlocks_refused_iff (mmc : Mmc) (start blkcnt : U32) (src : Buffer)
    (positive : 0 < blkcnt) :
    mmcWriteBlocks mmc start blkcnt src = pure 0 ↔ mmc.blockDev.lba < start + blkcnt := by
  have nonzero : blkcnt ≠ 0 := by bv_omega
  unfold mmcWriteBlocks
  by_cases past : start + blkcnt > mmc.blockDev.lba
  · rw [if_pos past]
    exact iff_of_true rfl past
  · rw [if_neg past, if_neg nonzero]
    exact iff_of_false (mmcSendCmd_bind_ne_pure _ _ _ _) past

theorem StartMmc.hasBlocks_iff (mmc : StartMmc) (blocks : Nat) :
    mmc.HasBlocks blocks ↔ mmc.blockDev.lba.toNat = blocks := by
  refine ⟨HasBlocks.lba, ?_⟩
  rintro rfl
  exact ⟨rfl, fun start blkcnt dst positive => mmcBread_refused_iff _ start blkcnt dst positive,
    fun start blkcnt src positive => mmcWriteBlocks_refused_iff _ start blkcnt src positive⟩

/-! ### What a request leaves alone -/

/-- The number of blocks, and what the partitions have -/
def StartMmc.sizes (mmc : StartMmc) : U32 × (U8 → Option Ulong) :=
  (mmc.blockDev.lba, mmc.partCapacity)

/-- The same devices, with the same sizes of their partitions -/
def MmcDevices.SameSizes (first second : MmcDevices) : Prop :=
  ∀ devNum, (first devNum).map StartMmc.sizes = (second devNum).map StartMmc.sizes

theorem MmcDevices.SameSizes.symm {first second : MmcDevices} (same : first.SameSizes second) :
    second.SameSizes first :=
  fun devNum => (same devNum).symm

theorem MmcDevices.SameSizes.trans {first second third : MmcDevices}
    (same : first.SameSizes second) (next : second.SameSizes third) : first.SameSizes third :=
  fun devNum => (same devNum).trans (next devNum)

theorem sameSizes_partNum (devices : MmcDevices) (devNum : Int) (partNum : U8) :
    MmcDevices.SameSizes (Function.update devices devNum
      ((devices devNum).map fun mmc => { mmc with partNum := partNum })) devices := by
  intro number
  by_cases same : number = devNum
  · rw [same, Function.update_self, Option.map_map]
    rfl
  · rw [Function.update_of_ne same]

theorem sameSizes_update {devices : MmcDevices} {devNum : Int} {mmc other : StartMmc}
    (found : devices devNum = some mmc) (sizes : other.sizes = mmc.sizes) :
    MmcDevices.SameSizes (Function.update devices devNum (some other)) devices := by
  intro number
  by_cases same : number = devNum
  · rw [same, Function.update_self, found, Option.map_some, Option.map_some, sizes]
  · rw [Function.update_of_ne same]

section Always

variable {assumed : Exchange Request Request.Reply → Prop}

theorem always_switchPart (mmc : StartMmc) (partNum : U32) :
    Program.Always assumed (fun _ => True) (fun result => result.2.sizes = mmc.sizes)
      (mmc.switchPart partNum) :=
  (Program.always_any (mmcSwitchPart mmc.described partNum)).bind fun _ _ => rfl

theorem always_mmcSwitchPartOf (devices : MmcDevices) (devNum : Int) (partNum : U32) :
    Program.Always assumed (fun _ => True) (fun result => MmcDevices.SameSizes result.2 devices)
      (mmcSwitchPartOf devices devNum partNum) := by
  unfold mmcSwitchPartOf
  cases found : devices devNum with
  | none => exact fun _ => rfl
  | some mmc =>
    exact (always_switchPart mmc partNum).bind fun _ sizes => sameSizes_update found sizes

theorem always_mmcSelectHwpart (devices : MmcDevices) (devNum : Int) (hwpart : U32) :
    Program.Always assumed (fun _ => True) (fun result => MmcDevices.SameSizes result.2 devices)
      (mmcSelectHwpart devices devNum hwpart) := by
  unfold mmcSelectHwpart
  cases found : devices devNum with
  | none => exact fun _ => rfl
  | some mmc =>
    dsimp only
    split
    · exact fun _ => rfl
    · split
      · exact fun _ => rfl
      · refine (always_mmcSwitchPartOf devices devNum hwpart).bind fun result same => ?_
        obtain ⟨ret, switched⟩ := result
        dsimp only
        split
        · exact same
        · exact (sameSizes_partNum switched devNum _).trans same

end Always

section Requests

variable {Cards : Type} {serve : (request : Request) → Cards → request.Reply × Cards}

theorem after_sameSizes (before : Hardware Cards) (request : HwpartRequest) :
    (before.after serve request).devices.SameSizes before.devices := by
  have always : Program.Always (fun _ => True) (fun _ => True)
      (fun result => MmcDevices.SameSizes result.2 before.devices)
      (request.perform before.devices) := by
    cases request with
    | select devNum hwpart => exact always_mmcSelectHwpart before.devices devNum hwpart
    | switch devNum partNum => exact always_mmcSwitchPartOf before.devices devNum partNum
  exact always.result serve before.cards

/-! ### When a request succeeds -/

theorem exec_mmcSwitchPart_zero_iff (mmc : Mmc) (partNum : U32) (cards : Cards) :
    ((mmcSwitchPart mmc partNum).exec serve cards).1.1 = 0 ↔
      let value := mmc.accessConfig partNum
      let switched := (mmcSwitch mmc extCsdPartConf value).exec serve cards
      let shown := mmcSendExtCsd.exec serve switched.2
      switched.1 = 0 ∧ shown.1.1 = 0 ∧ shown.1.2 extCsdPartConf.toNat = value := by
  have minus : (-1 : Int) ≠ 0 := by decide
  unfold mmcSwitchPart mmcSwitchChecked
  dsimp only
  rw [Program.exec_bind]
  generalize (mmcSwitch mmc extCsdPartConf (mmc.accessConfig partNum)).exec serve cards = switched
  by_cases failed : switched.1 ≠ 0
  · rw [if_pos failed]
    exact iff_of_false minus fun all => failed all.1
  rw [if_neg failed, Program.exec_bind]
  generalize mmcSendExtCsd.exec serve switched.2 = shown
  by_cases unread : shown.1.1 ≠ 0
  · rw [if_pos unread]
    exact iff_of_false minus fun all => unread all.2.1
  rw [if_neg unread]
  by_cases other : mmc.accessConfig partNum ≠ shown.1.2 extCsdPartConf.toNat
  · rw [if_pos other]
    exact iff_of_false minus fun all => other all.2.2.symm
  · rw [if_neg other]
    exact iff_of_true (not_not.mp unread) ⟨not_not.mp failed, not_not.mp unread,
      (not_not.mp other).symm⟩

theorem exec_switchPart_zero_iff (before : Hardware Cards) (mmc : StartMmc) (partNum : U32) :
    ((mmc.switchPart partNum).exec serve before.cards).1.1 = 0 ↔
      before.CardTakes serve mmc partNum := by
  unfold StartMmc.switchPart
  rw [Program.exec_bind]
  exact exec_mmcSwitchPart_zero_iff mmc.described partNum before.cards

theorem exec_mmcSwitchPartOf_zero_iff (before : Hardware Cards) {devNum : Int} (partNum : U32)
    {mmc : StartMmc} (found : before.devices devNum = some mmc) :
    ((mmcSwitchPartOf before.devices devNum partNum).exec serve before.cards).1.1 = 0 ↔
      before.CardTakes serve mmc partNum := by
  unfold mmcSwitchPartOf
  rw [found]
  dsimp only
  rw [Program.exec_bind]
  exact exec_switchPart_zero_iff before mmc partNum

theorem exec_mmcSelectHwpart_zero_iff (before : Hardware Cards) {devNum : Int} (hwpart : U32)
    {mmc : StartMmc} (found : before.devices devNum = some mmc) :
    ((mmcSelectHwpart before.devices devNum hwpart).exec serve before.cards).1.1 = 0 ↔
      mmc.partNum.setWidth 32 = hwpart ∨
        mmc.partConfig ≠ mmcpartNoavailable ∧ before.CardTakes serve mmc hwpart := by
  unfold mmcSelectHwpart
  rw [found]
  dsimp only
  by_cases current : mmc.partNum.setWidth 32 = hwpart
  · rw [if_pos current]
    exact iff_of_true rfl (Or.inl current)
  rw [if_neg current]
  by_cases unavailable : mmc.partConfig = mmcpartNoavailable
  · rw [if_pos unavailable]
    refine iff_of_false (show -emediumtype ≠ 0 by decide) ?_
    rintro (same | ⟨available, _⟩)
    · exact current same
    · exact available unavailable
  rw [if_neg unavailable, Program.exec_bind]
  have switches : before.CardTakes serve mmc hwpart ↔ mmc.partNum.setWidth 32 = hwpart ∨
      mmc.partConfig ≠ mmcpartNoavailable ∧ before.CardTakes serve mmc hwpart :=
    ⟨fun takes => Or.inr ⟨unavailable, takes⟩, fun either => (either.resolve_left current).2⟩
  rw [← switches, ← exec_mmcSwitchPartOf_zero_iff before hwpart found]
  generalize (mmcSwitchPartOf before.devices devNum hwpart).exec serve before.cards = result
  by_cases failed : result.1.1 ≠ 0
  · rw [if_pos failed]
    rfl
  · rw [if_neg failed]
    exact iff_of_true rfl (not_not.mp failed)

/-- A request succeeds exactly if it is taken. -/
theorem answer_eq_zero_iff (before : Hardware Cards) (request : HwpartRequest) :
    before.answer serve request = 0 ↔ before.Taken serve request := by
  cases request with
  | select devNum hwpart =>
    cases found : before.devices devNum with
    | none =>
      simp only [Hardware.answer, Hardware.Taken, HwpartRequest.perform, mmcSelectHwpart, found,
        reduceCtorEq, false_and, exists_false, iff_false]
      exact show -enodev ≠ 0 by decide
    | some mmc =>
      simp only [Hardware.Taken, found, Option.some.injEq, exists_eq_left']
      exact exec_mmcSelectHwpart_zero_iff before hwpart found
  | switch devNum partNum =>
    cases found : before.devices devNum with
    | none =>
      simp only [Hardware.answer, Hardware.Taken, HwpartRequest.perform, mmcSwitchPartOf, found,
        reduceCtorEq, false_and, exists_false, iff_false]
      exact show (-1 : Int) ≠ 0 by decide
    | some mmc =>
      simp only [Hardware.Taken, found, Option.some.injEq, exists_eq_left']
      exact exec_mmcSwitchPartOf_zero_iff before partNum found

/-! ### Sizes that follow -/

theorem hasBlocks_iff_sizes (devices : MmcDevices) (devNum : Int) (blocks : Nat) :
    devices.HasBlocks devNum blocks ↔
      ∃ sizes, (devices devNum).map StartMmc.sizes = some sizes ∧ sizes.1.toNat = blocks := by
  unfold MmcDevices.HasBlocks
  simp only [StartMmc.hasBlocks_iff]
  cases devices devNum with
  | none => simp only [reduceCtorEq, false_and, exists_false, Option.map_none]
  | some mmc =>
    simp only [Option.some.injEq, exists_eq_left', Option.map_some]
    rfl

/-- The capacity of a partition, from the sizes -/
theorem StartMmc.hwpartCapacity_eq (mmc : StartMmc) (hwpart : U32) :
    mmc.hwpartCapacity hwpart = if hwpart < 8 then mmc.sizes.2 (hwpart.setWidth 8) else none :=
  rfl

theorem MmcDevices.SameSizes.sizedLike {first second : MmcDevices} (same : first.SameSizes second)
    {request : HwpartRequest} (sized : first.SizedLike request) : second.SizedLike request := by
  obtain ⟨mmc, capacity, found, partition, blocks⟩ := sized
  have sizes := same request.devNum
  rw [found, Option.map_some] at sizes
  obtain ⟨other, foundOther, sizesOther⟩ := Option.map_eq_some_iff.mp sizes.symm
  refine ⟨other, capacity, foundOther, ?_, ?_⟩
  · rw [StartMmc.hwpartCapacity_eq, sizesOther]
    exact partition
  · exact (congrArg (fun sizes => BitVec.toNat sizes.1) sizesOther).trans blocks

/-- The size follows a request exactly if the request fails, or asks for a partition of the size
that the device has anyway. -/
theorem sizeFollows_iff (before : Hardware Cards) (request : HwpartRequest) :
    before.SizeFollows serve request ↔
      (before.Taken serve request → before.devices.SizedLike request) := by
  have same : (before.after serve request).devices.SameSizes before.devices :=
    after_sameSizes before request
  rw [← answer_eq_zero_iff]
  constructor
  · intro follows answered
    obtain ⟨mmc, capacity, found, partition, blocks⟩ := follows.selected answered
    exact same.sizedLike ⟨mmc, capacity, found, partition, blocks.lba⟩
  · intro sized
    refine ⟨fun answered => ?_, fun devNum blocks _ => ?_⟩
    · obtain ⟨mmc, capacity, found, partition, blocks⟩ := same.symm.sizedLike (sized answered)
      exact ⟨mmc, capacity, found, partition, (mmc.hasBlocks_iff _).mpr blocks⟩
    · rw [hasBlocks_iff_sizes, hasBlocks_iff_sizes, same devNum]

/-- In a run of requests the size follows each exactly if each that is taken asks for a partition
of the size that the device had at the start. -/
theorem sizeFollows_along_iff (start : Hardware Cards) (requests : List HwpartRequest) :
    Along (Hardware.after serve) (Hardware.SizeFollows serve) start requests ↔
      Along (Hardware.after serve)
        (fun before request => before.Taken serve request → start.devices.SizedLike request)
        start requests := by
  have kept : ∀ (before : Hardware Cards) request, before.devices.SameSizes start.devices →
      (before.after serve request).devices.SameSizes start.devices :=
    fun before request same => (after_sameSizes before request).trans same
  refine along_congr kept (fun before request same => ?_) (fun _ => rfl) requests
  rw [sizeFollows_iff]
  exact imp_congr_right fun _ => ⟨same.sizedLike, same.symm.sizedLike⟩

end Requests

/-! ### A boot partition -/

/-- A card with nothing but its partition configuration, which is ready all the time -/
def serveConfig : (request : Request) → U8 → request.Reply × U8
  | .sendCmd cmd _, config =>
    let config := if cmd.cmdidx = mmcCmdSwitch then (cmd.cmdarg >>> 8).setWidth 8 else config
    (⟨0, 0x900, fun _ => config⟩, config)
  | .setIos _ _ _, config => ((), config)
  | .updatePhase, config => (0, config)
  | .malloc _, config => (none, config)
  | .unsetWord, config => (0, config)

/-- An eMMC of 4 GiB with boot partitions of 4 MiB, of which the user area was sized -/
def startedEmmc : StartMmc :=
  (mmcSetCapacity { StartMmc.answered true with
    capacityUser := 0x100000000, capacityBoot := 0x400000 } 0).2

/-- The first boot partition is selected, and the device keeps the size of the user area. -/
theorem not_sizeFollows :
    ¬ Along (Hardware.after serveConfig) (Hardware.SizeFollows serveConfig)
      ⟨fun devNum => if devNum = 2 then some startedEmmc else none, 0⟩ [.select 2 1] := by
  intro along
  have succeeds : Hardware.answer serveConfig
      ⟨fun devNum => if devNum = 2 then some startedEmmc else none, 0⟩ (.select 2 1) = 0 := by
    decide +kernel
  obtain ⟨mmc, capacity, found, partition, blocks⟩ :=
    (sizeFollows_iff _ _).mp along.1 ((answer_eq_zero_iff _ _).mp succeeds)
  obtain rfl := Option.some.inj found
  obtain rfl := Option.some.inj partition
  exact absurd blocks (by decide +kernel)

end PinePhonePkg
