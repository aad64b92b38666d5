/-
This file settles what the logical layer keeps apart. All cards share one
offset, which every initialisation and every exit sets, and the size of a card is
computed from a field nothing sets. As long as each call finds its own card's
offset in the shared word, transfers go to the sectors they name and no card
notices the others.
-/

import PinePhonePkg.Logical.Layer
import PinePhonePkg.Card.Touched

namespace PinePhonePkg

open Library

/-! ### What is asked of a run -/

/-- Whether the call writes, its first sector and its number of sectors. -/
def LogicalCall.sectors : LogicalCall → Option (Bool × U32 × U32)
  | .read startSector nsector _ => some (false, startSector, nsector)
  | .write startSector nsector _ => some (true, startSector, nsector)
  | .erase block nblock => some (true, block, nblock)
  | _ => none

/-- No command is sent in between. -/
structure World.NoCommand (before after : World) : Prop where
  sent : after.sent = before.sent
  polls : after.polls = before.polls

/-- The slot the call found, with its record. -/
def followed (visit : LogicalVisit) : Followed :=
  visit.before.part visit.component

/-- A successful transfer touches the sectors it names behind the offset of the card, the size of
a card is its capacity without the offset, and an exited card refuses every call without a
command. -/
structure CallApart (visit : LogicalVisit) : Prop where
  sectors : ∀ write start count offset value,
    visit.call.sectors = some (write, start, count) →
    (followed visit).session.offset = some offset →
    visit.turn.result.value = some value → 0 < value →
      (followed visit).slot.world.card.Touched visit.turn.own.slot.world.card userPart write
        (start.toNat + offset.toNat) (start.toNat + offset.toNat + count.toNat)
  diskSize : ∀ offset mmc, visit.call = .diskSize → (followed visit).session.ready = true →
    (followed visit).session.offset = some offset → (followed visit).slot.device = some mmc →
      visit.turn.result.value = some ((mmc.mmc.blockDev.lba.toNat : Int) - offset.toNat)
  closed : (followed visit).session.closed = true →
    (∀ cardOffset setup, visit.call ≠ .init cardOffset setup) →
      (∃ value, visit.turn.result.value = some value ∧ value < 0) ∧
        (followed visit).slot.world.NoCommand visit.turn.own.slot.world

/-- Every call does what it should, and the results of a card are those it would have had
without the calls to the other cards. -/
structure CardsApart (cards : Cards) (calls : List (CardNo × LogicalCall)) : Prop where
  call : ∀ visit ∈ cards.run calls, CallApart visit
  alone : ∀ card, resultsOf card (cards.run (callsOf card calls)) = resultsOf card (cards.run calls)

/-- The transfer is empty, and there is a descriptor to look at, or the card is initialised, the
shared word holds its offset, and the last sector number has 32 bits. -/
def Followed.Addressed (bootcardOffset : U32) (followed : Followed) (start count : U32) : Prop :=
  (count = 0 ∧ followed.slot.device.isSome) ∨
    (followed.session.ready = true ∧ followed.session.offset = some bootcardOffset ∧
      start.toNat + bootcardOffset.toNat + count.toNat < 2 ^ 32)

instance (bootcardOffset : U32) (followed : Followed) (start count : U32) :
    Decidable (followed.Addressed bootcardOffset start count) :=
  inferInstanceAs (Decidable (_ ∨ _))

/-- The calls that keep clear of what the cards share: no transfer under an offset that is not
the card's own, no size, no second exit. -/
def Followed.Careful (bootcardOffset : U32) (followed : Followed) : LogicalCall → Prop
  | .init _ _ => True
  | .exit => followed.session.closed = false
  | .read start count _ => followed.Addressed bootcardOffset start count
  | .write start count _ => followed.Addressed bootcardOffset start count
  | .erase start count => followed.Addressed bootcardOffset start count
  | .diskSize => False

instance (bootcardOffset : U32) (followed : Followed) (call : LogicalCall) :
    Decidable (followed.Careful bootcardOffset call) := by
  cases call <;> unfold Followed.Careful <;> infer_instance

variable {start count : U32} {call : LogicalCall}

/-- The transfers of a careful run. -/
theorem careful_sectors {bootcardOffset : U32} {followed : Followed} {write : Bool}
    (careful : followed.Careful bootcardOffset call)
    (sectors : call.sectors = some (write, start, count)) :
    followed.Addressed bootcardOffset start count := by
  cases call with
  | init | exit => cases sectors
  | read | write | erase => cases sectors; exact careful
  | diskSize => cases sectors

/-! ### Results -/

theorem countResult_zero : countResult 0 = -1 := by
  decide

theorem countResult_failed : countResult (-1) = -1 := by
  decide

theorem countResult_positive {ret : Ulong} (positive : 0 < countResult ret) : ret ≠ 0 := by
  rintro rfl
  rw [countResult_zero] at positive
  exact absurd positive (by decide)

/-- An erase writes what it was given by the allocator, with zeros over it. -/
theorem exec_mmcBerase_none {mmc : Mmc} {blkcnt : U32} {world : World}
    (failed : world.plan.malloc world.mallocs = none) :
    (mmcBerase mmc start blkcnt).exec serve world =
      (-1, { world with mallocs := world.mallocs + 1 }) := by
  unfold mmcBerase malloc ask
  rw [Program.exec_bind, Program.exec_send]
  dsimp only [serve]
  rw [failed]
  rfl

theorem exec_mmcBerase_some {mmc : Mmc} {blkcnt : U32} {world : World} {memory : Buffer}
    (allocated : world.plan.malloc world.mallocs = some memory) :
    ∃ src, (mmcBerase mmc start blkcnt).exec serve world =
      ((((mmcBwrite (some mmc) start blkcnt src).exec serve
          { world with mallocs := world.mallocs + 1 }).1.setWidth 32).signExtend 64,
        ((mmcBwrite (some mmc) start blkcnt src).exec serve
          { world with mallocs := world.mallocs + 1 }).2) := by
  refine ⟨memory.overwrite 0 ((blkcnt * mmc.writeBlLen).setWidth 64 : Ulong).toNat fun _ => 0, ?_⟩
  unfold mmcBerase malloc ask
  rw [Program.exec_bind, Program.exec_send]
  dsimp only [serve]
  rw [allocated]
  exact Program.exec_bind serve _ _ _

/-! ### Calls that are not stuck -/

theorem call_runs {slot : Slot} {mmc : LogicalDevice} {bootcardOffset : U32}
    {reaches : LogicalDevice → Bool} {program : LogicalDevice → Driver (Int × Option Buffer)}
    (device : slot.device = some mmc) (runs : slot.hasOps = true ∨ reaches mmc = false) :
    slot.call bootcardOffset reaches program =
      ⟨.returned ((program mmc).exec serve slot.world).1.1
          ((program mmc).exec serve slot.world).1.2, bootcardOffset,
        { slot with world := ((program mmc).exec serve slot.world).2 }⟩ := by
  have free : ¬ (slot.hasOps = false ∧ reaches mmc = true) := by
    rintro ⟨cleared, reached⟩
    rcases runs with ready | refused
    · exact Bool.false_ne_true (cleared.symm.trans ready)
    · exact Bool.false_ne_true (refused.symm.trans reached)
  unfold Slot.call
  rw [device]
  dsimp only
  rw [if_neg free]

section Device

variable {slot : Slot} {mmc : LogicalDevice}

theorem step_read (device : slot.device = some mmc) (user : mmc.partNum = userPart)
    (bootcardOffset startSector nsector : U32) (buf : Buffer)
    (runs : slot.hasOps = true ∨ nsector = 0) :
    slot.step bootcardOffset (.read startSector nsector buf) =
      let run := (mmcBread (some mmc.mmc) (startSector + bootcardOffset) nsector buf).exec serve
        slot.world
      ⟨.returned (countResult run.1.1) (some run.1.2), bootcardOffset,
        { slot with world := run.2 }⟩ := by
  refine (call_runs device (runs.imp_right fun empty => ?_)).trans ?_
  · simp [empty]
  · simp [sdmmcLogicalRead, user, -bind_pure_comp]

theorem step_write (device : slot.device = some mmc) (user : mmc.partNum = userPart)
    (bootcardOffset startSector nsector : U32) (buf : Buffer)
    (runs : slot.hasOps = true ∨ nsector = 0) :
    slot.step bootcardOffset (.write startSector nsector buf) =
      let run := (mmcBwrite (some mmc.mmc) (startSector + bootcardOffset) nsector buf).exec serve
        slot.world
      ⟨.returned (countResult run.1) none, bootcardOffset, { slot with world := run.2 }⟩ := by
  refine (call_runs device (runs.imp_right fun empty => ?_)).trans ?_
  · simp [empty]
  · simp [sdmmcLogicalWrite, user, -bind_pure_comp]

theorem step_erase (device : slot.device = some mmc) (user : mmc.partNum = userPart)
    (bootcardOffset block nblock : U32) (runs : slot.hasOps = true ∨ nblock = 0) :
    slot.step bootcardOffset (.erase block nblock) =
      let run := (mmcBerase mmc.mmc (block + bootcardOffset) nblock).exec serve slot.world
      ⟨.returned (countResult run.1) none, bootcardOffset, { slot with world := run.2 }⟩ := by
  refine (call_runs device (runs.imp_right fun empty => ?_)).trans ?_
  · simp [empty]
  · simp [sdmmcLogicaErase, user, -bind_pure_comp]

theorem step_diskSize (device : slot.device = some mmc) (user : mmc.partNum = userPart)
    (bootcardOffset : U32) :
    slot.step bootcardOffset .diskSize =
      ⟨.returned (mmc.userLba - bootcardOffset).toInt none, bootcardOffset,
        { slot with device := some { mmc with lba := mmc.userLba } }⟩ := by
  simp [Slot.step, device, sdmmcLogicalDiskSize, user]

/-- An empty transfer is refused before anything shared is looked at. -/
theorem step_empty (device : slot.device = some mmc) (user : mmc.partNum = userPart) {write : Bool}
    (sectors : call.sectors = some (write, start, 0)) :
    ∃ buf world, slot.world.NoCommand world ∧ ∀ bootcardOffset, slot.step bootcardOffset call =
      ⟨.returned (-1) buf, bootcardOffset, { slot with world := world }⟩ := by
  cases call with
  | init | exit => cases sectors
  | read startSector nsector buf =>
    cases sectors
    refine ⟨some buf, slot.world, ⟨rfl, rfl⟩, fun bootcardOffset => ?_⟩
    rw [step_read device user bootcardOffset _ _ buf (Or.inr rfl)]
    rfl
  | write startSector nsector buf =>
    cases sectors
    refine ⟨none, slot.world, ⟨rfl, rfl⟩, fun bootcardOffset => ?_⟩
    rw [step_write device user bootcardOffset _ _ buf (Or.inr rfl)]
    rfl
  | erase block nblock =>
    cases sectors
    refine ⟨none, { slot.world with mallocs := slot.world.mallocs + 1 }, ⟨rfl, rfl⟩,
      fun bootcardOffset => ?_⟩
    rw [step_erase device user bootcardOffset _ _ (Or.inr rfl)]
    cases allocated : slot.world.plan.malloc slot.world.mallocs with
    | none =>
      rw [exec_mmcBerase_none allocated]
      simp only [countResult_failed]
    | some memory =>
      obtain ⟨src, run⟩ := exec_mmcBerase_some allocated
      rw [run]
      rfl
  | diskSize => cases sectors

/-! ### Transfers of an initialised card -/

theorem Identified.addressable {mmc : Mmc} {card : Card} (identified : Identified mmc card)
    (bound : start.toNat + count.toNat < 2 ^ 32) (inside : start + count ≤ mmc.blockDev.lba) :
    mmc.Addressable start count := by
  unfold Mmc.Addressable
  cases highCapacity : mmc.highCapacity with
  | true => exact Nat.le_of_lt bound
  | false =>
    have sum : start.toNat + count.toNat ≤ mmc.blockDev.lba.toNat := by bv_omega
    exact Nat.le_trans (Nat.mul_le_mul_right 512 sum) (identified.bytes highCapacity)

theorem Identified.chunksFit {mmc : Mmc} {card : Card} (identified : Identified mmc card)
    (count : U32) : mmc.ChunksFit count := by
  have bMax : mmc.cfg.bMax.toNat = 65535 := by rw [identified.bMax]; rfl
  exact Or.inr (by rw [bMax]; decide)

/-- A count that comes back positive is the count that was asked for. -/
theorem counted_mmcBwrite {mmc : Mmc} {src : Buffer} {world : World}
    (nonzero : ((mmcBwrite (some mmc) start count src).exec serve world).1 ≠ 0) :
    ((mmcBwrite (some mmc) start count src).exec serve world).1 = count.setWidth 64 ∧
      0 < count := by
  have counted := ((always_mmcBwrite_count (some mmc) start count src).result serve
    world).resolve_left nonzero
  refine ⟨counted, ?_⟩
  rw [counted] at nonzero
  bv_omega

theorem counted_mmcBread {mmc : Mmc} {dst : Buffer} {world : World}
    (nonzero : ((mmcBread (some mmc) start count dst).exec serve world).1.1 ≠ 0) :
    ((mmcBread (some mmc) start count dst).exec serve world).1.1 = count.setWidth 64 ∧
      0 < count := by
  have counted := ((always_mmcBread_count (some mmc) start count dst).result serve
    world).resolve_left nonzero
  refine ⟨counted, ?_⟩
  rw [counted] at nonzero
  bv_omega

/-- A successful transfer touches the sectors it names behind the offset it finds. -/
theorem step_touched (device : slot.device = some mmc) (user : mmc.partNum = userPart)
    (hasOps : slot.hasOps = true) (identified : Identified mmc.mmc slot.world.card) {write : Bool}
    {bootcardOffset : U32} (sectors : call.sectors = some (write, start, count))
    (bound : start.toNat + bootcardOffset.toNat + count.toNat < 2 ^ 32) {value : Int}
    (result : (slot.step bootcardOffset call).result.value = some value) (positive : 0 < value) :
    slot.world.card.Touched (slot.step bootcardOffset call).own.world.card userPart write
      (start.toNat + bootcardOffset.toNat)
      (start.toNat + bootcardOffset.toNat + count.toNat) := by
  have first : (start + bootcardOffset).toNat = start.toNat + bootcardOffset.toNat := by bv_omega
  have fits : (start + bootcardOffset).toNat + count.toNat < 2 ^ 32 := by rw [first]; exact bound
  rw [← first, ← identified.access]
  cases call with
  | init | exit => cases sectors
  | read startSector nsector buf =>
    cases sectors
    rw [step_read device user bootcardOffset _ _ buf (Or.inl hasOps)] at result ⊢
    cases Option.some.inj result
    obtain ⟨counted, nonempty⟩ := counted_mmcBread (countResult_positive positive)
    exact touched_mmcBread mmc.mmc _ _ buf slot.world identified.matched
      (identified.addressable fits) nonempty counted
  | write startSector nsector buf =>
    cases sectors
    rw [step_write device user bootcardOffset _ _ buf (Or.inl hasOps)] at result ⊢
    cases Option.some.inj result
    obtain ⟨counted, nonempty⟩ := counted_mmcBwrite (countResult_positive positive)
    exact touched_mmcBwrite mmc.mmc _ _ buf slot.world identified.matched fits
      (identified.addressable fits) (identified.chunksFit _) nonempty counted
  | erase block nblock =>
    cases sectors
    rw [step_erase device user bootcardOffset _ _ (Or.inl hasOps)] at result ⊢
    cases Option.some.inj result
    cases allocated : slot.world.plan.malloc slot.world.mallocs with
    | none =>
      rw [exec_mmcBerase_none allocated, countResult_failed] at positive
      exact absurd positive (by decide)
    | some memory =>
      obtain ⟨src, run⟩ := exec_mmcBerase_some allocated
      rw [run] at positive ⊢
      have written := countResult_positive positive
      obtain ⟨counted, nonempty⟩ := counted_mmcBwrite (fun none => written (by rw [none]; rfl))
      exact touched_mmcBwrite mmc.mmc _ _ src
        { slot.world with mallocs := slot.world.mallocs + 1 } identified.matched fits
        (identified.addressable fits) (identified.chunksFit _) nonempty counted
  | diskSize => cases sectors

end Device

/-! ### What the slots keep -/

theorem Identified.kept {mmc : Mmc} {before after : Card} (identified : Identified mmc before)
    (addressing : after.sectorAddressed = before.sectorAddressed)
    (access : after.access = before.access) : Identified mmc after where
  matched := ⟨addressing.trans identified.matched.addressing, identified.matched.readBlLen,
    identified.matched.writeBlLen⟩
  access := access.trans identified.access
  bMax := identified.bMax
  bytes := identified.bytes

/-- No call changes the partition of a device or sets its `user_lba`, and the descriptor of an
initialised card goes on to match the card. -/
structure Followed.Sound (followed : Followed) : Prop where
  device : ∀ mmc, followed.slot.device = some mmc → mmc.partNum = userPart ∧ mmc.userLba = 0
  ready : followed.session.ready = true → followed.session.closed = false ∧
    followed.slot.hasOps = true ∧ ∃ mmc, followed.slot.device = some mmc ∧
      Identified mmc.mmc followed.slot.world.card

theorem always_sdmmcLogicalRead (mmc : LogicalDevice) (bootcardOffset startSector nsector : U32)
    (buf : Buffer) :
    Program.Always (fun _ => True) Request.KeepsRegisters (fun _ => True)
      (sdmmcLogicalRead mmc bootcardOffset startSector nsector buf) := by
  unfold sdmmcLogicalRead
  split
  · trivial
  · exact (always_mmcBread_keepsRegisters _ _ _ _).bind fun _ _ => trivial

theorem always_sdmmcLogicalWrite (mmc : LogicalDevice) (bootcardOffset startSector nsector : U32)
    (buf : Buffer) :
    Program.Always (fun _ => True) Request.KeepsRegisters (fun _ => True)
      (sdmmcLogicalWrite mmc bootcardOffset startSector nsector buf) := by
  unfold sdmmcLogicalWrite
  split
  · trivial
  · exact (always_mmcBwrite_keepsRegisters _ _ _ _).bind fun _ _ => trivial

theorem always_mmcBerase_keepsRegisters (mmc : Mmc) (start blkcnt : U32) :
    Program.Always (fun _ => True) Request.KeepsRegisters (fun _ => True)
      (mmcBerase mmc start blkcnt) := by
  unfold mmcBerase
  refine ⟨trivial, fun memory _ => ?_⟩
  cases memory with
  | none => trivial
  | some memory => exact (always_mmcBwrite_keepsRegisters _ _ _ _).bind fun _ _ => trivial

theorem always_sdmmcLogicaErase (mmc : LogicalDevice) (bootcardOffset block nblock : U32) :
    Program.Always (fun _ => True) Request.KeepsRegisters (fun _ => True)
      (sdmmcLogicaErase mmc bootcardOffset block nblock) := by
  unfold sdmmcLogicaErase
  split
  · trivial
  · exact (always_mmcBerase_keepsRegisters _ _ _).bind fun _ _ => trivial

/-- A call that runs a program without CMD6 leaves the shared word, the device, the host, and how
and where the card is addressed. -/
structure LogicalTurn.Keeps (bootcardOffset : U32) (slot : Slot) (turn : LogicalTurn) : Prop where
  shared : turn.shared = bootcardOffset
  device : turn.own.device = slot.device
  hasOps : turn.own.hasOps = slot.hasOps
  addressing : turn.own.world.card.sectorAddressed = slot.world.card.sectorAddressed
  access : turn.own.world.card.access = slot.world.card.access

theorem call_keeps {slot : Slot} {bootcardOffset : U32} {reaches : LogicalDevice → Bool}
    {program : LogicalDevice → Driver (Int × Option Buffer)}
    (keeps : ∀ mmc, Program.Always (fun _ => True) Request.KeepsRegisters (fun _ => True)
      (program mmc)) :
    (slot.call bootcardOffset reaches program).Keeps bootcardOffset slot := by
  unfold Slot.call
  cases device : slot.device with
  | none => exact ⟨rfl, rfl, rfl, rfl, rfl⟩
  | some mmc =>
    dsimp only
    split
    · exact ⟨rfl, rfl, rfl, rfl, rfl⟩
    · obtain ⟨transfers, served, _⟩ := exec_served (keeps mmc) slot.world
      exact ⟨rfl, device.symm, rfl, exec_sectorAddressed _ _, served.access⟩

theorem step_keeps (slot : Slot) (bootcardOffset : U32) {write : Bool}
    (sectors : call.sectors = some (write, start, count)) :
    (slot.step bootcardOffset call).Keeps bootcardOffset slot := by
  cases call with
  | init | exit => cases sectors
  | read startSector nsector buf =>
    exact call_keeps fun mmc => (always_sdmmcLogicalRead mmc _ _ _ buf).bind fun _ _ => trivial
  | write startSector nsector buf =>
    exact call_keeps fun mmc => (always_sdmmcLogicalWrite mmc _ _ _ buf).bind fun _ _ => trivial
  | erase block nblock =>
    exact call_keeps fun mmc => (always_sdmmcLogicaErase mmc _ _ _).bind fun _ _ => trivial
  | diskSize => cases sectors

theorem next_of_sectors (session : Session) {write : Bool}
    (sectors : call.sectors = some (write, start, count)) (result : LogicalResult) :
    session.next call result = session := by
  cases call with
  | init | exit => cases sectors
  | read | write | erase => rfl
  | diskSize => cases sectors

/-- A call with sectors keeps a slot sound. -/
theorem sound_of_sectors {followed : Followed} (sound : followed.Sound) (bootcardOffset : U32)
    {write : Bool} (sectors : call.sectors = some (write, start, count)) :
    (followed.step bootcardOffset call).own.Sound := by
  have keeps := step_keeps followed.slot bootcardOffset sectors
  have session : (followed.step bootcardOffset call).own.session = followed.session :=
    next_of_sectors followed.session sectors _
  constructor
  · intro mmc device
    exact sound.device mmc (keeps.device.symm.trans device)
  · intro ready
    rw [session] at ready ⊢
    obtain ⟨opened, hasOps, mmc, device, identified⟩ := sound.ready ready
    exact ⟨opened, keeps.hasOps.trans hasOps, mmc, keeps.device.trans device,
      identified.kept keeps.addressing keeps.access⟩

/-- Every call keeps a slot sound. -/
theorem followed_sound_step {followed : Followed} (sound : followed.Sound) (bootcardOffset : U32)
    (call : LogicalCall) : (followed.step bootcardOffset call).own.Sound := by
  cases call with
  | init cardOffset setup =>
    cases setup with
    | noMemory =>
      exact ⟨sound.device, fun ready => absurd ready Bool.false_ne_true⟩
    | identified identification =>
      obtain ⟨error, mmc, world, identifies⟩ := identification
      refine ⟨fun device equal => ?_, fun ready => ?_⟩
      · cases Option.some.inj equal
        exact ⟨rfl, rfl⟩
      · by_cases fine : error = 0
        · subst fine
          exact ⟨rfl, rfl, _, rfl, identifies rfl⟩
        · have failed : (followed.step bootcardOffset (.init cardOffset
              (.identified ⟨error, mmc, world, identifies⟩))).own.session.ready = false := by
            simp [Followed.step, Slot.step, Slot.sdmmcLogicalInit, Session.next,
              LogicalResult.value, fine]
          exact absurd (failed.symm.trans ready) Bool.false_ne_true
  | exit => exact ⟨sound.device, fun ready => absurd ready Bool.false_ne_true⟩
  | read | write | erase => exact sound_of_sectors sound bootcardOffset rfl
  | diskSize =>
    cases device : followed.slot.device with
    | none =>
      have same : followed.slot.step bootcardOffset .diskSize =
          ⟨.stuck, bootcardOffset, followed.slot⟩ := by simp [Slot.step, device]
      show Followed.Sound ⟨(followed.slot.step bootcardOffset .diskSize).own, followed.session⟩
      rw [same]
      exact sound
    | some mmc =>
      obtain ⟨user, unset⟩ := sound.device mmc device
      show Followed.Sound ⟨(followed.slot.step bootcardOffset .diskSize).own, followed.session⟩
      rw [step_diskSize device user]
      refine ⟨fun _ equal => ?_, fun ready => ?_⟩
      · cases Option.some.inj equal
        exact ⟨user, unset⟩
      · obtain ⟨opened, hasOps, other, holds, identified⟩ := sound.ready ready
        cases Option.some.inj (device.symm.trans holds)
        exact ⟨opened, hasOps, _, rfl, identified⟩

theorem followed_sound_start (worlds : CardNo → World) (card : CardNo) :
    ((Cards.start worlds).part card).Sound :=
  ⟨fun _ device => absurd device (Option.some_ne_none _).symm,
    fun ready => absurd ready Bool.false_ne_true⟩

/-- Every call of a run finds a sound slot. -/
theorem followed_sound_run (worlds : CardNo → World) (calls : List (CardNo × LogicalCall)) :
    ∀ visit ∈ (Cards.start worlds).run calls, (followed visit).Sound :=
  visits_invariant _ _ (followed_sound_start worlds) fun visit member sound => by
    rw [visits_turn _ _ visit member]
    exact followed_sound_step sound _ _

/-- The size is computed from a `user_lba` of zero. -/
theorem diskSize_run (worlds : CardNo → World) (calls : List (CardNo × LogicalCall))
    {visit : LogicalVisit} (member : visit ∈ (Cards.start worlds).run calls)
    (size : visit.call = .diskSize) {mmc : LogicalDevice}
    (device : (followed visit).slot.device = some mmc) :
    visit.turn.result.value = some (-visit.before.shared).toInt := by
  obtain ⟨user, unset⟩ := (followed_sound_run worlds calls visit member).device mmc device
  rw [visits_turn _ _ visit member, size]
  show ((followed visit).slot.step visit.before.shared .diskSize).result.value = _
  rw [step_diskSize device user, unset]
  exact congrArg (fun word : U32 => some word.toInt) (BitVec.zero_sub _)

/-- So it is right for a card without sectors only, even with the offset of that card. -/
theorem diskSize_right_iff (worlds : CardNo → World) (calls : List (CardNo × LogicalCall))
    {visit : LogicalVisit} (member : visit ∈ (Cards.start worlds).run calls)
    (size : visit.call = .diskSize) {mmc : LogicalDevice}
    (device : (followed visit).slot.device = some mmc) :
    visit.turn.result.value =
        some ((mmc.mmc.blockDev.lba.toNat : Int) - visit.before.shared.toNat) ↔
      mmc.mmc.blockDev.lba = 0 ∧ visit.before.shared.toNat ≤ 2 ^ 31 := by
  have bound := visit.before.shared.isLt
  have capacity := mmc.mmc.blockDev.lba.isLt
  have empty : mmc.mmc.blockDev.lba = 0 ↔ mmc.mmc.blockDev.lba.toNat = 0 := BitVec.toNat_inj.symm
  have negated : (-visit.before.shared).toNat = (2 ^ 32 - visit.before.shared.toNat) % 2 ^ 32 :=
    BitVec.toNat_neg _
  rw [diskSize_run worlds calls member size device, Option.some_inj, empty,
    BitVec.toInt_eq_toNat_cond, negated]
  split <;> omega

/-! ### Careful calls -/

/-- The offset a card would alone have left in the shared word. -/
def Followed.expects (followed : Followed) : Option U32 :=
  if followed.session.ready then followed.session.offset else none

/-- What a card would alone leave in the shared word, its calls do leave there. -/
theorem expects_step (bootcardOffset : U32) (followed : Followed) (call : LogicalCall)
    (expected : ∀ offset, followed.expects = some offset → bootcardOffset = offset) (offset : U32)
    (expects : (followed.step bootcardOffset call).own.expects = some offset) :
    (followed.step bootcardOffset call).shared = offset := by
  have ofSectors {write : Bool} {start count : U32}
      (sectors : call.sectors = some (write, start, count)) :
      (followed.step bootcardOffset call).shared = offset := by
    have session : (followed.step bootcardOffset call).own.session = followed.session :=
      next_of_sectors followed.session sectors _
    unfold Followed.expects at expects
    rw [session] at expects
    exact (step_keeps followed.slot bootcardOffset sectors).shared.trans (expected offset expects)
  cases call with
  | init cardOffset setup =>
    cases setup with
    | noMemory => exact absurd expects (Option.some_ne_none offset).symm
    | identified identification =>
      by_cases fine : identification.error = 0
      · simpa [Followed.step, Slot.step, Slot.sdmmcLogicalInit, Session.next,
          LogicalResult.value, Followed.expects, fine] using expects
      · simp [Followed.step, Slot.step, Slot.sdmmcLogicalInit, Session.next,
          LogicalResult.value, Followed.expects, fine] at expects
  | exit => exact absurd expects (Option.some_ne_none offset).symm
  | read | write | erase => exact ofSectors rfl
  | diskSize =>
    have shared : (followed.step bootcardOffset .diskSize).shared = bootcardOffset := by
      unfold Followed.step Slot.step
      cases followed.slot.device <;> rfl
    exact shared.trans (expected offset expects)

section Careful

variable {followed : Followed} {bootcardOffset : U32} {call : LogicalCall} {write : Bool}
  {start count : U32}

/-- An addressed transfer is refused whatever is shared, or its card is initialised and it finds
the offset of the card. -/
theorem addressed_cases (sound : followed.Sound)
    (sectors : call.sectors = some (write, start, count))
    (addressed : followed.Addressed bootcardOffset start count) :
    (∃ buf world, followed.slot.world.NoCommand world ∧ ∀ bootcardOffset,
      followed.slot.step bootcardOffset call =
        ⟨.returned (-1) buf, bootcardOffset, { followed.slot with world := world }⟩) ∨
    (followed.session.ready = true ∧ followed.session.offset = some bootcardOffset ∧
      start.toNat + bootcardOffset.toNat + count.toNat < 2 ^ 32 ∧
      ∃ mmc, followed.slot.device = some mmc ∧ mmc.partNum = userPart ∧
        followed.slot.hasOps = true ∧ Identified mmc.mmc followed.slot.world.card) := by
  rcases addressed with ⟨rfl, present⟩ | ⟨ready, offset, bound⟩
  · obtain ⟨mmc, device⟩ := Option.isSome_iff_exists.mp present
    exact Or.inl (step_empty device (sound.device mmc device).1 sectors)
  · obtain ⟨_, hasOps, mmc, device, identified⟩ := sound.ready ready
    exact Or.inr ⟨ready, offset, bound, mmc, device, (sound.device mmc device).1, hasOps,
      identified⟩

theorem addressed_not_stuck (sound : followed.Sound)
    (sectors : call.sectors = some (write, start, count))
    (addressed : followed.Addressed bootcardOffset start count) :
    (followed.step bootcardOffset call).result.isStuck = false := by
  show (followed.slot.step bootcardOffset call).result.isStuck = false
  rcases addressed_cases sound sectors addressed with
    ⟨buf, world, _, step⟩ | ⟨_, _, _, mmc, device, user, hasOps, _⟩
  · rw [step bootcardOffset]
    rfl
  · cases call with
    | init | exit => cases sectors
    | read startSector nsector buf =>
      rw [step_read device user _ _ _ _ (Or.inl hasOps)]
      rfl
    | write startSector nsector buf =>
      rw [step_write device user _ _ _ _ (Or.inl hasOps)]
      rfl
    | erase block nblock =>
      rw [step_erase device user _ _ _ (Or.inl hasOps)]
      rfl
    | diskSize => cases sectors

theorem addressed_insensitive (sound : followed.Sound)
    (sectors : call.sectors = some (write, start, count))
    (addressed : followed.Addressed bootcardOffset start count) :
    Insensitive Followed.step Followed.expects bootcardOffset followed call := by
  intro alone expected
  rcases addressed_cases sound sectors addressed with
    ⟨buf, world, _, step⟩ | ⟨ready, offset, _⟩
  · unfold Followed.step
    rw [step alone, step bootcardOffset]
    exact ⟨rfl, rfl⟩
  · have same : alone = bootcardOffset := by
      refine expected bootcardOffset ?_
      unfold Followed.expects
      rw [if_pos ready, offset]
    rw [same]
    exact ⟨rfl, rfl⟩

theorem careful_not_stuck (sound : followed.Sound)
    (careful : followed.Careful bootcardOffset call) :
    (followed.step bootcardOffset call).result.isStuck = false := by
  cases call with
  | init cardOffset setup => cases setup <;> rfl
  | exit => rfl
  | read | write | erase => exact addressed_not_stuck sound rfl careful
  | diskSize => exact careful.elim

theorem careful_insensitive (sound : followed.Sound)
    (careful : followed.Careful bootcardOffset call) :
    Insensitive Followed.step Followed.expects bootcardOffset followed call := by
  cases call with
  | init | exit => exact fun alone expected => ⟨rfl, rfl⟩
  | read | write | erase => exact addressed_insensitive sound rfl careful
  | diskSize => exact careful.elim

end Careful

/-- A careful call does what it should. -/
theorem careful_apart {visit : LogicalVisit} (sound : (followed visit).Sound)
    (careful : (followed visit).Careful visit.before.shared visit.call)
    (turn : visit.turn = (followed visit).step visit.before.shared visit.call) :
    CallApart visit where
  sectors write start count offset value sectors given result positive := by
    rw [turn] at result ⊢
    rcases addressed_cases sound sectors (careful_sectors careful sectors) with
      ⟨buf, world, _, step⟩ | ⟨_, found, bound, mmc, device, user, hasOps, identified⟩
    · have refused : some (-1) = some value := by
        rw [← result]
        show _ = ((followed visit).slot.step visit.before.shared visit.call).result.value
        rw [step visit.before.shared]
        rfl
      cases Option.some.inj refused
      exact absurd positive (by decide)
    · cases Option.some.inj (found.symm.trans given)
      exact step_touched device user hasOps identified sectors bound result positive
  diskSize offset mmc size := by
    rw [size] at careful
    exact careful.elim
  closed closed other := by
    have ofSectors {write : Bool} {start count : U32}
        (sectors : visit.call.sectors = some (write, start, count)) :
        (∃ value, visit.turn.result.value = some value ∧ value < 0) ∧
          (followed visit).slot.world.NoCommand visit.turn.own.slot.world := by
      rcases addressed_cases sound sectors (careful_sectors careful sectors) with
        ⟨buf, world, quiet, step⟩ | ⟨ready, _⟩
      · rw [turn]
        unfold Followed.step
        rw [step visit.before.shared]
        exact ⟨⟨-1, rfl, by decide⟩, quiet⟩
      · exact absurd ((sound.ready ready).1.symm.trans closed) Bool.false_ne_true
    cases call : visit.call with
    | init cardOffset setup => exact absurd call (other cardOffset setup)
    | exit =>
      rw [call] at careful
      exact absurd (careful.symm.trans closed) Bool.false_ne_true
    | read | write | erase => exact ofSectors (by rw [call]; rfl)
    | diskSize =>
      rw [call] at careful
      exact careful.elim

/-- In a run of careful calls no card interferes with another, every transfer goes to the sectors
it names behind the offset of its card, and an exited card refuses every call. -/
theorem logical_cards_apart (worlds : CardNo → World) (calls : List (CardNo × LogicalCall))
    (careful : ∀ visit ∈ (Cards.start worlds).run calls,
      (followed visit).Careful visit.before.shared visit.call) :
    CardsApart (Cards.start worlds) calls := by
  have sound := followed_sound_run worlds calls
  have turns : ∀ visit ∈ (Cards.start worlds).run calls,
      visit.turn = (followed visit).step visit.before.shared visit.call := visits_turn _ calls
  constructor
  · intro visit member
    exact careful_apart (sound visit member) (careful visit member) (turns visit member)
  · intro card
    -- from the static state the card finds nothing it expects
    refine resultsOf_visits_alone card expects_step _ _ calls rfl
      (fun offset expects => absurd expects (Option.some_ne_none offset).symm)
      (fun visit member => careful_insensitive (sound visit member) (careful visit member))
      fun visit member => ?_
    rw [turns visit member]
    exact careful_not_stuck (sound visit member) (careful visit member)

/-! ### Two runs -/

/-- A device of 1000 sectors, identified without an error. -/
def plainSetup : Setup :=
  .identified ⟨0, { Mmc.unidentified with highCapacity := true, blockDev := ⟨1000⟩ },
    .start (.blank true) .fine, fun _ => ⟨⟨rfl, rfl, rfl⟩, rfl, rfl, fun low => nomatch low⟩⟩

/-- Two cards with nothing on them -/
def emptySlots : CardNo → World :=
  fun _ => .start (.blank true) .fine

/-- Calls on both cards -/
def apartCalls : List (CardNo × LogicalCall) :=
  [(0, .init 8 plainSetup), (2, .init 8 plainSetup), (0, .read 5 2 fun _ => 0),
    (2, .write 7 1 fun _ => 1), (0, .erase 5 1), (2, .exit), (2, .read 7 0 fun _ => 0)]

theorem logical_cards_apart_equalOffsets : CardsApart (Cards.start emptySlots) apartCalls :=
  logical_cards_apart emptySlots apartCalls (by decide +kernel)

/-- The second initialisation moves the reads of the first card. -/
def movedCalls : List (CardNo × LogicalCall) :=
  [(0, .init 0 plainSetup), (2, .init 100 plainSetup), (0, .read 0 1 fun _ => 0)]

theorem logical_cards_not_apart : ¬ CardsApart (Cards.start emptySlots) movedCalls := by
  intro apart
  have moved : ∃ visit ∈ (Cards.start emptySlots).run movedCalls,
      visit.call.sectors = some (false, 0, 1) ∧ (followed visit).session.offset = some 0 ∧
        visit.turn.result.value = some 1 ∧
        (followed visit).slot.world.card.transfers = [] ∧
        visit.turn.own.slot.world.card.transfers = [⟨0, false, 100 * 512, 512⟩] := by
    decide +kernel
  obtain ⟨visit, member, sectors, offset, result, before, after⟩ := moved
  obtain ⟨most, transfers, tiles, appended⟩ :=
    ((apart.call visit member).sectors false 0 1 0 1 sectors offset result (by decide)).transfers
  rw [before, after, List.nil_append] at appended
  subst appended
  obtain ⟨blocks, equal, _⟩ := tiles
  have first : 100 * 512 = 0 * 512 := congrArg Transfer.first equal
  exact absurd first (by decide)

end PinePhonePkg
