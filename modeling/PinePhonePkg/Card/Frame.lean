/-
This file says what a block transfer leaves alone, however it ends. Whatever
goes wrong, a read changes no block, a write changes blocks of its own range
only, and both go to the hardware partition the card is switched to.
-/

import PinePhonePkg.Card.Transfer

namespace PinePhonePkg

open Library

/-! ### What is kept -/

/-- The registers, the purges and all blocks but those from `first` up to `last` of the current
partition are kept, and every transfer in between went to this partition. -/
structure Card.KeptOutside (before : Card) (first last : Nat) (after : Card) : Prop where
  addressing : after.sectorAddressed = before.sectorAddressed
  extCsd : after.extCsd = before.extCsd
  purges : after.purges = before.purges
  media : ∀ access address,
    access ≠ before.access ∨ address < first * 512 ∨ last * 512 ≤ address →
      after.media access address = before.media access address
  transfers : ∃ transfers, after.transfers = before.transfers ++ transfers ∧
    ∀ transfer ∈ transfers, transfer.access = before.access

namespace Card.KeptOutside

variable {before middle after : Card} {first last : Nat}

theorem refl (card : Card) (first last : Nat) : card.KeptOutside first last card :=
  ⟨rfl, rfl, rfl, fun _ _ _ => rfl, [], (List.append_nil _).symm,
    fun _ member => absurd member List.not_mem_nil⟩

theorem access (kept : before.KeptOutside first last after) : after.access = before.access := by
  unfold Card.access
  rw [kept.extCsd]

theorem byteAddress (kept : before.KeptOutside first last after) (arg : U32) :
    after.byteAddress arg = before.byteAddress arg := by
  unfold Card.byteAddress
  rw [kept.addressing]

theorem trans (kept : before.KeptOutside first last middle)
    (next : middle.KeptOutside first last after) : before.KeptOutside first last after where
  addressing := next.addressing.trans kept.addressing
  extCsd := next.extCsd.trans kept.extCsd
  purges := next.purges.trans kept.purges
  media partition address outside := by
    refine (next.media partition address ?_).trans (kept.media partition address outside)
    rw [kept.access]
    exact outside
  transfers := by
    obtain ⟨earlier, earlierEqual, earlierAccess⟩ := kept.transfers
    obtain ⟨later, laterEqual, laterAccess⟩ := next.transfers
    refine ⟨earlier ++ later, ?_, fun transfer member => ?_⟩
    · rw [laterEqual, earlierEqual, List.append_assoc]
    · rcases List.mem_append.mp member with member | member
      · exact earlierAccess transfer member
      · exact (laterAccess transfer member).trans kept.access

/-- Blocks outside the range read the same. -/
theorem agree (kept : before.KeptOutside first last after) {start count : Nat}
    (disjoint : start + count ≤ first ∨ last ≤ start) :
    Memory.Agree (count * 512) ((after.media after.access).drop (start * 512))
      ((before.media before.access).drop (start * 512)) := by
  intro address inside
  have outside : start * 512 + address < first * 512 ∨ last * 512 ≤ start * 512 + address := by
    omega
  rw [kept.access]
  exact kept.media before.access (start * 512 + address) (Or.inr outside)

theorem matches_of (kept : before.KeptOutside first last after) {mmc : Mmc}
    (matched : Matches mmc before) : Matches mmc after :=
  ⟨kept.addressing.trans matched.addressing, matched.readBlLen, matched.writeBlLen⟩

end Card.KeptOutside

/-! ### Requests that keep the rest of the card -/

/-- The request reads, or writes blocks from `first` up to `last` of the card, or is quiet. -/
def Request.StoresWithin (card : Card) (first last : Nat) : Request → Prop
  | .sendCmd cmd none => cmd.Quiet
  | .sendCmd cmd (some data) =>
      cmd.Quiet ∨ cmd.cmdidx = mmcCmdReadSingleBlock ∨ cmd.cmdidx = mmcCmdReadMultipleBlock ∨
        ((cmd.cmdidx = mmcCmdWriteSingleBlock ∨ cmd.cmdidx = mmcCmdWriteMultipleBlock) ∧
          first * 512 ≤ card.byteAddress cmd.cmdarg ∧
          card.byteAddress cmd.cmdarg + data.blocks.toNat * data.blocksize.toNat ≤ last * 512)
  | _ => True

theorem storesWithin_quiet {card : Card} {first last : Nat} {cmd : MmcCmd} (quiet : cmd.Quiet)
    (data : Option MmcData) : Request.StoresWithin card first last (.sendCmd cmd data) := by
  cases data with
  | none => exact quiet
  | some data => exact Or.inl quiet

theorem storesWithin_mono {card : Card} {first last wider further : Nat} {request : Request}
    (stores : request.StoresWithin card first last) (firstLe : wider ≤ first)
    (lastLe : last ≤ further) : request.StoresWithin card wider further := by
  cases request with
  | sendCmd cmd data =>
    cases data with
    | none => exact stores
    | some data =>
      obtain quiet | read | read | ⟨write, after, before⟩ := stores
      · exact Or.inl quiet
      · exact Or.inr (Or.inl read)
      · exact Or.inr (Or.inr (Or.inl read))
      · exact Or.inr (Or.inr (Or.inr ⟨write, Nat.le_trans (Nat.mul_le_mul_right 512 firstLe) after,
          Nat.le_trans before (Nat.mul_le_mul_right 512 lastLe)⟩))
  | setIos | updatePhase | malloc | unsetWord => trivial

theorem record_kept (card : Card) (write : Bool) (arg : U32) (data : MmcData)
    (first last : Nat) : card.KeptOutside first last (card.record write arg data) :=
  ⟨rfl, rfl, rfl, fun _ _ _ => rfl, [_], rfl, fun transfer member => by
    rw [List.mem_singleton.mp member]⟩

theorem store_kept (card : Card) (arg : U32) (data : MmcData) (source : Buffer)
    {first last : Nat} (after : first * 512 ≤ card.byteAddress arg)
    (before : card.byteAddress arg + data.blocks.toNat * data.blocksize.toNat ≤ last * 512) :
    card.KeptOutside first last (card.store arg data source) where
  addressing := rfl
  extCsd := rfl
  purges := rfl
  media access address outside := by
    unfold Card.store
    dsimp only
    by_cases same : access = card.access
    · subst same
      rw [Function.update_self]
      refine Memory.overwrite_outside _ _ _ _ _ ?_
      rcases outside with other | outside
      · exact absurd rfl other
      · omega
    · rw [Function.update_of_ne same]
  transfers := ⟨[], (List.append_nil _).symm, fun _ member => absurd member List.not_mem_nil⟩

theorem perform_kept (card : Card) (cmd : MmcCmd) (data : Option MmcData) (answer : Answer)
    {first last : Nat} (stores : Request.StoresWithin card first last (.sendCmd cmd data)) :
    card.KeptOutside first last (card.perform cmd data answer) := by
  cases data with
  | none =>
    rw [perform_quiet card cmd stores]
    exact Card.KeptOutside.refl card first last
  | some data =>
    rcases stores with quiet | read | read | ⟨write | write, after, before⟩
    · rw [perform_quiet card cmd quiet]
      exact Card.KeptOutside.refl card first last
    · unfold Card.perform
      rw [read]
      exact record_kept card false _ data first last
    · unfold Card.perform
      rw [read]
      exact record_kept card false _ data first last
    · unfold Card.perform
      rw [write]
      exact (store_kept card _ data _ after before).trans (record_kept _ true _ data first last)
    · unfold Card.perform
      rw [write]
      exact (store_kept card _ data _ after before).trans (record_kept _ true _ data first last)

theorem storesWithin_kept {before after : Card} {first last : Nat}
    (kept : before.KeptOutside first last after) {request : Request}
    (stores : request.StoresWithin before first last) : request.StoresWithin after first last := by
  cases request with
  | sendCmd cmd data =>
    cases data with
    | none => exact stores
    | some data =>
      simp only [Request.StoresWithin, kept.byteAddress]
      exact stores
  | setIos | updatePhase | malloc | unsetWord => trivial

theorem serve_kept (request : Request) (world : World) {first last : Nat}
    (stores : request.StoresWithin world.card first last) :
    world.card.KeptOutside first last (serve request world).2.card := by
  cases request with
  | sendCmd cmd data =>
    rw [serve_sendCmd]
    split
    · exact Card.KeptOutside.refl _ first last
    · exact perform_kept world.card cmd data _ stores
  | setIos | updatePhase | malloc | unsetWord => exact Card.KeptOutside.refl _ first last

/-- A program of such requests keeps the rest of the card. -/
theorem exec_kept {Result : Type} {program : Driver Result} (world : World) {first last : Nat}
    (stores : Program.Always (fun _ => True) (Request.StoresWithin world.card first last)
      (fun _ => True) program) :
    world.card.KeptOutside first last (program.exec serve world).2.card := by
  have keeps (request : Request) (state : World)
      (allowed : request.StoresWithin world.card first last)
      (kept : world.card.KeptOutside first last state.card) :
      True ∧ world.card.KeptOutside first last (serve request state).2.card :=
    ⟨trivial, kept.trans (serve_kept request state (storesWithin_kept kept allowed))⟩
  exact (stores.exec serve keeps (Card.KeptOutside.refl world.card first last)).2

/-! ### Block transfers -/

theorem storesWithin_readBlocks (card : Card) (mmc : Mmc) (start blkcnt : U32)
    (data : MmcData) (first last : Nat) :
    Request.StoresWithin card first last
      (.sendCmd (readBlocksCmd mmc start blkcnt) (some data)) := by
  rcases readBlocksCmd_cases mmc start blkcnt with single | multiple
  · exact Or.inr (Or.inl single)
  · exact Or.inr (Or.inr (Or.inl multiple))

theorem storesWithin_writeBlocks {card : Card} {mmc : Mmc} (matched : Matches mmc card)
    {start blkcnt : U32} (addressable : mmc.Addressable start blkcnt) (positive : 0 < blkcnt)
    (src : Buffer) :
    Request.StoresWithin card start.toNat (start.toNat + blkcnt.toNat)
      (.sendCmd (writeBlocksCmd mmc start blkcnt) (some (writeBlocksData mmc blkcnt src))) := by
  have address := byteAddress_writeBlocks matched addressable positive
  have length := matched.bytes_writeBlocks blkcnt src
  refine Or.inr (Or.inr (Or.inr ⟨writeBlocksCmd_cases mmc start blkcnt, ?_, ?_⟩))
  · exact Nat.le_of_eq address.symm
  · exact Nat.le_of_eq (by rw [address, length, Nat.add_mul])

/-- A read changes no block. -/
theorem exec_mmcBread_kept (mmc : Mmc) (start blkcnt : U32) (dst : Buffer) (world : World) :
    world.card.KeptOutside 0 0 ((mmcBread (some mmc) start blkcnt dst).exec serve world).2.card :=
  exec_kept world (always_mmcBread_chunks mmc start blkcnt dst
    (fun _ _ _ => storesWithin_readBlocks world.card mmc _ _ _ 0 0)
    (storesWithin_quiet (stopTransmissionCmd_quiet (some 0)) none)
    (storesWithin_quiet (sendStatusCmd_quiet mmc) none)
    (storesWithin_quiet (setBlocklenCmd_quiet _) none))

/-- A write changes blocks of its range only, whether it succeeds or not. -/
theorem exec_mmcBwrite_kept (mmc : Mmc) (start blkcnt : U32) (src : Buffer) (world : World)
    (matched : Matches mmc world.card) (addressable : mmc.Addressable start blkcnt) :
    world.card.KeptOutside start.toNat (start.toNat + blkcnt.toNat)
      ((mmcBwrite (some mmc) start blkcnt src).exec serve world).2.card := by
  refine exec_kept world (always_mmcBwrite mmc start blkcnt src (addressable_bound addressable)
    (fun first count src positive after before => ?_)
    (storesWithin_quiet (stopTransmissionCmd_quiet none) none)
    (storesWithin_quiet (sendStatusCmd_quiet mmc) none)
    (storesWithin_quiet (setBlocklenCmd_quiet _) none))
  exact storesWithin_mono (storesWithin_writeBlocks matched (addressable.part before) positive src)
    after before

/-! ### Block counts -/

/-- A transfer counts all its blocks or none. -/
theorem always_mmcBwrite_count (mmc : Option Mmc) (start blkcnt : U32) (src : Buffer) :
    Program.Always (fun _ => True) (fun _ => True)
      (fun count => count = 0 ∨ count = blkcnt.setWidth 64) (mmcBwrite mmc start blkcnt src) := by
  unfold mmcBwrite
  split
  · exact Or.inl rfl
  cases mmc with
  | none => exact Or.inl rfl
  | some mmc =>
    refine (always_mmcSetBlocklen mmc mmc.writeBlLen trivial).bind fun err _ => ?_
    split
    · exact Or.inl rfl
    · refine (Program.always_any _).bind fun done _ => ?_
      show (if done then blkcnt.setWidth 64 else 0) = (0 : Ulong) ∨ _
      split
      · exact Or.inr rfl
      · exact Or.inl rfl

theorem always_mmcBread_count (mmc : Option Mmc) (start blkcnt : U32) (dst : Buffer) :
    Program.Always (fun _ => True) (fun _ => True)
      (fun result => result.1 = 0 ∨ result.1 = blkcnt.setWidth 64)
      (mmcBread mmc start blkcnt dst) := by
  unfold mmcBread
  split
  · exact Or.inl rfl
  cases mmc with
  | none => exact Or.inl rfl
  | some mmc =>
    show Program.Always _ _ _ (if start + blkcnt > mmc.blockDev.lba then _ else _)
    split
    · exact Or.inl rfl
    refine (always_mmcSetBlocklen mmc mmc.readBlLen trivial).bind fun err _ => ?_
    split
    · exact Or.inl rfl
    · refine (Program.always_any _).bind fun result _ => ?_
      show (if result.1 then blkcnt.setWidth 64 else 0) = (0 : Ulong) ∨ _
      split
      · exact Or.inr rfl
      · exact Or.inl rfl

end PinePhonePkg
