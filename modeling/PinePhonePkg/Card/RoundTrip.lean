/-
This file proves that what is written to the card is read back: on a card that
carries out every command, a block write changes the sectors it was asked for
and nothing else, and a read of the same sectors returns what was written, with
any chunk size on either side. The limits under which this holds are the ones
under which the 32-bit addresses and offsets of the source do not wrap.
-/

import PinePhonePkg.Card.Transfer

namespace PinePhonePkg

open Library

/-! ### Environments in which every command succeeds -/

/-- Nothing fails, and the card is ready at every poll. -/
def Answer.Good (answer : Answer) : Prop :=
  answer.error = 0 ∧ answer.phase = 0 ∧
    ∀ turn, (answer.status turn).1 = 0 ∧ CardReady (answer.status turn).2

/-- All answers are good, and there is memory. -/
def Plan.AllSucceed (plan : Plan) : Prop :=
  (∀ cmdidx turn, (plan.command cmdidx turn).Good) ∧
    (∀ access cmdidx turn, (plan.transfer access cmdidx turn).Good) ∧
    ∀ turn, (plan.malloc turn).isSome

/-- Every command to come succeeds, and so do the status replies still due. -/
def World.Well (world : World) : Prop :=
  world.plan.AllSucceed ∧ world.current.Good

theorem cardReady_fine : CardReady 0x900 := by
  unfold CardReady
  decide

theorem fine_good : Answer.fine.Good :=
  ⟨rfl, rfl, fun _ => ⟨rfl, cardReady_fine⟩⟩

theorem start_well (card : Card) {plan : Plan} (succeed : plan.AllSucceed) :
    (World.start card plan).Well :=
  ⟨succeed, fine_good⟩

theorem answer_good {world : World} (well : world.Well) (cmd : MmcCmd) (data : Option MmcData) :
    (world.answer cmd data).Good := by
  unfold World.answer
  split
  · exact well.1.2.1 _ _ _
  · exact well.1.1 _ _

theorem serve_succeeds (request : Request) {world : World} (well : world.Well) :
    Succeeds ⟨request, (serve request world).1⟩ ∧ (serve request world).2.Well := by
  cases request with
  | sendCmd cmd data =>
    rw [serve_sendCmd]
    split
    · exact ⟨⟨(well.2.2.2 _).1, fun _ => (well.2.2.2 _).2⟩, well⟩
    · exact ⟨⟨(answer_good well cmd data).1, fun status => absurd status (by assumption)⟩,
        well.1, answer_good well cmd data⟩
  | setIos clock busWidth speedMode => exact ⟨trivial, well⟩
  | updatePhase => exact ⟨well.2.2.1, well⟩
  | malloc size => exact ⟨well.1.2.2 _, well⟩
  | unsetWord => exact ⟨trivial, well⟩

/-- What a program ends with when every request goes well, it ends with in such a world. -/
theorem exec_succeeds {Result : Type} {program : Driver Result} {post : Result → Prop}
    (always : Program.Always Succeeds (fun _ => True) post program) {world : World}
    (well : world.Well) :
    post (program.exec serve world).1 ∧ (program.exec serve world).2.Well :=
  always.exec serve (fun request _ _ holds => serve_succeeds request holds) well

/-! ### The round trip -/

/-- The same device behind a host with another `b_max`. -/
def Mmc.withBMax (mmc : Mmc) (bMax : U32) (positive : 0 < bMax) : Mmc :=
  { mmc with cfg := { mmc.cfg with bMax := bMax, bMaxPos := positive } }

/-- A write, with the world it leaves -/
def Mmc.writeRun (mmc : Mmc) (start blkcnt : U32) (src : Buffer) (world : World) :
    Ulong × World :=
  (mmcBwrite (some mmc) start blkcnt src).exec serve world

/-- A read, with the world it leaves -/
def Mmc.readRun (mmc : Mmc) (start blkcnt : U32) (dst : Buffer) (world : World) :
    (Ulong × Buffer) × World :=
  (mmcBread (some mmc) start blkcnt dst).exec serve world

/-- Writing `src` and reading it back: the write returns its count, sends consecutive chunks that
cover the range, and changes no byte outside it; the read leaves the bytes in its buffer. -/
structure RoundTrip (writer reader : Mmc) (world : World) (start blkcnt : U32)
    (src dst : Buffer) : Prop where
  counted : (writer.writeRun start blkcnt src world).1 = blkcnt.setWidth 64
  chunks : ∃ transfers,
    (writer.writeRun start blkcnt src world).2.card.transfers =
      world.card.transfers ++ transfers ∧
    Tiles world.card.access true writer.cfg.bMax.toNat start.toNat
      (start.toNat + blkcnt.toNat) transfers
  outside : ∀ access address, access ≠ world.card.access ∨ address < start.toNat * 512 ∨
    (start.toNat + blkcnt.toNat) * 512 ≤ address →
    (writer.writeRun start blkcnt src world).2.card.media access address =
      world.card.media access address
  readBack : Memory.Agree (blkcnt.toNat * 512)
    (reader.readRun start blkcnt dst (writer.writeRun start blkcnt src world).2).1.2 src

/-- Outside the blocks that were written the card is as it was. -/
theorem wrote_outside (card : Card) (start count : Nat) (source : Buffer)
    (transfers : List Transfer) (access : U8) (address : Nat)
    (outside : access ≠ card.access ∨ address < start * 512 ∨ (start + count) * 512 ≤ address) :
    (card.wrote start count source transfers).media access address =
      card.media access address := by
  by_cases same : access = card.access
  · subst same
    rw [wrote_media_self]
    refine Memory.overwrite_outside _ _ _ _ _ ?_
    rw [← Nat.add_mul]
    tauto
  · rw [wrote_media_other _ _ _ _ _ access same]

/-- A block write followed by a block read of the same range returns what was written, as long
as byte addresses stay below 2^32 and either there is one chunk or a full chunk has less than
2^32 bytes. -/
theorem block_round_trip (mmc : Mmc) (readMax : U32) (readMaxPos : 0 < readMax) (card : Card)
    (plan : Plan) (start blkcnt : U32) (src dst : Buffer) (matched : Matches mmc card)
    (succeed : plan.AllSucceed) (positive : 0 < blkcnt) (inside : mmc.Contains start blkcnt)
    (byteAddresses : mmc.highCapacity = false → (start.toNat + blkcnt.toNat) * 512 ≤ 2 ^ 32)
    (writeFits : mmc.ChunksFit blkcnt)
    (readFits : (mmc.withBMax readMax readMaxPos).ChunksFit blkcnt) :
    RoundTrip mmc (mmc.withBMax readMax readMaxPos) (World.start card plan) start blkcnt src
      dst := by
  have addressable : mmc.Addressable start blkcnt := by
    unfold Mmc.Addressable
    split
    · exact Nat.le_trans inside (Nat.le_of_lt mmc.blockDev.lba.isLt)
    · exact byteAddresses (Bool.eq_false_iff.mpr (by assumption))
  obtain ⟨counted, stillWell⟩ :=
    exec_succeeds (succeeds_mmcBwrite mmc start blkcnt src positive inside)
      (start_well card succeed)
  obtain ⟨transfers, tiles, wrote⟩ := exec_mmcBwrite_card mmc start blkcnt src
    (World.start card plan) matched addressable writeFits positive counted
  have accepted : start + blkcnt ≤ (mmc.withBMax readMax readMaxPos).blockDev.lba := by
    have bound : start.toNat + blkcnt.toNat ≤ mmc.blockDev.lba.toNat := inside
    show start + blkcnt ≤ mmc.blockDev.lba
    bv_omega
  obtain ⟨readCounted, _⟩ := exec_succeeds (succeeds_mmcBread (mmc.withBMax readMax readMaxPos)
    start blkcnt dst positive accepted) stillWell
  have stillMatched : Matches (mmc.withBMax readMax readMaxPos)
      ((mmcBwrite (some mmc) start blkcnt src).exec serve (World.start card plan)).2.card := by
    rw [wrote]
    exact ⟨matched.addressing, matched.readBlLen, matched.writeBlLen⟩
  have buffer := exec_mmcBread_buffer (mmc.withBMax readMax readMaxPos) start blkcnt dst _
    stillMatched addressable readFits positive readCounted
  rw [wrote, wrote_access, wrote_media_self] at buffer
  refine ⟨counted, ⟨transfers, ?_, tiles⟩, fun access address outside => ?_, ?_⟩
  · exact congrArg Card.transfers wrote
  · exact (congrArg (fun card => card.media access address) wrote).trans
      (wrote_outside _ _ _ _ _ _ _ outside)
  · intro address below
    refine (congrFun buffer address).trans ?_
    have copied := Memory.overwrite_inside dst 0 (blkcnt.toNat * 512)
      (Memory.drop (Memory.overwrite (card.media card.access) (start.toNat * 512)
        (blkcnt.toNat * 512) src) (start.toNat * 512)) address below
    rw [Nat.zero_add] at copied
    exact copied.trans (Memory.agree_drop_overwrite _ _ _ _ address below)

theorem fine_allSucceed : Plan.fine.AllSucceed :=
  ⟨fun _ _ => fine_good, fun _ _ _ => fine_good, fun _ => rfl⟩

/-- A byte-addressed card of 16 blocks, behind a host that sends at most two blocks at once. -/
def smallDevice : Mmc :=
  { Mmc.unidentified.withBMax 2 (by decide) with blockDev := ⟨16⟩ }

theorem block_round_trip_smallDevice :
    RoundTrip smallDevice (smallDevice.withBMax 1 (by decide))
      (World.start (Card.blank false) .fine) 2 5 (fun address => BitVec.ofNat 8 address)
      (fun _ => 0) :=
  block_round_trip smallDevice 1 (by decide) (Card.blank false) .fine 2 5 _ _
    ⟨rfl, rfl, rfl⟩ fine_allSucceed (by decide) (by decide) (fun _ => by decide)
    (Or.inr (by decide)) (Or.inr (by decide))

/-- A card of 2^32 - 1 blocks, addressed by blocks or by bytes. -/
def hugeDevice (highCapacity : Bool) : Mmc :=
  { Mmc.unidentified with highCapacity := highCapacity, blockDev := ⟨0xffffffff⟩ }

/-- Block 2^23 of a byte-addressed card is written at byte address 0. With a `b_max` of 2^23 the
second chunk of a write is taken from the beginning of the buffer, and the second chunk of a read
is stored there. -/
theorem block_round_trip_wraps :
    (Matches (hugeDevice false) (Card.blank false) ∧ (hugeDevice false).Contains 0x800000 1 ∧
      ¬ RoundTrip (hugeDevice false) (hugeDevice false) (World.start (Card.blank false) .fine)
        0x800000 1 (fun _ => 1) (fun _ => 0)) ∧
    (Matches (hugeDevice true) (Card.blank true) ∧ (hugeDevice true).Contains 0 0x800001 ∧
      ¬ RoundTrip ((hugeDevice true).withBMax 0x800000 (by decide))
        ((hugeDevice true).withBMax 0x800001 (by decide)) (World.start (Card.blank true) .fine)
        0 0x800001 (fun address => if address = 2 ^ 32 then 1 else 0) (fun _ => 0)) ∧
    ¬ RoundTrip ((hugeDevice true).withBMax 0x800001 (by decide))
      ((hugeDevice true).withBMax 0x800000 (by decide)) (World.start (Card.blank true) .fine)
      0 0x800001 (fun address => if address = 2 ^ 32 then 1 else 0) (fun _ => 0) := by
  refine ⟨⟨⟨rfl, rfl, rfl⟩, by decide, fun trip => ?_⟩, ⟨⟨rfl, rfl, rfl⟩, by decide,
    fun trip => ?_⟩, fun trip => ?_⟩
  · exact absurd (trip.outside 0 0 (Or.inr (Or.inl (by decide)))) (by decide +kernel)
  · exact absurd (trip.readBack (2 ^ 32) (by decide)) (by decide +kernel)
  · exact absurd (trip.readBack (2 ^ 32) (by decide)) (by decide +kernel)

end PinePhonePkg
