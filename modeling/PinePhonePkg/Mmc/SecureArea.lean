/-
This file settles how well the check of the secure area guards it. The check
works on the start and the end of a range, both cut to 32 bits: it is right as
long as the end does not wrap. What a wrapper sends for a range that passes is
known chunk by chunk, or by the two sectors of an erase; the wrapper keeps out
of the area exactly when none of these leads into it.
-/

import PinePhonePkg.Mmc.BlockRange
import PinePhonePkg.Mmc.Interface
import PinePhonePkg.Mmc.WipeMethods

namespace PinePhonePkg

open Library Program

/-! ### The check -/

/-- The sectors of the secure storage. -/
def InSecureArea (sector : Nat) : Prop :=
  12288 ≤ sector ∧ sector < 12800

/-- The range from `start` on has a sector of the secure area. -/
def MeetsSecureArea (start blkcnt : Nat) : Prop :=
  ∃ sector, InSecureArea sector ∧ start ≤ sector ∧ sector < start + blkcnt

theorem meetsSecureArea_iff {start blkcnt : Nat} (positive : 0 < blkcnt) :
    MeetsSecureArea start blkcnt ↔ start < 12800 ∧ 12288 < start + blkcnt := by
  constructor
  · rintro ⟨sector, ⟨after, before⟩, inside, last⟩
    omega
  · intro bounds
    refine ⟨max start 12288, ⟨?_, ?_⟩, ?_, ?_⟩ <;> omega

theorem sdmmcSecureStorageStartAdd_eq : sdmmcSecureStorageStartAdd = 12288 := by decide

theorem secureAreaSize_eq : secureAreaSize = 512 := by decide

/-- The check sees a range that meets the area when its end, counted from the start cut to 32
bits, does not wrap. -/
theorem checkSecureArea_iff (start : Ulong) (blkcnt : U32) (positive : 0 < blkcnt) :
    checkSecureArea start blkcnt = true ↔
      start.toNat % 2 ^ 32 + blkcnt.toNat ≤ 2 ^ 32 ∧
        MeetsSecureArea (start.toNat % 2 ^ 32) blkcnt.toNat := by
  have count : 0 < blkcnt.toNat := by bv_omega
  rw [meetsSecureArea_iff count]
  have narrowed : (start.setWidth 32).toNat = start.toNat % 2 ^ 32 := BitVec.toNat_setWidth _ _
  have ends : ((start + blkcnt.setWidth 64 - 1).setWidth 32).toNat =
      (start.toNat % 2 ^ 32 + blkcnt.toNat - 1) % 2 ^ 32 := by bv_omega
  unfold checkSecureArea
  dsimp only
  generalize start.setWidth 32 = first at narrowed ⊢
  generalize (start + blkcnt.setWidth 64 - 1).setWidth 32 = last at ends ⊢
  rw [sdmmcSecureStorageStartAdd_eq, secureAreaSize_eq]
  split <;> rw [decide_eq_true_iff] <;> bv_omega

/-- The end of the range does not wrap, or the range starts after the area. A start of more
than 32 bits is beyond the area, so the check is right when it misses what is left of the range. -/
def CheckExact (start : Ulong) (blkcnt : U32) : Prop :=
  if start.toNat < 2 ^ 32 then start.toNat + blkcnt.toNat ≤ 2 ^ 32 ∨ 12800 ≤ start.toNat
  else 2 ^ 32 < start.toNat % 2 ^ 32 + blkcnt.toNat ∨
    12800 ≤ start.toNat % 2 ^ 32 ∨ start.toNat % 2 ^ 32 + blkcnt.toNat ≤ 12288

theorem checkSecureArea_exact_iff (start : Ulong) (blkcnt : U32) (positive : 0 < blkcnt) :
    (checkSecureArea start blkcnt = true ↔ MeetsSecureArea start.toNat blkcnt.toNat) ↔
      CheckExact start blkcnt := by
  have count : 0 < blkcnt.toNat := by bv_omega
  rw [checkSecureArea_iff start blkcnt positive, meetsSecureArea_iff count,
    meetsSecureArea_iff count]
  unfold CheckExact
  split
  · rename_i short
    rw [Nat.mod_eq_of_lt short]
    omega
  · omega

/-! ### Commands and the area -/

/-- A data command that transfers no sector of the area; other requests transfer none. -/
def Request.DataKeepsOut (mmc : Mmc) : Request → Prop
  | .sendCmd cmd (some data) =>
      cmd.IsData → ∀ sector, InSecureArea sector →
        ¬ (mmc.firstBlock cmd data ≤ sector ∧
          sector < mmc.firstBlock cmd data + data.blocks.toNat)
  | _ => True

/-- Whatever the replies are, no data command transfers a sector of the area, and no first and
last sector of an erase that are sent have a sector of the area between them. -/
structure KeepsOut {Result : Type} (mmc : Mmc) (program : Driver Result) : Prop where
  data : ∀ trace result, program.Run trace result → ∀ exchange ∈ trace,
    exchange.request.DataKeepsOut mmc
  erase : ∀ trace result, program.Run trace result → ∀ first last firstData lastData,
    .sendCmd first firstData ∈ trace.map Exchange.request →
    .sendCmd last lastData ∈ trace.map Exchange.request →
    first.cmdidx = mmcCmdEraseGroupStart → last.cmdidx = mmcCmdEraseGroupEnd →
    ∀ sector, InSecureArea sector →
      ¬ (mmc.namedSector first ≤ sector ∧ sector ≤ mmc.namedSector last)

/-- A CMD35 names this first sector and a CMD36 this last one; other requests name none. -/
def Request.EraseNames (mmc : Mmc) (first last : Nat) : Request → Prop
  | .sendCmd cmd _ =>
      (cmd.cmdidx = mmcCmdEraseGroupStart → mmc.namedSector cmd = first) ∧
        (cmd.cmdidx = mmcCmdEraseGroupEnd → mmc.namedSector cmd = last)
  | _ => True

/-- A request that transfers no sector of the area and names no other sectors to erase. -/
def Request.KeepsOut (mmc : Mmc) (first last : Nat) (request : Request) : Prop :=
  request.DataKeepsOut mmc ∧ request.EraseNames mmc first last

/-- No sector of the area lies between the two. -/
def SpanMisses (first last : Nat) : Prop :=
  last < first ∨ 12800 ≤ first ∨ last < 12288

instance (first last : Nat) : Decidable (SpanMisses first last) :=
  inferInstanceAs (Decidable (_ ∨ _))

theorem spanMisses_iff {first last : Nat} :
    SpanMisses first last ↔
      ∀ sector, InSecureArea sector → ¬ (first ≤ sector ∧ sector ≤ last) := by
  unfold SpanMisses InSecureArea
  constructor
  · intro misses sector secure spans
    omega
  · intro misses
    by_contra meets
    exact misses (max first 12288) (by omega) (by omega)

/-- A program whose data commands keep out, and which erases between two sectors only, keeps out. -/
theorem keepsOut_of_always {Result : Type} {mmc : Mmc} {program : Driver Result} {first last : Nat}
    (misses : SpanMisses first last)
    (always : Always (fun _ => True) (Request.KeepsOut mmc first last) (fun _ => True)
      program) : KeepsOut mmc program where
  data trace result run exchange member := ((always.run run fun _ _ => trivial).1 exchange member).1
  erase trace result run firstCmd lastCmd firstData lastData firstMember lastMember isStart isEnd := by
    have all := (always.run run fun _ _ => trivial).1
    obtain ⟨firstExchange, firstSent, firstEqual⟩ := List.mem_map.mp firstMember
    obtain ⟨lastExchange, lastSent, lastEqual⟩ := List.mem_map.mp lastMember
    have firstNames := (all firstExchange firstSent).2
    have lastNames := (all lastExchange lastSent).2
    rw [firstEqual] at firstNames
    rw [lastEqual] at lastNames
    rw [firstNames.1 isStart, lastNames.2 isEnd]
    exact spanMisses_iff.mp misses

theorem keepsOut_pure {Result : Type} (mmc : Mmc) (result : Result) :
    KeepsOut mmc (pure result : Driver Result) :=
  @keepsOut_of_always _ mmc (pure result) 1 0 (Or.inl Nat.zero_lt_one) trivial

/-- What is made of the result does not matter. -/
theorem keepsOut_bind_pure {First Result : Type} {mmc : Mmc} {program : Driver First}
    (finish : First → Result) :
    KeepsOut mmc (program >>= fun result => pure (finish result)) ↔ KeepsOut mmc program := by
  have sameRuns (trace : List (Exchange Request Request.Reply)) :
      (∃ result, Program.Run (program >>= fun result => pure (finish result)) trace result) ↔
        ∃ result, Program.Run program trace result := by
    constructor
    · rintro ⟨result, run⟩
      obtain ⟨before, first, after, rfl, part, ended⟩ := run_bind_iff.mp run
      obtain ⟨rfl, _⟩ := run_pure_iff.mp ended
      rw [List.append_nil]
      exact ⟨first, part⟩
    · rintro ⟨first, run⟩
      exact ⟨finish first, run_bind_iff.mpr
        ⟨trace, first, [], (List.append_nil _).symm, run, .done _⟩⟩
  constructor
  · intro keeps
    refine ⟨fun trace result run => ?_, fun trace result run => ?_⟩
    · obtain ⟨_, whole⟩ := (sameRuns trace).mpr ⟨result, run⟩
      exact keeps.data trace _ whole
    · obtain ⟨_, whole⟩ := (sameRuns trace).mpr ⟨result, run⟩
      exact keeps.erase trace _ whole
  · intro keeps
    refine ⟨fun trace result run => ?_, fun trace result run => ?_⟩
    · obtain ⟨_, part⟩ := (sameRuns trace).mp ⟨result, run⟩
      exact keeps.data trace _ part
    · obtain ⟨_, part⟩ := (sameRuns trace).mp ⟨result, run⟩
      exact keeps.erase trace _ part

/-- A request for memory touches no sector. -/
theorem keepsOut_malloc {Result : Type} {mmc : Mmc} {size : Ulong}
    {next : Option Buffer → Driver Result} :
    KeepsOut mmc (malloc size >>= next) ↔ ∀ memory, KeepsOut mmc (next memory) := by
  constructor
  · intro keeps memory
    have whole {trace : List (Exchange Request Request.Reply)} {result : Result}
        (run : Program.Run (next memory) trace result) :
        Program.Run (malloc size >>= next) (⟨.malloc size, memory⟩ :: trace) result :=
      run_send_bind_iff.mpr ⟨memory, trace, rfl, run⟩
    refine ⟨fun trace result run exchange member => ?_,
      fun trace result run first last firstData lastData firstMember lastMember => ?_⟩
    · exact keeps.data _ result (whole run) exchange (List.mem_cons_of_mem _ member)
    · exact keeps.erase _ result (whole run) first last firstData lastData
        (List.mem_cons_of_mem _ firstMember) (List.mem_cons_of_mem _ lastMember)
  · intro keeps
    have notCommand {cmd : MmcCmd} {data : Option MmcData} {memory : Option Buffer}
        {trace : List (Exchange Request Request.Reply)}
        (member : Request.sendCmd cmd data ∈
          ((⟨.malloc size, memory⟩ :: trace : List (Exchange Request Request.Reply)).map
            Exchange.request)) :
        Request.sendCmd cmd data ∈ trace.map Exchange.request :=
      (List.mem_cons.mp member).resolve_left Request.noConfusion
    refine ⟨fun trace result run exchange member => ?_,
      fun trace result run first last firstData lastData firstMember lastMember => ?_⟩
    · obtain ⟨memory, rest, rfl, later⟩ := run_call_iff.mp run
      rcases List.mem_cons.mp member with rfl | member
      · trivial
      · exact (keeps memory).data rest result later exchange member
    · obtain ⟨memory, rest, rfl, later⟩ := run_call_iff.mp run
      exact (keeps memory).erase rest result later first last firstData lastData
        (notCommand firstMember) (notCommand lastMember)

theorem allowsControl_keepsOut (mmc : Mmc) (first last : Nat) :
    AllowsControl (Request.KeepsOut mmc first last) where
  command cmd data control := by
    simp only [List.mem_cons, List.not_mem_nil, or_false] at control
    have notErase : cmd.cmdidx ≠ mmcCmdEraseGroupStart ∧ cmd.cmdidx ≠ mmcCmdEraseGroupEnd := by
      constructor <;> intro equal <;> rw [equal] at control <;> exact absurd control (by decide)
    refine ⟨?_, fun isStart => absurd isStart notErase.1, fun isEnd => absurd isEnd notErase.2⟩
    cases data with
    | none => trivial
    | some data =>
      intro isData
      rcases isData with equal | equal | equal | equal <;> rw [equal] at control <;>
        exact absurd control (by decide)
  setIos _ _ _ := ⟨trivial, trivial⟩
  updatePhase := ⟨trivial, trivial⟩
  malloc _ := ⟨trivial, trivial⟩
  unsetWord := ⟨trivial, trivial⟩

/-! ### Reads and writes -/

/-- The chunk leads to no sector of the area. -/
def Mmc.ChunkMisses (mmc : Mmc) (length first count : U32) : Prop :=
  12800 ≤ mmc.landsOn length first ∨ mmc.landsOn length first + count.toNat ≤ 12288

/-- The read is turned down, or none of its chunks leads into the area. -/
def Mmc.ReadMisses (mmc : Mmc) (start blkcnt : U32) : Prop :=
  mmc.blockDev.lba < start + blkcnt ∨
    ∀ turns, turns * mmc.cfg.bMax.toNat < blkcnt.toNat →
      mmc.ChunkMisses mmc.readBlLen (mmc.chunkStart start turns) (mmc.chunkCount blkcnt turns)

/-- No chunk of the write leads into the area, as far as the check of each chunk lets it get. -/
def Mmc.WriteMisses (mmc : Mmc) (start blkcnt : U32) : Prop :=
  ∀ turns, turns * mmc.cfg.bMax.toNat < blkcnt.toNat →
    (∀ earlier ≤ turns,
      mmc.chunkStart start earlier + mmc.chunkCount blkcnt earlier ≤ mmc.blockDev.lba) →
    mmc.ChunkMisses mmc.writeBlLen (mmc.chunkStart start turns) (mmc.chunkCount blkcnt turns)

section Transfers

variable {mmc : Mmc} {start blkcnt : U32}

theorem chunkMisses_iff {length first count : U32} (positive : 0 < count) :
    mmc.ChunkMisses length first count ↔
      ∀ sector, InSecureArea sector →
        ¬ (mmc.landsOn length first ≤ sector ∧
          sector < mmc.landsOn length first + count.toNat) := by
  have count := BitVec.lt_def.mp positive
  unfold Mmc.ChunkMisses InSecureArea
  constructor
  · intro misses sector secure touched
    omega
  · intro misses
    by_contra meets
    exact misses (max (mmc.landsOn length first) 12288) (by omega) (by omega)

/-- A chunk of a request has a block. -/
theorem chunkCount_pos {turns : Nat} (inside : turns * mmc.cfg.bMax.toNat < blkcnt.toNat) :
    0 < mmc.chunkCount blkcnt turns := by
  refine chunk_pos mmc _ ?_
  generalize turns * mmc.cfg.bMax.toNat = before at inside ⊢
  bv_omega

theorem MovesBlocks.dataKeepsOut_iff {length first count : U32} {cmd : MmcCmd} {data : MmcData}
    (moves : MovesBlocks mmc length first count cmd data) (positive : 0 < count) :
    Request.DataKeepsOut mmc (.sendCmd cmd (some data)) ↔ mmc.ChunkMisses length first count := by
  rw [chunkMisses_iff positive, ← moves.firstBlock, ← moves.count]
  exact ⟨fun keeps => keeps moves.isData, fun misses _ => misses⟩

/-- A data command names no sector to erase. -/
theorem eraseNames_of_isData {cmd : MmcCmd} (isData : cmd.IsData) (data : Option MmcData) :
    Request.EraseNames mmc 1 0 (.sendCmd cmd data) := by
  constructor <;> intro erases <;>
    rcases isData with equal | equal | equal | equal <;> rw [equal] at erases <;>
    exact absurd erases (by decide)

theorem keepsOut_mmcBread_iff (dst : Buffer) :
    KeepsOut mmc (mmcBread (some mmc) start blkcnt dst) ↔ mmc.ReadMisses start blkcnt := by
  constructor
  · intro keeps
    by_cases rejected : mmc.blockDev.lba < start + blkcnt
    · exact Or.inl rejected
    · refine Or.inr fun turns inside => ?_
      obtain ⟨exchange, member, request⟩ := trace_mmcBread_chunk mmc start blkcnt dst turns inside
        (BitVec.not_lt.mp rejected)
      have outside := keeps.data _ _ (run_exec serveWell _ ()) exchange member
      rw [request] at outside
      exact ((readBlocks_movesBlocks mmc _ _).dataKeepsOut_iff (chunkCount_pos inside)).mp outside
  · intro misses
    have control := allowsControl_keepsOut mmc 1 0
    refine keepsOut_of_always (Or.inl Nat.zero_lt_one)
      (always_mmcBread_chunks mmc start blkcnt dst (fun passes turns inside => ⟨?_, ?_⟩)
        (control.command _ _ (by unfold stopTransmissionCmd; simp)) (control.status mmc)
        (control.blocklen _))
    · exact ((readBlocks_movesBlocks mmc _ _).dataKeepsOut_iff (chunkCount_pos inside)).mpr
        (misses.resolve_left (BitVec.not_lt.mpr passes) turns inside)
    · exact eraseNames_of_isData (readBlocks_movesBlocks mmc _ _).isData _

theorem keepsOut_mmcBwrite_iff (src : Buffer) :
    KeepsOut mmc (mmcBwrite (some mmc) start blkcnt src) ↔ mmc.WriteMisses start blkcnt := by
  constructor
  · intro keeps turns inside accepted
    obtain ⟨exchange, member, bytes, request⟩ := trace_mmcBwrite_chunk mmc start blkcnt src turns
      inside accepted
    have outside := keeps.data _ _ (run_exec serveWell _ ()) exchange member
    rw [request] at outside
    exact ((writeBlocks_movesBlocks mmc _ _ bytes).dataKeepsOut_iff (chunkCount_pos inside)).mp outside
  · intro misses
    have control := allowsControl_keepsOut mmc 1 0
    refine keepsOut_of_always (Or.inl Nat.zero_lt_one)
      (always_mmcBwrite_chunks mmc start blkcnt src (fun turns bytes inside accepted => ⟨?_, ?_⟩)
        (control.command _ _ (by unfold stopTransmissionCmd; simp)) (control.status mmc)
        (control.blocklen _))
    · exact ((writeBlocks_movesBlocks mmc _ _ bytes).dataKeepsOut_iff (chunkCount_pos inside)).mpr
        (misses turns inside accepted)
    · exact eraseNames_of_isData (writeBlocks_movesBlocks mmc _ _ bytes).isData _

/-- The erase with zeros writes whatever memory it gets, and nothing without. -/
theorem keepsOut_mmcBerase_iff :
    KeepsOut mmc (mmcBerase mmc start blkcnt) ↔ mmc.WriteMisses start blkcnt := by
  unfold mmcBerase
  rw [keepsOut_malloc]
  constructor
  · intro keeps
    exact (keepsOut_mmcBwrite_iff _).mp ((keepsOut_bind_pure _).mp (keeps (some fun _ => 0)))
  · intro misses memory
    cases memory with
    | none => exact keepsOut_pure mmc _
    | some memory => exact (keepsOut_bind_pure _).mpr ((keepsOut_mmcBwrite_iff _).mpr misses)

end Transfers

/-! ### Erases -/

/-- What the card erases between the two sectors misses the area. -/
def Mmc.PairMisses (mmc : Mmc) (first last : U32) : Prop :=
  SpanMisses (mmc.landsOn mmc.writeBlLen first) (mmc.landsOn mmc.writeBlLen last)

instance (mmc : Mmc) (first last : U32) : Decidable (mmc.PairMisses first last) :=
  inferInstanceAs (Decidable (SpanMisses _ _))

theorem eraseAddress_keepsOut (mmc : Mmc) (first last : U32) :
    mmc.AllowsErase (Request.KeepsOut mmc (mmc.landsOn mmc.writeBlLen first)
      (mmc.landsOn mmc.writeBlLen last)) first last := by
  refine ⟨⟨trivial, fun _ => namedSector_eraseAddress mmc _ first, fun isEnd => ?_⟩,
    trivial, fun isStart => ?_, fun _ => namedSector_eraseAddress mmc _ last⟩
  · exact absurd isEnd (by decide : mmcCmdEraseGroupStart ≠ mmcCmdEraseGroupEnd)
  · exact absurd isStart (by decide : mmcCmdEraseGroupEnd ≠ mmcCmdEraseGroupStart)

/-- A program that sends one pair of sectors, or nothing, keeps out when the pair misses the
area. -/
theorem keepsOut_pair_iff {Result : Type} {mmc : Mmc} {program : Driver Result} {first last : U32}
    {something : Prop}
    (always : ∀ allowed : Request → Prop, AllowsControl allowed →
      (something → mmc.AllowsErase allowed first last) →
      Always (fun _ => True) allowed (fun _ => True) program)
    (sends : something → SendsErase mmc first last program) :
    KeepsOut mmc program ↔ (something → mmc.PairMisses first last) := by
  constructor
  · intro keeps sent
    obtain ⟨⟨firstExchange, firstMember, firstRequest⟩, lastExchange, lastMember, lastRequest⟩ :=
      sends sent
    have outside := keeps.erase _ _ (run_exec serveWell _ ()) _ _ _ _
      (List.mem_map.mpr ⟨firstExchange, firstMember, firstRequest⟩)
      (List.mem_map.mpr ⟨lastExchange, lastMember, lastRequest⟩) rfl rfl
    rw [namedSector_eraseAddress, namedSector_eraseAddress] at outside
    exact spanMisses_iff.mpr outside
  · intro misses
    by_cases sent : something
    · exact keepsOut_of_always (misses sent)
        (always _ (allowsControl_keepsOut mmc _ _) fun _ => eraseAddress_keepsOut mmc first last)
    · exact keepsOut_of_always (Or.inl Nat.zero_lt_one : SpanMisses 1 0)
        (always _ (allowsControl_keepsOut mmc _ _) fun sends => absurd sends sent)

/-! ### The wrappers -/

theorem isBootRange_eq_false (devNum : Int) (start : Ulong) (blkcnt : U32) :
    isBootRange devNum start blkcnt = false :=
  decide_eq_false fun range => absurd range.2 BitVec.not_lt_zero

/-- The wrappers around the reads, writes and erases. -/
inductive SecureWrapper where
  | read
  | write
  | berase
  | massProRead
  | massProWrite
  | wipe
  | erase (entry : EraseEntry)

/-- No run of the wrapper touches the secure area. -/
def SecureWrapper.KeepsOutOfArea (mmc : Mmc) (devNum : Int) (start : Ulong) (blkcnt : U32)
    (buffer : Buffer) (skipSpace : SkipSpace) : SecureWrapper → Prop
  | .read => KeepsOut mmc (mmcBreadSecure (some mmc) start blkcnt buffer)
  | .write => KeepsOut mmc (mmcBwriteSecure (some mmc) start blkcnt buffer)
  | .berase => KeepsOut mmc (mmcBeraseSecure mmc start blkcnt)
  | .massProRead => KeepsOut mmc (mmcBreadMassProSecure mmc devNum start blkcnt buffer)
  | .massProWrite => KeepsOut mmc (mmcBwriteMassProSecure mmc devNum start blkcnt buffer)
  | .wipe => KeepsOut mmc (mmcSecureWipeSecure mmc (start.setWidth 32) blkcnt skipSpace)
  | .erase .erase => KeepsOut mmc (mmcMmcEraseSecure mmc (start.setWidth 32) blkcnt skipSpace)
  | .erase .trim => KeepsOut mmc (mmcMmcTrimSecure mmc (start.setWidth 32) blkcnt)
  | .erase .discard => KeepsOut mmc (mmcMmcDiscardSecure mmc (start.setWidth 32) blkcnt)
  | .erase .secureErase =>
      KeepsOut mmc (mmcMmcSecureEraseSecure mmc (start.setWidth 32) blkcnt skipSpace)
  | .erase .secureTrim => KeepsOut mmc (mmcMmcSecureTrimSecure mmc (start.setWidth 32) blkcnt)

/-- The check turns the range down: with its start cut to 32 bits it does not wrap, and it meets
the area. -/
def Reported (start : Ulong) (blkcnt : U32) : Prop :=
  start.toNat % 2 ^ 32 + blkcnt.toNat ≤ 2 ^ 32 ∧
    MeetsSecureArea (start.toNat % 2 ^ 32) blkcnt.toNat

/-- What the function behind the wrapper sends to the card misses the area. -/
def SecureWrapper.Misses (mmc : Mmc) (start blkcnt : U32) : SecureWrapper → Prop
  | .read | .massProRead => mmc.ReadMisses start blkcnt
  | .write | .berase | .massProWrite => mmc.WriteMisses start blkcnt
  | .wipe =>
      ∀ method, mmc.WipesWith method ∧ ¬ NamesNone method.wholeGroups mmc start blkcnt →
        mmc.PairMisses (firstNamed method.wholeGroups mmc start)
          (lastNamed method.wholeGroups mmc (start.toNat + blkcnt.toNat))
  | .erase entry =>
      entry.Active mmc ∧ ¬ entry.Nothing mmc start blkcnt →
        mmc.PairMisses (entry.first mmc start) (entry.last mmc start blkcnt)

/-- A wrapper turns a range down or does what the function behind it does. -/
theorem keepsOut_guarded_iff {Result : Type} {mmc : Mmc} {start : Ulong} {blkcnt : U32}
    {program : Driver Result} {rejected : Result} {misses : Prop} (positive : 0 < blkcnt)
    (behind : KeepsOut mmc program ↔ misses) :
    KeepsOut mmc (if checkSecureArea start blkcnt then pure rejected else program) ↔
      Reported start blkcnt ∨ misses := by
  unfold Reported
  rw [← checkSecureArea_iff start blkcnt positive]
  split
  · rename_i reported
    exact iff_of_true (keepsOut_pure mmc rejected) (Or.inl reported)
  · rename_i passed
    rw [behind]
    exact ⟨Or.inr, fun either => either.resolve_left passed⟩

theorem keepsOut_entry_iff (entry : EraseEntry) (mmc : Mmc) (start blkcnt : U32)
    (skipSpace : SkipSpace) (positive : 0 < blkcnt) :
    KeepsOut mmc (entry.program mmc start blkcnt skipSpace) ↔
      SecureWrapper.Misses mmc start blkcnt (.erase entry) :=
  keepsOut_pair_iff
    (fun _ control sent => entry.always_program control mmc start blkcnt skipSpace
      fun active something => sent ⟨active, something⟩)
    fun sent => entry.sends_program mmc start blkcnt skipSpace positive sent.1 sent.2

theorem keepsOut_wipe_iff (mmc : Mmc) (start blkcnt : U32) (skipSpace : SkipSpace)
    (positive : 0 < blkcnt) :
    KeepsOut mmc (mmcSecureWipe mmc start blkcnt skipSpace) ↔
      SecureWrapper.Misses mmc start blkcnt .wipe := by
  -- a wipe uses one method at most
  by_cases wipes : ∃ method, mmc.WipesWith method
  · obtain ⟨method, uses⟩ := wipes
    have unique {other : WipeMethod} (also : mmc.WipesWith other) : other = method :=
      Option.some.inj (also.2.2.symm.trans uses.2.2)
    refine (@keepsOut_pair_iff _ mmc (mmcSecureWipe mmc start blkcnt skipSpace) _ _
      (¬ NamesNone method.wholeGroups mmc start blkcnt)
      (fun allowed control sent => always_mmcSecureWipe control skipSpace
        fun other also something => ?_)
      fun something => sends_mmcSecureWipe skipSpace positive uses something).trans ?_
    · rw [unique also] at something ⊢
      exact sent something
    · constructor
      · rintro misses other ⟨also, something⟩
        rw [unique also] at something ⊢
        exact misses something
      · exact fun misses something => misses method ⟨uses, something⟩
  · refine iff_of_true ?_ fun method both => absurd ⟨method, both.1⟩ wipes
    exact keepsOut_of_always (Or.inl Nat.zero_lt_one : SpanMisses 1 0)
      (always_mmcSecureWipe (allowsControl_keepsOut mmc _ _) skipSpace
        fun method uses => absurd ⟨method, uses⟩ wipes)

theorem keepsOutOfArea_iff (wrapper : SecureWrapper) (mmc : Mmc) (devNum : Int) (start : Ulong)
    (blkcnt : U32) (buffer : Buffer) (skipSpace : SkipSpace) (positive : 0 < blkcnt) :
    wrapper.KeepsOutOfArea mmc devNum start blkcnt buffer skipSpace ↔
      Reported start blkcnt ∨ wrapper.Misses mmc (start.setWidth 32) blkcnt := by
  have cut : Reported ((start.setWidth 32).setWidth 64) blkcnt ↔ Reported start blkcnt := by
    unfold Reported
    rw [show ((start.setWidth 32).setWidth 64).toNat % 2 ^ 32 = start.toNat % 2 ^ 32 by bv_omega]
  cases wrapper with
  | read => exact keepsOut_guarded_iff positive (keepsOut_mmcBread_iff buffer)
  | write => exact keepsOut_guarded_iff positive (keepsOut_mmcBwrite_iff buffer)
  | berase => exact keepsOut_guarded_iff positive keepsOut_mmcBerase_iff
  | massProRead =>
    refine keepsOut_guarded_iff positive ?_
    unfold mmcBreadMassPro
    rw [isBootRange_eq_false]
    exact (keepsOut_bind_pure _).trans (keepsOut_mmcBread_iff buffer)
  | massProWrite =>
    refine keepsOut_guarded_iff positive ?_
    unfold mmcBwriteMassPro
    rw [isBootRange_eq_false]
    exact (keepsOut_bind_pure _).trans (keepsOut_mmcBwrite_iff buffer)
  | wipe =>
    rw [← cut]
    exact keepsOut_guarded_iff positive (keepsOut_wipe_iff mmc _ blkcnt skipSpace positive)
  | erase entry =>
    rw [← cut]
    have behind := keepsOut_entry_iff entry mmc (start.setWidth 32) blkcnt skipSpace positive
    cases entry <;> exact keepsOut_guarded_iff positive behind

/-- The check of the secure area is right exactly when the range does not wrap before the end of
the area, and a wrapper keeps out of the area exactly when the check turns the range down or none
of the commands for it leads into the area. -/
theorem secure_wrappers_keep_out (wrapper : SecureWrapper) (mmc : Mmc) (devNum : Int)
    (start : Ulong) (blkcnt : U32) (buffer : Buffer) (skipSpace : SkipSpace)
    (positive : 0 < blkcnt) :
    ((checkSecureArea start blkcnt = true ↔ MeetsSecureArea start.toNat blkcnt.toNat) ↔
      CheckExact start blkcnt) ∧
    (wrapper.KeepsOutOfArea mmc devNum start blkcnt buffer skipSpace ↔
      Reported start blkcnt ∨ wrapper.Misses mmc (start.setWidth 32) blkcnt) :=
  ⟨checkSecureArea_exact_iff start blkcnt positive,
    keepsOutOfArea_iff wrapper mmc devNum start blkcnt buffer skipSpace positive⟩

/-- An eMMC of 16384 blocks. -/
def securedDevice : Mmc :=
  { erasableDevice with blockDev := ⟨16384⟩ }

/-- A request that is not longer than a chunk is one chunk. -/
theorem turns_of_short {mmc : Mmc} {blkcnt : U32} (short : blkcnt ≤ mmc.cfg.bMax) {turns : Nat}
    (inside : turns * mmc.cfg.bMax.toNat < blkcnt.toNat) : turns = 0 := by
  by_contra later
  have enough : 1 * mmc.cfg.bMax.toNat ≤ turns * mmc.cfg.bMax.toNat :=
    Nat.mul_le_mul_right _ (Nat.pos_of_ne_zero later)
  bv_omega

/-- The block before the area is written, the blocks after it are trimmed, and a trim that begins in
it is turned down. -/
theorem secure_wrappers_keep_out_neighbours :
    ((checkSecureArea 12287 1 = true ↔ MeetsSecureArea 12287 1) ∧
      SecureWrapper.KeepsOutOfArea securedDevice 2 12287 1 (fun _ => 0) (fun _ => 0) .write) ∧
    ((checkSecureArea 12800 2048 = true ↔ MeetsSecureArea 12800 2048) ∧
      SecureWrapper.KeepsOutOfArea securedDevice 2 12800 2048 (fun _ => 0) (fun _ => 0)
        (.erase .trim)) ∧
    SecureWrapper.KeepsOutOfArea securedDevice 2 12288 600 (fun _ => 0) (fun _ => 0)
      (.erase .trim) := by
  have before := secure_wrappers_keep_out .write securedDevice 2 12287 1 (fun _ => 0)
    (fun _ => 0) (by decide)
  have after := secure_wrappers_keep_out (.erase .trim) securedDevice 2 12800 2048 (fun _ => 0)
    (fun _ => 0) (by decide)
  have inside := secure_wrappers_keep_out (.erase .trim) securedDevice 2 12288 600 (fun _ => 0)
    (fun _ => 0) (by decide)
  have writes : securedDevice.WriteMisses 12287 1 := by
    intro turns inside _
    rw [turns_of_short (by decide) inside]
    exact Or.inr (by decide)
  refine ⟨⟨before.1.mpr (Or.inl (by decide)), before.2.mpr (Or.inr writes)⟩,
    ⟨after.1.mpr (Or.inl (by decide)), after.2.mpr (Or.inr fun _ => by decide)⟩,
    inside.2.mpr (Or.inl ⟨by decide, ?_⟩)⟩
  exact (meetsSecureArea_iff (by decide)).mpr (by decide)

/-- A read of 2^32 - 1 blocks from block 2 on is not reported, and goes through the area. An
erase of one block far beyond the end of the card is rightly not reported, but the underflow of
its clip makes it erase from block 0 on. -/
theorem secure_wrappers_enter_area :
    ¬ (checkSecureArea 2 0xffffffff = true ↔ MeetsSecureArea 2 0xffffffff) ∧
    ¬ SecureWrapper.KeepsOutOfArea securedDevice 2 2 0xffffffff (fun _ => 0) (fun _ => 0) .read ∧
    ¬ SecureWrapper.KeepsOutOfArea securedDevice 2 0xfffffffe 1 (fun _ => 0) (fun _ => 0)
      (.erase .erase) := by
  refine ⟨fun exact => ?_, fun keeps => ?_, fun keeps => ?_⟩
  · exact absurd ((checkSecureArea_exact_iff 2 0xffffffff (by decide)).mp exact)
      (by unfold CheckExact; decide)
  · rcases (keepsOutOfArea_iff _ _ _ _ _ _ _ (by decide)).mp keeps with reported | misses
    · exact absurd reported.1 (by decide)
    · rcases misses with rejected | chunks
      · exact absurd rejected (by decide)
      · rcases chunks 0 (by decide) with behind | ahead
        · exact absurd behind (by decide)
        · exact absurd ahead (by decide)
  · rcases (keepsOutOfArea_iff _ _ _ _ _ _ _ (by decide)).mp keeps with reported | misses
    · exact absurd ((meetsSecureArea_iff (by decide)).mp reported.2).1 (by decide)
    · exact absurd (misses ⟨⟨rfl, rfl⟩, by decide⟩) (by decide)

end PinePhonePkg
