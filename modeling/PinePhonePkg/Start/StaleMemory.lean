/-
This file compares two runs that differ only in what the stack holds where the
source does not set it. The runs of the start-up are the same unless the command
that reads EXT_CSD fails, as the buffer is used all the same then. The runs of a
write are the same unless a block is written, as the flags of its commands are
what the stack holds.
-/

import PinePhonePkg.Mmc.Block
import PinePhonePkg.Start.Capacity

namespace PinePhonePkg

open Library Program

/-! ### Behind EXT_CSD -/

/-- The rest of `mmc_startup` behind EXT_CSD -/
def afterExtCsd (reached : Int × StartMmc) : StartDriver (Int × StartMmc) :=
  if reached.1 ≠ 0 then pure reached
  else
    let settled := mmcSetCapacity reached.2 reached.2.partNum
    if settled.1 ≠ 0 then pure settled else raiseSpeed settled.2

/-- The rest of `mmc_startup` behind the selection of the card, which takes EXT_CSD from the stack -/
def afterTransfer (stack : StartStack) (reached : Int × StartMmc) :
    StartDriver (Int × StartMmc) :=
  if reached.1 ≠ 0 then pure reached else readExtCsd stack reached.2 >>= afterExtCsd

/-- The command record is set before it is sent. -/
theorem mmcStartup_parts (stack : StartStack) (cmd : MmcCmd) (mmc : StartMmc) :
    mmcStartup stack mmc = reachTransferMode cmd mmc >>= afterTransfer stack := rfl

/-! ### A buffer that is not filled -/

section Feature

variable {mmc : StartMmc}

theorem KeepsLayout.raiseSpeed {layout : Layout} (same : mmc.layout = layout) :
    KeepsLayout layout (raiseSpeed mmc) := by
  refine (changeFreq same).andThen ?_
  rintro ⟨err, fast⟩ kept
  refine ite (pure kept) (bind fun _ => ite (pure kept) ((widenBus (by exact kept)).andThen ?_))
  rintro ⟨err, wide⟩ widened
  refine ite (pure widened) ?_
  exact setClock ((takeTranSpeed_layout wide).trans widened) fun after clocked => pure clocked

/-- The descriptor that is left has this byte for the secure features. -/
abbrev LeavesFeature (feature : U8) (program : StartDriver (Int × StartMmc)) : Prop :=
  Always (fun _ => True) (fun _ => True)
    (fun result => result.2.secureFeature = feature) program

theorem leavesFeature_afterExtCsd (reached : Int × StartMmc) :
    LeavesFeature reached.2.secureFeature (afterExtCsd reached) := by
  have settled : (mmcSetCapacity reached.2 reached.2.partNum).2.secureFeature =
      reached.2.secureFeature := by
    unfold mmcSetCapacity
    split
    · rfl
    · rfl
  unfold afterExtCsd
  split
  · exact rfl
  dsimp only
  split
  · exact settled
  · exact (KeepsLayout.raiseSpeed rfl).mono (fun _ _ => trivial) fun result kept =>
      (congrArg Layout.secureFeature kept).trans settled

/-- For a device that is not partitioned nothing but the byte of the buffer decides. -/
theorem leavesFeature_useExtCsd (err : Int) {extCsd : Buffer} (whole : ¬isPartitioned extCsd) :
    LeavesFeature (extCsd extCsdSecFeatureSupport)
      (useExtCsd err extCsd mmc >>= afterExtCsd) := by
  have used : LeavesFeature (extCsd extCsdSecFeatureSupport) (useExtCsd err extCsd mmc) := by
    unfold useExtCsd
    refine Always.bind (always_any _) fun updated _ => ?_
    rw [if_neg whole]
    exact rfl
  exact used.bind fun reached feature => feature ▸ leavesFeature_afterExtCsd reached

end Feature

/-! ### A card without EXT_CSD -/

section Avoiding

variable {mmc : StartMmc}

/-- Whatever it is answered, the program does not read EXT_CSD. -/
abbrev ReadsNone {Result : Type} (program : StartDriver Result) : Prop :=
  Avoids mmcCmdSendExtCsd program

theorem ReadsNone.send {cmd : MmcCmd} {data : Option MmcData} {Result : Type}
    {next : StartCmdReply → StartDriver Result} (other : cmd.cmdidx ≠ mmcCmdSendExtCsd)
    (rest : ∀ reply, ReadsNone (next reply)) : ReadsNone (startCmd cmd data >>= next) :=
  ⟨other, fun reply _ => rest reply⟩

theorem readsNone_updatePhase : ReadsNone mmc.updatePhase := by
  unfold StartMmc.updatePhase mmcUpdatePhase
  split
  · exact ⟨trivial, fun _ _ => trivial⟩
  · trivial

theorem readsNone_switch (index value : U8) : ReadsNone (mmc.switch index value) := by
  have core : Always (fun _ => True) (Request.IsNot mmcCmdSendExtCsd) (fun _ => True)
      (mmcSwitch mmc.described index value) :=
    always_mmcDoSwitch_of mmc.described index value 1000
      (by decide : mmcCmdSwitch ≠ mmcCmdSendExtCsd) (fun _ _ _ => trivial) trivial
      (by decide : mmcCmdSendStatus ≠ mmcCmdSendExtCsd)
  exact core.reading

theorem readsNone_mmcSetClock (clock : U32) : ReadsNone (mmcSetClock mmc clock) :=
  Always.bind (avoids_setIos _) fun _ _ => trivial

theorem readsNone_setBusWidth (width : U32) : ReadsNone (mmc.setBusWidth width) :=
  Always.bind (avoids_setIos _) fun _ _ => trivial

theorem readsNone_ite {Result : Type} {condition : Prop} [Decidable condition]
    {yes no : StartDriver Result} (first : ReadsNone yes) (second : ReadsNone no) :
    ReadsNone (if condition then yes else no) := by
  split
  · exact first
  · exact second

theorem readsNone_readScr (timeout : Nat) : ReadsNone (readScr timeout) := by
  induction timeout with
  | zero => exact ⟨(by decide : sdCmdAppSendScr ≠ mmcCmdSendExtCsd), fun _ _ => trivial⟩
  | succ timeout inductionHypothesis =>
    exact ReadsNone.send (by decide) fun _ => readsNone_ite trivial inductionHypothesis

theorem readsNone_checkHighSpeed (timeout : Nat) : ReadsNone (checkHighSpeed timeout) := by
  induction timeout with
  | zero => exact ⟨(by decide : sdCmdSwitchFunc ≠ mmcCmdSendExtCsd), fun _ _ => trivial⟩
  | succ timeout inductionHypothesis =>
    exact ReadsNone.send (by decide) fun _ => readsNone_ite trivial inductionHypothesis

theorem readsNone_sdChangeFreq : ReadsNone (sdChangeFreq mmc) := by
  have app : mmcCmdAppCmd ≠ mmcCmdSendExtCsd := by decide
  refine ReadsNone.send app fun _ => readsNone_ite trivial ?_
  refine Always.bind (readsNone_readScr 3) fun _ _ => readsNone_ite trivial ?_
  refine readsNone_ite trivial ?_
  refine Always.bind (readsNone_checkHighSpeed 3) fun _ _ => ?_
  refine readsNone_ite trivial (readsNone_ite trivial (readsNone_ite trivial ?_))
  refine ReadsNone.send (by decide) fun _ => readsNone_ite trivial ?_
  refine Always.bind (avoids_setIos _) fun _ _ => ?_
  exact Always.bind readsNone_updatePhase fun _ _ => readsNone_ite trivial trivial

theorem readsNone_widenBus : ReadsNone (widenBus mmc) := by
  have switching (width : U32) (ddr sdr : U8) : ReadsNone (switchBus mmc width ddr sdr) :=
    Always.bind (readsNone_switch _ _) fun _ _ => readsNone_ite trivial
      (Always.bind (readsNone_setBusWidth _) fun _ _ => trivial)
  refine readsNone_ite (readsNone_ite trivial ?_)
    (readsNone_ite (switching _ _ _) (readsNone_ite (switching _ _ _) trivial))
  have app : mmcCmdAppCmd ≠ mmcCmdSendExtCsd := by decide
  refine ReadsNone.send app fun _ => readsNone_ite trivial ?_
  refine ReadsNone.send (by decide) fun _ => readsNone_ite trivial ?_
  exact Always.bind (readsNone_setBusWidth _) fun _ _ => trivial

/-- An SD card is not asked for EXT_CSD, and neither is an MMC before version 4. -/
theorem readsNone_changeFreq (without : ¬mmc.hasExtCsd) : ReadsNone (changeFreq mmc) := by
  unfold changeFreq
  split
  · exact readsNone_sdChangeFreq
  · rename_i notSd
    have old : mmc.version < mmcVersion4 := by
      unfold StartMmc.hasExtCsd at without
      simpa [notSd] using without
    unfold mmcChangeFreq
    dsimp only
    rw [if_pos old]
    trivial

theorem readsNone_afterExtCsd {reached : Int × StartMmc} (without : ¬reached.2.hasExtCsd) :
    ReadsNone (afterExtCsd reached) := by
  refine readsNone_ite trivial (readsNone_ite trivial ?_)
  have same : (mmcSetCapacity reached.2 reached.2.partNum).2.hasExtCsd =
      reached.2.hasExtCsd := by
    unfold mmcSetCapacity
    split
    · rfl
    · rfl
  refine Always.bind (readsNone_changeFreq (same ▸ without)) ?_
  rintro ⟨err, fast⟩ -
  refine readsNone_ite trivial ?_
  refine Always.bind readsNone_updatePhase fun _ _ => readsNone_ite trivial ?_
  refine Always.bind readsNone_widenBus ?_
  rintro ⟨err, wide⟩ -
  refine readsNone_ite trivial ?_
  exact Always.bind (readsNone_mmcSetClock _) fun _ _ => trivial

end Avoiding

/-! ### Two runs of the start-up -/

section StartUp

variable {World : Type} (serve : (request : Request) → World → request.StartReply × World)
  {mmc : StartMmc} {world : World}

/-- A command that succeeds fills the buffer. -/
theorem heldExtCsd_same (stack other : StartStack) {reply : StartCmdReply}
    (answered : reply.error = 0) : heldExtCsd stack reply = heldExtCsd other reply := by
  unfold heldExtCsd
  rw [if_pos answered, if_pos answered]

/-- The reply to the command that reads EXT_CSD -/
def extCsdReply (world : World) : StartCmdReply :=
  (serve (.sendCmd sendExtCsdCmd (some sendExtCsdData)) world).1

theorem seen_readExtCsd (stack : StartStack) (has : mmc.hasExtCsd) :
    seen serve (readExtCsd stack mmc >>= afterExtCsd) world =
      let filled := useExtCsd (extCsdReply serve world).error
        (heldExtCsd stack (extCsdReply serve world)) mmc >>= afterExtCsd
      let reached := (serve (.sendCmd sendExtCsdCmd (some sendExtCsdData)) world).2
      (.sendCmd sendExtCsdCmd (some sendExtCsdData) :: (filled.seen serve reached).1,
        (filled.seen serve reached).2) := by
  unfold readExtCsd
  rw [if_pos has]
  rfl

/-- The runs behind the selection are the same for all stacks if EXT_CSD can be read. -/
theorem seen_readExtCsd_same (stack other : StartStack)
    (answered : mmc.hasExtCsd → (extCsdReply serve world).error = 0) :
    seen serve (readExtCsd stack mmc >>= afterExtCsd) world =
      seen serve (readExtCsd other mmc >>= afterExtCsd) world := by
  by_cases has : mmc.hasExtCsd
  · rw [seen_readExtCsd serve stack has, seen_readExtCsd serve other has,
      heldExtCsd_same stack other (answered has)]
  · unfold readExtCsd
    rw [if_neg has, if_neg has]

/-- Otherwise the secure features come from the stack. -/
theorem readExtCsd_leaves_stack {stack : StartStack} (has : mmc.hasExtCsd)
    (fails : (extCsdReply serve world).error ≠ 0) (whole : ¬isPartitioned stack.extCsd) :
    (seen serve (readExtCsd stack mmc >>= afterExtCsd) world).2.2.secureFeature =
      stack.extCsd extCsdSecFeatureSupport := by
  rw [seen_readExtCsd serve stack has]
  have held : heldExtCsd stack (extCsdReply serve world) = stack.extCsd := if_neg fails
  rw [held]
  exact (leavesFeature_useExtCsd _ whole).result serve _

/-- A stack on which the buffer for EXT_CSD begins with zeros, and has this byte for the secure
features -/
def StartStack.withFeature (feature : U8) : StartStack where
  cmd := StartStack.zero.cmd
  extCsd index := if index = extCsdSecFeatureSupport then feature else 0

/-- The start-up is the same for all stacks exactly if the first reply to the command that reads
EXT_CSD is not an error, where there is one. -/
theorem seen_mmcStartup_same_iff (mmc : StartMmc) (world : World) :
    (∀ stack other : StartStack, (mmcStartup stack mmc).seen serve world =
        (mmcStartup other mmc).seen serve world) ↔
      ∀ reply, firstReply mmcCmdSendExtCsd ((mmcStartup .zero mmc).trace serve world) =
        some reply → reply.error = 0 := by
  let reaches := reachTransferMode StartStack.zero.cmd mmc
  have parts (stack : StartStack) : mmcStartup stack mmc = reaches >>= afterTransfer stack :=
    mmcStartup_parts stack _ mmc
  have first : firstReply mmcCmdSendExtCsd ((mmcStartup .zero mmc).trace serve world) =
      firstReply mmcCmdSendExtCsd ((afterTransfer .zero (reaches.exec serve world).1).trace serve
        (reaches.exec serve world).2) := by
    rw [parts, trace_bind]
    exact Avoids.run (avoids_reachTransferMode _) (run_exec serve reaches world) _
  rw [first]
  simp only [parts, seen_bind]
  generalize reaches.exec serve world = outcome
  obtain ⟨reached, after⟩ := outcome
  unfold afterTransfer
  by_cases failed : reached.1 ≠ 0
  · simp only [if_pos failed]
    exact iff_of_true (fun _ _ => trivial) fun reply found =>
      absurd found.symm (Option.some_ne_none _)
  simp only [if_neg failed]
  by_cases has : reached.2.hasExtCsd
  · have asked : firstReply mmcCmdSendExtCsd
        (trace serve (readExtCsd .zero reached.2 >>= afterExtCsd) after) =
          some (extCsdReply serve after) := by
      unfold readExtCsd
      rw [if_pos has]
      exact @firstReply_cons sendExtCsdCmd _ _ _
    rw [asked]
    constructor
    · intro same reply found
      obtain rfl := Option.some.inj found
      by_contra fails
      have feature := congrArg (fun saw => saw.2.2.secureFeature)
        (same (.withFeature 0) (.withFeature 1))
      dsimp only at feature
      rw [readExtCsd_leaves_stack serve has fails (by decide),
        readExtCsd_leaves_stack serve has fails (by decide)] at feature
      exact absurd feature (by decide)
    · intro answered stack other
      rw [seen_readExtCsd_same serve stack other fun _ => answered _ rfl]
  · have without : ReadsNone (readExtCsd .zero reached.2 >>= afterExtCsd) := by
      unfold readExtCsd
      rw [if_neg has]
      exact @readsNone_afterExtCsd (0, reached.2) has
    have none := Avoids.run without (run_exec serve _ after) []
    rw [List.append_nil] at none
    rw [none]
    refine iff_of_true (fun stack other => ?_) fun reply found =>
      absurd found.symm (Option.some_ne_none _)
    rw [seen_readExtCsd_same serve stack other fun given => absurd given has]

end StartUp

/-! ### Flags that are not set -/

/-- The commands with the flags that are handed to the host driver. `memory` gives what the stack
holds for each call of `mmc_write_blocks`, which begins with the command that has the data. -/
def fillFlags (memory : Nat → U32) : Nat → List Request → List Request
  | _, [] => []
  | calls, .sendCmd cmd data :: rest =>
    let calls := if data.isSome then calls + 1 else calls
    .sendCmd { cmd with flags := some (cmd.flags.getD (memory calls)) } data ::
      fillFlags memory calls rest
  | calls, request :: rest => request :: fillFlags memory calls rest

/-- The source sets the flags of the command. -/
def Request.FlagsSet : Request → Prop
  | .sendCmd cmd _ => cmd.flags.isSome
  | _ => True

theorem fillFlags_same_iff (calls : Nat) (requests : List Request) :
    (∀ memory other, fillFlags memory calls requests = fillFlags other calls requests) ↔
      ∀ request ∈ requests, request.FlagsSet := by
  induction requests generalizing calls with
  | nil => exact iff_of_true (fun _ _ => rfl) fun _ member => absurd member List.not_mem_nil
  | cons request rest inductionHypothesis =>
    rw [List.forall_mem_cons]
    cases request with
    | sendCmd cmd data =>
      rw [← inductionHypothesis (if data.isSome then calls + 1 else calls)]
      constructor
      · intro same
        refine ⟨?_, fun memory other => (List.cons.inj (same memory other)).2⟩
        -- Two words that differ tell a field that is not set.
        have head := Request.sendCmd.inj (List.cons.inj (same (fun _ => 0) (fun _ => 1))).1
        have flags := Option.some.inj (congrArg MmcCmd.flags head.1)
        show cmd.flags.isSome
        cases set : cmd.flags with
        | none =>
          rw [set] at flags
          exact absurd (show (0 : U32) = 1 from flags) (by decide)
        | some word => rfl
      · rintro ⟨set, same⟩ memory other
        obtain ⟨word, set⟩ := Option.isSome_iff_exists.mp (show cmd.flags.isSome from set)
        unfold fillFlags
        dsimp only
        rw [set, same memory other]
        rfl
    | _ =>
      rw [← inductionHypothesis calls]
      constructor
      · exact fun same => ⟨trivial, fun memory other => (List.cons.inj (same memory other)).2⟩
      · rintro ⟨-, same⟩ memory other
        exact congrArg _ (same memory other)

/-! ### Two runs of a write -/

section Writes

variable {World : Type} (serve : (request : Request) → World → request.Reply × World)
  (world : World)

/-- What is seen of a program whose flags the stack decides where they are not set -/
def seenOnStack {Result : Type} (program : Driver Result) (memory : Nat → U32) :
    List Request × Result :=
  (fillFlags memory 0 (program.seen serve world).1, (program.seen serve world).2)

/-- What is seen is the same for all stacks if all commands have their flags set. -/
theorem seenOnStack_same_iff {Result : Type} (program : Driver Result) :
    (∀ memory other, seenOnStack serve world program memory =
        seenOnStack serve world program other) ↔
      ∀ request ∈ (program.seen serve world).1, request.FlagsSet := by
  rw [← fillFlags_same_iff 0]
  exact forall₂_congr fun memory other => Prod.mk.injEq _ _ _ _ ▸ and_iff_left rfl

/-- Whatever it is answered, the program sets the flags of its commands. -/
abbrev SetsFlags {Result : Type} (program : Driver Result) : Prop :=
  Always (fun _ => True) Request.FlagsSet (fun _ => True) program

theorem SetsFlags.seen {Result : Type} {program : Driver Result} (sets : SetsFlags program) :
    ∀ request ∈ (program.seen serve world).1, request.FlagsSet := by
  intro request member
  obtain ⟨exchange, sent, rfl⟩ := List.mem_map.mp member
  exact (Always.run sets (run_exec serve program world) fun _ _ => trivial).1 _ sent

/-- The flags of a write are those on the stack. -/
theorem writeBlocksCmd_flags_unset (mmc : Mmc) (start blkcnt : U32) (data : Option MmcData) :
    ¬(Request.sendCmd (writeBlocksCmd mmc start blkcnt) data).FlagsSet :=
  Bool.false_ne_true

/-- Nothing is written if there is nothing to write or the end of the medium is exceeded. -/
def NoBlocksWritten (mmc : Mmc) (start blkcnt : U32) : Prop :=
  blkcnt = 0 ∨ start + blkcnt > mmc.blockDev.lba

theorem mmcWriteBlocks_of_none {mmc : Mmc} {start blkcnt : U32}
    (none : NoBlocksWritten mmc start blkcnt) (src : Buffer) :
    mmcWriteBlocks mmc start blkcnt src = pure 0 := by
  unfold mmcWriteBlocks
  by_cases exceeds : start + blkcnt > mmc.blockDev.lba
  · rw [if_pos exceeds]
  · rw [if_neg exceeds, if_pos (none.resolve_right exceeds)]

theorem mmcWriteBlocks_sends {mmc : Mmc} {start blkcnt : U32}
    (some : ¬NoBlocksWritten mmc start blkcnt) (src : Buffer) :
    Request.sendCmd (writeBlocksCmd mmc start blkcnt) (writeBlocksData mmc blkcnt src) ∈
      ((mmcWriteBlocks mmc start blkcnt src).seen serve world).1 := by
  obtain ⟨count, inside⟩ := not_or.mp some
  unfold mmcWriteBlocks
  rw [if_neg inside, if_neg count]
  exact List.mem_cons_self

theorem flagsSet_mmcWriteBlocks_iff (mmc : Mmc) (start blkcnt : U32) (src : Buffer) :
    (∀ request ∈ ((mmcWriteBlocks mmc start blkcnt src).seen serve world).1,
        request.FlagsSet) ↔ NoBlocksWritten mmc start blkcnt := by
  constructor
  · intro all
    by_contra some
    exact writeBlocksCmd_flags_unset _ _ _ _ (all _ (mmcWriteBlocks_sends serve world some src))
  · intro none
    rw [mmcWriteBlocks_of_none none src]
    exact fun _ member => absurd member List.not_mem_nil

/-- Nothing is written if the first chunk is not, and the block length has to be set before. -/
def NothingWritten (start blkcnt : U32) : Option Mmc → Prop
  | none => True
  | some mmc => blkcnt = 0 ∨ ((mmcSetBlocklen mmc mmc.writeBlLen).exec serve world).1 ≠ 0 ∨
      NoBlocksWritten mmc start (chunk mmc blkcnt)

theorem flagsSet_mmcBwriteLoop_iff (mmc : Mmc) (turns : Nat) (start : U32) {blocksTodo : U32}
    (todo : 0 < blocksTodo) (src : Buffer) :
    (∀ request ∈ ((mmcBwriteLoop mmc (turns + 1) start blocksTodo src).seen serve world).1,
        request.FlagsSet) ↔ NoBlocksWritten mmc start (chunk mmc blocksTodo) := by
  unfold mmcBwriteLoop
  dsimp only
  constructor
  · intro all
    rw [← flagsSet_mmcWriteBlocks_iff serve world mmc start _ src]
    intro request member
    refine all request ?_
    rw [seen_bind]
    exact List.mem_append_left _ member
  · intro none
    -- The chunk is not empty, so that no block written ends the loop.
    have cur : 0 ≠ chunk mmc blocksTodo := BitVec.ne_of_lt (chunk_pos mmc blocksTodo todo)
    rw [mmcWriteBlocks_of_none none src, pure_bind, if_pos cur]
    exact fun _ member => absurd member List.not_mem_nil

theorem setsFlags_mmcSetBlocklen (mmc : Mmc) (len : U32) : SetsFlags (mmcSetBlocklen mmc len) := by
  unfold mmcSetBlocklen
  split
  · trivial
  · exact ⟨rfl, fun _ _ => trivial⟩

theorem flagsSet_mmcBwrite_iff (device : Option Mmc) (start blkcnt : U32) (src : Buffer) :
    (∀ request ∈ ((mmcBwrite device start blkcnt src).seen serve world).1,
        request.FlagsSet) ↔ NothingWritten serve world start blkcnt device := by
  unfold mmcBwrite
  by_cases empty : blkcnt = 0
  · rw [if_pos empty]
    refine iff_of_true (fun _ member => absurd member List.not_mem_nil) ?_
    cases device with
    | none => trivial
    | some mmc => exact Or.inl empty
  rw [if_neg empty]
  cases device with
  | none => exact iff_of_true (fun _ member => absurd member List.not_mem_nil) trivial
  | some mmc =>
    dsimp only
    rw [seen_bind]
    have length := SetsFlags.seen serve world (setsFlags_mmcSetBlocklen mmc mmc.writeBlLen)
    unfold NothingWritten
    dsimp only
    rw [List.forall_mem_append, and_iff_right length, or_iff_right empty]
    split
    · rename_i failed
      exact iff_of_true (fun _ member => absurd member List.not_mem_nil) (Or.inl failed)
    rename_i fine
    rw [or_iff_right fine]
    obtain ⟨turns, equal⟩ : ∃ turns, blkcnt.toNat = turns + 1 :=
      Nat.exists_eq_succ_of_ne_zero fun zero => empty (BitVec.eq_of_toNat_eq zero)
    have todo : 0 < blkcnt := by bv_omega
    rw [← flagsSet_mmcBwriteLoop_iff serve _ mmc turns start todo src, ← equal, seen_bind]
    show (∀ request ∈ _ ++ [], _) ↔ _
    rw [List.append_nil]

end Writes

/-- What the stack holds decides nothing in the start-up exactly if the first reply to the command
that reads EXT_CSD is not an error, and nothing in a write exactly if no block is written. -/
theorem staleMemory_decides_nothing_iff {World : Type}
    (serveStart : (request : Request) → World → request.StartReply × World)
    (serve : (request : Request) → World → request.Reply × World) (world : World)
    (starting : StartMmc) (mmc : Mmc) (device : Option Mmc) (start blkcnt : U32) (src : Buffer) :
    ((∀ stack other : StartStack, (mmcStartup stack starting).seen serveStart world =
        (mmcStartup other starting).seen serveStart world) ↔
      ∀ reply, firstReply mmcCmdSendExtCsd
        ((mmcStartup .zero starting).trace serveStart world) = some reply → reply.error = 0) ∧
    ((∀ memory other, seenOnStack serve world (mmcWriteBlocks mmc start blkcnt src) memory =
        seenOnStack serve world (mmcWriteBlocks mmc start blkcnt src) other) ↔
      NoBlocksWritten mmc start blkcnt) ∧
    ((∀ memory other, seenOnStack serve world (mmcBwrite device start blkcnt src) memory =
        seenOnStack serve world (mmcBwrite device start blkcnt src) other) ↔
      NothingWritten serve world start blkcnt device) := by
  refine ⟨seen_mmcStartup_same_iff serveStart starting world, ?_, ?_⟩
  · rw [seenOnStack_same_iff]
    exact flagsSet_mmcWriteBlocks_iff serve world mmc start blkcnt src
  · rw [seenOnStack_same_iff]
    exact flagsSet_mmcBwrite_iff serve world device start blkcnt src

/-- An eMMC that fails the first command that reads EXT_CSD and none behind it -/
def serveLate : (request : Request) → Bool → request.StartReply × Bool
  | .sendCmd cmd data, answers =>
    if cmd.cmdidx = mmcCmdSendExtCsd ∧ ¬answers then (⟨-1, noWords, fun _ => 0⟩, true)
    else ((serveRegisters emmcCsd (sectorsExtCsd 0 0x80) (.sendCmd cmd data) ()).1, answers)
  | request, answers =>
    ((serveRegisters emmcCsd (sectorsExtCsd 0 0x80) request ()).1, answers)

/-- The start-up of this device leaves what was on the stack, and so do the flags of a command
that writes one block. -/
theorem staleMemory_decides :
    (¬∀ stack other : StartStack, (mmcStartup stack (.answered true)).seen serveLate false =
        (mmcStartup other (.answered true)).seen serveLate false) ∧
      ¬∀ memory other,
        seenOnStack serveWell () (mmcBwrite (some { Mmc.unidentified with blockDev := ⟨1⟩ }) 0 1
          fun _ => 0) memory =
        seenOnStack serveWell () (mmcBwrite (some { Mmc.unidentified with blockDev := ⟨1⟩ }) 0 1
          fun _ => 0) other := by
  constructor
  · rw [seen_mmcStartup_same_iff]
    intro answered
    have error : (firstReply mmcCmdSendExtCsd
        ((mmcStartup .zero (.answered true)).trace serveLate false)).map StartCmdReply.error =
          some (-1) := by decide +kernel
    obtain ⟨reply, found, failed⟩ := Option.map_eq_some_iff.mp error
    exact absurd (failed.symm.trans (answered reply found)) (by decide)
  · rw [seenOnStack_same_iff, flagsSet_mmcBwrite_iff]
    unfold NothingWritten NoBlocksWritten
    decide +kernel

end PinePhonePkg
