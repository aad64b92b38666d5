/-
This file follows a successful run of `mmc_startup` through its parts. What the
erase groups and the capacities come to is decided by CSD and EXT_CSD as the run
has read them; the commands of the other parts, however they are answered, only
decide whether the start-up gets to its end.
-/

import PinePhonePkg.Mmc.Replies
import PinePhonePkg.Start.Startup

namespace PinePhonePkg

open Library
open Program hiding bind_assoc

/-! ### The fields that are decided by CSD and EXT_CSD -/

/-- What the sizes of a card depend on -/
structure Layout where
  highCapacity : Bool
  csd : Vector U32 4
  partNum : U8
  writeBlLen : U32
  eraseGrpSize : U32
  capacity : Ulong
  capacityUser : Ulong
  capacityBoot : Ulong
  capacityRpmb : Ulong
  capacityGp : Fin 4 → Ulong
  secureFeature : U8

/-- The same of a descriptor -/
def StartMmc.layout (mmc : StartMmc) : Layout where
  highCapacity := mmc.highCapacity
  csd := mmc.csd
  partNum := mmc.partNum
  writeBlLen := mmc.writeBlLen
  eraseGrpSize := mmc.eraseGrpSize
  capacity := mmc.capacity
  capacityUser := mmc.capacityUser
  capacityBoot := mmc.capacityBoot
  capacityRpmb := mmc.capacityRpmb
  capacityGp := mmc.capacityGp
  secureFeature := mmc.secureFeature

/-- Whatever it is answered, the program leaves the layout as it is. -/
abbrev KeepsLayout (layout : Layout) (program : StartDriver (Int × StartMmc)) : Prop :=
  Always (fun _ => True) (fun _ => True) (fun result => result.2.layout = layout) program

namespace KeepsLayout

variable {First : Type} {layout : Layout}

theorem pure {result : Int × StartMmc} (same : result.2.layout = layout) :
    KeepsLayout layout (Pure.pure result) := same

theorem bind {program : StartDriver First} {next : First → StartDriver (Int × StartMmc)}
    (rest : ∀ result, KeepsLayout layout (next result)) : KeepsLayout layout (program >>= next) :=
  (always_any program).bind fun result _ => rest result

/-- A part that works on the descriptor, and what goes on with its descriptor -/
theorem andThen {program : StartDriver (Int × StartMmc)}
    {next : Int × StartMmc → StartDriver (Int × StartMmc)} (first : KeepsLayout layout program)
    (rest : ∀ result, result.2.layout = layout → KeepsLayout layout (next result)) :
    KeepsLayout layout (program >>= next) :=
  Always.bind first rest

theorem ite {condition : Prop} [Decidable condition] {yes no : StartDriver (Int × StartMmc)}
    (first : KeepsLayout layout yes) (second : KeepsLayout layout no) :
    KeepsLayout layout (if condition then yes else no) := by
  split
  · exact first
  · exact second

variable {mmc : StartMmc} (same : mmc.layout = layout)

include same

theorem setClock {clock : U32} {next : StartMmc → StartDriver (Int × StartMmc)}
    (rest : ∀ after : StartMmc, after.layout = layout → KeepsLayout layout (next after)) :
    KeepsLayout layout (mmcSetClock mmc clock >>= next) := by
  unfold mmcSetClock
  rw [bind_assoc]
  exact bind fun _ => rest _ same

theorem setBusWidth {width : U32} :
    KeepsLayout layout (do return ((0 : Int), ← mmc.setBusWidth width)) := by
  unfold StartMmc.setBusWidth
  rw [bind_assoc]
  exact bind fun _ => pure same

theorem mmcChangeFreq : KeepsLayout layout (mmcChangeFreq mmc) :=
  ite (pure same) (bind fun _ => ite (pure same) (bind fun _ => ite (pure same)
    (bind fun _ => ite (pure same) (bind fun _ => ite (pure same) (ite (pure same)
      (ite (pure same) (pure same)))))))

theorem sdRaiseSpeed : KeepsLayout layout (sdRaiseSpeed mmc) := by
  refine bind fun _ => ite (pure same) (ite (pure same) (ite (pure same) (bind fun _ =>
    ite (pure same) (bind fun _ => bind fun _ => ite (pure same) (pure ?_)))))
  dsimp only
  split
  · exact same
  · exact same

theorem sdChangeFreq : KeepsLayout layout (sdChangeFreq mmc) :=
  bind fun _ => ite (pure same) (bind fun _ => ite (pure same) (ite (pure same)
    (sdRaiseSpeed same)))

theorem widenSdBus : KeepsLayout layout (widenSdBus mmc) :=
  ite (pure same) (bind fun _ => ite (pure same) (bind fun _ => ite (pure same)
    (setBusWidth same)))

theorem switchBus {width : U32} {ddr sdr : U8} : KeepsLayout layout (switchBus mmc width ddr sdr) :=
  bind fun _ => ite (pure same) (setBusWidth same)

theorem widenMmcBus : KeepsLayout layout (widenMmcBus mmc) :=
  ite (switchBus same) (ite (switchBus same) (pure same))

theorem changeFreq : KeepsLayout layout (changeFreq mmc) :=
  ite (sdChangeFreq same) (mmcChangeFreq same)

theorem widenBus : KeepsLayout layout (widenBus mmc) :=
  ite (widenSdBus same) (widenMmcBus same)

end KeepsLayout

/-- The layout a run leaves, where every run leaves it -/
theorem KeepsLayout.run {layout : Layout} {program : StartDriver (Int × StartMmc)}
    (keeps : KeepsLayout layout program) {trace : List StartExchange} {result : Int × StartMmc}
    (run : Program.Run program trace result) : result.2.layout = layout :=
  (Always.run keeps run fun _ _ => trivial).2

/-! ### Runs that end well -/

section Succeeding

variable {trace : List StartExchange} {left : StartMmc}

/-- A run that ends well was not stopped by an error. -/
theorem run_unstopped {After : Type} {err : Int} {reached left : After}
    {rest : StartDriver (Int × After)}
    (run : Program.Run (if err ≠ 0 then pure (err, reached) else rest) trace (0, left)) :
    err = 0 ∧ Program.Run rest trace (0, left) := by
  by_cases failed : err ≠ 0
  · rw [if_pos failed] at run
    exact absurd (congrArg Prod.fst (run_pure_iff.mp run).2).symm failed
  · rw [if_neg failed] at run
    exact ⟨not_not.mp failed, run⟩

/-- A part that has to end well, as its error is returned -/
theorem run_part {part : StartDriver (Int × StartMmc)}
    {rest : Int × StartMmc → StartDriver (Int × StartMmc)}
    (run : Program.Run (part >>= fun result =>
      if result.1 ≠ 0 then pure (result.1, result.2) else rest result) trace (0, left)) :
    ∃ before reached after, trace = before ++ after ∧ Program.Run part before (0, reached) ∧
      Program.Run (rest (0, reached)) after (0, left) := by
  obtain ⟨before, ⟨err, reached⟩, after, rfl, ended, follows⟩ := run_bind_iff.mp run
  obtain ⟨rfl, follows⟩ := run_unstopped follows
  exact ⟨before, reached, after, rfl, ended, follows⟩

/-- A call whose error ends the start-up -/
theorem run_call {mmc : StartMmc} {call : StartDriver Int}
    {rest : Int → StartDriver (Int × StartMmc)}
    (run : Program.Run (call >>= fun err => if err ≠ 0 then pure (err, mmc) else rest err) trace
      (0, left)) :
    ∃ before after, trace = before ++ after ∧ Program.Run call before 0 ∧
      Program.Run (rest 0) after (0, left) := by
  obtain ⟨before, err, after, rfl, ended, follows⟩ := run_bind_iff.mp run
  obtain ⟨rfl, follows⟩ := run_unstopped follows
  exact ⟨before, after, rfl, ended, follows⟩

end Succeeding

section Parts

variable {trace : List StartExchange} {mmc left : StartMmc}

theorem run_mmcSetClock {clock : U32} (run : Program.Run (mmcSetClock mmc clock) trace left) :
    ∃ set, left = { mmc with clock := set } := by
  obtain ⟨_, _, _, rfl, -, ends⟩ := run_bind_iff.mp run
  obtain ⟨-, rfl⟩ := run_pure_iff.mp ends
  exact ⟨_, rfl⟩

theorem takeTranSpeed_layout (mmc : StartMmc) : mmc.takeTranSpeed.layout = mmc.layout := by
  unfold StartMmc.takeTranSpeed
  repeat' split
  all_goals rfl

/-- Behind the capacity the layout is kept, and the number of blocks is taken from the capacity. -/
theorem run_raiseSpeed (run : Program.Run (raiseSpeed mmc) trace (0, left)) :
    left.layout = mmc.layout ∧ left.blockDev.lba = (left.capacity >>> 9).setWidth 32 := by
  obtain ⟨_, fast, _, rfl, changed, adjusting⟩ := run_part run
  obtain ⟨_, _, rfl, -, widening⟩ := run_call adjusting
  obtain ⟨_, wide, _, rfl, widened, clocking⟩ := run_part widening
  obtain ⟨_, clocked, _, rfl, set, ends⟩ := run_bind_iff.mp clocking
  obtain ⟨clock, rfl⟩ := run_mmcSetClock set
  obtain ⟨-, same⟩ := run_pure_iff.mp ends
  obtain rfl := congrArg Prod.snd same
  have fastLayout : fast.layout = mmc.layout := (KeepsLayout.changeFreq rfl).run changed
  have wideLayout : wide.layout = mmc.layout :=
    (KeepsLayout.widenBus (by exact fastLayout)).run widened
  exact ⟨(takeTranSpeed_layout wide).trans wideLayout, rfl⟩

/-! ### The registers as they are read -/

/-- The reply to the first command of this index -/
def firstReply (cmdidx : Nat) (trace : List StartExchange) : Option StartCmdReply :=
  trace.findSome? fun
    | ⟨.sendCmd cmd _, reply⟩ => if cmd.cmdidx = cmdidx then some reply else none
    | _ => none

/-- CSD as the run has read it -/
def csdRead (trace : List StartExchange) : Option (Vector U32 4) :=
  (firstReply mmcCmdSendCsd trace).map StartCmdReply.response

/-- What the buffer for EXT_CSD holds after the command that reads it, if there is one -/
def extCsdRead (stack : StartStack) (trace : List StartExchange) : Option Buffer :=
  (firstReply mmcCmdSendExtCsd trace).map (heldExtCsd stack)

/-- The request is not the command of this index. -/
def Request.IsNot (cmdidx : Nat) : Request → Prop
  | .sendCmd cmd _ => cmd.cmdidx ≠ cmdidx
  | _ => True

theorem firstReply_append {cmdidx : Nat} {before rest : List StartExchange}
    (others : ∀ exchange ∈ before, exchange.request.IsNot cmdidx) :
    firstReply cmdidx (before ++ rest) = firstReply cmdidx rest := by
  unfold firstReply
  rw [List.findSome?_append, List.findSome?_eq_none_iff.mpr ?_, Option.none_or]
  rintro ⟨request, reply⟩ member
  cases request with
  | sendCmd cmd data => exact if_neg (others _ member)
  | _ => rfl

theorem firstReply_cons {cmd : MmcCmd} {data : Option MmcData} {reply : StartCmdReply}
    {rest : List StartExchange} :
    firstReply cmd.cmdidx (⟨.sendCmd cmd data, reply⟩ :: rest) = some reply := by
  unfold firstReply
  rw [List.findSome?_cons]
  dsimp only
  rw [if_pos rfl]

/-- Whatever it is answered, the program does not send the command of this index. -/
abbrev Avoids {Result : Type} (cmdidx : Nat) (program : StartDriver Result) : Prop :=
  Always (fun _ => True) (Request.IsNot cmdidx) (fun _ => True) program

theorem Avoids.run {Result : Type} {cmdidx : Nat} {program : StartDriver Result}
    (avoids : Avoids cmdidx program) {result : Result} (run : Program.Run program trace result)
    (rest : List StartExchange) : firstReply cmdidx (trace ++ rest) = firstReply cmdidx rest :=
  firstReply_append (Always.run avoids run fun _ _ => trivial).1

/-! ### In front of EXT_CSD -/

/-- The identification changes only the CID and the address. -/
theorem run_identifyCard {cmd after : MmcCmd}
    (run : Program.Run (identifyCard cmd mmc) trace (0, after, left)) :
    ∃ cid rca, left = { mmc with cid := cid, rca := rca } := by
  obtain ⟨first, _, rfl, follows⟩ := run_send_bind_iff.mp run
  obtain ⟨-, follows⟩ := run_unstopped follows
  obtain ⟨second, _, rfl, ends⟩ := run_send_bind_iff.mp follows
  obtain ⟨-, ends⟩ := run_unstopped ends
  by_cases sd : StartMmc.isSd { mmc with cid := first.response }
  · rw [if_pos sd] at ends
    obtain rfl := congrArg (fun result => result.2.2) (run_pure_iff.mp ends).2
    exact ⟨_, _, rfl⟩
  · rw [if_neg sd] at ends
    obtain rfl := congrArg (fun result => result.2.2) (run_pure_iff.mp ends).2
    exact ⟨_, mmc.rca, rfl⟩

theorem avoids_identifyCard {cmdidx : Nat} (cid : mmcCmdAllSendCid ≠ cmdidx)
    (address : sdCmdSendRelativeAddr ≠ cmdidx) (cmd : MmcCmd) :
    Avoids cmdidx (identifyCard cmd mmc) := by
  refine ⟨cid, fun reply _ => ?_⟩
  show Always _ _ _ (if reply.error ≠ 0 then _ else _)
  split
  · trivial
  refine ⟨address, fun reply _ => ?_⟩
  show Always _ _ _ (if reply.error ≠ 0 then _ else _)
  split
  · trivial
  split
  · trivial
  · trivial

theorem avoids_sendStatus {cmdidx : Nat} (other : mmcCmdSendStatus ≠ cmdidx) (timeout : U32) :
    Avoids cmdidx (mmc.sendStatus timeout) := by
  have core : Always (fun _ => True) (Request.IsNot cmdidx) (fun _ => True)
      (mmcSendStatus mmc.described timeout) := always_mmcSendStatus mmc.described other timeout
  exact core.reading

/-- CSD is what the command gave, and the fields are decoded from it. -/
theorem run_readCsd {cmd after : MmcCmd}
    (run : Program.Run (readCsd cmd mmc) trace (0, after, left)) :
    ∃ freq csd, left = mmc.decodeCsd freq csd ∧ ∀ rest, csdRead (trace ++ rest) = some csd := by
  obtain ⟨reply, _, rfl, polling⟩ := run_send_bind_iff.mp run
  obtain ⟨_, status, _, rfl, -, follows⟩ := run_bind_iff.mp polling
  obtain ⟨-, follows⟩ := run_unstopped follows
  obtain ⟨_, freq, _, rfl, -, ends⟩ := run_bind_iff.mp follows
  obtain rfl := congrArg (fun result => result.2.2) (run_pure_iff.mp ends).2
  refine ⟨freq, reply.response, rfl, fun rest => ?_⟩
  unfold csdRead
  rw [List.cons_append, show mmcCmdSendCsd = (sendCsdCmd mmc cmd).cmdidx from rfl, firstReply_cons]
  rfl

theorem avoids_readCsd (cmd : MmcCmd) : Avoids mmcCmdSendExtCsd (readCsd cmd mmc) := by
  refine ⟨(by decide : mmcCmdSendCsd ≠ mmcCmdSendExtCsd), fun reply _ => ?_⟩
  have status : mmcCmdSendStatus ≠ mmcCmdSendExtCsd := by decide
  show Always _ _ _ (mmc.sendStatus 1000 >>= _)
  refine Always.bind (avoids_sendStatus status 1000) fun _ _ => ?_
  split
  · trivial
  have base (index : Nat) : Avoids mmcCmdSendExtCsd (readFbase index) := by
    unfold readFbase
    split
    · trivial
    · exact ⟨trivial, fun _ _ => trivial⟩
  exact Always.bind (base _) fun _ _ => trivial

theorem run_selectCard {cmd : MmcCmd} (run : Program.Run (selectCard cmd mmc) trace (0, left)) :
    ∃ clock, left =
      { mmc with clock := clock, eraseGrpSize := 1, partConfig := mmcpartNoavailable } := by
  obtain ⟨_, _, _, rfl, -, selecting⟩ := run_bind_iff.mp run
  obtain ⟨reply, _, rfl, follows⟩ := run_send_bind_iff.mp selecting
  obtain ⟨-, follows⟩ := run_unstopped follows
  obtain ⟨_, set, _, rfl, clocked, ends⟩ := run_bind_iff.mp follows
  obtain ⟨clock, rfl⟩ := run_mmcSetClock clocked
  obtain rfl := congrArg Prod.snd (run_pure_iff.mp ends).2
  exact ⟨clock, rfl⟩

theorem avoids_setIos (cmdidx : Nat) : Avoids cmdidx mmc.setIos := by
  unfold StartMmc.setIos mmcSetIos
  split
  · exact ⟨trivial, fun _ _ => trivial⟩
  · trivial

theorem avoids_selectCard (cmd : MmcCmd) : Avoids mmcCmdSendExtCsd (selectCard cmd mmc) := by
  have dsr : Avoids mmcCmdSendExtCsd (setDsr cmd mmc) := by
    unfold setDsr
    split
    · exact ⟨(by decide : mmcCmdSetDsr ≠ mmcCmdSendExtCsd), fun _ _ => trivial⟩
    · trivial
  refine Always.bind dsr fun _ _ => ?_
  refine ⟨(by decide : mmcCmdSelectCard ≠ mmcCmdSendExtCsd), fun reply _ => ?_⟩
  show Always _ _ _ (if reply.error ≠ 0 then _ else _)
  split
  · trivial
  unfold mmcSetClock
  rw [bind_assoc]
  exact Always.bind (avoids_setIos _) fun _ _ => trivial

/-- The descriptor with what follows from CSD -/
def StartMmc.started (mmc : StartMmc) (csd : Vector U32 4) : StartMmc :=
  { mmc.decodeCsd 0 csd with eraseGrpSize := 1 }

/-- In front of EXT_CSD a successful run reads CSD and does with it what `started` says. -/
theorem run_reachTransferMode {cmd : MmcCmd}
    (run : Program.Run (reachTransferMode cmd mmc) trace (0, left)) :
    ∃ csd, left.layout = (mmc.started csd).layout ∧ left.version = (mmc.started csd).version ∧
      ∀ rest, csdRead (trace ++ rest) = some csd := by
  obtain ⟨first, ⟨err, cmd, identified⟩, _, rfl, identifies, follows⟩ :=
    run_bind_iff.mp run
  obtain ⟨rfl, follows⟩ := run_unstopped follows
  obtain ⟨second, ⟨err, cmd, decoded⟩, _, rfl, reads, selects⟩ := run_bind_iff.mp follows
  obtain ⟨rfl, selects⟩ := run_unstopped selects
  obtain ⟨cid, rca, rfl⟩ := run_identifyCard identifies
  obtain ⟨freq, csd, rfl, read⟩ := run_readCsd reads
  obtain ⟨clock, rfl⟩ := run_selectCard selects
  refine ⟨csd, rfl, rfl, fun rest => ?_⟩
  unfold csdRead at read ⊢
  rw [List.append_assoc, Avoids.run (avoids_identifyCard (by decide) (by decide) _) identifies,
    List.append_assoc, read]

theorem avoids_reachTransferMode (cmd : MmcCmd) :
    Avoids mmcCmdSendExtCsd (reachTransferMode cmd mmc) := by
  refine Always.bind (avoids_identifyCard (by decide) (by decide) _) ?_
  rintro ⟨err, cmd, identified⟩ -
  show Always _ _ _ (if err ≠ 0 then _ else _)
  split
  · trivial
  refine Always.bind (avoids_readCsd _) ?_
  rintro ⟨err, cmd, decoded⟩ -
  show Always _ _ _ (if err ≠ 0 then _ else _)
  split
  · trivial
  exact avoids_selectCard _

/-! ### EXT_CSD -/

/-- The size a partitioned device is switched to -/
def StartMmc.takePartitionedSize (mmc : StartMmc) (extCsd : Buffer) : StartMmc :=
  if isPartitioned extCsd then { mmc with eraseGrpSize := mmc.hcEraseGprSize extCsd } else mmc

/-- The descriptor with what follows from EXT_CSD -/
def StartMmc.withExtCsd (mmc : StartMmc) (err : Int) (extCsd : Buffer) : StartMmc :=
  ((((mmc.takeSecCnt err extCsd).takeEraseGrpSize extCsd).takePartitionedSize
    extCsd).takePartitions extCsd).takeFeatures extCsd

/-- The version and the timeouts, which `useExtCsd` sets as well, are not in the layout. -/
theorem run_useExtCsd {err : Int} {extCsd : Buffer}
    (run : Program.Run (useExtCsd err extCsd mmc) trace (0, left)) :
    left.layout = (mmc.withExtCsd err extCsd).layout := by
  obtain ⟨_, updated, _, rfl, -, follows⟩ := run_bind_iff.mp run
  unfold StartMmc.withExtCsd StartMmc.takePartitionedSize
  by_cases partitioned : isPartitioned extCsd
  · rw [if_pos partitioned] at follows ⊢
    obtain ⟨_, _, rfl, -, ends⟩ := run_call follows
    obtain rfl := congrArg Prod.snd (run_pure_iff.mp ends).2
    unfold StartMmc.takePartitions
    split
    · rfl
    · rfl
  · rw [if_neg partitioned] at follows ⊢
    obtain rfl := congrArg Prod.snd (run_pure_iff.mp follows).2
    unfold StartMmc.takePartitions
    split
    · rfl
    · rfl

/-- The descriptor behind EXT_CSD, by the reply to the command that reads it -/
theorem run_readExtCsd {stack : StartStack}
    (run : Program.Run (readExtCsd stack mmc) trace (0, left)) :
    if mmc.hasExtCsd then
      ∃ reply, (∀ rest, firstReply mmcCmdSendExtCsd (trace ++ rest) = some reply) ∧
        left.layout = (mmc.withExtCsd reply.error (heldExtCsd stack reply)).layout
    else left = mmc := by
  unfold readExtCsd at run
  split
  · rename_i has
    rw [if_pos has] at run
    obtain ⟨reply, _, rfl, uses⟩ := run_send_bind_iff.mp run
    exact ⟨reply, fun rest => @firstReply_cons sendExtCsdCmd _ _ _, run_useExtCsd uses⟩
  · rename_i hasNot
    rw [if_neg hasNot] at run
    exact congrArg Prod.snd (run_pure_iff.mp run).2

/-- What a successful start-up has done with CSD, `transfer` being the descriptor when EXT_CSD is
read and `described` the one behind it -/
structure Started (stack : StartStack) (mmc left : StartMmc) (trace : List StartExchange)
    (csd : Vector U32 4) (transfer described : StartMmc) : Prop where
  read : csdRead trace = some csd
  decoded : transfer.layout = (mmc.started csd).layout
  extCsd : if (mmc.started csd).hasExtCsd then
      ∃ reply, firstReply mmcCmdSendExtCsd trace = some reply ∧
        described.layout = (transfer.withExtCsd reply.error (heldExtCsd stack reply)).layout
    else described = transfer
  fits : (mmcSetCapacity described described.partNum).1 = 0
  settled : left.layout = (mmcSetCapacity described described.partNum).2.layout
  lba : left.blockDev.lba = (left.capacity >>> 9).setWidth 32

theorem run_mmcStartup {stack : StartStack}
    (run : Program.Run (mmcStartup stack mmc) trace (0, left)) :
    ∃ csd transfer described, Started stack mmc left trace csd transfer described := by
  obtain ⟨before, transfer, _, rfl, reaches, reading⟩ :=
    run_part run
  obtain ⟨middle, described, rest, rfl, reads, follows⟩ :=
    run_part reading
  obtain ⟨fits, follows⟩ := run_unstopped follows
  obtain ⟨csd, layout, version, read⟩ := run_reachTransferMode reaches
  obtain ⟨kept, lba⟩ := run_raiseSpeed follows
  have same : transfer.hasExtCsd = (mmc.started csd).hasExtCsd := by
    unfold StartMmc.hasExtCsd StartMmc.isSd
    rw [version]
  refine ⟨csd, transfer, described, read _, layout, ?_, fits, kept, lba⟩
  have extCsd := run_readExtCsd reads
  rw [same] at extCsd
  split at extCsd
  · rename_i has
    obtain ⟨reply, first, decoded⟩ := extCsd
    rw [if_pos has]
    exact ⟨reply, (Avoids.run (avoids_reachTransferMode _) reaches _).trans (first _), decoded⟩
  · rename_i hasNot
    rw [if_neg hasNot]
    exact extCsd

end Parts

/-! ### A card that answers every command -/

/-- The replies of a card with these registers, which is ready at once -/
def serveRegisters (csd : Vector U32 4) (extCsd : Buffer) :
    (request : Request) → Unit → request.StartReply × Unit
  | .sendCmd cmd _, world =>
    (⟨0, if cmd.cmdidx = mmcCmdSendCsd then csd else #v[0x900, 0, 0, 0], extCsd⟩, world)
  | .setIos _ _ _, world => ((), world)
  | .updatePhase, world => (0, world)
  | .malloc _, world => (none, world)
  | .unsetWord, world => (0, world)

/-- An MMC of which nothing is known but that it has answered to CMD1 -/
def StartMmc.answered (highCapacity : Bool) : StartMmc where
  cfg := ⟨Mmc.unidentified.cfg, 400000, 50000000, 0x300000⟩
  version := mmcVersionUnknown
  hasInit := 0
  highCapacity := highCapacity
  busWidth := 1
  clock := 400000
  cardCaps := 0
  ocr := 0
  dsr := 0xffffffff
  dsrImp := 0
  scr := #v[0, 0]
  csd := noWords
  cid := noWords
  rca := 1
  partConfig := 0
  partNum := 0
  tranSpeed := 0
  readBlLen := 0
  writeBlLen := 0
  eraseGrpSize := 0
  capacity := 0
  capacityUser := 0
  capacityBoot := 0
  capacityRpmb := 0
  capacityGp := fun _ => 0
  blockDev := ⟨0, 0⟩
  opCondPending := 0
  initInProgress := 0
  opCondResponse := 0
  speedMode := ds26Sdr12
  ioMode := 0
  clockAfterInit := 0
  bootSupport := 0
  bootBusCond := 0
  eraseTimeout := 0
  trimDiscardTimeout := 0
  secureEraseTimeout := 0
  secureTrimTimeout := 0
  secureFeature := 0
  secureRemovalType := 0
  preEolInfo := 0
  devLifeTimeTypea := 0
  devLifeTimeTypeb := 0
  vendorHealthReport := fun _ => 0
  lba := 0

/-- A stack that holds zeros -/
def StartStack.zero : StartStack where
  cmd := ⟨0, 0, 0, some 0⟩
  extCsd := fun _ => 0

end PinePhonePkg
