/-
This file settles what `mmc_insecure_secure_erase` erases and what it records,
whatever the replies are. It sends at most one erase; which sectors that is, is
read off the addresses the card gets. They are the whole erase groups in the
range, unless the card is addressed by bytes and the address of the last sector
wraps. When the erase goes through, the recorded ranges are the rest of the
range, and else they are the range itself.
-/

import PinePhonePkg.Card.Wiped
import PinePhonePkg.Mmc.EraseTimeout
import PinePhonePkg.Library.Groups

namespace PinePhonePkg

open Library Program

/-! ### The range the alignment leaves -/

section Range

variable {mmc : Mmc} {first nr : U32}

/-- The sectors of the erase groups that lie whole in the range -/
def groupSectors (mmc : Mmc) (first nr : U32) : Set Nat :=
  wholeGroups mmc.eraseGrpSize.toNat first.toNat (first.toNat + nr.toNat)

theorem mmcAlignEraseGroup_onGroup (onGroup : first % mmc.eraseGrpSize = 0) :
    mmcAlignEraseGroup mmc first nr = (first, nr - nr % mmc.eraseGrpSize) :=
  if_neg (not_not.mpr onGroup)

/-- The sectors before the next group, when there are enough -/
theorem mmcAlignEraseGroup_offGroup (offGroup : first % mmc.eraseGrpSize ≠ 0)
    (remains : nr > mmc.eraseGrpSize - first % mmc.eraseGrpSize) :
    mmcAlignEraseGroup mmc first nr =
      (first + (mmc.eraseGrpSize - first % mmc.eraseGrpSize),
        nr - (mmc.eraseGrpSize - first % mmc.eraseGrpSize) -
          (nr - (mmc.eraseGrpSize - first % mmc.eraseGrpSize)) % mmc.eraseGrpSize) :=
  (if_pos offGroup).trans (if_pos remains)

/-- A count less what is over the last whole group has a group if it was long enough. -/
theorem toNat_sub_mod_pos {value group : U32} (positive : 0 < group.toNat)
    (enough : group.toNat ≤ value.toNat) : value - value % group ≠ 0 := by
  intro none
  have count := toNat_sub_mod value group
  have rest := Nat.mod_lt value.toNat positive
  rw [none] at count
  have zero : (0 : U32).toNat = 0 := rfl
  omega

/-- Where a group lies in the range, the alignment leaves something to erase. -/
theorem not_noGroup (fits : first.toNat + nr.toNat ≤ 2 ^ 32) {sector : Nat}
    (member : sector ∈ groupSectors mmc first nr) : ¬NoGroup mmc first nr := by
  have size : 0 < mmc.eraseGrpSize.toNat := mmc.eraseGrpSizePos
  obtain ⟨starts, ends⟩ := member
  have group : mmc.eraseGrpSize.toNat ∣ sector / mmc.eraseGrpSize.toNat * mmc.eraseGrpSize.toNat :=
    Nat.dvd_mul_left _ _
  unfold NoGroup groupRange
  rw [not_or, not_not]
  by_cases whole : mmcEraseGroupAligned mmc first nr = true
  · rw [if_pos whole]
    refine ⟨fun none => ?_, whole⟩
    have zero : nr.toNat = 0 := congrArg BitVec.toNat none
    omega
  rw [if_neg whole]
  by_cases onGroup : first % mmc.eraseGrpSize = 0
  · rw [mmcAlignEraseGroup_onGroup onGroup, mmcEraseGroupAligned_iff]
    refine ⟨toNat_sub_mod_pos size (by omega), toNat_mod_eq_zero.mp onGroup, ?_⟩
    rw [toNat_sub_mod]
    exact Nat.mod_eq_zero_of_dvd (Nat.dvd_sub_mod _)
  · obtain ⟨skipped, nextMultiple⟩ := @next_group first _ size
    have reached : first.toNat + (mmc.eraseGrpSize - first % mmc.eraseGrpSize).toNat ≤
        sector / mmc.eraseGrpSize.toNat * mmc.eraseGrpSize.toNat := by
      have offGroup : 0 < first.toNat % mmc.eraseGrpSize.toNat :=
        Nat.pos_of_ne_zero fun zero => onGroup (toNat_mod_eq_zero.mpr zero)
      exact multiple_le nextMultiple group (by omega)
    have remains : nr > mmc.eraseGrpSize - first % mmc.eraseGrpSize := BitVec.lt_def.mpr (by omega)
    have left : (nr - (mmc.eraseGrpSize - first % mmc.eraseGrpSize)).toNat =
        nr.toNat - (mmc.eraseGrpSize - first % mmc.eraseGrpSize).toNat :=
      BitVec.toNat_sub_of_le (BitVec.le_of_lt remains)
    rw [mmcAlignEraseGroup_offGroup onGroup remains, mmcEraseGroupAligned_iff]
    refine ⟨toNat_sub_mod_pos size (by omega), ?_, ?_⟩
    · have next : (first + (mmc.eraseGrpSize - first % mmc.eraseGrpSize)).toNat =
          first.toNat + (mmc.eraseGrpSize - first % mmc.eraseGrpSize).toNat :=
        (BitVec.toNat_add _ _).trans (Nat.mod_eq_of_lt (by omega))
      rw [next]
      exact Nat.mod_eq_zero_of_dvd nextMultiple
    · rw [toNat_sub_mod]
      exact Nat.mod_eq_zero_of_dvd (Nat.dvd_sub_mod _)

/-- The alignment leaves exactly the whole groups of the range. -/
theorem inRange_groupRange (fits : first.toNat + nr.toNat ≤ 2 ^ 32)
    (group : ¬NoGroup mmc first nr) (sector : Nat) :
    InRange (groupRange mmc first nr).1 (groupRange mmc first nr).2 sector ↔
      sector ∈ groupSectors mmc first nr := by
  have size : 0 < mmc.eraseGrpSize.toNat := mmc.eraseGrpSizePos
  obtain ⟨skipped, skippedSmall, skippedLe, onGroup, start, count⟩ :=
    groupRange_eq mmc first nr group
  have nonempty : (groupRange mmc first nr).2 ≠ 0 := fun none => group (Or.inl none)
  have rest := Nat.mod_lt (nr.toNat - skipped) size
  have restLe := Nat.mod_le (nr.toNat - skipped) mmc.eraseGrpSize.toNat
  have positive : 0 < (groupRange mmc first nr).2.toNat :=
    Nat.pos_of_ne_zero fun zero => nonempty (BitVec.eq_of_toNat_eq zero)
  have low : (groupRange mmc first nr).1.toNat = first.toNat + skipped := by
    rw [start]
    exact Nat.mod_eq_of_lt (by omega)
  have lowMultiple : mmc.eraseGrpSize.toNat ∣ (groupRange mmc first nr).1.toNat := by
    rw [low]
    exact Nat.dvd_of_mod_eq_zero onGroup
  have countMultiple : mmc.eraseGrpSize.toNat ∣ (groupRange mmc first nr).2.toNat := by
    rw [count]
    exact Nat.dvd_sub_mod _
  unfold groupSectors
  rw [wholeGroups_eq_Ico size lowMultiple (Nat.dvd_add lowMultiple countMultiple) (by omega)
    (by omega) (by omega) (by omega)]
  rfl

end Range

/-! ### The parts of the range -/

/-- The ranges have no sector in common. -/
def Apart (range other : U32 × U32) : Prop :=
  range.1.toNat + range.2.toNat ≤ other.1.toNat ∨ other.1.toNat + other.2.toNat ≤ range.1.toNat

/-- Every sector from `first` on, `nr` of them, lies in exactly one of the ranges, and no other
sector does. -/
structure Partitions (ranges : List (U32 × U32)) (first nr : U32) : Prop where
  apart : ranges.Pairwise Apart
  covers : ∀ sector, (∃ range ∈ ranges, InRange range.1 range.2 sector) ↔ InRange first nr sector

section Parts

variable {first nr alignFirst alignNr : U32} {skipped : Nat}

theorem leftoverRanges_apart (fits : first.toNat + nr.toNat ≤ 2 ^ 32)
    (moved : alignFirst.toNat = first.toNat + skipped)
    (inside : skipped + alignNr.toNat ≤ nr.toNat) :
    ((alignFirst, alignNr) :: leftoverRanges first nr alignFirst alignNr).Pairwise Apart := by
  have before : (alignFirst - first).toNat = skipped := by bv_omega
  have beforeApart : Apart (alignFirst, alignNr) (first, alignFirst - first) := by
    refine Or.inr ?_
    show first.toNat + (alignFirst - first).toNat ≤ alignFirst.toNat
    omega
  have after (some : nr - alignNr - (alignFirst - first) ≠ 0) :
      (alignFirst + alignNr).toNat = alignFirst.toNat + alignNr.toNat := by
    bv_omega
  unfold leftoverRanges
  by_cases head : alignFirst - first = 0
  · rw [if_neg (not_not.mpr head), List.nil_append]
    by_cases tail : nr - alignNr - (alignFirst - first) = 0
    · rw [if_neg (not_not.mpr tail)]
      exact List.pairwise_singleton _ _
    · rw [if_pos tail]
      exact List.pairwise_pair.mpr (Or.inl (after tail).ge)
  · rw [if_pos head]
    by_cases tail : nr - alignNr - (alignFirst - first) = 0
    · rw [if_neg (not_not.mpr tail)]
      exact List.pairwise_pair.mpr beforeApart
    · rw [if_pos tail]
      refine List.pairwise_cons.mpr ⟨fun range member => ?_, List.pairwise_pair.mpr (Or.inl ?_)⟩
      · rcases List.mem_pair.mp member with rfl | rfl
        · exact beforeApart
        · exact Or.inl (after tail).ge
      · show first.toNat + (alignFirst - first).toNat ≤ (alignFirst + alignNr).toNat
        rw [after tail]
        omega

theorem partitions_leftover (fits : first.toNat + nr.toNat ≤ 2 ^ 32)
    (moved : alignFirst.toNat = first.toNat + skipped)
    (inside : skipped + alignNr.toNat ≤ nr.toNat) :
    Partitions ((alignFirst, alignNr) :: leftoverRanges first nr alignFirst alignNr) first nr := by
  refine ⟨leftoverRanges_apart fits moved inside, fun sector => ?_⟩
  have small := alignFirst.isLt
  have left := @mem_leftoverRanges first nr alignFirst alignNr skipped sector
    (by rw [← moved, Nat.mod_eq_of_lt small]) inside
  rw [List.exists_mem_cons_iff, left]
  unfold InRange
  dsimp only
  omega

end Parts

/-- What the alignment leaves and what is recorded then are the parts of the range. -/
theorem partitions_groupRange {mmc : Mmc} {first nr : U32}
    (fits : first.toNat + nr.toNat ≤ 2 ^ 32) (group : ¬NoGroup mmc first nr) :
    Partitions (groupRange mmc first nr :: leftoverRanges first nr (groupRange mmc first nr).1
      (groupRange mmc first nr).2) first nr := by
  obtain ⟨skipped, _, skippedLe, _, start, count⟩ := groupRange_eq mmc first nr group
  have nonempty : (groupRange mmc first nr).2 ≠ 0 := fun none => group (Or.inl none)
  have positive : 0 < (groupRange mmc first nr).2.toNat :=
    Nat.pos_of_ne_zero fun zero => nonempty (BitVec.eq_of_toNat_eq zero)
  generalize groupRange mmc first nr = range at start count positive ⊢
  refine partitions_leftover fits (start.trans (Nat.mod_eq_of_lt ?_)) ?_
  · omega
  · omega

/-! ### The erase commands of a run -/

/-- The erase commands in order, each with the error it got -/
def sentErases (trace : List (Exchange Request Request.Reply)) : List (MmcCmd × Int) :=
  trace.filterMap fun
    | ⟨.sendCmd cmd _, reply⟩ =>
        if cmd.cmdidx ∈ [mmcCmdEraseGroupStart, mmcCmdEraseGroupEnd, mmcCmdErase] then
          some (cmd, reply.error)
        else none
    | _ => none

/-- The commands of one erase of a range; an empty range needs none. -/
def eraseSequence (mmc : Mmc) (range : U32 × U32) (eraseArg : U32) : List MmcCmd :=
  if range.2 = 0 then [] else
    [eraseAddressCmd mmc mmcCmdEraseGroupStart range.1,
      eraseAddressCmd mmc mmcCmdEraseGroupEnd (range.1 + range.2 - 1), eraseCmd eraseArg]

/-- No other command was sent, and when the result is zero all were, without an error. -/
structure Carries (sequence : List MmcCmd) (sent : List (MmcCmd × Int)) (result : Int) : Prop where
  inOrder : sent.map Prod.fst <+: sequence
  complete : result = 0 → sent = sequence.map fun cmd => (cmd, 0)

theorem carries_refused (sequence : List MmcCmd) {result : Int} (failed : result ≠ 0) :
    Carries sequence [] result :=
  ⟨List.nil_prefix, fun succeeded => absurd succeeded failed⟩

theorem sentErases_append (before after : List (Exchange Request Request.Reply)) :
    sentErases (before ++ after) = sentErases before ++ sentErases after :=
  List.filterMap_append

/-- A run of requests that leave the card alone has no erase command. -/
theorem sentErases_quiet {Result : Type} {program : Driver Result} {post : Result → Prop}
    (quiet : Always (fun _ => True) Request.Quiet post program)
    {trace : List (Exchange Request Request.Reply)} {result : Result}
    (run : Program.Run program trace result) : sentErases trace = [] ∧ post result := by
  obtain ⟨all, holds⟩ := quiet.run run fun _ _ => trivial
  refine ⟨List.filterMap_eq_nil_iff.mpr fun exchange member => ?_, holds⟩
  have isQuiet := all exchange member
  obtain ⟨request, reply⟩ := exchange
  cases request with
  | sendCmd cmd data =>
    refine if_neg fun erases => ?_
    have known : cmd.cmdidx ∈ _ := isQuiet
    simp only [List.mem_cons, List.not_mem_nil, or_false] at known erases
    rcases known with equal | equal | equal | equal <;> rw [equal] at erases <;>
      exact absurd erases (by decide)
  | setIos | updatePhase | malloc | unsetWord => rfl

section Runs

variable {mmc : Mmc} {trace : List (Exchange Request Request.Reply)}

/-- An erase address is sent once, and an error of the command is returned. -/
theorem run_mmcSetEraseAddr {cmdidx : Nat}
    (erases : cmdidx = mmcCmdEraseGroupStart ∨ cmdidx = mmcCmdEraseGroupEnd) {address : U32}
    {err : Int} (run : Program.Run (mmcSetEraseAddr mmc cmdidx address) trace err) :
    ∃ error, sentErases trace = [(eraseAddressCmd mmc cmdidx address, error)] ∧
      (err = 0 → error = 0) := by
  obtain ⟨reply, rest, rfl, follows⟩ := run_call_iff.mp run
  have sent : sentErases (⟨.sendCmd (eraseAddressCmd mmc cmdidx address) none, reply⟩ :: rest) =
      (eraseAddressCmd mmc cmdidx address, reply.error) :: sentErases rest := by
    refine List.filterMap_cons_some (if_pos ?_)
    rcases erases with rfl | rfl
    · exact List.mem_cons_self
    · exact List.mem_cons_of_mem _ List.mem_cons_self
  refine ⟨reply.error, ?_⟩
  rw [sent]
  change Program.Run (if reply.error ≠ 0 then pure reply.error else mmcSendStatus mmc 300) rest err
    at follows
  by_cases failed : reply.error ≠ 0
  · rw [if_pos failed] at follows
    obtain ⟨rfl, rfl⟩ := run_pure_iff.mp follows
    exact ⟨rfl, fun succeeded => succeeded⟩
  · rw [if_neg failed] at follows
    rw [(sentErases_quiet (quiet_mmcSendStatus mmc 300) follows).1]
    exact ⟨rfl, fun _ => not_not.mp failed⟩

/-- What follows the last command decides the result only. -/
theorem run_mmcLaunchErase {eraseArg : U32} {err : Int}
    (run : Program.Run (mmcLaunchErase eraseArg) trace err) :
    sentErases trace = [(eraseCmd eraseArg, err)] := by
  obtain ⟨reply, rest, rfl, follows⟩ := run_call_iff.mp run
  obtain ⟨rfl, rfl⟩ := run_pure_iff.mp follows
  exact List.filterMap_cons_some
    (if_pos (List.mem_cons_of_mem _ (List.mem_cons_of_mem _ List.mem_cons_self)))

theorem run_mmcDoErase {range : U32 × U32} (nonempty : range.2 ≠ 0) {eraseArg : U32}
    {result : Int × Mmc}
    (run : Program.Run (mmcDoErase mmc range.1 (range.1 + range.2 - 1) eraseArg) trace result) :
    Carries (eraseSequence mmc range eraseArg) (sentErases trace) result.1 := by
  unfold eraseSequence
  rw [if_neg nonempty]
  obtain ⟨before, updated, trace, rfl, ended, run⟩ := run_bind_iff.mp run
  obtain ⟨none, same⟩ := sentErases_quiet (quiet_mmcMmcUpdateTimeout mmc) ended
  rw [sentErases_append, none, List.nil_append, ← eraseAddressCmd_sameCard same,
    ← eraseAddressCmd_sameCard same]
  obtain ⟨before, err, trace, rfl, ended, run⟩ := run_bind_iff.mp run
  obtain ⟨error, sent, succeeded⟩ := run_mmcSetEraseAddr (Or.inl rfl) ended
  rw [sentErases_append, sent]
  by_cases failed : err ≠ 0
  · rw [if_pos failed] at run
    obtain ⟨rfl, rfl⟩ := run_pure_iff.mp run
    exact ⟨⟨_, rfl⟩, fun right => absurd right failed⟩
  rw [if_neg failed] at run
  rw [succeeded (not_not.mp failed)]
  obtain ⟨before, err, trace, rfl, ended, run⟩ := run_bind_iff.mp run
  obtain ⟨error, sent, succeeded⟩ := run_mmcSetEraseAddr (Or.inr rfl) ended
  rw [sentErases_append, sent]
  by_cases failed : err ≠ 0
  · rw [if_pos failed] at run
    obtain ⟨rfl, rfl⟩ := run_pure_iff.mp run
    exact ⟨⟨_, rfl⟩, fun right => absurd right failed⟩
  rw [if_neg failed] at run
  rw [succeeded (not_not.mp failed)]
  obtain ⟨before, err, trace, rfl, ended, run⟩ := run_bind_iff.mp run
  rw [sentErases_append, run_mmcLaunchErase ended]
  by_cases failed : err ≠ 0
  · rw [if_pos failed] at run
    obtain ⟨rfl, rfl⟩ := run_pure_iff.mp run
    exact ⟨⟨_, rfl⟩, fun right => absurd right failed⟩
  rw [if_neg failed] at run
  -- the wait for the card sends no erase command
  have none : sentErases trace = [] := by
    refine (@sentErases_quiet _ _ (fun _ => True) ?_ _ _ run).1
    show Always _ _ _ (if mmcEraseTimeout updated eraseArg _ = 0 then _ else _)
    generalize mmcEraseTimeout updated eraseArg _ = timeout
    by_cases unknown : timeout = 0
    · rw [if_pos unknown]
      trivial
    · rw [if_neg unknown]
      exact (quiet_mmcSendStatus updated _).bind fun _ _ => trivial
  rw [none, not_not.mp failed]
  exact ⟨⟨[], rfl⟩, fun _ => rfl⟩

/-- An erase that needs no second step refuses its range or erases it. -/
theorem run_mmcErase {range : U32 × U32} (nonempty : range.2 ≠ 0) {eraseArg : U32}
    (single : eraseArg ≠ mmcSecureTrim1Arg) {result : Int × Mmc}
    (run : Program.Run (mmcErase mmc range.1 range.2 eraseArg) trace result) :
    Carries (eraseSequence mmc range eraseArg) (sentErases trace) result.1 := by
  have refused (ended : Program.Run (pure ((-1 : Int), mmc) : Driver (Int × Mmc)) trace result) :
      Carries (eraseSequence mmc range eraseArg) (sentErases trace) result.1 := by
    obtain ⟨rfl, rfl⟩ := run_pure_iff.mp ended
    exact carries_refused _ (show (-1 : Int) ≠ 0 by decide)
  unfold mmcErase at run
  rw [if_neg nonempty] at run
  split at run
  · exact refused run
  split at run
  · exact refused run
  split at run
  · exact refused run
  obtain ⟨before, erased, after, rfl, ended, follows⟩ := run_bind_iff.mp run
  have carried := run_mmcDoErase nonempty ended
  change Program.Run
    (if erased.1 ≠ 0 then pure (-1, erased.2) else pure (0, erased.2)) after result at follows
  by_cases failed : erased.1 ≠ 0
  · rw [if_pos failed] at follows
    obtain ⟨rfl, rfl⟩ := run_pure_iff.mp follows
    rw [List.append_nil]
    exact ⟨carried.inOrder, fun succeeded =>
      absurd (show (-1 : Int) = 0 from succeeded) (by decide)⟩
  · rw [if_neg failed] at follows
    obtain ⟨rfl, rfl⟩ := run_pure_iff.mp follows
    rw [List.append_nil]
    exact ⟨carried.inOrder, fun _ => carried.complete (not_not.mp failed)⟩

/-- A range off the groups is turned down before anything is sent. -/
theorem run_mmcErase_unaligned {first nr eraseArg : U32} (nonempty : nr ≠ 0)
    (needsGroups : eraseArg = mmcEraseArg ∨ eraseArg = mmcSecureEraseArg)
    (unaligned : ¬mmcEraseGroupAligned mmc first nr) {result : Int × Mmc}
    (run : Program.Run (mmcErase mmc first nr eraseArg) trace result) :
    trace = [] ∧ result = (-1, mmc) := by
  unfold mmcErase at run
  rw [if_neg nonempty, if_pos (⟨needsGroups, unaligned⟩ : _ ∧ _)] at run
  split at run
  · exact run_pure_iff.mp run
  split at run
  · exact run_pure_iff.mp run
  exact run_pure_iff.mp run

end Runs

/-! ### Runs in which every command succeeds -/

section Succeeding

variable {mmc : Mmc}

/-- What always holds of a program that leaves the card alone -/
theorem eachRun_quiet {Result : Type} {program : Driver Result} {post : Result → Prop}
    (quiet : Always (fun _ => True) Request.Quiet post program) :
    EachRun Succeeds (fun trace result => sentErases trace = [] ∧ post result) program :=
  fun _ _ run _ => sentErases_quiet quiet run

theorem eachRun_mmcSetEraseAddr {cmdidx : Nat}
    (erases : cmdidx = mmcCmdEraseGroupStart ∨ cmdidx = mmcCmdEraseGroupEnd) (address : U32) :
    EachRun Succeeds
      (fun trace err => sentErases trace = [(eraseAddressCmd mmc cmdidx address, 0)] ∧ err = 0)
      (mmcSetEraseAddr mmc cmdidx address) := by
  intro trace err run good
  have zero := ((succeeds_mmcSetEraseAddr mmc cmdidx address).run run good).2
  obtain ⟨error, sent, succeeded⟩ := run_mmcSetEraseAddr erases run
  rw [succeeded zero] at sent
  exact ⟨sent, zero⟩

theorem eachRun_mmcLaunchErase (eraseArg : U32) :
    EachRun Succeeds
      (fun trace err => sentErases trace = [(eraseCmd eraseArg, 0)] ∧ err = 0)
      (mmcLaunchErase eraseArg) := by
  intro trace err run good
  have always : Always Succeeds (fun _ => True) (fun err => err = 0)
      (mmcLaunchErase eraseArg) := ⟨trivial, fun _ good => good.1⟩
  have zero := (always.run run good).2
  have sent := run_mmcLaunchErase run
  rw [zero] at sent
  exact ⟨sent, zero⟩

/-- The time that an erase of these sectors is given, when the card names one, fits the counter. -/
def GivenTime (mmc : Mmc) (first last eraseArg : U32) : Prop :=
  0 < mmcEraseTimeout mmc eraseArg (eraseQty mmc first last) ∧
    (mmcEraseTimeout mmc eraseArg (eraseQty mmc first last)).toNat < 2 ^ 31

/-- Then the whole erase is sent, and it is reported unless it was given no time. -/
theorem eachRun_mmcDoErase (range : U32 × U32) (nonempty : range.2 ≠ 0) (eraseArg : U32) :
    EachRun Succeeds
      (fun trace result =>
        sentErases trace = (eraseSequence mmc range eraseArg).map (fun cmd => (cmd, 0)) ∧
          (GivenTime result.2 range.1 (range.1 + range.2 - 1) eraseArg → result.1 = 0))
      (mmcDoErase mmc range.1 (range.1 + range.2 - 1) eraseArg) := by
  unfold eraseSequence
  rw [if_neg nonempty, mmcDoErase_eq]
  refine (eachRun_quiet (quiet_mmcMmcUpdateTimeout mmc)).bind fun before updated prepared => ?_
  rw [← eraseAddressCmd_sameCard prepared.2, ← eraseAddressCmd_sameCard prepared.2]
  refine (eachRun_mmcSetEraseAddr (Or.inl rfl) _).bind fun atStart err started => ?_
  rw [if_neg (not_not.mpr started.2)]
  refine (eachRun_mmcSetEraseAddr (Or.inr rfl) _).bind fun atEnd err ended => ?_
  rw [if_neg (not_not.mpr ended.2)]
  refine (eachRun_mmcLaunchErase eraseArg).bind fun atErase err launched => ?_
  rw [if_neg (not_not.mpr launched.2)]
  have sent (after : List (Exchange Request Request.Reply)) (none : sentErases after = []) :
      sentErases (before ++ (atStart ++ (atEnd ++ (atErase ++ after)))) =
        [(eraseAddressCmd updated mmcCmdEraseGroupStart range.1, 0),
          (eraseAddressCmd updated mmcCmdEraseGroupEnd (range.1 + range.2 - 1), 0),
          (eraseCmd eraseArg, 0)] := by
    simp only [sentErases_append, prepared.1, started.1, ended.1, launched.1, none]
    rfl
  dsimp only
  split
  · rename_i unknown
    refine eachRun_pure (⟨sent [] rfl, fun waits => ?_⟩ : _ ∧ _)
    exact absurd unknown (by have := waits.1; bv_omega)
  · intro trace result run good
    obtain ⟨during, status, after, rfl, waited, finished⟩ := run_bind_iff.mp run
    obtain ⟨rfl, rfl⟩ := run_pure_iff.mp finished
    have none := (sentErases_quiet (quiet_mmcSendStatus updated _) waited).1
    rw [List.append_nil] at good ⊢
    exact ⟨sent during none, fun waits =>
      ((succeeds_mmcSendStatus updated _ waits.1 waits.2).run waited good).2⟩

theorem eachRun_mmcErase (range : U32 × U32) (nonempty : range.2 ≠ 0) (notSd : mmc.isSd = false)
    {eraseArg : U32} (arg : eraseArg = mmcEraseArg ∨ eraseArg = mmcSecureEraseArg)
    (aligned : mmcEraseGroupAligned mmc range.1 range.2 = true) :
    EachRun Succeeds
      (fun trace result =>
        sentErases trace = (eraseSequence mmc range eraseArg).map (fun cmd => (cmd, 0)) ∧
          (GivenTime result.2 range.1 (range.1 + range.2 - 1) eraseArg → result.1 = 0))
      (mmcErase mmc range.1 range.2 eraseArg) := by
  have single : eraseArg ≠ mmcSecureTrim1Arg := by
    rcases arg with rfl | rfl <;> decide
  unfold mmcErase
  rw [if_neg nonempty, if_neg (by rw [notSd]; exact Bool.false_ne_true), if_neg (by tauto),
    if_neg fun bad => bad.2 aligned]
  refine (eachRun_mmcDoErase range nonempty eraseArg).bind fun before erased carried => ?_
  show EachRun _ _ (if erased.1 ≠ 0 then _ else if eraseArg = mmcSecureTrim1Arg then _ else _)
  rw [if_neg single]
  split
  · rename_i failed
    refine eachRun_pure (⟨?_, fun waits => absurd (carried.2 waits) failed⟩ : _ ∧ _)
    rw [List.append_nil]
    exact carried.1
  · refine eachRun_pure (⟨?_, fun _ => rfl⟩ : _ ∧ _)
    rw [List.append_nil]
    exact carried.1

end Succeeding

/-! ### What the card erases -/

/-- The ranges that the erase commands ask of a card, each with its first and its last sector. The
card keeps the sectors of a CMD35 and a CMD36 until the CMD38. -/
def askedErases (mmc : Mmc) : Option Nat → Option Nat → List MmcCmd → List (Nat × Nat)
  | _, _, [] => []
  | first, last, cmd :: rest =>
      if cmd.cmdidx = mmcCmdEraseGroupStart then
        askedErases mmc (some (mmc.namedSector cmd)) last rest
      else if cmd.cmdidx = mmcCmdEraseGroupEnd then
        askedErases mmc first (some (mmc.namedSector cmd)) rest
      else
        (match first, last with
          | some first, some last => [(first, last)]
          | _, _ => []) ++ askedErases mmc none none rest

/-- The ranges that were erased in a run, read off what the card got. A CMD38 counts also when it
failed, since nothing is known of the sectors then. -/
def erasedRanges (mmc : Mmc) (trace : List (Exchange Request Request.Reply)) : List (Nat × Nat) :=
  askedErases mmc none none ((sentErases trace).map Prod.fst)

/-- The sectors of an erased range -/
def sectorsOf (range : Nat × Nat) : Set Nat :=
  Set.Icc range.1 range.2

section Erased

variable {mmc : Mmc} {range : U32 × U32} {eraseArg : U32}

theorem askedErases_eraseSequence (nonempty : range.2 ≠ 0) :
    askedErases mmc none none (eraseSequence mmc range eraseArg) =
      [(mmc.landsOn mmc.writeBlLen range.1,
        mmc.landsOn mmc.writeBlLen (range.1 + range.2 - 1))] := by
  unfold eraseSequence
  rw [if_neg nonempty, ← namedSector_eraseAddress mmc mmcCmdEraseGroupStart range.1,
    ← namedSector_eraseAddress mmc mmcCmdEraseGroupEnd (range.1 + range.2 - 1)]
  rfl

/-- Before its last command an erase asks for nothing. -/
theorem askedErases_starts (nonempty : range.2 ≠ 0) {cmds : List MmcCmd}
    (inOrder : cmds <+: eraseSequence mmc range eraseArg) :
    askedErases mmc none none cmds = [] ∨ cmds = eraseSequence mmc range eraseArg := by
  unfold eraseSequence at inOrder ⊢
  rw [if_neg nonempty] at inOrder ⊢
  rcases List.prefix_cons_iff.mp inOrder with rfl | ⟨cmds, rfl, fromEnd⟩
  · exact Or.inl rfl
  rcases List.prefix_cons_iff.mp fromEnd with rfl | ⟨cmds, rfl, fromErase⟩
  · exact Or.inl rfl
  rcases List.prefix_cons_iff.mp fromErase with rfl | ⟨cmds, rfl, after⟩
  · exact Or.inl rfl
  · rw [List.prefix_nil.mp after]
    exact Or.inr rfl

end Erased

/-- What a run erased and recorded, as far as its result tells -/
structure GroupErase (mmc : Mmc) (first nr eraseArg : U32)
    (trace : List (Exchange Request Request.Reply)) (result : Int × Mmc × SkipSpace) : Prop where
  /-- What the card erases, also when that fails, is the whole groups of the range. -/
  contained : ∀ erased ∈ erasedRanges mmc trace, sectorsOf erased = groupSectors mmc first nr
  /-- The erase is of the kind that was asked for. -/
  kind : ∀ sent ∈ sentErases trace, sent.1.cmdidx = mmcCmdErase → sent.1.cmdarg = eraseArg
  /-- After a success an erase was sent without an error, and the record has the rest of the
  range. -/
  success : result.1 = 0 → (∀ sent ∈ sentErases trace, sent.2 = 0) ∧
    ∃ (erased : Nat × Nat) (range : U32 × U32) (ranges : List (U32 × U32)),
      erasedRanges mmc trace = [erased] ∧
        (∀ sector, InRange range.1 range.2 sector ↔ sector ∈ sectorsOf erased) ∧
        Records result.2.2 ranges ∧ Partitions (range :: ranges) first nr
  /-- Without a group, nothing is sent, and the record is the range. -/
  nothing : groupSectors mmc first nr = ∅ →
    sentErases trace = [] ∧ result.1 ≠ 0 ∧ Records result.2.2 [(first, nr)]
  failure : result.1 ≠ 0 → Records result.2.2 [(first, nr)]
  /-- With a group, a card that takes every command is told to erase it, and the erase is reported
  as done when it was given time. -/
  carriedOut : groupSectors mmc first nr ≠ ∅ → mmc.isSd = false →
    (∀ exchange ∈ trace, Succeeds exchange) →
    erasedRanges mmc trace ≠ [] ∧
      (GivenTime result.2.1 (firstNamed true mmc first)
        (lastNamed true mmc (first.toNat + nr.toNat)) eraseArg → result.1 = 0)

section GroupErase

variable {mmc : Mmc} {first nr eraseArg : U32} {trace : List (Exchange Request Request.Reply)}
  {result : Int × Mmc × SkipSpace}

/-- A run that sends nothing, fails and records the range -/
theorem groupErase_refused (refuses : groupSectors mmc first nr = ∅ ∨ mmc.isSd = true)
    (none : sentErases trace = []) (failed : result.1 ≠ 0)
    (recorded : Records result.2.2 [(first, nr)]) :
    GroupErase mmc first nr eraseArg trace result where
  contained erased member := by
    unfold erasedRanges at member
    rw [none] at member
    exact absurd member List.not_mem_nil
  kind sent member := by
    rw [none] at member
    exact absurd member List.not_mem_nil
  success succeeded := absurd succeeded failed
  nothing _ := ⟨none, failed, recorded⟩
  failure _ := recorded
  carriedOut some notSd := by
    rcases refuses with empty | isSd
    · exact absurd empty some
    · exact absurd (isSd.symm.trans notSd) (by decide)

/-- The alignment leaves sectors of the range. -/
theorem groupRange_inside (fits : first.toNat + nr.toNat ≤ 2 ^ 32) (group : ¬NoGroup mmc first nr) :
    (groupRange mmc first nr).1 ≤
        (groupRange mmc first nr).1 + (groupRange mmc first nr).2 - 1 ∧
      ((groupRange mmc first nr).1 + (groupRange mmc first nr).2 - 1).toNat + 1 =
        (groupRange mmc first nr).1.toNat + (groupRange mmc first nr).2.toNat := by
  obtain ⟨skipped, _, skippedLe, _, start, count⟩ := groupRange_eq mmc first nr group
  have nonempty : (groupRange mmc first nr).2 ≠ 0 := fun none => group (Or.inl none)
  generalize groupRange mmc first nr = range at start count nonempty ⊢
  constructor <;> bv_omega

/-- The sectors between those that the card gets are the groups exactly when the last one is
reached. -/
theorem sectorsOf_groupRange_iff (fits : first.toNat + nr.toNat ≤ 2 ^ 32)
    (group : ¬NoGroup mmc first nr) :
    sectorsOf (mmc.landsOn mmc.writeBlLen (groupRange mmc first nr).1,
        mmc.landsOn mmc.writeBlLen
          ((groupRange mmc first nr).1 + (groupRange mmc first nr).2 - 1)) =
      groupSectors mmc first nr ↔
    mmc.Reaches mmc.writeBlLen (lastNamed true mmc (first.toNat + nr.toNat)) := by
  have whole := inRange_groupRange fits group
  obtain ⟨order, last⟩ := groupRange_inside fits group
  rw [← (groupRange_named mmc first nr group).2]
  have inside : ((groupRange mmc first nr).1 + (groupRange mmc first nr).2 - 1).toNat ∈
      groupSectors mmc first nr :=
    (whole _).mp ⟨BitVec.le_def.mp order, by omega⟩
  constructor
  · intro same
    rw [← same] at inside
    exact Nat.le_antisymm (landsOn_le mmc _ _) inside.2
  · intro reaches
    have start : mmc.landsOn mmc.writeBlLen (groupRange mmc first nr).1 =
        (groupRange mmc first nr).1.toNat := reaches.before order
    have stop : mmc.landsOn mmc.writeBlLen
        ((groupRange mmc first nr).1 + (groupRange mmc first nr).2 - 1) =
        ((groupRange mmc first nr).1 + (groupRange mmc first nr).2 - 1).toNat := reaches
    ext sector
    rw [← whole sector, start, stop]
    constructor
    · exact fun between => ⟨between.1, by have := between.2; dsimp only at this; omega⟩
    · exact fun between => ⟨between.1, by have := between.2; dsimp only; omega⟩

end GroupErase

/-! ### The erase with its record -/

section Record

variable {mmc : Mmc} {first nr : U32} {skipSpace : SkipSpace} {secure : Bool}

/-- The argument of the erase -/
def groupEraseArg (secure : Bool) : U32 :=
  if secure then mmcSecureEraseArg else mmcEraseArg

theorem groupEraseArg_cases (secure : Bool) :
    groupEraseArg secure = mmcEraseArg ∨ groupEraseArg secure = mmcSecureEraseArg := by
  cases secure
  · exact Or.inl rfl
  · exact Or.inr rfl

theorem groupEraseArg_single (secure : Bool) : groupEraseArg secure ≠ mmcSecureTrim1Arg := by
  cases secure <;> decide

theorem mmcInsecureSecureErase_eq (mmc : Mmc) (first nr : U32) (skipSpace : SkipSpace)
    (secure : Bool) :
    mmcInsecureSecureErase mmc first nr skipSpace secure =
      if (groupRange mmc first nr).2 = 0 then
        pure (-1, mmc, mmcAddSkipSpace (Function.update skipSpace 0 0) 0 first nr)
      else do
        let result ← mmcErase mmc (groupRange mmc first nr).1 (groupRange mmc first nr).2
          (groupEraseArg secure)
        if result.1 ≠ 0 then
          return (result.1, result.2,
            mmcAddSkipSpace (Function.update skipSpace 0 0) 0 first nr)
        return (result.1, result.2, leftOut (Function.update skipSpace 0 0) first nr
          (groupRange mmc first nr).1 (groupRange mmc first nr).2) :=
  rfl

variable {trace : List (Exchange Request Request.Reply)} {result : Int × Mmc × SkipSpace}

/-- Without a group, and on an SD card, nothing is sent. -/
theorem run_insecureErase_refused (refuses : NoGroup mmc first nr ∨ mmc.isSd = true)
    (run : Program.Run (mmcInsecureSecureErase mmc first nr skipSpace secure) trace result) :
    sentErases trace = [] ∧ result.1 ≠ 0 ∧ Records result.2.2 [(first, nr)] := by
  have failed : (-1 : Int) ≠ 0 := by decide
  rw [mmcInsecureSecureErase_eq] at run
  by_cases none : (groupRange mmc first nr).2 = 0
  · rw [if_pos none] at run
    obtain ⟨rfl, rfl⟩ := run_pure_iff.mp run
    exact ⟨rfl, failed, records_whole skipSpace first nr⟩
  rw [if_neg none] at run
  obtain ⟨before, erased, after, rfl, ended, follows⟩ := run_bind_iff.mp run
  have turnedDown : before = [] ∧ erased = (-1, mmc) := by
    rcases refuses with noGroup | isSd
    · exact run_mmcErase_unaligned none (groupEraseArg_cases secure) (noGroup.resolve_left none)
        ended
    · unfold mmcErase at ended
      rw [if_neg none, if_pos isSd] at ended
      exact run_pure_iff.mp ended
  obtain ⟨rfl, rfl⟩ := turnedDown
  obtain ⟨rfl, rfl⟩ := run_pure_iff.mp follows
  exact ⟨rfl, failed, records_whole skipSpace first nr⟩

/-- With a group, what is sent is at most the erase of the groups, and the record follows the
result. -/
theorem run_insecureErase_carries (group : ¬NoGroup mmc first nr)
    (run : Program.Run (mmcInsecureSecureErase mmc first nr skipSpace secure) trace result) :
    Carries (eraseSequence mmc (groupRange mmc first nr) (groupEraseArg secure)) (sentErases trace)
        result.1 ∧
      Records result.2.2 (if result.1 ≠ 0 then [(first, nr)] else
        leftoverRanges first nr (groupRange mmc first nr).1 (groupRange mmc first nr).2) := by
  have some : (groupRange mmc first nr).2 ≠ 0 := fun none => group (Or.inl none)
  rw [mmcInsecureSecureErase_eq, if_neg some] at run
  obtain ⟨before, erased, after, rfl, ended, follows⟩ := run_bind_iff.mp run
  have carried := run_mmcErase some (groupEraseArg_single secure) ended
  by_cases failed : erased.1 ≠ 0
  · rw [if_pos failed] at follows
    obtain ⟨rfl, rfl⟩ := run_pure_iff.mp follows
    rw [List.append_nil, if_pos failed]
    exact ⟨carried, records_whole skipSpace first nr⟩
  · rw [if_neg failed] at follows
    obtain ⟨rfl, rfl⟩ := run_pure_iff.mp follows
    rw [List.append_nil, if_neg failed]
    exact ⟨carried, records_leftOut skipSpace first nr _ _⟩

/-- When every command succeeds, all of it is sent. -/
theorem eachRun_insecureErase (group : ¬NoGroup mmc first nr) (notSd : mmc.isSd = false) :
    EachRun Succeeds
      (fun trace result =>
        sentErases trace =
            (eraseSequence mmc (groupRange mmc first nr) (groupEraseArg secure)).map
              (fun cmd => (cmd, 0)) ∧
          (GivenTime result.2.1 (firstNamed true mmc first)
            (lastNamed true mmc (first.toNat + nr.toNat)) (groupEraseArg secure) → result.1 = 0))
      (mmcInsecureSecureErase mmc first nr skipSpace secure) := by
  have some : (groupRange mmc first nr).2 ≠ 0 := fun none => group (Or.inl none)
  have aligned : mmcEraseGroupAligned mmc (groupRange mmc first nr).1 (groupRange mmc first nr).2 =
      true := by
    by_contra unaligned
    exact group (Or.inr unaligned)
  rw [mmcInsecureSecureErase_eq, if_neg some, ← (groupRange_named mmc first nr group).1,
    ← (groupRange_named mmc first nr group).2]
  refine (eachRun_mmcErase _ some notSd (groupEraseArg_cases secure) aligned).bind
    fun before erased carried => ?_
  split
  · rename_i failed
    refine eachRun_pure (⟨?_, fun waits => absurd (carried.2 waits) failed⟩ : _ ∧ _)
    rw [List.append_nil]
    exact carried.1
  · rename_i done
    refine eachRun_pure (⟨?_, fun _ => not_not.mp done⟩ : _ ∧ _)
    rw [List.append_nil]
    exact carried.1

theorem noGroup_iff (fits : first.toNat + nr.toNat ≤ 2 ^ 32) :
    NoGroup mmc first nr ↔ groupSectors mmc first nr = ∅ := by
  constructor
  · exact fun none => Set.eq_empty_of_forall_notMem fun sector member => not_noGroup fits member none
  · intro empty
    by_contra group
    obtain ⟨order, last⟩ := groupRange_inside fits group
    have inside : InRange (groupRange mmc first nr).1 (groupRange mmc first nr).2
        (groupRange mmc first nr).1.toNat :=
      ⟨Nat.le_refl _, by have := BitVec.le_def.mp order; omega⟩
    exact Set.eq_empty_iff_forall_notMem.mp empty _ ((inRange_groupRange fits group _).mp inside)

/-- A run with a group that the card reaches -/
theorem groupErase_of_reaches (fits : first.toNat + nr.toNat ≤ 2 ^ 32)
    (group : ¬NoGroup mmc first nr)
    (reaches : mmc.Reaches mmc.writeBlLen (lastNamed true mmc (first.toNat + nr.toNat)))
    (run : Program.Run (mmcInsecureSecureErase mmc first nr skipSpace secure) trace result) :
    GroupErase mmc first nr (groupEraseArg secure) trace result := by
  have some : (groupRange mmc first nr).2 ≠ 0 := fun none => group (Or.inl none)
  have same := (sectorsOf_groupRange_iff fits group).mpr reaches
  obtain ⟨carried, recorded⟩ := run_insecureErase_carries group run
  have asked := @askedErases_eraseSequence mmc _ (groupEraseArg secure) some
  have erasedOf (all : (sentErases trace).map Prod.fst =
      eraseSequence mmc (groupRange mmc first nr) (groupEraseArg secure)) :
      erasedRanges mmc trace = _ := (congrArg (askedErases mmc none none) all).trans asked
  refine ⟨fun erased member => ?_, fun sent member isErase => ?_, fun succeeded => ?_,
    fun empty => absurd ((noGroup_iff fits).mpr empty) group, fun failed => ?_, fun _ notSd good => ?_⟩
  · rcases askedErases_starts some carried.inOrder with none | all
    · unfold erasedRanges at member
      rw [none] at member
      exact absurd member List.not_mem_nil
    · rw [erasedOf all, List.mem_singleton] at member
      rw [member]
      exact same
  · have known := carried.inOrder.subset (List.mem_map_of_mem member)
    unfold eraseSequence at known
    rw [if_neg some] at known
    simp only [List.mem_cons, List.not_mem_nil, or_false] at known
    rcases known with equal | equal | equal <;> rw [equal] at isErase ⊢
    · exact absurd isErase (by decide : mmcCmdEraseGroupStart ≠ mmcCmdErase)
    · exact absurd isErase (by decide : mmcCmdEraseGroupEnd ≠ mmcCmdErase)
    · rfl
  · have complete := carried.complete succeeded
    rw [if_neg (not_not.mpr succeeded)] at recorded
    refine ⟨fun sent member => ?_, _, groupRange mmc first nr, _, erasedOf ?_, fun sector => ?_,
      recorded, partitions_groupRange fits group⟩
    · rw [complete] at member
      obtain ⟨cmd, _, rfl⟩ := List.mem_map.mp member
      rfl
    · rw [complete, List.map_map]
      exact List.map_id _
    · rw [same]
      exact inRange_groupRange fits group sector
  · rw [if_pos failed] at recorded
    exact recorded
  · obtain ⟨sent, reported⟩ := eachRun_insecureErase group notSd trace result run good
    refine ⟨?_, reported⟩
    rw [erasedOf (by rw [sent, List.map_map]; exact List.map_id _)]
    exact List.cons_ne_nil _ _

/-- The groups of a range are erased right in every run, or in one that succeeds they are not. -/
theorem groupErase_runs_iff (mmc : Mmc) (first nr : U32) (skipSpace : SkipSpace) (secure : Bool)
    (fits : first.toNat + nr.toNat ≤ 2 ^ 32) :
    (∀ trace result,
      Program.Run (mmcInsecureSecureErase mmc first nr skipSpace secure) trace result →
        GroupErase mmc first nr (groupEraseArg secure) trace result) ↔
      groupSectors mmc first nr = ∅ ∨ mmc.isSd = true ∨
        mmc.Reaches mmc.writeBlLen (lastNamed true mmc (first.toNat + nr.toNat)) := by
  by_cases group : NoGroup mmc first nr
  · have empty := (noGroup_iff fits).mp group
    refine iff_of_true (fun trace result run => ?_) (Or.inl empty)
    obtain ⟨none, failed, recorded⟩ := run_insecureErase_refused (Or.inl group) run
    exact groupErase_refused (Or.inl empty) none failed recorded
  by_cases isSd : mmc.isSd = true
  · refine iff_of_true (fun trace result run => ?_) (Or.inr (Or.inl isSd))
    obtain ⟨none, failed, recorded⟩ := run_insecureErase_refused (Or.inr isSd) run
    exact groupErase_refused (Or.inr isSd) none failed recorded
  have notSd : mmc.isSd = false := Bool.eq_false_iff.mpr isSd
  have inhabited : groupSectors mmc first nr ≠ ∅ := fun empty => group ((noGroup_iff fits).mpr empty)
  have some : (groupRange mmc first nr).2 ≠ 0 := fun none => group (Or.inl none)
  constructor
  · intro right
    -- in the run in which every command succeeds, the erase is sent
    have run := run_exec serveWell
      (mmcInsecureSecureErase mmc first nr skipSpace secure) ()
    have erases := right _ _ run
    have sent := (erases.carriedOut inhabited notSd (trace_serveWell_succeeds _ ())).1
    have all := (askedErases_starts some (run_insecureErase_carries group run).1.inOrder).resolve_left
      sent
    have erased := (congrArg (askedErases mmc none none) all).trans (askedErases_eraseSequence some)
    refine Or.inr (Or.inr ((sectorsOf_groupRange_iff fits group).mp (erases.contained _ ?_)))
    unfold erasedRanges
    rw [erased]
    exact List.mem_singleton_self _
  · intro condition trace result run
    exact groupErase_of_reaches fits group
      ((condition.resolve_left inhabited).resolve_left isSd) run

end Record

/-- In every run the erase is one of the whole groups of the range and the record is what it left,
exactly when there is no group, the card is an SD card, which is turned down, or the address of the
last sector of the groups leads to this sector. -/
theorem mmcInsecureSecureErase_groups (mmc : Mmc) (first nr : U32) (skipSpace : SkipSpace)
    (secure : Bool) (fits : first.toNat + nr.toNat ≤ 2 ^ 32) :
    (∀ trace result,
      Program.Run (mmcInsecureSecureErase mmc first nr skipSpace secure) trace result →
        GroupErase mmc first nr (groupEraseArg secure) trace result) ↔
      groupSectors mmc first nr = ∅ ∨ mmc.isSd = true ∨
        mmc.Reaches mmc.writeBlLen (lastNamed true mmc (first.toNat + nr.toNat)) :=
  groupErase_runs_iff mmc first nr skipSpace secure fits

/-- Of 3000 sectors from the hundredth on, two groups of 1024 are erased, in every run. -/
theorem mmcInsecureSecureErase_groups_erasableDevice :
    (100 : U32).toNat + (3000 : U32).toNat ≤ 2 ^ 32 ∧
      ∀ trace result,
        Program.Run (mmcInsecureSecureErase erasableDevice 100 3000 (fun _ => 0) false) trace
          result → GroupErase erasableDevice 100 3000 mmcEraseArg trace result :=
  ⟨by decide, (mmcInsecureSecureErase_groups erasableDevice 100 3000 _ false (by decide)).mpr
    (Or.inr (Or.inr (by decide)))⟩

/-- On a card of 2^24 blocks that is addressed by bytes, the erase of the group from 2^23 on erases
the first group of the card. -/
theorem mmcInsecureSecureErase_wraps :
    ¬ ∀ trace result,
      Program.Run (mmcInsecureSecureErase
          { erasableDevice with highCapacity := false, blockDev := ⟨0x1000000⟩ } 0x800000 1024
          (fun _ => 0) false) trace result →
        GroupErase { erasableDevice with highCapacity := false, blockDev := ⟨0x1000000⟩ } 0x800000
          1024 mmcEraseArg trace result := by
  intro right
  rcases (groupErase_runs_iff _ 0x800000 1024 (fun _ => 0) false (by decide)).mp right with
    empty | isSd | reaches
  · exact absurd ((noGroup_iff (by decide)).mpr empty) (by decide)
  · exact absurd isSd (by decide)
  · exact absurd reaches (by decide)

example : groupRange erasableDevice 100 3000 = (1024, 2048) := by decide

end PinePhonePkg
