/-
This file settles what the result of a secure wipe says about the sectors of its
range. A wipe is one of five methods: an erase step, which may leave out the
sectors before and after the whole erase groups, and in two methods a sanitize.
The result and the recorded ranges tell the truth about both, unless the range
wraps in 32 bits, the card never took the sanitize that is reported as done, or
the function returned before it had cleared the caller's record.
-/

import PinePhonePkg.Card.Purge
import PinePhonePkg.Mmc.WipeMethods

namespace PinePhonePkg

open Library

/-! ### The erase step -/

/-- The erase step of a method. -/
def wipeErase (mmc : Mmc) (method : WipeMethod) (first nr : U32) : Driver (Int × Mmc) :=
  if (method.range mmc first nr).2 = 0 then pure (-1, mmc)
  else mmcErase mmc (method.range mmc first nr).1 (method.range mmc first nr).2 method.eraseArg

/-! ### The recorded ranges -/

/-- The ranges the caller finds in the array. -/
def recorded (skipSpace : SkipSpace) : List (U32 × U32) :=
  (if skipSpace 0 &&& 1 ≠ 0 then [(skipSpace 1, skipSpace 2)] else []) ++
    (if skipSpace 0 &&& 2 ≠ 0 then [(skipSpace 3, skipSpace 4)] else [])

/-- The sectors before and after those that were erased. -/
def leftoverRanges (first nr alignFirst alignNr : U32) : List (U32 × U32) :=
  (if alignFirst - first ≠ 0 then [(first, alignFirst - first)] else []) ++
    (if nr - alignNr - (alignFirst - first) ≠ 0 then
      [(alignFirst + alignNr, nr - alignNr - (alignFirst - first))] else [])

/-- The array holds these ranges, and its mask is zero only when there are none. -/
def Records (skipSpace : SkipSpace) (ranges : List (U32 × U32)) : Prop :=
  recorded skipSpace = ranges ∧ (skipSpace 0 ≠ 0 ↔ ranges ≠ [])

theorem records_cleared (skipSpace : SkipSpace) :
    Records (Function.update skipSpace 0 0) [] := by
  constructor
  · unfold recorded
    simp
  · simp

theorem records_whole (skipSpace : SkipSpace) (first nr : U32) :
    Records (mmcAddSkipSpace (Function.update skipSpace 0 0) 0 first nr) [(first, nr)] := by
  constructor
  · unfold recorded mmcAddSkipSpace
    simp
  · simp [mmcAddSkipSpace]

theorem records_leftOut (skipSpace : SkipSpace) (first nr alignFirst alignNr : U32) :
    Records (leftOut (Function.update skipSpace 0 0) first nr alignFirst alignNr)
      (leftoverRanges first nr alignFirst alignNr) := by
  unfold leftOut leftoverRanges
  by_cases before : alignFirst - first = 0
  · rw [if_neg (not_not.mpr before), if_neg (not_not.mpr before), before]
    by_cases after : nr - alignNr - 0 = 0
    · rw [if_neg (not_not.mpr after), if_neg (not_not.mpr after)]
      exact records_cleared skipSpace
    · rw [if_pos after, if_pos after]
      exact records_whole skipSpace _ _
  · rw [if_pos before, if_pos before]
    have length : mmcAddSkipSpace (Function.update skipSpace 0 0) 0 first (alignFirst - first) 2 =
        alignFirst - first := rfl
    dsimp only
    rw [length]
    by_cases after : nr - alignNr - (alignFirst - first) = 0
    · rw [if_neg (not_not.mpr after), if_neg (not_not.mpr after)]
      exact records_whole skipSpace _ _
    · rw [if_pos after, if_pos after]
      constructor
      · unfold recorded mmcAddSkipSpace
        simp
      · simp [mmcAddSkipSpace]

/-! ### The outcome of a wipe -/

/-- How a wipe with this method ends: its error code, the ranges it records and the world. -/
def WipeMethod.outcome (method : WipeMethod) (mmc : Mmc) (first nr : U32) (world : World) :
    (Int × List (U32 × U32)) × World :=
  let erased := (wipeErase mmc method first nr).exec serve world
  let left := leftoverRanges first nr (method.range mmc first nr).1 (method.range mmc first nr).2
  if erased.1.1 ≠ 0 then ((erased.1.1, [(first, nr)]), erased.2)
  else if method.sanitizes then
    let cleaned := (mmcDoSanitize erased.1.2).exec serve erased.2
    ((cleaned.1, if cleaned.1 ≠ 0 then [(first, nr)] else left), cleaned.2)
  else ((0, left), erased.2)

/-- The run ends as told, and the array holds the ranges that are told. -/
def Ends (run : (Int × Mmc × SkipSpace) × World) (told : (Int × List (U32 × U32)) × World) :
    Prop :=
  run.1.1 = told.1.1 ∧ Records run.1.2.2 told.1.2 ∧ run.2 = told.2

section Outcome

variable (mmc : Mmc) (world : World) {nr : U32}

/-- What the erase step makes of the erase. -/
def StepEnds (method : WipeMethod) (first nr : U32) (run : (Int × Mmc × SkipSpace) × World) :
    Prop :=
  let erased := (wipeErase mmc method first nr).exec serve world
  run.1.1 = erased.1.1 ∧ run.1.2.1 = erased.1.2 ∧ run.2 = erased.2 ∧
    Records run.1.2.2 (if erased.1.1 ≠ 0 then [(first, nr)] else
      leftoverRanges first nr (method.range mmc first nr).1 (method.range mmc first nr).2)

theorem leftoverRanges_self (first nr : U32) : leftoverRanges first nr first nr = [] := by
  unfold leftoverRanges
  simp

theorem stepEnds_trimWhole (method : WipeMethod) (trims : method.wholeGroups = false)
    (first : U32) (nonzero : nr ≠ 0) (skipSpace : SkipSpace) :
    StepEnds mmc world method first nr
      ((trimWhole mmc first nr method.eraseArg (Function.update skipSpace 0 0)).exec serve
        world) := by
  have range : method.range mmc first nr = (first, nr) := by
    unfold WipeMethod.range
    rw [trims]
    rfl
  unfold StepEnds wipeErase trimWhole
  rw [range, if_neg nonzero, Program.exec_bind]
  refine ⟨rfl, rfl, rfl, ?_⟩
  show Records (if ((mmcErase mmc first nr method.eraseArg).exec serve world).1.1 ≠ 0 then _
    else _) _
  split
  · exact records_whole skipSpace first nr
  · rw [leftoverRanges_self]
    exact records_cleared skipSpace

theorem stepEnds_mmcInsecureSecureErase (method : WipeMethod) (groups : method.wholeGroups = true)
    (secure : Bool) (arg : (if secure then mmcSecureEraseArg else mmcEraseArg) = method.eraseArg)
    (first nr : U32) (skipSpace : SkipSpace) :
    StepEnds mmc world method first nr
      ((mmcInsecureSecureErase mmc first nr skipSpace secure).exec serve world) := by
  have range : method.range mmc first nr = groupRange mmc first nr := by
    unfold WipeMethod.range
    rw [groups]
    rfl
  have unfolded : mmcInsecureSecureErase mmc first nr skipSpace secure =
      if (groupRange mmc first nr).2 = 0 then
        pure (-1, mmc, mmcAddSkipSpace (Function.update skipSpace 0 0) 0 first nr)
      else do
        let result ← mmcErase mmc (groupRange mmc first nr).1 (groupRange mmc first nr).2
          (if secure then mmcSecureEraseArg else mmcEraseArg)
        if result.1 ≠ 0 then
          return (result.1, result.2,
            mmcAddSkipSpace (Function.update skipSpace 0 0) 0 first nr)
        return (result.1, result.2, leftOut (Function.update skipSpace 0 0) first nr
          (groupRange mmc first nr).1 (groupRange mmc first nr).2) := rfl
  unfold StepEnds wipeErase
  rw [unfolded, range, ← arg]
  by_cases nothing : (groupRange mmc first nr).2 = 0
  · rw [if_pos nothing, if_pos nothing]
    exact ⟨rfl, rfl, rfl, records_whole skipSpace first nr⟩
  · rw [if_neg nothing, if_neg nothing, Program.exec_bind]
    generalize (mmcErase mmc _ _ (if secure then mmcSecureEraseArg else mmcEraseArg)).exec serve
      world = erased
    dsimp only
    by_cases failed : erased.1.1 ≠ 0
    · rw [if_pos failed, if_pos failed]
      exact ⟨rfl, rfl, rfl, records_whole skipSpace first nr⟩
    · rw [if_neg failed, if_neg failed]
      exact ⟨rfl, rfl, rfl, records_leftOut skipSpace first nr _ _⟩

theorem stepEnds_wipeStep (method : WipeMethod) (first : U32) (nonzero : nr ≠ 0)
    (skipSpace : SkipSpace) :
    StepEnds mmc world method first nr
      ((wipeStep mmc method first nr (Function.update skipSpace 0 0)).exec serve world) := by
  cases method with
  | secureTrim => exact stepEnds_trimWhole mmc world .secureTrim rfl first nonzero skipSpace
  | secureErase =>
    exact stepEnds_mmcInsecureSecureErase mmc world .secureErase rfl true rfl first nr _
  | trim => exact stepEnds_trimWhole mmc world .trim rfl first nonzero skipSpace
  | trimSanitize => exact stepEnds_trimWhole mmc world .trimSanitize rfl first nonzero skipSpace
  | eraseSanitize =>
    exact stepEnds_mmcInsecureSecureErase mmc world .eraseSanitize rfl false rfl first nr _

theorem ends_wipeWith (method : WipeMethod) (first : U32) (nonzero : nr ≠ 0)
    (skipSpace : SkipSpace) :
    Ends ((wipeWith mmc method first nr (Function.update skipSpace 0 0)).exec serve world)
      (method.outcome mmc first nr world) := by
  have step := stepEnds_wipeStep mmc world method first nonzero skipSpace
  unfold wipeWith WipeMethod.outcome
  dsimp only
  unfold StepEnds at step
  dsimp only at step
  generalize (wipeErase mmc method first nr).exec serve world = erased at step ⊢
  by_cases cleans : method.sanitizes = true
  · rw [if_pos cleans, if_pos cleans, Program.exec_bind]
    generalize (wipeStep mmc method first nr (Function.update skipSpace 0 0)).exec serve world =
      run at step ⊢
    obtain ⟨result, updated, reached, records⟩ := step
    rw [result, updated, reached]
    by_cases failed : erased.1.1 ≠ 0
    · rw [if_pos failed, if_pos failed]
      rw [if_pos failed] at records
      exact ⟨rfl, records, rfl⟩
    · rw [if_neg failed, if_neg failed, Program.exec_bind]
      rw [if_neg failed] at records
      generalize (mmcDoSanitize erased.1.2).exec serve erased.2 = cleaned
      by_cases unclean : cleaned.1 ≠ 0
      · rw [if_pos unclean, if_pos unclean]
        exact ⟨rfl, records_whole run.1.2.2 first nr, rfl⟩
      · rw [if_neg unclean, if_neg unclean]
        exact ⟨(not_not.mp unclean).symm, records, rfl⟩
  · rw [if_neg cleans, if_neg cleans]
    obtain ⟨result, _, reached, records⟩ := step
    by_cases failed : erased.1.1 ≠ 0
    · rw [if_pos failed] at records ⊢
      exact ⟨result, records, reached⟩
    · rw [if_neg failed] at records ⊢
      exact ⟨result.trans (not_not.mp failed), records, reached⟩

end Outcome

/-! ### The sectors a method purges -/

/-- The sector lies in the range. -/
def InRange (start blkcnt : U32) (sector : Nat) : Prop :=
  start.toNat ≤ sector ∧ sector < start.toNat + blkcnt.toNat

/-- The purges a card made after it was in the state `before`. -/
def purgesSince (before after : Card) : List Purge :=
  after.purges.drop before.purges.length

/-- Every step of the method was made on the sector, and a sanitize came last where the method
needs one. -/
def WipeMethod.Wiped (method : WipeMethod) (purges : List Purge) (sector : Nat) : Prop :=
  (∀ arg ∈ eraseArgs method.eraseArg, ∃ first last, .erase arg first last ∈ purges ∧
    first ≤ sector ∧ sector ≤ last) ∧
  (method.sanitizes = true → purges.getLast? = some .sanitize)

/-- A sector is wiped by the method of the card. -/
def Mmc.Wiped (mmc : Mmc) (purges : List Purge) (sector : Nat) : Prop :=
  ∃ method, mmc.wipeMethod = some method ∧ method.Wiped purges sector

/-- A range that is recorded only when it has a sector has the sectors it would have. -/
theorem inRange_recorded (start blkcnt : U32) (sector : Nat) :
    (∃ range ∈ (if blkcnt ≠ 0 then [(start, blkcnt)] else []), InRange range.1 range.2 sector) ↔
      InRange start blkcnt sector := by
  by_cases nothing : blkcnt = 0
  · rw [if_neg (not_not.mpr nothing), nothing]
    constructor
    · rintro ⟨range, member, _⟩
      exact absurd member List.not_mem_nil
    · intro inside
      exact absurd (Nat.lt_of_le_of_lt inside.1 inside.2) (Nat.lt_irrefl _)
  · rw [if_pos nothing]
    simp

/-- The sectors left out are those before the erased range, and those after it as far as their
32-bit start goes. -/
theorem mem_leftoverRanges {first nr alignFirst alignNr : U32} {skipped sector : Nat}
    (moved : alignFirst.toNat = (first.toNat + skipped) % 2 ^ 32)
    (inside : skipped + alignNr.toNat ≤ nr.toNat) :
    (∃ range ∈ leftoverRanges first nr alignFirst alignNr, InRange range.1 range.2 sector) ↔
      (first.toNat ≤ sector ∧ sector < first.toNat + skipped) ∨
        ((alignFirst.toNat + alignNr.toNat) % 2 ^ 32 ≤ sector ∧
          sector < (alignFirst.toNat + alignNr.toNat) % 2 ^ 32 +
            (nr.toNat - alignNr.toNat - skipped)) := by
  have firstLength : (alignFirst - first).toNat = skipped := by bv_omega
  have secondStart : (alignFirst + alignNr).toNat =
      (alignFirst.toNat + alignNr.toNat) % 2 ^ 32 := BitVec.toNat_add _ _
  have secondLength : (nr - alignNr - (alignFirst - first)).toNat =
      nr.toNat - alignNr.toNat - skipped := by bv_omega
  have parted : (∃ range ∈ leftoverRanges first nr alignFirst alignNr,
      InRange range.1 range.2 sector) ↔
      InRange first (alignFirst - first) sector ∨
        InRange (alignFirst + alignNr) (nr - alignNr - (alignFirst - first)) sector := by
    rw [← inRange_recorded first, ← inRange_recorded (alignFirst + alignNr)]
    unfold leftoverRanges
    constructor
    · rintro ⟨range, member, within⟩
      rcases List.mem_append.mp member with before | after
      · exact Or.inl ⟨range, before, within⟩
      · exact Or.inr ⟨range, after, within⟩
    · rintro (⟨range, before, within⟩ | ⟨range, after, within⟩)
      · exact ⟨range, List.mem_append_left _ before, within⟩
      · exact ⟨range, List.mem_append_right _ after, within⟩
  rw [parted]
  unfold InRange
  rw [firstLength, secondStart, secondLength]

/-! ### A wipe that went through -/

section Through

variable {mmc : Mmc} {world : World} {method : WipeMethod} {first nr : U32}

/-- `mmc_erase` turns down a range that is not aligned when its argument asks for whole groups. -/
theorem mmcErase_unaligned (mmc : Mmc) (world : World) {eraseArg : U32} (nonzero : nr ≠ 0)
    (needs : eraseArg = mmcEraseArg ∨ eraseArg = mmcSecureEraseArg)
    (unaligned : ¬ mmcEraseGroupAligned mmc first nr) :
    ((mmcErase mmc first nr eraseArg).exec serve world).1.1 ≠ 0 := by
  have refused : (-1 : Int) ≠ 0 := by decide
  unfold mmcErase
  rw [if_neg nonzero]
  split
  · exact refused
  split
  · exact refused
  rw [if_pos ⟨needs, unaligned⟩]
  exact refused

/-- The range of a method whose erase succeeded lies `skipped` sectors into the whole range. -/
theorem range_of_wipeErase (done : ((wipeErase mmc method first nr).exec serve world).1.1 = 0) :
    (method.range mmc first nr).2 ≠ 0 ∧ ∃ skipped,
      (method.range mmc first nr).1.toNat = (first.toNat + skipped) % 2 ^ 32 ∧
      skipped + (method.range mmc first nr).2.toNat ≤ nr.toNat := by
  unfold wipeErase at done
  split at done
  · exact absurd (show (-1 : Int) = 0 from done) (by decide)
  rename_i nonzero
  refine ⟨nonzero, ?_⟩
  unfold WipeMethod.range at nonzero done ⊢
  cases groups : method.wholeGroups with
  | false =>
    refine ⟨0, (Nat.mod_eq_of_lt first.isLt).symm, ?_⟩
    exact Nat.le_of_eq (Nat.zero_add nr.toNat)
  | true =>
    rw [groups] at done nonzero
    have group : ¬ NoGroup mmc first nr := by
      simp only [NoGroup, not_or, not_not]
      refine ⟨nonzero, ?_⟩
      by_contra unaligned
      have needs : method.eraseArg = mmcEraseArg ∨ method.eraseArg = mmcSecureEraseArg := by
        cases method with
        | secureErase => exact Or.inr rfl
        | eraseSanitize => exact Or.inl rfl
        | secureTrim | trim | trimSanitize => exact absurd groups Bool.false_ne_true
      exact mmcErase_unaligned mmc world nonzero needs unaligned done
    obtain ⟨skipped, _, bound, _, moved, length⟩ := groupRange_eq mmc first nr group
    refine ⟨skipped, moved, ?_⟩
    show skipped + (groupRange mmc first nr).2.toNat ≤ nr.toNat
    omega

/-- The erases of a method over its range. -/
def WipeMethod.erases (method : WipeMethod) (mmc : Mmc) (card : Card) (first nr : U32) :
    List Purge :=
  (eraseArgs method.eraseArg).map fun arg =>
    .erase arg (card.sectorOf mmc (method.range mmc first nr).1)
      (card.sectorOf mmc ((method.range mmc first nr).1 + (method.range mmc first nr).2 - 1))

theorem purges_of_wipeErase (done : ((wipeErase mmc method first nr).exec serve world).1.1 = 0) :
    ((wipeErase mmc method first nr).exec serve world).2.card.purges =
      world.card.purges ++ method.erases mmc world.card first nr := by
  have nonzero := (range_of_wipeErase done).1
  unfold wipeErase at done ⊢
  rw [if_neg nonzero] at done ⊢
  rw [exec_mmcErase _ _ _ nonzero done]
  rfl

/-- The answer to the CMD6 that starts the sanitize after the erase step. -/
def sanitizeAnswer (mmc : Mmc) (method : WipeMethod) (first nr : U32) (world : World) : Answer :=
  ((wipeErase mmc method first nr).exec serve world).2.answer
    (switchCmd extCsdSanitizeStart 1) none

/-- The erase step succeeds, and so does a sanitize as far as the source looks at it. -/
def GoesThrough (mmc : Mmc) (method : WipeMethod) (first nr : U32) (world : World) : Prop :=
  ((wipeErase mmc method first nr).exec serve world).1.1 = 0 ∧
    (method.sanitizes = true → (sanitizeAnswer mmc method first nr world).switchResult
      ((wipeErase mmc method first nr).exec serve world).1.2 240000 = 0)

theorem exec_mmcDoSanitize (mmc : Mmc) (world : World) :
    ((mmcDoSanitize mmc).exec serve world).1 =
        (world.answer (switchCmd extCsdSanitizeStart 1) none).switchResult mmc 240000 ∧
      ((mmcDoSanitize mmc).exec serve world).2.card.purges = world.card.purges ++
        if (world.answer (switchCmd extCsdSanitizeStart 1) none).accepted then [.sanitize]
        else [] := by
  have ran := exec_mmcDoSwitch mmc extCsdSanitizeStart 1 240000 world
  unfold mmcDoSanitize
  rw [ran]
  refine ⟨rfl, ?_⟩
  show (world.card.perform (switchCmd extCsdSanitizeStart 1) none
    (world.answer (switchCmd extCsdSanitizeStart 1) none)).purges = _
  rw [perform_switch]
  split
  · unfold Card.writeExtCsd
    dsimp only
    rw [if_pos rfl]
  · exact (List.append_nil _).symm

theorem outcome_through (through : GoesThrough mmc method first nr world) :
    (method.outcome mmc first nr world).1 = (0, leftoverRanges first nr
        (method.range mmc first nr).1 (method.range mmc first nr).2) ∧
      purgesSince world.card (method.outcome mmc first nr world).2.card =
        method.erases mmc world.card first nr ++
          if method.sanitizes = true ∧ (sanitizeAnswer mmc method first nr world).accepted = true
          then [.sanitize] else [] := by
  obtain ⟨done, clean⟩ := through
  have erased := purges_of_wipeErase done
  unfold WipeMethod.outcome purgesSince
  unfold sanitizeAnswer at clean ⊢
  dsimp only
  generalize (wipeErase mmc method first nr).exec serve world = run at done clean erased ⊢
  rw [if_neg (not_not.mpr done)]
  by_cases cleans : method.sanitizes = true
  · have sanitized := exec_mmcDoSanitize run.1.2 run.2
    rw [clean cleans] at sanitized
    rw [if_pos cleans, sanitized.1, if_neg (not_not.mpr rfl)]
    refine ⟨rfl, ?_⟩
    rw [sanitized.2, erased, List.append_assoc, List.drop_left]
    simp only [cleans, true_and]
  · rw [if_neg cleans, if_neg (fun both => cleans both.1)]
    refine ⟨rfl, ?_⟩
    rw [erased, List.drop_left, List.append_nil]

theorem outcome_not_through (stopped : ¬ GoesThrough mmc method first nr world) :
    (method.outcome mmc first nr world).1.1 ≠ 0 ∧
      (method.outcome mmc first nr world).1.2 = [(first, nr)] := by
  unfold GoesThrough sanitizeAnswer at stopped
  unfold WipeMethod.outcome
  dsimp only
  generalize (wipeErase mmc method first nr).exec serve world = run at stopped ⊢
  by_cases failed : run.1.1 ≠ 0
  · rw [if_pos failed]
    exact ⟨failed, rfl⟩
  · rw [if_neg failed]
    have unclean : method.sanitizes = true ∧ (run.2.answer (switchCmd extCsdSanitizeStart 1)
        none).switchResult run.1.2 240000 ≠ 0 := by
      by_contra clean
      exact stopped ⟨not_not.mp failed, fun cleans => by
        by_contra wrong
        exact clean ⟨cleans, wrong⟩⟩
    have sanitized := exec_mmcDoSanitize run.1.2 run.2
    rw [if_pos unclean.1, if_pos (by rw [sanitized.1]; exact unclean.2)]
    exact ⟨by rw [sanitized.1]; exact unclean.2, rfl⟩

/-- After a wipe that went through, exactly the sectors of the method's range are wiped, unless
the card did not take a sanitize it needed. -/
theorem wiped_iff (taken : Bool) (sector : Nat) :
    method.Wiped (method.erases mmc world.card first nr ++
        if method.sanitizes = true ∧ taken = true then [.sanitize] else []) sector ↔
      (world.card.sectorOf mmc (method.range mmc first nr).1 ≤ sector ∧
        sector ≤ world.card.sectorOf mmc
          ((method.range mmc first nr).1 + (method.range mmc first nr).2 - 1)) ∧
        (method.sanitizes = true → taken = true) := by
  have erase (purge : Purge) (member : purge ∈ method.erases mmc world.card first nr) :
      ∃ arg ∈ eraseArgs method.eraseArg, purge = .erase arg
        (world.card.sectorOf mmc (method.range mmc first nr).1)
        (world.card.sectorOf mmc
          ((method.range mmc first nr).1 + (method.range mmc first nr).2 - 1)) := by
    obtain ⟨arg, listed, equal⟩ := List.mem_map.mp member
    exact ⟨arg, listed, equal.symm⟩
  have some : method.eraseArg ∈ eraseArgs method.eraseArg := by
    unfold eraseArgs
    split <;> exact List.mem_cons_self
  constructor
  · rintro ⟨erased, sanitized⟩
    constructor
    · obtain ⟨start, stop, member, covers⟩ := erased method.eraseArg some
      rcases List.mem_append.mp member with member | member
      · obtain ⟨arg, _, equal⟩ := erase _ member
        obtain ⟨_, rfl, rfl⟩ := Purge.erase.inj equal
        exact covers
      · split at member
        · exact absurd (List.mem_singleton.mp member) Purge.noConfusion
        · exact absurd member List.not_mem_nil
    · intro cleans
      have last := sanitized cleans
      by_contra untaken
      rw [if_neg (fun both => untaken both.2), List.append_nil] at last
      obtain ⟨arg, _, equal⟩ := erase _ (List.mem_of_getLast? last)
      exact absurd equal Purge.noConfusion
  · rintro ⟨covers, took⟩
    refine ⟨fun arg listed => ⟨_, _, List.mem_append_left _ (List.mem_map.mpr ⟨arg, listed, rfl⟩),
      covers⟩, fun cleans => ?_⟩
    rw [if_pos ⟨cleans, took cleans⟩]
    exact List.getLast?_concat

theorem mmc_wiped_iff (chosen : mmc.wipeMethod = some method) (taken : Bool) (sector : Nat) :
    mmc.Wiped (method.erases mmc world.card first nr ++
        if method.sanitizes = true ∧ taken = true then [.sanitize] else []) sector ↔
      (world.card.sectorOf mmc (method.range mmc first nr).1 ≤ sector ∧
        sector ≤ world.card.sectorOf mmc
          ((method.range mmc first nr).1 + (method.range mmc first nr).2 - 1)) ∧
        (method.sanitizes = true → taken = true) := by
  rw [← wiped_iff taken sector]
  constructor
  · rintro ⟨other, equal, wiped⟩
    rw [chosen] at equal
    exact Option.some.inj equal ▸ wiped
  · intro wiped
    exact ⟨method, chosen, wiped⟩

end Through

/-! ### What the result says -/

/-- What the caller may conclude from the result and the recorded ranges. -/
structure WipeReported (mmc : Mmc) (purges : List Purge) (start blkcnt : U32) (result : Int)
    (ranges : List (U32 × U32)) : Prop where
  zero : result = 0 → ∀ sector, InRange start blkcnt sector → mmc.Wiped purges sector
  one : result = 1 →
    (∀ sector, InRange start blkcnt sector → ¬ mmc.Wiped purges sector →
      ∃ range ∈ ranges, InRange range.1 range.2 sector) ∧
    ∀ range ∈ ranges, ∀ sector, InRange range.1 range.2 sector → InRange start blkcnt sector
  minusOne : result = -1 → (start, blkcnt) ∈ ranges ∨
    ∀ arg first last, .erase arg first last ∉ purges

/-- Whatever the array holds before the call, the wipe reports what it did, and it reports the
same with any other array. -/
def WipeComplete (mmc : Mmc) (world : World) (start blkcnt : U32) : Prop :=
  ∀ skipSpace, let run := (mmcSecureWipe mmc start blkcnt skipSpace).exec serve world
    WipeReported mmc (purgesSince world.card run.2.card) start blkcnt run.1.1
      (recorded run.1.2.2) ∧
    ∀ other, let second := (mmcSecureWipe mmc start blkcnt other).exec serve world
      second.1.1 = run.1.1 ∧ recorded second.1.2.2 = recorded run.1.2.2

/-- The part of the range that is erased does not wrap and can be addressed, and the sectors
after it have 32-bit numbers. -/
@[mk_iff]
structure WipeFits (mmc : Mmc) (method : WipeMethod) (start blkcnt : U32) : Prop where
  after : start ≤ (method.range mmc start blkcnt).1
  addressable : mmc.Addressable (method.range mmc start blkcnt).1 (method.range mmc start blkcnt).2
  rest : (method.range mmc start blkcnt).1.toNat + (method.range mmc start blkcnt).2.toNat < 2 ^ 32 ∨
    start.toNat + blkcnt.toNat ≤ 2 ^ 32

/-- The wipe is enabled for this card and has something to do, and when it goes through, its
range fits and the card has taken the sanitize it needed. -/
structure WipeSound (mmc : Mmc) (world : World) (start blkcnt : U32) : Prop where
  enabled : mmc.cfg.platformCaps.drvWipeFeature &&& drvParaDisableSecureWipe = 0
  notSd : mmc.isSd = false
  nonzero : blkcnt ≠ 0
  through : ∀ method, mmc.wipeMethod = some method → GoesThrough mmc method start blkcnt world →
    WipeFits mmc method start blkcnt ∧
      (method.sanitizes = true → (sanitizeAnswer mmc method start blkcnt world).accepted = true)

section Sound

variable {mmc : Mmc} {world : World} {method : WipeMethod} {start blkcnt : U32}

/-- No sector of the erased range, counted without wrapping, is among the recorded ones. -/
theorem erased_not_left {first nr count skipped : Nat} (firstBound : first < 2 ^ 32)
    (nrBound : nr < 2 ^ 32) (inside : skipped + count ≤ nr) (sector : Nat)
    (erased : first + skipped ≤ sector) (within : sector < first + skipped + count) :
    ¬ ((first ≤ sector ∧ sector < first + skipped) ∨
      (((first + skipped) % 2 ^ 32 + count) % 2 ^ 32 ≤ sector ∧
        sector < ((first + skipped) % 2 ^ 32 + count) % 2 ^ 32 + (nr - count - skipped))) := by
  omega

/-- A wipe that went through reports what it did exactly when its range fits and the card took
the sanitize. -/
theorem through_sound (matched : Matches mmc world.card) (chosen : mmc.wipeMethod = some method)
    (through : GoesThrough mmc method start blkcnt world) :
    (∀ sector, (InRange start blkcnt sector →
        mmc.Wiped (purgesSince world.card (method.outcome mmc start blkcnt world).2.card) sector ∨
          ∃ range ∈ (method.outcome mmc start blkcnt world).1.2, InRange range.1 range.2 sector) ∧
      ((∃ range ∈ (method.outcome mmc start blkcnt world).1.2, InRange range.1 range.2 sector) →
        InRange start blkcnt sector)) ↔
      WipeFits mmc method start blkcnt ∧
        (method.sanitizes = true →
          (sanitizeAnswer mmc method start blkcnt world).accepted = true) := by
  obtain ⟨nonzero, skipped, moved, inside⟩ := range_of_wipeErase through.1
  obtain ⟨told, purged⟩ := outcome_through through
  have positive : 0 < (method.range mmc start blkcnt).2.toNat := by bv_omega
  have last : ((method.range mmc start blkcnt).1 + (method.range mmc start blkcnt).2 - 1).toNat =
      (start.toNat + skipped + (method.range mmc start blkcnt).2.toNat - 1) % 2 ^ 32 := by bv_omega
  have lastBound := sectorOf_lt matched
    ((method.range mmc start blkcnt).1 + (method.range mmc start blkcnt).2 - 1)
  have addressed := @sectorOf_eq world.card mmc matched (method.range mmc start blkcnt).1
    (method.range mmc start blkcnt).2
  simp only [told, purged, mmc_wiped_iff chosen, mem_leftoverRanges moved inside, wipeFits_iff]
  generalize method.range mmc start blkcnt = range at *
  have startBound := start.isLt
  have nrBound := blkcnt.isLt
  unfold InRange
  constructor
  · intro reported
    have notLeft (sector : Nat) (erased : start.toNat + skipped ≤ sector)
        (within : sector < start.toNat + skipped + range.2.toNat) :=
      ((reported sector).1 (by omega)).resolve_right
        (by rw [moved]; exact erased_not_left startBound nrBound inside sector erased within)
    have bounded := Nat.lt_of_le_of_lt
      (notLeft (start.toNat + skipped + range.2.toNat - 1) (by omega) (by omega)).1.2 lastBound
    have taken := (notLeft (start.toNat + skipped) (Nat.le_refl _) (by omega)).2
    have unwrapped : range.1.toNat = start.toNat + skipped := by
      split at bounded <;> omega
    refine ⟨⟨BitVec.le_def.mpr (by omega), ?_, ?_⟩, taken⟩
    · unfold Mmc.Addressable
      split
      · rename_i high
        rw [if_pos high] at bounded
        omega
      · rename_i low
        rw [if_neg low] at bounded
        omega
    · -- the sectors after the erased range would be recorded from sector 0 on
      by_contra wraps
      have zero := (reported 0).2 (Or.inr (by split at bounded <;> omega))
      omega
  · rintro ⟨⟨after, addressable, rest⟩, taken⟩ sector
    have startLe := BitVec.le_def.mp after
    have unwrapped : range.1.toNat = start.toNat + skipped := by omega
    have bound := addressable_bound addressable
    rw [addressed addressable (by omega), addressed addressable (by omega), last]
    refine ⟨fun within => ?_, fun left => ?_⟩
    · by_cases erased : start.toNat + skipped ≤ sector ∧
          sector < start.toNat + skipped + range.2.toNat
      · exact Or.inl ⟨by omega, taken⟩
      · exact Or.inr (by omega)
    · omega

/-- What `mmc_secure_wipe` returns for this error code and these recorded ranges. -/
def wipeResult (told : Int × List (U32 × U32)) : Int :=
  if told.1 = -1 ∨ told.1 = -2 ∨ told.1 = -3 then -1 else if told.2 ≠ [] then 1 else 0

theorem secureWipeResult_eq {ret : Int} {skipSpace : SkipSpace} {ranges : List (U32 × U32)}
    (records : Records skipSpace ranges) :
    secureWipeResult ret skipSpace = wipeResult (ret, ranges) := by
  unfold secureWipeResult wipeResult
  by_cases failed : ret = -1
  · rw [if_pos failed, if_pos (Or.inl failed)]
  · rw [if_neg failed]
    by_cases refused : ret = -2 ∨ ret = -3
    · rw [if_pos refused, if_pos (Or.inr refused)]
    · have ended : ¬ (ret = -1 ∨ ret = -2 ∨ ret = -3) := fun any => any.elim failed refused
      rw [if_neg refused, if_neg ended]
      simp only [records.2]

/-- A wipe that is turned down, or has nothing to do, leaves the array as it was. -/
theorem exec_mmcSecureWipe_untouched (skipSpace : SkipSpace)
    (idle : ¬ (mmc.cfg.platformCaps.drvWipeFeature &&& drvParaDisableSecureWipe = 0 ∧
      mmc.isSd = false ∧ blkcnt ≠ 0)) :
    ((mmcSecureWipe mmc start blkcnt skipSpace).exec serve world).1.2.2 = skipSpace := by
  unfold mmcSecureWipe
  split
  · rfl
  rename_i enabled
  rw [Program.exec_bind]
  unfold mmcDoSecureWipe
  by_cases nothing : blkcnt = 0
  · rw [if_pos nothing]
    rfl
  · rw [if_neg nothing]
    by_cases sd : mmc.isSd = true
    · rw [if_pos sd]
      rfl
    · exact absurd ⟨not_not.mp enabled, Bool.eq_false_iff.mpr sd, nothing⟩ idle

/-- How a wipe that is enabled ends. -/
def wipeOutcome (mmc : Mmc) (start blkcnt : U32) (world : World) :
    (Int × List (U32 × U32)) × World :=
  match mmc.wipeMethod with
  | some method => method.outcome mmc start blkcnt world
  | none => (if mmc.version ≤ mmcVersion50 then (-2, [(start, blkcnt)]) else (-3, []), world)

theorem ends_mmcDoSecureWipe (notSd : mmc.isSd = false) (nonzero : blkcnt ≠ 0)
    (skipSpace : SkipSpace) :
    Ends ((mmcDoSecureWipe mmc start blkcnt skipSpace).exec serve world)
      (wipeOutcome mmc start blkcnt world) := by
  unfold wipeOutcome
  cases chosen : mmc.wipeMethod with
  | some method =>
    rw [mmcDoSecureWipe_eq mmc method chosen notSd start nonzero]
    exact ends_wipeWith mmc world method start nonzero skipSpace
  | none =>
    unfold Mmc.wipeMethod at chosen
    unfold mmcDoSecureWipe
    rw [if_neg nonzero, if_neg (by rw [notSd]; exact Bool.false_ne_true)]
    dsimp only
    split at chosen
    · rename_i older
      rw [if_pos older, if_pos (BitVec.le_trans older (by decide))]
      split at chosen
      · split at chosen <;> exact absurd chosen (Option.some_ne_none _)
      · rename_i secure
        rw [if_neg secure]
        split at chosen
        · exact absurd chosen (Option.some_ne_none _)
        · rename_i trims
          rw [if_neg trims]
          exact ⟨rfl, records_whole skipSpace start blkcnt, rfl⟩
    · rename_i older
      rw [if_neg older]
      split at chosen
      · rename_i known
        rw [if_pos known, if_pos known]
        split at chosen
        · split at chosen <;> exact absurd chosen (Option.some_ne_none _)
        · rename_i sanitizes
          rw [if_neg sanitizes]
          exact ⟨rfl, records_whole skipSpace start blkcnt, rfl⟩
      · rename_i unknown
        rw [if_neg unknown, if_neg unknown]
        exact ⟨rfl, records_cleared skipSpace, rfl⟩

/-- The outcome of an enabled wipe, as the caller sees it. -/
theorem exec_mmcSecureWipe
    (enabled : mmc.cfg.platformCaps.drvWipeFeature &&& drvParaDisableSecureWipe = 0)
    (notSd : mmc.isSd = false) (nonzero : blkcnt ≠ 0) (skipSpace : SkipSpace) :
    ((mmcSecureWipe mmc start blkcnt skipSpace).exec serve world).1.1 =
        wipeResult (wipeOutcome mmc start blkcnt world).1 ∧
      recorded ((mmcSecureWipe mmc start blkcnt skipSpace).exec serve world).1.2.2 =
        (wipeOutcome mmc start blkcnt world).1.2 ∧
      ((mmcSecureWipe mmc start blkcnt skipSpace).exec serve world).2 =
        (wipeOutcome mmc start blkcnt world).2 := by
  have ends : Ends ((mmcDoSecureWipe mmc start blkcnt skipSpace).exec serve world)
      (wipeOutcome mmc start blkcnt world) := ends_mmcDoSecureWipe notSd nonzero skipSpace
  obtain ⟨ret, records, reached⟩ := ends
  unfold mmcSecureWipe
  rw [if_neg (not_not.mpr enabled), Program.exec_bind]
  refine ⟨?_, records.1, reached⟩
  refine Eq.trans ?_ (secureWipeResult_eq records)
  rw [← ret]
  rfl

/-- A report with the whole range recorded is true of any purges. -/
theorem wipeReported_whole (purges : List Purge) (ret : Int) :
    WipeReported mmc purges start blkcnt (wipeResult (ret, [(start, blkcnt)]))
      [(start, blkcnt)] where
  zero result := by
    unfold wipeResult at result
    split at result
    · exact absurd result (by decide)
    · rw [if_pos (List.cons_ne_nil _ _)] at result
      exact absurd result (by decide)
  one _ := by
    refine ⟨fun sector within _ => ⟨_, List.mem_cons_self, within⟩, fun range member sector => ?_⟩
    rw [List.mem_singleton.mp member]
    exact id
  minusOne _ := Or.inl List.mem_cons_self

/-- Without an error the result tells only whether ranges are recorded. -/
theorem wipeReported_done (purges : List Purge) (ranges : List (U32 × U32)) :
    WipeReported mmc purges start blkcnt (wipeResult (0, ranges)) ranges ↔
      ∀ sector, (InRange start blkcnt sector →
          mmc.Wiped purges sector ∨ ∃ range ∈ ranges, InRange range.1 range.2 sector) ∧
        ((∃ range ∈ ranges, InRange range.1 range.2 sector) → InRange start blkcnt sector) := by
  have noError : ¬ ((0 : Int) = -1 ∨ (0 : Int) = -2 ∨ (0 : Int) = -3) := by decide
  have result : wipeResult (0, ranges) = if ranges ≠ [] then 1 else 0 := if_neg noError
  rw [result]
  constructor
  · intro reported sector
    by_cases none : ranges = []
    · rw [if_neg (not_not.mpr none)] at reported
      refine ⟨fun within => Or.inl (reported.zero rfl sector within), ?_⟩
      rintro ⟨range, member, _⟩
      rw [none] at member
      exact absurd member List.not_mem_nil
    · rw [if_pos none] at reported
      obtain ⟨left, inside⟩ := reported.one rfl
      refine ⟨fun within => ?_, ?_⟩
      · by_cases wiped : mmc.Wiped purges sector
        · exact Or.inl wiped
        · exact Or.inr (left sector within wiped)
      · rintro ⟨range, member, within⟩
        exact inside range member sector within
  · intro told
    refine ⟨fun zero sector within => ?_, fun _ => ⟨fun sector within unwiped => ?_,
      fun range member sector within => ?_⟩, fun failed => ?_⟩
    · rcases (told sector).1 within with wiped | ⟨range, member, _⟩
      · exact wiped
      · rw [if_pos (List.ne_nil_of_mem member)] at zero
        exact absurd zero (by decide)
    · exact ((told sector).1 within).resolve_left unwiped
    · exact (told sector).2 ⟨range, member, within⟩
    · split at failed <;> exact absurd failed (by decide)

/-- A wipe that is enabled and has something to do is judged by its outcome. -/
theorem wipeComplete_iff
    (enabled : mmc.cfg.platformCaps.drvWipeFeature &&& drvParaDisableSecureWipe = 0)
    (notSd : mmc.isSd = false) (nonzero : blkcnt ≠ 0) :
    WipeComplete mmc world start blkcnt ↔
      WipeReported mmc (purgesSince world.card (wipeOutcome mmc start blkcnt world).2.card) start
        blkcnt (wipeResult (wipeOutcome mmc start blkcnt world).1)
        (wipeOutcome mmc start blkcnt world).1.2 := by
  have outcome (skipSpace : SkipSpace) :
      ((mmcSecureWipe mmc start blkcnt skipSpace).exec serve world).1.1 = _ ∧ _ ∧ _ :=
    exec_mmcSecureWipe enabled notSd nonzero skipSpace
  unfold WipeComplete
  dsimp only
  simp only [(outcome _).1, (outcome _).2.1, (outcome _).2.2, and_self, implies_true, and_true]
  exact ⟨fun reported => reported fun _ => 0, fun reported _ => reported⟩

end Sound

/-- The wipe tells what it did to every sector, whatever the array held before, exactly when it is
enabled and has something to do, its range fits, and the card took the sanitize it reports. -/
theorem secure_wipe_complete (mmc : Mmc) (world : World) (start blkcnt : U32)
    (matched : Matches mmc world.card) :
    WipeComplete mmc world start blkcnt ↔ WipeSound mmc world start blkcnt := by
  constructor
  · intro complete
    have active : mmc.cfg.platformCaps.drvWipeFeature &&& drvParaDisableSecureWipe = 0 ∧
        mmc.isSd = false ∧ blkcnt ≠ 0 := by
      by_contra idle
      have same := ((complete fun _ => 0).2 fun _ => 1).2
      rw [exec_mmcSecureWipe_untouched _ idle, exec_mmcSecureWipe_untouched _ idle] at same
      exact absurd same (by decide)
    obtain ⟨enabled, notSd, nonzero⟩ := active
    rw [wipeComplete_iff enabled notSd nonzero] at complete
    refine ⟨enabled, notSd, nonzero, fun method chosen through => ?_⟩
    rw [← through_sound matched chosen through, (outcome_through through).1, ← wipeReported_done]
    unfold wipeOutcome at complete
    rw [chosen] at complete
    dsimp only at complete
    rwa [(outcome_through through).1] at complete
  · intro sound
    rw [wipeComplete_iff sound.enabled sound.notSd sound.nonzero]
    unfold wipeOutcome
    cases chosen : mmc.wipeMethod with
    | some method =>
      dsimp only
      by_cases through : GoesThrough mmc method start blkcnt world
      · have told := (through_sound matched chosen through).mpr (sound.through method chosen through)
        rw [(outcome_through through).1] at told ⊢
        exact (wipeReported_done _ _).mpr told
      · have whole : (method.outcome mmc start blkcnt world).1 =
            ((method.outcome mmc start blkcnt world).1.1, [(start, blkcnt)]) :=
          Prod.ext rfl (outcome_not_through through).2
        rw [whole]
        exact wipeReported_whole _ _
    | none =>
      dsimp only
      split
      · exact wipeReported_whole _ _
      · have failed : wipeResult (-3, []) = -1 := by decide
        rw [failed]
        refine ⟨fun wrong => absurd wrong (by decide), fun wrong => absurd wrong (by decide),
          fun _ => Or.inr fun arg first last member => ?_⟩
        rw [purgesSince, List.drop_length] at member
        exact absurd member List.not_mem_nil

/-- A card that is wiped by a trim and a sanitize. -/
def wipedDevice : Mmc :=
  { Mmc.unidentified with
    version := mmcVersion50
    highCapacity := true
    blockDev := ⟨4096⟩
    secureFeature := extCsdSecSanitize ||| extCsdSecGbClEn }

/-- A card with 6 in every byte of its register -/
def wipedCard : Card :=
  { Card.blank true with extCsd := fun _ => 6 }

/-- The card refuses every CMD6, and the host driver reports it. -/
def Plan.refusesSwitch : Plan :=
  { Plan.fine with
    command := fun cmdidx _ =>
      if cmdidx = mmcCmdSwitch then { Answer.fine with error := -1, accepted := false } else .fine }

theorem secure_wipe_complete_wipedDevice :
    WipeComplete wipedDevice (.start wipedCard .fine) 100 3000 := by
  refine (secure_wipe_complete wipedDevice (.start wipedCard .fine) 100 3000
    ⟨rfl, rfl, rfl⟩).mpr ⟨by decide, by decide, by decide, fun method chosen _ => ?_⟩
  have trims : method = .trimSanitize := Option.some.inj (chosen.symm.trans (by decide))
  subst trims
  exact ⟨⟨by decide, by decide, Or.inl (by decide)⟩, fun _ => by decide +kernel⟩

/-- Nothing is wiped when there is nothing to wipe, but the result tells of the range that the
array held before. A sanitize the card refused is reported as done. -/
theorem secure_wipe_misreports :
    ¬ WipeComplete wipedDevice (.start wipedCard .fine) 100 0 ∧
      ¬ WipeComplete wipedDevice (.start wipedCard .refusesSwitch) 100 3000 := by
  constructor
  · intro complete
    have inside := ((complete fun _ => 1).1.one rfl).2 (1, 1) (by decide) 1 ⟨by decide, by decide⟩
    exact absurd inside.1 (by decide)
  · intro complete
    obtain ⟨method, chosen, _, sanitized⟩ :=
      (complete fun _ => 0).1.zero (by decide +kernel) 100 ⟨by decide, by decide⟩
    have trims : method = .trimSanitize := Option.some.inj (chosen.symm.trans (by decide))
    subst trims
    exact absurd (sanitized rfl) (by decide +kernel)

end PinePhonePkg
