/-
This file names the methods of the secure wipe and says which sectors each of
them sends. The version and the features of the card choose one of five methods
or none; a method trims the whole range or erases the groups in it, and none of
them clips the range to the card.
-/

import PinePhonePkg.Mmc.EraseBounds

namespace PinePhonePkg

open Library Program

/-! ### The methods -/

/-- The ways to wipe a range that the source has. -/
inductive WipeMethod where
  | secureTrim
  | secureErase
  | trim
  | trimSanitize
  | eraseSanitize
  deriving DecidableEq

namespace WipeMethod

/-- The argument of the erase step -/
def eraseArg : WipeMethod → U32
  | secureTrim => mmcSecureTrim1Arg
  | secureErase => mmcSecureEraseArg
  | trim => mmcTrimArg
  | trimSanitize => mmcTrimArg
  | eraseSanitize => mmcEraseArg

/-- The method erases whole groups only. -/
def wholeGroups : WipeMethod → Bool
  | secureErase => true
  | eraseSanitize => true
  | _ => false

/-- The method ends with a sanitize. -/
def sanitizes : WipeMethod → Bool
  | trimSanitize => true
  | eraseSanitize => true
  | _ => false

/-- The sectors the method erases or trims. -/
def range (method : WipeMethod) (mmc : Mmc) (first nr : U32) : U32 × U32 :=
  if method.wholeGroups then groupRange mmc first nr else (first, nr)

end WipeMethod

/-- The method for the version and the features of the card, when it has one. -/
def Mmc.wipeMethod (mmc : Mmc) : Option WipeMethod :=
  if mmc.version ≤ mmcVersion441 then
    if mmc.supports extCsdSecErEn then
      if mmc.supports extCsdSecGbClEn then some .secureTrim else some .secureErase
    else if mmc.supports extCsdSecGbClEn then some .trim
    else none
  else if mmc.version ≤ mmcVersion50 then
    if mmc.supports extCsdSecSanitize then
      if mmc.supports extCsdSecGbClEn then some .trimSanitize else some .eraseSanitize
    else none
  else none

/-- The erase step of the source, with the array it keeps. -/
def wipeStep (mmc : Mmc) (method : WipeMethod) (first nr : U32) (skipSpace : SkipSpace) :
    Driver (Int × Mmc × SkipSpace) :=
  match method with
  | .secureTrim => trimWhole mmc first nr mmcSecureTrim1Arg skipSpace
  | .secureErase => mmcInsecureSecureErase mmc first nr skipSpace true
  | .trim => trimWhole mmc first nr mmcTrimArg skipSpace
  | .trimSanitize => trimWhole mmc first nr mmcTrimArg skipSpace
  | .eraseSanitize => mmcInsecureSecureErase mmc first nr skipSpace false

/-- The wipe once its method is chosen: the erase step, then a sanitize if it needs one. -/
def wipeWith (mmc : Mmc) (method : WipeMethod) (first nr : U32) (skipSpace : SkipSpace) :
    Driver (Int × Mmc × SkipSpace) :=
  if method.sanitizes then do
    let result ← wipeStep mmc method first nr skipSpace
    if result.1 ≠ 0 then
      return (result.1, result.2.1, result.2.2)
    let ret ← mmcDoSanitize result.2.1
    if ret ≠ 0 then
      return (ret, result.2.1, mmcAddSkipSpace (Function.update result.2.2 0 0) 0 first nr)
    return (0, result.2.1, result.2.2)
  else wipeStep mmc method first nr skipSpace

/-- The source chooses the method by the version and the features. -/
theorem mmcDoSecureWipe_eq (mmc : Mmc) {nr : U32} (method : WipeMethod)
    (chosen : mmc.wipeMethod = some method) (notSd : mmc.isSd = false) (first : U32)
    (nonzero : nr ≠ 0) (skipSpace : SkipSpace) :
    mmcDoSecureWipe mmc first nr skipSpace =
      wipeWith mmc method first nr (Function.update skipSpace 0 0) := by
  unfold Mmc.wipeMethod at chosen
  unfold mmcDoSecureWipe
  rw [if_neg nonzero, if_neg (by rw [notSd]; exact Bool.false_ne_true)]
  dsimp only
  split at chosen
  · rename_i older
    rw [if_pos older]
    split at chosen
    · rename_i secure
      rw [if_pos secure]
      split at chosen
      · rename_i trims
        rw [if_pos trims, ← Option.some.inj chosen]
        rfl
      · rename_i trims
        rw [if_neg trims, ← Option.some.inj chosen]
        rfl
    · rename_i secure
      rw [if_neg secure]
      split at chosen
      · rename_i trims
        rw [if_pos trims, ← Option.some.inj chosen]
        rfl
      · exact absurd chosen.symm (Option.some_ne_none _)
  rename_i older
  rw [if_neg older]
  split at chosen
  · rename_i known
    rw [if_pos known]
    split at chosen
    · rename_i sanitizes
      rw [if_pos sanitizes]
      split at chosen
      · rename_i trims
        rw [if_pos trims, ← Option.some.inj chosen]
        rfl
      · rename_i trims
        rw [if_neg trims, ← Option.some.inj chosen]
        rfl
    · exact absurd chosen.symm (Option.some_ne_none _)
  · exact absurd chosen.symm (Option.some_ne_none _)

/-- Without a method nothing is sent. -/
theorem mmcDoSecureWipe_none {mmc : Mmc} {nr : U32} (none : mmc.wipeMethod = none)
    (notSd : mmc.isSd = false) (first : U32) (nonzero : nr ≠ 0) (skipSpace : SkipSpace) :
    ∃ result, mmcDoSecureWipe mmc first nr skipSpace = pure result := by
  unfold Mmc.wipeMethod at none
  unfold mmcDoSecureWipe
  rw [if_neg nonzero, if_neg (by rw [notSd]; exact Bool.false_ne_true)]
  dsimp only
  split at none
  · rename_i older
    rw [if_pos older]
    split at none
    · split at none <;> exact absurd none (Option.some_ne_none _)
    · rename_i secure
      rw [if_neg secure]
      split at none
      · exact absurd none (Option.some_ne_none _)
      · rename_i trims
        rw [if_neg trims]
        exact ⟨_, rfl⟩
  · rename_i older
    rw [if_neg older]
    split at none
    · rename_i known
      rw [if_pos known]
      split at none
      · split at none <;> exact absurd none (Option.some_ne_none _)
      · rename_i sanitizes
        rw [if_neg sanitizes]
        exact ⟨_, rfl⟩
    · rename_i known
      rw [if_neg known]
      exact ⟨_, rfl⟩

/-! ### What a wipe sends -/

/-- The wipe is enabled and uses the method on this card. -/
def Mmc.WipesWith (mmc : Mmc) (method : WipeMethod) : Prop :=
  mmc.cfg.platformCaps.drvWipeFeature &&& drvParaDisableSecureWipe = 0 ∧ mmc.isSd = false ∧
    mmc.wipeMethod = some method

section Sent

variable {allowed : Request → Prop} {mmc : Mmc} {first nr : U32}

theorem always_wipeStep (control : AllowsControl allowed) (method : WipeMethod)
    (skipSpace : SkipSpace)
    (sent : mmc.isSd = false → ¬ NamesNone method.wholeGroups mmc first nr →
      mmc.AllowsErase allowed (firstNamed method.wholeGroups mmc first)
        (lastNamed method.wholeGroups mmc (first.toNat + nr.toNat))) :
    Always (fun _ => True) allowed (fun _ => True)
      (wipeStep mmc method first nr skipSpace) := by
  have trims (whole : method.wholeGroups = false) (eraseArg : U32) :
      Always (fun _ => True) allowed (fun _ => True)
        (trimWhole mmc first nr eraseArg skipSpace) := by
    rw [whole] at sent
    refine always_trimWhole control mmc first nr eraseArg skipSpace fun some notSd => ?_
    rw [lastNamed_unaligned]
    exact sent notSd some
  have erases (groups : method.wholeGroups = true) (secure : Bool) :
      Always (fun _ => True) allowed (fun _ => True)
        (mmcInsecureSecureErase mmc first nr skipSpace secure) := by
    rw [groups] at sent
    refine (always_mmcInsecureSecureErase control mmc first nr skipSpace secure
      fun group notSd => ?_).weaken
    rw [(groupRange_named mmc first nr group).2, (groupRange_named mmc first nr group).1]
    exact sent notSd group
  cases method with
  | secureTrim => exact trims rfl mmcSecureTrim1Arg
  | secureErase => exact erases rfl true
  | trim | trimSanitize => exact trims rfl mmcTrimArg
  | eraseSanitize => exact erases rfl false

theorem sends_wipeStep (method : WipeMethod) (skipSpace : SkipSpace) (notSd : mmc.isSd = false)
    (something : ¬ NamesNone method.wholeGroups mmc first nr) :
    SendsErase mmc (firstNamed method.wholeGroups mmc first)
      (lastNamed method.wholeGroups mmc (first.toNat + nr.toNat))
      (wipeStep mmc method first nr skipSpace) := by
  have trims (whole : method.wholeGroups = false) (eraseArg : U32)
      (known : eraseArg ∈ [mmcTrimArg, mmcSecureTrim1Arg]) :
      SendsErase mmc (firstNamed method.wholeGroups mmc first)
        (lastNamed method.wholeGroups mmc (first.toNat + nr.toNat))
        (trimWhole mmc first nr eraseArg skipSpace) := by
    rw [whole] at something ⊢
    rw [← lastNamed_unaligned]
    simp only [List.mem_cons, List.not_mem_nil, or_false] at known
    have sends := sends_mmcErase mmc first nr eraseArg something notSd
      (by rcases known with rfl | rfl <;> decide)
      fun needs => absurd needs (by rcases known with rfl | rfl <;> decide)
    exact sends.first _
  have erases (groups : method.wholeGroups = true) (secure : Bool) :
      SendsErase mmc (firstNamed method.wholeGroups mmc first)
        (lastNamed method.wholeGroups mmc (first.toNat + nr.toNat))
        (mmcInsecureSecureErase mmc first nr skipSpace secure) := by
    rw [groups] at something ⊢
    rw [← (groupRange_named mmc first nr something).2, ← (groupRange_named mmc first nr something).1]
    exact sends_mmcInsecureSecureErase mmc first nr skipSpace secure something notSd
  cases method with
  | secureTrim => exact trims rfl mmcSecureTrim1Arg (by decide)
  | secureErase => exact erases rfl true
  | trim | trimSanitize => exact trims rfl mmcTrimArg (by decide)
  | eraseSanitize => exact erases rfl false

/-- Whatever the replies are, a wipe sends only the two sectors of its method. -/
theorem always_mmcSecureWipe (control : AllowsControl allowed) (skipSpace : SkipSpace)
    (sent : ∀ method, mmc.WipesWith method → ¬ NamesNone method.wholeGroups mmc first nr →
      mmc.AllowsErase allowed (firstNamed method.wholeGroups mmc first)
        (lastNamed method.wholeGroups mmc (first.toNat + nr.toNat))) :
    Always (fun _ => True) allowed (fun _ => True)
      (mmcSecureWipe mmc first nr skipSpace) := by
  unfold mmcSecureWipe
  split
  · trivial
  rename_i enabled
  refine Always.bind ?_ fun _ (_ : True) => trivial
  by_cases nothing : nr = 0
  · unfold mmcDoSecureWipe
    rw [if_pos nothing]
    trivial
  by_cases isSd : mmc.isSd = true
  · unfold mmcDoSecureWipe
    rw [if_neg nothing, if_pos isSd]
    trivial
  have notSd : mmc.isSd = false := Bool.eq_false_iff.mpr isSd
  cases chosen : mmc.wipeMethod with
  | none =>
    obtain ⟨result, ended⟩ := mmcDoSecureWipe_none chosen notSd first nothing skipSpace
    rw [ended]
    trivial
  | some method =>
    have step (skipSpace : SkipSpace) := always_wipeStep control method skipSpace
      fun notSd something => sent method ⟨not_not.mp enabled, notSd, chosen⟩ something
    rw [mmcDoSecureWipe_eq mmc method chosen notSd first nothing skipSpace]
    unfold wipeWith
    split
    · refine (step _).bind fun result _ => ?_
      split
      · trivial
      · refine (always_mmcDoSanitize control result.2.1).bind fun ret _ => ?_
        split <;> trivial
    · exact step _

theorem sends_mmcSecureWipe (skipSpace : SkipSpace) (positive : 0 < nr) {method : WipeMethod}
    (wipes : mmc.WipesWith method) (something : ¬ NamesNone method.wholeGroups mmc first nr) :
    SendsErase mmc (firstNamed method.wholeGroups mmc first)
      (lastNamed method.wholeGroups mmc (first.toNat + nr.toNat))
      (mmcSecureWipe mmc first nr skipSpace) := by
  obtain ⟨enabled, notSd, chosen⟩ := wipes
  have step := sends_wipeStep method (Function.update skipSpace 0 0) notSd something
  unfold mmcSecureWipe
  rw [if_neg (not_not.mpr enabled),
    mmcDoSecureWipe_eq mmc method chosen notSd first (by bv_omega) skipSpace]
  unfold wipeWith
  split
  · exact (step.first _).first _
  · exact step.first _

end Sent

end PinePhonePkg
