/-
This file settles which sectors the erase entries name in CMD35 and CMD36,
whatever the card answers. Each entry clips its range with a 32-bit sum and a
32-bit difference, so a start past the end of the card and a sum that wraps
pass through the clip. The aligned entries then move to whole erase groups,
which may leave nothing to erase.
-/

import PinePhonePkg.Mmc.Wipe
import PinePhonePkg.Mmc.Replies

namespace PinePhonePkg

open Library
open Program hiding bind_assoc

/-! ### The range the alignment leaves -/

/-- The range `mmc_insecure_secure_erase` hands to `mmc_erase`. -/
def groupRange (mmc : Mmc) (first nr : U32) : U32 × U32 :=
  if mmcEraseGroupAligned mmc first nr then (first, nr) else mmcAlignEraseGroup mmc first nr

/-- No whole erase group is left, so that no erase command is sent. -/
def NoGroup (mmc : Mmc) (first nr : U32) : Prop :=
  (groupRange mmc first nr).2 = 0 ∨
    ¬ mmcEraseGroupAligned mmc (groupRange mmc first nr).1 (groupRange mmc first nr).2

instance (mmc : Mmc) (first nr : U32) : Decidable (NoGroup mmc first nr) :=
  inferInstanceAs (Decidable (_ ∨ _))

theorem toNat_mod_eq_zero {value group : U32} : value % group = 0 ↔ value.toNat % group.toNat = 0 := by
  rw [← BitVec.toNat_inj, BitVec.toNat_umod]
  rfl

theorem mmcEraseGroupAligned_iff (mmc : Mmc) (first nr : U32) :
    mmcEraseGroupAligned mmc first nr = true ↔
      first.toNat % mmc.eraseGrpSize.toNat = 0 ∧ nr.toNat % mmc.eraseGrpSize.toNat = 0 := by
  unfold mmcEraseGroupAligned
  rw [decide_eq_true_iff, toNat_mod_eq_zero, toNat_mod_eq_zero]

theorem toNat_sub_mod (value group : U32) :
    (value - value % group).toNat = value.toNat - value.toNat % group.toNat := by
  have below := Nat.mod_le value.toNat group.toNat
  rw [BitVec.toNat_sub_of_le (by rw [BitVec.le_def, BitVec.toNat_umod]; exact below),
    BitVec.toNat_umod]

/-- The start of the next group -/
theorem next_group {value group : U32} (positive : 0 < group.toNat) :
    (group - value % group).toNat = group.toNat - value.toNat % group.toNat ∧
      group.toNat ∣ value.toNat + (group - value % group).toNat := by
  have rest := Nat.mod_lt value.toNat positive
  have below : value % group ≤ group := by
    rw [BitVec.le_def, BitVec.toNat_umod]
    exact Nat.le_of_lt rest
  have skipped : (group - value % group).toNat = group.toNat - value.toNat % group.toNat := by
    rw [BitVec.toNat_sub_of_le below, BitVec.toNat_umod]
  have split := Nat.div_add_mod value.toNat group.toNat
  refine ⟨skipped, value.toNat / group.toNat + 1, ?_⟩
  rw [skipped, Nat.mul_add, Nat.mul_one]
  omega

/-- The start moves up to the next group, and the count loses the sectors before it and those
after the last whole group. -/
theorem groupRange_eq (mmc : Mmc) (first nr : U32) (group : ¬ NoGroup mmc first nr) :
    ∃ skipped, skipped < mmc.eraseGrpSize.toNat ∧ skipped ≤ nr.toNat ∧
      (first.toNat + skipped) % mmc.eraseGrpSize.toNat = 0 ∧
      (groupRange mmc first nr).1.toNat = (first.toNat + skipped) % 2 ^ 32 ∧
      (groupRange mmc first nr).2.toNat =
        nr.toNat - skipped - (nr.toNat - skipped) % mmc.eraseGrpSize.toNat := by
  have size : 0 < mmc.eraseGrpSize.toNat := mmc.eraseGrpSizePos
  have remBound := Nat.mod_lt first.toNat size
  simp only [NoGroup, not_or, not_not] at group
  obtain ⟨nonzero, aligned⟩ := group
  unfold groupRange at nonzero aligned ⊢
  by_cases whole : mmcEraseGroupAligned mmc first nr = true
  · rw [if_pos whole]
    rw [mmcEraseGroupAligned_iff] at whole
    refine ⟨0, size, Nat.zero_le _, whole.1, ?_, ?_⟩
    · exact (Nat.mod_eq_of_lt first.isLt).symm
    · show nr.toNat = nr.toNat - nr.toNat % _
      rw [whole.2, Nat.sub_zero]
  · rw [if_neg whole] at nonzero aligned ⊢
    unfold mmcAlignEraseGroup at nonzero aligned ⊢
    dsimp only at nonzero aligned ⊢
    by_cases onGroup : first % mmc.eraseGrpSize = 0
    · rw [if_neg (not_not.mpr onGroup)]
      refine ⟨0, size, Nat.zero_le _, toNat_mod_eq_zero.mp onGroup, ?_, ?_⟩
      · exact (Nat.mod_eq_of_lt first.isLt).symm
      · exact toNat_sub_mod nr mmc.eraseGrpSize
    · rw [if_pos onGroup] at nonzero aligned ⊢
      have offGroup : 0 < first.toNat % mmc.eraseGrpSize.toNat :=
        Nat.pos_of_ne_zero fun zero => onGroup (toNat_mod_eq_zero.mpr zero)
      obtain ⟨skipped, nextMultiple⟩ := @next_group first _ size
      by_cases remains : nr > mmc.eraseGrpSize - first % mmc.eraseGrpSize
      · rw [if_pos remains]
        have reached := BitVec.lt_def.mp remains
        refine ⟨(mmc.eraseGrpSize - first % mmc.eraseGrpSize).toNat, by omega, Nat.le_of_lt reached,
          Nat.mod_eq_zero_of_dvd nextMultiple, BitVec.toNat_add _ _, ?_⟩
        rw [← BitVec.toNat_sub_of_le (BitVec.le_of_lt remains)]
        exact toNat_sub_mod _ _
      · -- the count is unchanged and shorter than a group, so the check of `mmc_erase` fails
        rw [if_neg remains] at nonzero aligned
        have short : nr.toNat < mmc.eraseGrpSize.toNat := by
          have bound := BitVec.le_def.mp (BitVec.not_lt.mp remains)
          omega
        rw [mmcEraseGroupAligned_iff, Nat.mod_eq_of_lt short] at aligned
        exact absurd (BitVec.eq_of_toNat_eq aligned.2) nonzero

/-! ### The erase functions over all replies -/

/-- The descriptors differ in their erase timeouts at most. -/
def Mmc.SameCard (mmc other : Mmc) : Prop :=
  other = { mmc with
    eraseTimeout := other.eraseTimeout
    trimDiscardTimeout := other.trimDiscardTimeout
    secureEraseTimeout := other.secureEraseTimeout
    secureTrimTimeout := other.secureTrimTimeout }

theorem sameCard_refl (mmc : Mmc) : mmc.SameCard mmc := rfl

theorem Mmc.SameCard.trans {mmc other last : Mmc} (first : mmc.SameCard other)
    (second : other.SameCard last) : mmc.SameCard last := by
  unfold Mmc.SameCard at first second ⊢
  rw [second, first]

theorem setTimeouts_sameCard (mmc : Mmc) (extCsd : MmcExtCsd) :
    mmc.SameCard (mmc.setTimeouts extCsd) := by
  unfold Mmc.SameCard Mmc.setTimeouts
  dsimp only
  split <;> rfl

theorem eraseAddressCmd_sameCard {mmc other : Mmc} (same : mmc.SameCard other) (cmdidx : Nat)
    (address : U32) : eraseAddressCmd other cmdidx address = eraseAddressCmd mmc cmdidx address := by
  unfold Mmc.SameCard at same
  rw [same]
  rfl

/-- The commands that name the first and the last sector of an erase are allowed. -/
abbrev Mmc.AllowsErase (mmc : Mmc) (allowed : Request → Prop) (first last : U32) : Prop :=
  allowed (.sendCmd (eraseAddressCmd mmc mmcCmdEraseGroupStart first) none) ∧
    allowed (.sendCmd (eraseAddressCmd mmc mmcCmdEraseGroupEnd last) none)

theorem Mmc.SameCard.allowsErase {mmc other : Mmc} (same : mmc.SameCard other)
    {allowed : Request → Prop} {first last : U32} (sent : mmc.AllowsErase allowed first last) :
    other.AllowsErase allowed first last := by
  unfold Mmc.AllowsErase
  rwa [eraseAddressCmd_sameCard same, eraseAddressCmd_sameCard same]

section Always

variable {assumed : Exchange Request Request.Reply → Prop} {allowed : Request → Prop}

theorem always_decodedFrom (unsetWord : allowed .unsetWord) (rev least : U8) (value : U32) :
    Always assumed allowed (fun _ => True) (decodedFrom rev least value) := by
  unfold decodedFrom
  split
  · trivial
  · exact ⟨unsetWord, fun _ _ => trivial⟩

theorem always_mmcMmcUpdateTimeout
    (extCsd : allowed (.sendCmd sendExtCsdCmd (some sendExtCsdData)))
    (unsetWord : allowed .unsetWord) (mmc : Mmc) :
    Always assumed allowed mmc.SameCard (mmcMmcUpdateTimeout mmc) := by
  have sent : Always assumed allowed (fun _ => True) mmcSendExtCsd :=
    ⟨extCsd, fun _ _ => trivial⟩
  unfold mmcMmcUpdateTimeout
  refine sent.bind fun result _ => ?_
  show Always _ _ _ (if result.1 ≠ 0 then _ else _)
  split
  · exact sameCard_refl mmc
  · unfold mmcDecodeExtCsd
    simp only [always_bind, always_pure, bind_assoc]
    refine (always_decodedFrom unsetWord _ _ _).mono (fun _ allows => allows) fun _ _ => ?_
    refine (always_decodedFrom unsetWord _ _ _).mono (fun _ allows => allows) fun _ _ => ?_
    refine (always_decodedFrom unsetWord _ _ _).mono (fun _ allows => allows) fun _ _ => ?_
    refine (always_decodedFrom unsetWord _ _ _).mono (fun _ allows => allows) fun _ _ => ?_
    refine (always_decodedFrom unsetWord _ _ _).mono (fun _ allows => allows) fun _ _ => ?_
    exact setTimeouts_sameCard _ _

theorem always_mmcSetEraseAddr (control : AllowsControl allowed) (mmc : Mmc) (cmdidx : Nat)
    (address : U32) (addressed : allowed (.sendCmd (eraseAddressCmd mmc cmdidx address) none)) :
    Always assumed allowed (fun _ => True) (mmcSetEraseAddr mmc cmdidx address) := by
  unfold mmcSetEraseAddr
  refine ⟨addressed, fun reply _ => ?_⟩
  show Always _ _ _ (if reply.error ≠ 0 then _ else _)
  split
  · trivial
  · exact always_mmcSendStatus mmc (control.status mmc) 300

theorem always_mmcDoErase (control : AllowsControl allowed) (mmc : Mmc) (first last eraseArg : U32)
    (sent : mmc.AllowsErase allowed first last) :
    Always assumed allowed (fun result => mmc.SameCard result.2)
      (mmcDoErase mmc first last eraseArg) := by
  unfold mmcDoErase mmcSetEraseStartAddr mmcSetEraseEndAddr
  refine (always_mmcMmcUpdateTimeout control.extCsd control.unsetWord mmc).bind fun updated same => ?_
  obtain ⟨start, stop⟩ := same.allowsErase sent
  refine (always_mmcSetEraseAddr control updated _ _ start).bind fun err _ => ?_
  split
  · exact same
  refine (always_mmcSetEraseAddr control updated _ _ stop).bind fun err _ => ?_
  split
  · exact same
  refine ⟨control.command _ _ (by unfold eraseCmd; simp), fun reply _ => ?_⟩
  show Always _ _ _ (if reply.error ≠ 0 then _ else _)
  split
  · exact same
  -- the number of groups depends on the card type, what is sent does not
  split <;> split
  · exact same
  · exact (always_mmcSendStatus updated (control.status updated) _).bind fun _ _ => same
  · exact same
  · exact (always_mmcSendStatus updated (control.status updated) _).bind fun _ _ => same

/-- An erase sends its range when there is one, the card is no SD card, and a range that has to
be aligned is. -/
theorem always_mmcErase (control : AllowsControl allowed) (mmc : Mmc) (first nr eraseArg : U32)
    (sent : nr ≠ 0 → mmc.isSd = false →
      (eraseArg = mmcEraseArg ∨ eraseArg = mmcSecureEraseArg →
        mmcEraseGroupAligned mmc first nr = true) → mmc.AllowsErase allowed first (first + nr - 1)) :
    Always assumed allowed (fun result => mmc.SameCard result.2)
      (mmcErase mmc first nr eraseArg) := by
  unfold mmcErase
  split
  · exact sameCard_refl mmc
  split
  · exact sameCard_refl mmc
  split
  · exact sameCard_refl mmc
  split
  · exact sameCard_refl mmc
  rename_i nonzero notSd _ unaligned
  have sent := sent nonzero (Bool.eq_false_iff.mpr notSd) fun needsGroups => by
    by_contra aligned
    exact unaligned ⟨needsGroups, aligned⟩
  refine (always_mmcDoErase control mmc first (first + nr - 1) eraseArg sent).bind
    fun result same => ?_
  show Always _ _ _ (if result.1 ≠ 0 then _ else _)
  split
  · exact same
  split
  · refine (always_mmcDoErase control result.2 first (first + nr - 1) mmcSecureTrim2Arg
      (same.allowsErase sent)).bind fun second sameAgain => ?_
    show mmc.SameCard (if second.1 ≠ 0 then ((-1 : Int), second.2) else (0, second.2)).2
    split <;> exact same.trans sameAgain
  · exact same

theorem always_mmcInsecureSecureErase (control : AllowsControl allowed) (mmc : Mmc)
    (first nr : U32) (skipSpace : SkipSpace) (secure : Bool)
    (sent : ¬ NoGroup mmc first nr → mmc.isSd = false →
      mmc.AllowsErase allowed (groupRange mmc first nr).1
        ((groupRange mmc first nr).1 + (groupRange mmc first nr).2 - 1)) :
    Always assumed allowed (fun result => mmc.SameCard result.2.1)
      (mmcInsecureSecureErase mmc first nr skipSpace secure) := by
  unfold mmcInsecureSecureErase
  show Always _ _ _ (if (groupRange mmc first nr).2 = 0 then _ else _)
  split
  · exact sameCard_refl mmc
  rename_i nonzero
  refine (always_mmcErase control mmc _ _ _ fun _ notSd aligned => sent ?_ notSd).bind
    fun result same => ?_
  · simp only [NoGroup, not_or, not_not]
    exact ⟨nonzero, aligned (by cases secure; exacts [Or.inl rfl, Or.inr rfl])⟩
  · show Always _ _ _ (if result.1 ≠ 0 then _ else _)
    split <;> exact same

theorem always_eraseUnaligned (control : AllowsControl allowed) (mmc : Mmc)
    (start blkcnt eraseArg : U32) (supported : Bool)
    (sent : supported = true → mmc.isSd = false → clip mmc start blkcnt ≠ 0 →
      mmc.AllowsErase allowed start (start + clip mmc start blkcnt - 1)) :
    Always assumed allowed (fun _ => True)
      (eraseUnaligned mmc start blkcnt eraseArg supported) := by
  unfold eraseUnaligned
  split
  · trivial
  split
  · trivial
  split
  · trivial
  rename_i _ _ isSupported
  exact (always_mmcErase control mmc _ _ _ fun nonzero notSd _ =>
    sent (not_not.mp isSupported) notSd nonzero).weaken

theorem always_mmcMmcErase (control : AllowsControl allowed) (mmc : Mmc) (start blkcnt : U32)
    (skipSpace : SkipSpace)
    (sent : mmc.cfg.platformCaps.drvEraseFeature &&& drvParaDisableEmmcErase = 0 →
      mmc.isSd = false → ¬ NoGroup mmc start (clip mmc start blkcnt) →
      mmc.AllowsErase allowed (groupRange mmc start (clip mmc start blkcnt)).1
        ((groupRange mmc start (clip mmc start blkcnt)).1 +
          (groupRange mmc start (clip mmc start blkcnt)).2 - 1)) :
    Always assumed allowed (fun _ => True) (mmcMmcErase mmc start blkcnt skipSpace) := by
  unfold mmcMmcErase
  split
  · trivial
  split
  · trivial
  split
  · trivial
  rename_i _ enabled _
  refine (always_mmcInsecureSecureErase control mmc _ _ _ _ fun group notSd =>
    sent (not_not.mp enabled) notSd group).bind fun result _ => ?_
  show Always _ _ _ (if _ ∧ _ then _ else _)
  split
  · exact (always_mmcDoSwitch control _ _ _ _).bind fun _ _ => trivial
  · trivial

theorem always_mmcMmcSecureErase (control : AllowsControl allowed) (mmc : Mmc)
    (start blkcnt : U32) (skipSpace : SkipSpace)
    (sent : mmc.supports extCsdSecErEn = true → mmc.isSd = false →
      ¬ NoGroup mmc start (clip mmc start blkcnt) →
      mmc.AllowsErase allowed (groupRange mmc start (clip mmc start blkcnt)).1
        ((groupRange mmc start (clip mmc start blkcnt)).1 +
          (groupRange mmc start (clip mmc start blkcnt)).2 - 1)) :
    Always assumed allowed (fun _ => True)
      (mmcMmcSecureErase mmc start blkcnt skipSpace) := by
  unfold mmcMmcSecureErase
  split
  · trivial
  split
  · trivial
  split
  · trivial
  rename_i _ _ isSupported
  exact (always_mmcInsecureSecureErase control mmc _ _ _ _ fun group notSd =>
    sent (not_not.mp isSupported) notSd group).weaken

theorem always_trimWhole (control : AllowsControl allowed) (mmc : Mmc)
    (first nr eraseArg : U32) (skipSpace : SkipSpace)
    (sent : nr ≠ 0 → mmc.isSd = false → mmc.AllowsErase allowed first (first + nr - 1)) :
    Always assumed allowed (fun _ => True) (trimWhole mmc first nr eraseArg skipSpace) :=
  (always_mmcErase control mmc first nr eraseArg fun some notSd _ => sent some notSd).bind
    fun _ _ => trivial

theorem always_mmcDoSanitize (control : AllowsControl allowed) (mmc : Mmc) :
    Always assumed allowed (fun _ => True) (mmcDoSanitize mmc) :=
  always_mmcDoSwitch control mmc _ _ _

end Always

/-! ### The erase when every request goes well -/

theorem succeeds_mmcSetEraseAddr (mmc : Mmc) (cmdidx : Nat) (address : U32) :
    Always Succeeds (fun _ => True) (fun err => err = 0)
      (mmcSetEraseAddr mmc cmdidx address) := by
  unfold mmcSetEraseAddr
  refine ⟨trivial, fun reply good => ?_⟩
  show Always _ _ _ (if reply.error ≠ 0 then _ else _)
  rw [if_neg (not_not.mpr good.1)]
  exact succeeds_mmcSendStatus mmc 300 (by decide) (by decide)

/-- The command is sent when every request goes well. -/
def Sends {Result : Type} (cmd : MmcCmd) (program : Driver Result) : Prop :=
  ∃ exchange ∈ program.trace serveWell (), exchange.request = .sendCmd cmd none

theorem Sends.first {First Result : Type} {cmd : MmcCmd} {program : Driver First}
    (sends : Sends cmd program) (next : First → Driver Result) : Sends cmd (program >>= next) := by
  obtain ⟨exchange, member, equal⟩ := sends
  exact ⟨exchange, mem_trace_bind_first serveWell member, equal⟩

theorem Sends.rest {First Result : Type} {cmd : MmcCmd} {program : Driver First}
    {next : First → Driver Result} (sends : Sends cmd (next (program.exec serveWell ()).1)) :
    Sends cmd (program >>= next) := by
  obtain ⟨exchange, member, equal⟩ := sends
  exact ⟨exchange, mem_trace_bind_rest serveWell member, equal⟩

theorem sends_mmcSetEraseAddr (mmc : Mmc) (cmdidx : Nat) (address : U32) :
    Sends (eraseAddressCmd mmc cmdidx address) (mmcSetEraseAddr mmc cmdidx address) :=
  ⟨_, List.mem_cons_self, rfl⟩

/-- The first and the last sector of an erase are sent. -/
abbrev SendsErase {Result : Type} (mmc : Mmc) (first last : U32) (program : Driver Result) : Prop :=
  Sends (eraseAddressCmd mmc mmcCmdEraseGroupStart first) program ∧
    Sends (eraseAddressCmd mmc mmcCmdEraseGroupEnd last) program

theorem SendsErase.first {First Result : Type} {mmc : Mmc} {first last : U32}
    {program : Driver First} (sends : SendsErase mmc first last program)
    (next : First → Driver Result) : SendsErase mmc first last (program >>= next) :=
  ⟨sends.1.first next, sends.2.first next⟩

theorem sends_mmcDoErase (mmc : Mmc) (first last eraseArg : U32) :
    SendsErase mmc first last (mmcDoErase mmc first last eraseArg) := by
  have same := exec_serveWell (always_mmcMmcUpdateTimeout trivial trivial mmc)
  have settled (updated : Mmc) :=
    exec_serveWell (succeeds_mmcSetEraseAddr updated mmcCmdEraseGroupStart first)
  unfold SendsErase mmcDoErase mmcSetEraseStartAddr mmcSetEraseEndAddr
  rw [← eraseAddressCmd_sameCard same, ← eraseAddressCmd_sameCard same]
  refine ⟨Sends.rest ?_, Sends.rest (Sends.rest ?_)⟩
  · exact (sends_mmcSetEraseAddr _ _ _).first _
  · rw [if_neg (not_not.mpr (settled _))]
    exact (sends_mmcSetEraseAddr _ _ _).first _

theorem sends_mmcErase (mmc : Mmc) (first nr eraseArg : U32) (nonzero : nr ≠ 0)
    (notSd : mmc.isSd = false)
    (known : eraseArg ∈ [mmcEraseArg, mmcSecureEraseArg, mmcTrimArg, mmcDiscardArg,
      mmcSecureTrim1Arg])
    (aligned : eraseArg = mmcEraseArg ∨ eraseArg = mmcSecureEraseArg →
      mmcEraseGroupAligned mmc first nr = true) :
    SendsErase mmc first (first + nr - 1) (mmcErase mmc first nr eraseArg) := by
  have sends := sends_mmcDoErase mmc first (first + nr - 1) eraseArg
  simp only [List.mem_cons, List.not_mem_nil, or_false] at known
  unfold mmcErase
  rw [if_neg nonzero, if_neg (by rw [notSd]; exact Bool.false_ne_true), if_neg (by tauto),
    if_neg (fun bad => bad.2 (aligned bad.1))]
  exact sends.first _

theorem sends_mmcInsecureSecureErase (mmc : Mmc) (first nr : U32) (skipSpace : SkipSpace)
    (secure : Bool) (group : ¬ NoGroup mmc first nr) (notSd : mmc.isSd = false) :
    SendsErase mmc (groupRange mmc first nr).1
      ((groupRange mmc first nr).1 + (groupRange mmc first nr).2 - 1)
      (mmcInsecureSecureErase mmc first nr skipSpace secure) := by
  simp only [NoGroup, not_or, not_not] at group
  have sends := sends_mmcErase mmc (groupRange mmc first nr).1 (groupRange mmc first nr).2
    (if secure then mmcSecureEraseArg else mmcEraseArg) group.1 notSd
    (by cases secure <;> decide) fun _ => group.2
  unfold mmcInsecureSecureErase
  show SendsErase _ _ _ (if (groupRange mmc first nr).2 = 0 then _ else _)
  rw [if_neg group.1]
  exact sends.first _

theorem sends_eraseUnaligned (mmc : Mmc) (start blkcnt eraseArg : U32) (positive : 0 < blkcnt)
    (notSd : mmc.isSd = false) (some : clip mmc start blkcnt ≠ 0)
    (known : eraseArg ∈ [mmcTrimArg, mmcDiscardArg, mmcSecureTrim1Arg]) :
    SendsErase mmc start (start + clip mmc start blkcnt - 1)
      (eraseUnaligned mmc start blkcnt eraseArg true) := by
  have unaligned : ¬ (eraseArg = mmcEraseArg ∨ eraseArg = mmcSecureEraseArg) := by
    simp only [List.mem_cons, List.not_mem_nil, or_false] at known
    rcases known with rfl | rfl | rfl <;> decide
  unfold eraseUnaligned
  rw [if_neg (by rw [notSd]; exact Bool.false_ne_true), if_neg (by bv_omega),
    if_neg (not_not.mpr rfl)]
  exact sends_mmcErase mmc start _ eraseArg some notSd
    (List.mem_cons_of_mem _ (List.mem_cons_of_mem _ known)) fun bad => absurd bad unaligned

theorem sends_mmcMmcErase (mmc : Mmc) (start blkcnt : U32) (skipSpace : SkipSpace)
    (positive : 0 < blkcnt) (notSd : mmc.isSd = false)
    (enabled : mmc.cfg.platformCaps.drvEraseFeature &&& drvParaDisableEmmcErase = 0)
    (group : ¬ NoGroup mmc start (clip mmc start blkcnt)) :
    SendsErase mmc (groupRange mmc start (clip mmc start blkcnt)).1
      ((groupRange mmc start (clip mmc start blkcnt)).1 +
        (groupRange mmc start (clip mmc start blkcnt)).2 - 1)
      (mmcMmcErase mmc start blkcnt skipSpace) := by
  have sends := sends_mmcInsecureSecureErase mmc start (clip mmc start blkcnt) skipSpace false
    group notSd
  unfold mmcMmcErase
  rw [if_neg (by rw [notSd]; exact Bool.false_ne_true), if_neg (not_not.mpr enabled),
    if_neg (by bv_omega)]
  exact sends.first _

theorem sends_mmcMmcSecureErase (mmc : Mmc) (start blkcnt : U32) (skipSpace : SkipSpace)
    (positive : 0 < blkcnt) (notSd : mmc.isSd = false)
    (supported : mmc.supports extCsdSecErEn = true)
    (group : ¬ NoGroup mmc start (clip mmc start blkcnt)) :
    SendsErase mmc (groupRange mmc start (clip mmc start blkcnt)).1
      ((groupRange mmc start (clip mmc start blkcnt)).1 +
        (groupRange mmc start (clip mmc start blkcnt)).2 - 1)
      (mmcMmcSecureErase mmc start blkcnt skipSpace) := by
  have sends := sends_mmcInsecureSecureErase mmc start (clip mmc start blkcnt) skipSpace true
    group notSd
  unfold mmcMmcSecureErase
  rw [if_neg (by rw [notSd]; exact Bool.false_ne_true), if_neg (by bv_omega),
    if_neg (not_not.mpr supported)]
  exact sends

end PinePhonePkg
