/-
This file settles which sectors the five erase entries of the block device name
in CMD35 and CMD36. Each entry clips its range with a 32-bit sum and a 32-bit
difference, so a start past the end of the card and a sum that wraps pass the
clip; what is sent then lies outside the card or outside the range. On a card
that is addressed by bytes, a sector whose byte address wraps is another one.
-/

import PinePhonePkg.Mmc.Addressing
import PinePhonePkg.Mmc.EraseRange

namespace PinePhonePkg

open Library

/-! ### The sectors an erase names -/

/-- The sector an erase address names: the argument itself on a high-capacity card, the sector
of this byte address on any other. -/
def Mmc.namedSector (mmc : Mmc) (cmd : MmcCmd) : Nat :=
  if mmc.highCapacity then cmd.cmdarg.toNat else cmd.cmdarg.toNat / mmc.writeBlLen.toNat

/-- A CMD35 or CMD36 that names a sector from `first` up to `last`; other requests do. -/
def Request.EraseWithin (mmc : Mmc) (first last : Nat) : Request → Prop
  | .sendCmd cmd _ =>
      cmd.cmdidx = mmcCmdEraseGroupStart ∨ cmd.cmdidx = mmcCmdEraseGroupEnd →
        first ≤ mmc.namedSector cmd ∧ mmc.namedSector cmd < last
  | _ => True

/-- Whatever the replies are, the erase names sectors of the range and of the card only. -/
def ErasesWithin {Result : Type} (mmc : Mmc) (start blkcnt : U32) (program : Driver Result) :
    Prop :=
  ∀ trace result, program.Run trace result → ∀ exchange ∈ trace,
    exchange.request.EraseWithin mmc start.toNat
      (min mmc.blockDev.lba.toNat (start.toNat + blkcnt.toNat))

theorem namedSector_eraseAddress (mmc : Mmc) (cmdidx : Nat) (address : U32) :
    mmc.namedSector (eraseAddressCmd mmc cmdidx address) = mmc.landsOn mmc.writeBlLen address := by
  unfold Mmc.namedSector Mmc.landsOn eraseAddressCmd
  cases mmc.highCapacity <;> rfl

/-! ### The first and the last sector of an erase -/

/-- The first sector that is sent for an erase from `start` on: with whole groups, the start of the
next group. -/
def firstNamed (groups : Bool) (mmc : Mmc) (start : U32) : U32 :=
  if groups then
    .ofNat 32 ((start.toNat + (mmc.eraseGrpSize.toNat - 1)) / mmc.eraseGrpSize.toNat *
      mmc.eraseGrpSize.toNat)
  else start

/-- The last sector that is sent for an erase up to `stop`: with whole groups, the end of the last
one before it. -/
def lastNamed (groups : Bool) (mmc : Mmc) (stop : Nat) : U32 :=
  .ofNat 32 (if groups then stop / mmc.eraseGrpSize.toNat * mmc.eraseGrpSize.toNat else stop) - 1

/-- An erase of so many sectors sends no sector. -/
def NamesNone (groups : Bool) (mmc : Mmc) (first nr : U32) : Prop :=
  if groups then NoGroup mmc first nr else nr = 0

instance (groups : Bool) (mmc : Mmc) (first nr : U32) : Decidable (NamesNone groups mmc first nr) := by
  unfold NamesNone
  infer_instance

theorem lastNamed_unaligned (mmc : Mmc) (first nr : U32) :
    first + nr - 1 = lastNamed false mmc (first.toNat + nr.toNat) := by
  unfold lastNamed
  simp only [Bool.false_eq_true, if_false]
  bv_omega

/-- The groups end with the last whole group before the end of the range. -/
theorem groupRange_ends {mmc : Mmc} {first nr : U32} {skipped : Nat}
    (onGroup : (first.toNat + skipped) % mmc.eraseGrpSize.toNat = 0) (inside : skipped ≤ nr.toNat) :
    first.toNat + skipped +
        (nr.toNat - skipped - (nr.toNat - skipped) % mmc.eraseGrpSize.toNat) =
      (first.toNat + nr.toNat) / mmc.eraseGrpSize.toNat * mmc.eraseGrpSize.toNat := by
  have split := Nat.div_add_mod' (first.toNat + nr.toNat) mmc.eraseGrpSize.toNat
  have sameRest : (first.toNat + nr.toNat) % mmc.eraseGrpSize.toNat =
      (nr.toNat - skipped) % mmc.eraseGrpSize.toNat := by
    rw [show first.toNat + nr.toNat = (first.toNat + skipped) + (nr.toNat - skipped) by omega,
      Nat.add_mod, onGroup, Nat.zero_add, Nat.mod_mod]
  have restLe := Nat.mod_le (nr.toNat - skipped) mmc.eraseGrpSize.toNat
  omega

/-- The alignment leaves the groups between the next group and the last whole one. -/
theorem groupRange_named (mmc : Mmc) (first nr : U32) (group : ¬ NoGroup mmc first nr) :
    (groupRange mmc first nr).1 = firstNamed true mmc first ∧
      (groupRange mmc first nr).1 + (groupRange mmc first nr).2 - 1 =
        lastNamed true mmc (first.toNat + nr.toNat) := by
  have size : 0 < mmc.eraseGrpSize.toNat := mmc.eraseGrpSizePos
  obtain ⟨skipped, skippedSmall, skippedLe, onGroup, start, count⟩ := groupRange_eq mmc first nr group
  have ends := groupRange_ends onGroup skippedLe
  have rounded : (first.toNat + (mmc.eraseGrpSize.toNat - 1)) / mmc.eraseGrpSize.toNat *
      mmc.eraseGrpSize.toNat = first.toNat + skipped := by
    obtain ⟨groups, equal⟩ := Nat.dvd_of_mod_eq_zero onGroup
    have total : first.toNat + (mmc.eraseGrpSize.toNat - 1) =
        (mmc.eraseGrpSize.toNat - 1 - skipped) + mmc.eraseGrpSize.toNat * groups := by omega
    rw [total, Nat.add_mul_div_left _ _ size, Nat.div_eq_of_lt (by omega), Nat.zero_add, equal,
      Nat.mul_comm]
  unfold firstNamed lastNamed
  rw [if_pos rfl, if_pos rfl, rounded, ← ends, ← count]
  generalize groupRange mmc first nr = range at start ⊢
  constructor <;> bv_omega

/-- The sector that is sent for this one lies in the range and on the card. -/
def Mmc.NamesInside (mmc : Mmc) (start blkcnt sector : U32) : Prop :=
  start.toNat ≤ mmc.landsOn mmc.writeBlLen sector ∧
    mmc.landsOn mmc.writeBlLen sector <
      min mmc.blockDev.lba.toNat (start.toNat + blkcnt.toNat)

instance (mmc : Mmc) (start blkcnt sector : U32) : Decidable (mmc.NamesInside start blkcnt sector) :=
  inferInstanceAs (Decidable (_ ∧ _))

theorem allowsControl_eraseWithin (mmc : Mmc) (first last : Nat) :
    AllowsControl (Request.EraseWithin mmc first last) where
  command cmd data control := by
    simp only [List.mem_cons, List.not_mem_nil, or_false] at control
    intro address
    rcases address with equal | equal <;> rw [equal] at control <;>
      exact absurd control (by decide)
  setIos _ _ _ := trivial
  updatePhase := trivial
  malloc _ := trivial
  unsetWord := trivial

theorem eraseWithin_address {mmc : Mmc} {start blkcnt address : U32} (cmdidx : Nat)
    (inside : mmc.NamesInside start blkcnt address) :
    Request.EraseWithin mmc start.toNat
      (min mmc.blockDev.lba.toNat (start.toNat + blkcnt.toNat))
      (.sendCmd (eraseAddressCmd mmc cmdidx address) none) := by
  intro _
  rw [namedSector_eraseAddress]
  exact inside

theorem erasesWithin_of_always {Result : Type} {mmc : Mmc} {start blkcnt : U32}
    {program : Driver Result}
    (always : Program.Always (fun _ => True)
      (Request.EraseWithin mmc start.toNat
        (min mmc.blockDev.lba.toNat (start.toNat + blkcnt.toNat))) (fun _ => True) program) :
    ErasesWithin mmc start blkcnt program :=
  fun _ _ run => (always.run run fun _ _ => trivial).1

/-- An address that is sent has to name a sector inside. -/
theorem namesInside_of_sends {Result : Type} {mmc : Mmc} {start blkcnt address : U32} {cmdidx : Nat}
    {program : Driver Result} (erases : cmdidx = mmcCmdEraseGroupStart ∨ cmdidx = mmcCmdEraseGroupEnd)
    (sends : Sends (eraseAddressCmd mmc cmdidx address) program)
    (within : ErasesWithin mmc start blkcnt program) : mmc.NamesInside start blkcnt address := by
  obtain ⟨exchange, member, equal⟩ := sends
  have named := within _ _ (Program.run_exec serveWell program ()) _ member
  rw [equal] at named
  have inside := named erases
  rw [namedSector_eraseAddress] at inside
  exact inside

/-! ### What the clip leaves -/

/-- The end of the clipped range, counted from the start without wrapping. A 32-bit sum past the
end of the card clips it there, which for a start past the end of the card comes only after the
sectors have wrapped. -/
def clippedEnd (mmc : Mmc) (start blkcnt : U32) : Nat :=
  if mmc.blockDev.lba < start + blkcnt then
    if start ≤ mmc.blockDev.lba then mmc.blockDev.lba.toNat else mmc.blockDev.lba.toNat + 2 ^ 32
  else start.toNat + blkcnt.toNat

theorem add_clip (mmc : Mmc) (start blkcnt : U32) :
    start.toNat + (clip mmc start blkcnt).toNat = clippedEnd mmc start blkcnt := by
  unfold clip clippedEnd
  split
  · split <;> bv_omega
  · rfl

/-! ### The five entries -/

/-- The erase entries of the block device. -/
inductive EraseEntry where
  | erase
  | trim
  | discard
  | secureErase
  | secureTrim
  deriving DecidableEq

namespace EraseEntry

/-- The entry moves its range to whole erase groups. -/
def byGroups : EraseEntry → Bool
  | .erase | .secureErase => true
  | .trim | .discard | .secureTrim => false

/-- The entry does not turn the card down. -/
def Active (mmc : Mmc) : EraseEntry → Prop
  | .erase =>
      mmc.isSd = false ∧ mmc.cfg.platformCaps.drvEraseFeature &&& drvParaDisableEmmcErase = 0
  | .trim => mmc.isSd = false ∧ mmc.supports extCsdSecGbClEn = true
  | .discard => mmc.isSd = false ∧ mmc.version ≥ mmcVersion45
  | .secureErase => mmc.isSd = false ∧ mmc.supports extCsdSecErEn = true
  | .secureTrim =>
      mmc.isSd = false ∧ mmc.supports extCsdSecErEn = true ∧ mmc.supports extCsdSecGbClEn = true

/-- What the entry returns -/
def Result : EraseEntry → Type
  | .erase | .secureErase => Int × Mmc × SkipSpace
  | .trim | .discard | .secureTrim => Int × Mmc

/-- The function of the entry; two of them record what they left out. -/
def program (mmc : Mmc) (start blkcnt : U32) (skipSpace : SkipSpace) :
    (entry : EraseEntry) → Driver entry.Result
  | .erase => mmcMmcErase mmc start blkcnt skipSpace
  | .trim => mmcMmcTrim mmc start blkcnt
  | .discard => mmcMmcDiscard mmc start blkcnt
  | .secureErase => mmcMmcSecureErase mmc start blkcnt skipSpace
  | .secureTrim => mmcMmcSecureTrim mmc start blkcnt

/-- No run of the entry names a sector outside its range or outside the card. -/
def KeepsRange (mmc : Mmc) (start blkcnt : U32) (skipSpace : SkipSpace) (entry : EraseEntry) :
    Prop :=
  ErasesWithin mmc start blkcnt (entry.program mmc start blkcnt skipSpace)

/-- The first sector an active entry names -/
def first (entry : EraseEntry) (mmc : Mmc) (start : U32) : U32 :=
  firstNamed entry.byGroups mmc start

/-- The last sector an active entry names -/
def last (entry : EraseEntry) (mmc : Mmc) (start blkcnt : U32) : U32 :=
  lastNamed entry.byGroups mmc (clippedEnd mmc start blkcnt)

/-- The clip leaves nothing that the entry could erase. -/
def Nothing (entry : EraseEntry) (mmc : Mmc) (start blkcnt : U32) : Prop :=
  NamesNone entry.byGroups mmc start (clip mmc start blkcnt)

/-- The clip leaves nothing, or the two sectors that are sent name sectors of the range that are on
the card. -/
def RangeFits (entry : EraseEntry) (mmc : Mmc) (start blkcnt : U32) : Prop :=
  entry.Nothing mmc start blkcnt ∨
    mmc.NamesInside start blkcnt (entry.first mmc start) ∧
      mmc.NamesInside start blkcnt (entry.last mmc start blkcnt)

instance (entry : EraseEntry) (mmc : Mmc) (start blkcnt : U32) :
    Decidable (entry.Nothing mmc start blkcnt) :=
  inferInstanceAs (Decidable (NamesNone _ _ _ _))

instance (entry : EraseEntry) (mmc : Mmc) (start blkcnt : U32) :
    Decidable (entry.RangeFits mmc start blkcnt) :=
  inferInstanceAs (Decidable (_ ∨ _))

/-- The range lies where the clip works: it starts on the card, and its end has 32 bits. An
entry that works by groups also keeps its range when no group is left in it, and when the groups
of a range with a longer end stop before the end of the card. -/
def ClipWorks (entry : EraseEntry) (mmc : Mmc) (start blkcnt : U32) : Prop :=
  if entry.byGroups then
    NoGroup mmc start (clip mmc start blkcnt) ∨
      start ≤ mmc.blockDev.lba ∧
        (start.toNat + blkcnt.toNat < 2 ^ 32 ∨
          (start.toNat + blkcnt.toNat) / mmc.eraseGrpSize.toNat * mmc.eraseGrpSize.toNat ≤
            mmc.blockDev.lba.toNat)
  else start ≤ mmc.blockDev.lba ∧ start.toNat + blkcnt.toNat < 2 ^ 32

instance (entry : EraseEntry) (mmc : Mmc) (start blkcnt : U32) :
    Decidable (entry.ClipWorks mmc start blkcnt) := by
  unfold ClipWorks
  infer_instance

end EraseEntry

/-! ### What the entries send -/

/-- The sectors that an entry by groups sends are those of the alignment. -/
theorem groups_named {mmc : Mmc} {start blkcnt : U32}
    (group : ¬ NoGroup mmc start (clip mmc start blkcnt)) :
    (groupRange mmc start (clip mmc start blkcnt)).1 = firstNamed true mmc start ∧
      (groupRange mmc start (clip mmc start blkcnt)).1 +
          (groupRange mmc start (clip mmc start blkcnt)).2 - 1 =
        lastNamed true mmc (clippedEnd mmc start blkcnt) := by
  rw [← add_clip]
  exact groupRange_named mmc start (clip mmc start blkcnt) group

theorem whole_named (mmc : Mmc) (start blkcnt : U32) :
    start + clip mmc start blkcnt - 1 = lastNamed false mmc (clippedEnd mmc start blkcnt) := by
  rw [← add_clip]
  exact lastNamed_unaligned mmc start (clip mmc start blkcnt)

/-- Whatever the replies are, an entry sends only its two sectors, and those only when it is active
and the clip leaves something. -/
theorem EraseEntry.always_program {allowed : Request → Prop} (control : AllowsControl allowed)
    (entry : EraseEntry) (mmc : Mmc) (start blkcnt : U32) (skipSpace : SkipSpace)
    (sent : entry.Active mmc → ¬ entry.Nothing mmc start blkcnt →
      mmc.AllowsErase allowed (entry.first mmc start) (entry.last mmc start blkcnt)) :
    Program.Always (fun _ => True) allowed (fun _ => True)
      (entry.program mmc start blkcnt skipSpace) := by
  cases entry with
  | erase =>
    refine always_mmcMmcErase control mmc start blkcnt skipSpace fun enabled notSd group => ?_
    rw [(groups_named group).2, (groups_named group).1]
    exact sent ⟨notSd, enabled⟩ group
  | trim =>
    refine always_eraseUnaligned control mmc start blkcnt _ _ fun supported notSd some => ?_
    rw [whole_named]
    exact sent ⟨notSd, supported⟩ some
  | discard =>
    refine always_eraseUnaligned control mmc start blkcnt _ _ fun supported notSd some => ?_
    rw [whole_named]
    exact sent ⟨notSd, of_decide_eq_true supported⟩ some
  | secureErase =>
    refine always_mmcMmcSecureErase control mmc start blkcnt skipSpace fun supported notSd group => ?_
    rw [(groups_named group).2, (groups_named group).1]
    exact sent ⟨notSd, supported⟩ group
  | secureTrim =>
    refine always_eraseUnaligned control mmc start blkcnt _ _ fun supported notSd some => ?_
    rw [whole_named]
    exact sent ⟨notSd, Bool.and_eq_true_iff.mp supported⟩ some

/-- When every request goes well, an active entry does send them. -/
theorem EraseEntry.sends_program (entry : EraseEntry) (mmc : Mmc) (start blkcnt : U32)
    (skipSpace : SkipSpace) (positive : 0 < blkcnt) (active : entry.Active mmc)
    (something : ¬ entry.Nothing mmc start blkcnt) :
    SendsErase mmc (entry.first mmc start) (entry.last mmc start blkcnt)
      (entry.program mmc start blkcnt skipSpace) := by
  cases entry with
  | erase =>
    have sends := sends_mmcMmcErase mmc start blkcnt skipSpace positive active.1 active.2 something
    rw [(groups_named something).2, (groups_named something).1] at sends
    exact sends
  | trim =>
    have sends := sends_eraseUnaligned mmc start blkcnt mmcTrimArg positive active.1 something
      (by decide)
    rw [whole_named] at sends
    show SendsErase _ _ _ (mmcMmcTrim mmc start blkcnt)
    unfold mmcMmcTrim
    rw [active.2]
    exact sends
  | discard =>
    have sends := sends_eraseUnaligned mmc start blkcnt mmcDiscardArg positive active.1 something
      (by decide)
    rw [whole_named] at sends
    show SendsErase _ _ _ (mmcMmcDiscard mmc start blkcnt)
    unfold mmcMmcDiscard
    rw [decide_eq_true active.2]
    exact sends
  | secureErase =>
    have sends := sends_mmcMmcSecureErase mmc start blkcnt skipSpace positive active.1 active.2
      something
    rw [(groups_named something).2, (groups_named something).1] at sends
    exact sends
  | secureTrim =>
    have sends := sends_eraseUnaligned mmc start blkcnt mmcSecureTrim1Arg positive active.1 something
      (by decide)
    rw [whole_named] at sends
    show SendsErase _ _ _ (mmcMmcSecureTrim mmc start blkcnt)
    unfold mmcMmcSecureTrim
    rw [active.2.1, active.2.2]
    exact sends

/-! ### High-capacity cards -/

theorem clip_eq (mmc : Mmc) (start blkcnt : U32) (inside : start ≤ mmc.blockDev.lba)
    (noWrap : start.toNat + blkcnt.toNat < 2 ^ 32) :
    clippedEnd mmc start blkcnt = min mmc.blockDev.lba.toNat (start.toNat + blkcnt.toNat) := by
  unfold clippedEnd
  split <;> bv_omega

/-- When the sum wraps, the clip takes the range for one that ends before its start. -/
theorem clip_wraps (mmc : Mmc) (start blkcnt : U32) (inside : start ≤ mmc.blockDev.lba)
    (wraps : 2 ^ 32 ≤ start.toNat + blkcnt.toNat) :
    clippedEnd mmc start blkcnt = start.toNat + blkcnt.toNat := by
  unfold clippedEnd
  rw [if_neg]
  bv_omega

/-- An unaligned erase sends the range as the clip leaves it. -/
theorem namesInside_unaligned_iff (mmc : Mmc) (highCapacity : mmc.highCapacity = true)
    (start blkcnt : U32) (positive : 0 < blkcnt) :
    (clip mmc start blkcnt = 0 ∨
        mmc.NamesInside start blkcnt start ∧
          mmc.NamesInside start blkcnt (start + clip mmc start blkcnt - 1)) ↔
      start ≤ mmc.blockDev.lba ∧ start.toNat + blkcnt.toNat < 2 ^ 32 := by
  have ends := add_clip mmc start blkcnt
  unfold Mmc.NamesInside
  rw [landsOn_highCapacity highCapacity, landsOn_highCapacity highCapacity]
  by_cases inside : start ≤ mmc.blockDev.lba
  · by_cases wraps : start.toNat + blkcnt.toNat < 2 ^ 32
    · rw [clip_eq mmc start blkcnt inside wraps] at ends
      refine iff_of_true ?_ ⟨inside, wraps⟩
      by_cases nothing : clip mmc start blkcnt = 0
      · exact Or.inl nothing
      · refine Or.inr ?_
        bv_omega
    · rw [clip_wraps mmc start blkcnt inside (by omega)] at ends
      refine iff_of_false (fun fits => ?_) fun both => wraps both.2
      bv_omega
  · refine iff_of_false (fun fits => ?_) fun both => inside both.1
    have some : clip mmc start blkcnt ≠ 0 := by
      unfold clip
      split <;> bv_omega
    have named := (fits.resolve_left some).1
    bv_omega

/-- An aligned erase sends whole groups, so a sum that wraps does no harm when the groups end
before the end of the card. -/
theorem namesInside_aligned_iff (mmc : Mmc) (highCapacity : mmc.highCapacity = true)
    (start blkcnt : U32) (positive : 0 < blkcnt)
    (group : ¬ NoGroup mmc start (clip mmc start blkcnt)) :
    mmc.NamesInside start blkcnt (groupRange mmc start (clip mmc start blkcnt)).1 ∧
        mmc.NamesInside start blkcnt ((groupRange mmc start (clip mmc start blkcnt)).1 +
          (groupRange mmc start (clip mmc start blkcnt)).2 - 1) ↔
      start ≤ mmc.blockDev.lba ∧
        (start.toNat + blkcnt.toNat < 2 ^ 32 ∨
          (start.toNat + blkcnt.toNat) / mmc.eraseGrpSize.toNat * mmc.eraseGrpSize.toNat ≤
            mmc.blockDev.lba.toNat) := by
  have some : (groupRange mmc start (clip mmc start blkcnt)).2 ≠ 0 := fun none => group (Or.inl none)
  obtain ⟨skipped, skippedSmall, skippedLe, onGroup, first, count⟩ := groupRange_eq mmc start _ group
  have ends := groupRange_ends onGroup skippedLe
  have endsLe := Nat.div_mul_le_self (start.toNat + (clip mmc start blkcnt).toNat)
    mmc.eraseGrpSize.toNat
  rw [← count] at ends
  rw [← ends] at endsLe
  rw [add_clip] at ends endsLe
  have clipBound := (clip mmc start blkcnt).isLt
  unfold Mmc.NamesInside
  rw [landsOn_highCapacity highCapacity, landsOn_highCapacity highCapacity]
  generalize groupRange mmc start (clip mmc start blkcnt) = range at some first ends endsLe ⊢
  by_cases inside : start ≤ mmc.blockDev.lba
  · by_cases wraps : start.toNat + blkcnt.toNat < 2 ^ 32
    · rw [clip_eq mmc start blkcnt inside wraps] at endsLe
      refine iff_of_true ?_ ⟨inside, Or.inl wraps⟩
      bv_omega
    · rw [clip_wraps mmc start blkcnt inside (by omega)] at ends endsLe
      rw [← ends]
      simp only [inside, wraps, true_and, false_or]
      bv_omega
  · refine iff_of_false (fun both => ?_) fun both => inside both.1
    have past := add_clip mmc start blkcnt
    bv_omega

/-- On a high-capacity card the sectors lie inside exactly where the clip works. -/
theorem rangeFits_iff_clipWorks (entry : EraseEntry) (mmc : Mmc)
    (highCapacity : mmc.highCapacity = true) (start blkcnt : U32) (positive : 0 < blkcnt) :
    entry.RangeFits mmc start blkcnt ↔ entry.ClipWorks mmc start blkcnt := by
  unfold EraseEntry.RangeFits EraseEntry.ClipWorks EraseEntry.Nothing EraseEntry.first
    EraseEntry.last NamesNone
  cases entry.byGroups with
  | true =>
    simp only [if_true]
    by_cases group : NoGroup mmc start (clip mmc start blkcnt)
    · exact iff_of_true (Or.inl group) (Or.inl group)
    · rw [← (groups_named group).2, ← (groups_named group).1,
        namesInside_aligned_iff mmc highCapacity start blkcnt positive group]
  | false =>
    simp only [Bool.false_eq_true, if_false]
    rw [← whole_named]
    exact namesInside_unaligned_iff mmc highCapacity start blkcnt positive

/-! ### The ranges of the entries -/

theorem keepsRange_iff (entry : EraseEntry) (mmc : Mmc) (start blkcnt : U32)
    (skipSpace : SkipSpace) (positive : 0 < blkcnt) :
    entry.KeepsRange mmc start blkcnt skipSpace ↔
      (entry.Active mmc → entry.RangeFits mmc start blkcnt) := by
  constructor
  · intro keeps active
    by_cases nothing : entry.Nothing mmc start blkcnt
    · exact Or.inl nothing
    · have sends := entry.sends_program mmc start blkcnt skipSpace positive active nothing
      exact Or.inr ⟨namesInside_of_sends (Or.inl rfl) sends.1 keeps,
        namesInside_of_sends (Or.inr rfl) sends.2 keeps⟩
  · intro fits
    refine erasesWithin_of_always (entry.always_program (allowsControl_eraseWithin mmc _ _) mmc start
      blkcnt skipSpace fun active something => ?_)
    obtain ⟨first, last⟩ := (fits active).resolve_left something
    exact ⟨eraseWithin_address _ first, eraseWithin_address _ last⟩

/-- An entry keeps its range exactly when it turns the card down, sends nothing, or sends two
sectors whose addresses lead into the range and the card. On a high-capacity card that is so
exactly where the clip works. -/
theorem erase_entries_keep_range (entry : EraseEntry) (mmc : Mmc) (start blkcnt : U32)
    (skipSpace : SkipSpace) (positive : 0 < blkcnt) :
    (entry.KeepsRange mmc start blkcnt skipSpace ↔
      (entry.Active mmc → entry.RangeFits mmc start blkcnt)) ∧
    (mmc.highCapacity = true →
      (entry.KeepsRange mmc start blkcnt skipSpace ↔
        (entry.Active mmc → entry.ClipWorks mmc start blkcnt))) := by
  have keepsIff := keepsRange_iff entry mmc start blkcnt skipSpace positive
  refine ⟨keepsIff, fun highCapacity => keepsIff.trans ?_⟩
  rw [rangeFits_iff_clipWorks entry mmc highCapacity start blkcnt positive]

/-- An eMMC of 4096 blocks with groups of 1024 blocks that supports every kind of erase. -/
def erasableDevice : Mmc :=
  { Mmc.unidentified with
    version := mmcVersion45
    highCapacity := true
    eraseGrpSize := 1024
    eraseGrpSizePos := by decide
    blockDev := ⟨4096⟩
    secureFeature := 0xff }

/-- The groups of a range that is not aligned, a trim that is clipped at the end of the card, also
on a card that is addressed by bytes. -/
theorem erase_entries_keep_range_erasableDevice :
    EraseEntry.KeepsRange erasableDevice 100 3000 (fun _ => 0) .secureErase ∧
      EraseEntry.KeepsRange erasableDevice 4000 200 (fun _ => 0) .trim ∧
      EraseEntry.KeepsRange { erasableDevice with highCapacity := false } 4000 200 (fun _ => 0)
        .trim :=
  ⟨(erase_entries_keep_range .secureErase erasableDevice 100 3000 _ (by decide)).1.mpr
      fun _ => by decide,
    ((erase_entries_keep_range .trim erasableDevice 4000 200 _ (by decide)).2 rfl).mpr
      fun _ => by decide,
    (erase_entries_keep_range .trim { erasableDevice with highCapacity := false } 4000 200 _
      (by decide)).1.mpr fun _ => by decide⟩

/-- A trim of 16 blocks that starts past the end of the card names the first of them. An erase
whose sum wraps names sectors before its start. On a card of 2^24 blocks that is addressed by bytes,
a trim of blocks from 2^23 on names block 0. -/
theorem erase_entries_leave_range :
    ¬ EraseEntry.KeepsRange erasableDevice 5000 16 (fun _ => 0) .trim ∧
      ¬ EraseEntry.KeepsRange erasableDevice 1024 0xfffffc00 (fun _ => 0) .erase ∧
      ¬ EraseEntry.KeepsRange { erasableDevice with highCapacity := false, blockDev := ⟨0x1000000⟩ }
        0x800000 16 (fun _ => 0) .trim := by
  refine ⟨fun keeps => ?_, fun keeps => ?_, fun keeps => ?_⟩
  · exact absurd ((keepsRange_iff _ _ _ _ _ (by decide)).mp keeps ⟨rfl, rfl⟩) (by decide)
  · exact absurd ((keepsRange_iff _ _ _ _ _ (by decide)).mp keeps ⟨rfl, rfl⟩) (by decide)
  · exact absurd ((keepsRange_iff _ _ _ _ _ (by decide)).mp keeps ⟨rfl, rfl⟩) (by decide)

end PinePhonePkg
