/-
This file follows an erase into the card. An erase that reports success has set
the first and the last sector and has purged the sectors between them, once for
each argument it was sent with; the functions around it only decide which range
and which arguments these are.
-/

import PinePhonePkg.Card.Frame
import PinePhonePkg.Mmc.EraseRange

namespace PinePhonePkg

open Library Program

/-! ### What an erase leaves on the card -/

/-- The card after an erase of these sectors with each of the arguments. -/
def Card.purged (card : Card) (first last : Nat) (args : List U32) : Card :=
  { card with
    eraseStart := first
    eraseEnd := last
    purges := card.purges ++ args.map fun arg => .erase arg first last }

theorem purged_purged (card : Card) (first last : Nat) (before after : List U32) :
    (card.purged first last before).purged first last after =
      card.purged first last (before ++ after) := by
  unfold Card.purged
  rw [List.map_append, List.append_assoc]

/-- The sector an erase address of this descriptor names on the card. -/
def Card.sectorOf (card : Card) (mmc : Mmc) (address : U32) : Nat :=
  card.sector (if mmc.highCapacity then address else address * mmc.writeBlLen)

theorem sectorOf_sameCard (card : Card) {mmc other : Mmc} (same : mmc.SameCard other)
    (address : U32) : card.sectorOf other address = card.sectorOf mmc address := by
  unfold Mmc.SameCard at same
  rw [same]
  rfl

theorem sectorOf_eq {card : Card} {mmc : Mmc} (matched : Matches mmc card) {start blkcnt : U32}
    (addressable : mmc.Addressable start blkcnt) {address : U32}
    (inside : address.toNat < start.toNat + blkcnt.toNat) :
    card.sectorOf mmc address = address.toNat := by
  unfold Mmc.Addressable at addressable
  unfold Card.sectorOf Card.sector
  rw [matched.addressing, matched.writeBlLen]
  cases highCapacity : mmc.highCapacity with
  | true => rfl
  | false =>
    rw [highCapacity] at addressable
    have bound : (start.toNat + blkcnt.toNat) * 512 ≤ 2 ^ 32 := addressable
    show (address * 512).toNat / 512 = address.toNat
    bv_omega

/-- A sector that an erase address names has an address below the end of the addresses. -/
theorem sectorOf_lt {card : Card} {mmc : Mmc} (matched : Matches mmc card) (address : U32) :
    card.sectorOf mmc address < if mmc.highCapacity then 2 ^ 32 else 2 ^ 23 := by
  unfold Card.sectorOf Card.sector
  rw [matched.addressing]
  cases mmc.highCapacity with
  | true => exact address.isLt
  | false =>
    have bound := (address * mmc.writeBlLen).isLt
    show (address * mmc.writeBlLen).toNat / 512 < 2 ^ 23
    omega

/-! ### One erase -/

section Erase

variable {mmc : Mmc} {world : World}

theorem quiet_mmcSendStatus (mmc : Mmc) (timeout : U32) :
    Always (fun _ => True) Request.Quiet (fun _ => True) (mmcSendStatus mmc timeout) :=
  always_mmcSendStatus mmc (sendStatusCmd_quiet mmc) timeout

theorem quiet_mmcMmcUpdateTimeout (mmc : Mmc) :
    Always (fun _ => True) Request.Quiet mmc.SameCard (mmcMmcUpdateTimeout mmc) :=
  always_mmcMmcUpdateTimeout sendExtCsdCmd_quiet trivial mmc

theorem perform_eraseStart (card : Card) (mmc : Mmc) (address : U32) {answer : Answer}
    (done : answer.error = 0) :
    card.perform (eraseAddressCmd mmc mmcCmdEraseGroupStart address) none answer =
      { card with eraseStart := card.sectorOf mmc address } :=
  if_pos (Or.inl done)

theorem perform_eraseEnd (card : Card) (mmc : Mmc) (address : U32) {answer : Answer}
    (done : answer.error = 0) :
    card.perform (eraseAddressCmd mmc mmcCmdEraseGroupEnd address) none answer =
      { card with eraseEnd := card.sectorOf mmc address } :=
  if_pos (Or.inl done)

theorem perform_erase (card : Card) (eraseArg : U32) {answer : Answer} (done : answer.error = 0) :
    card.perform (eraseCmd eraseArg) none answer =
      card.purged card.eraseStart card.eraseEnd [eraseArg] :=
  if_pos (Or.inl done)

/-- An erase address that is set without an error was carried out by the card. -/
theorem exec_mmcSetEraseAddr (cmdidx : Nat) (notStatus : cmdidx ≠ mmcCmdSendStatus)
    (address : U32) (done : ((mmcSetEraseAddr mmc cmdidx address).exec serve world).1 = 0) :
    ∃ answer, answer.error = 0 ∧ ((mmcSetEraseAddr mmc cmdidx address).exec serve world).2.card =
      world.card.perform (eraseAddressCmd mmc cmdidx address) none answer := by
  have sent := exec_mmcSendCmd (eraseAddressCmd mmc cmdidx address) none notStatus world
  unfold mmcSetEraseAddr at done ⊢
  rw [exec_bind, sent] at done ⊢
  split at done
  · rename_i failed
    exact absurd done failed
  · rename_i succeeded
    rw [if_neg succeeded]
    exact ⟨_, not_not.mp succeeded, exec_quiet (quiet_mmcSendStatus mmc 300) _⟩

/-- An erase that reports success has purged the sectors from the first to the last. -/
theorem exec_mmcDoErase (first last eraseArg : U32)
    (done : ((mmcDoErase mmc first last eraseArg).exec serve world).1.1 = 0) :
    ((mmcDoErase mmc first last eraseArg).exec serve world).2.card =
      world.card.purged (world.card.sectorOf mmc first) (world.card.sectorOf mmc last)
        [eraseArg] := by
  have untouched := exec_quiet (quiet_mmcMmcUpdateTimeout mmc).weaken world
  have same := (quiet_mmcMmcUpdateTimeout mmc).result serve world
  unfold mmcDoErase at done ⊢
  rw [exec_bind] at done ⊢
  generalize (mmcMmcUpdateTimeout mmc).exec serve world = updated at untouched same done ⊢
  rw [exec_bind] at done ⊢
  split at done
  · rename_i failed
    exact absurd done failed
  rename_i started
  rw [if_neg started]
  obtain ⟨startAnswer, startFine, startCard⟩ :=
    exec_mmcSetEraseAddr mmcCmdEraseGroupStart (by decide) first (not_not.mp started)
  rw [perform_eraseStart _ _ _ startFine] at startCard
  rw [exec_bind] at done ⊢
  split at done
  · rename_i failed
    exact absurd done failed
  rename_i ended
  rw [if_neg ended]
  obtain ⟨endAnswer, endFine, endCard⟩ :=
    exec_mmcSetEraseAddr mmcCmdEraseGroupEnd (by decide) last (not_not.mp ended)
  rw [perform_eraseEnd _ _ _ endFine] at endCard
  have addressed : ((mmcSetEraseEndAddr updated.1 last).exec serve
      ((mmcSetEraseStartAddr updated.1 first).exec serve updated.2).2).2.card =
      { world.card with
        eraseStart := world.card.sectorOf mmc first
        eraseEnd := world.card.sectorOf mmc last } := by
    refine endCard.trans ?_
    rw [show ((mmcSetEraseStartAddr updated.1 first).exec serve updated.2).2.card = _ from startCard,
      untouched]
    refine Card.ext rfl rfl rfl ?_ ?_ rfl rfl
    · exact sectorOf_sameCard world.card same first
    · exact sectorOf_sameCard world.card same last
  generalize (mmcSetEraseEndAddr updated.1 last).exec serve _ = reached at addressed done ⊢
  have launched : (mmcLaunchErase eraseArg).exec serve reached.2 =
      ((reached.2.answer (eraseCmd eraseArg) none).error,
        reached.2.command (eraseCmd eraseArg) none) := rfl
  rw [exec_bind, launched] at done ⊢
  split at done
  · rename_i failed
    exact absurd done failed
  rename_i erased
  rw [if_neg erased]
  refine (exec_quiet ?_ _).trans ((perform_erase reached.2.card eraseArg
    (not_not.mp erased)).trans (by rw [addressed]; rfl))
  show Always _ _ _ (if mmcEraseTimeout updated.1 eraseArg _ = 0 then _ else _)
  generalize mmcEraseTimeout updated.1 eraseArg _ = timeout
  by_cases none : timeout = 0
  · rw [if_pos none]
    trivial
  · rw [if_neg none]
    exact (quiet_mmcSendStatus updated.1 _).bind fun _ _ => trivial

/-- What `mmc_erase` sends for this argument; a secure trim takes two steps. -/
def eraseArgs (eraseArg : U32) : List U32 :=
  if eraseArg = mmcSecureTrim1Arg then [eraseArg, mmcSecureTrim2Arg] else [eraseArg]

/-- An `mmc_erase` that reports success has purged its whole range. -/
theorem exec_mmcErase (first nr eraseArg : U32) (nonzero : nr ≠ 0)
    (done : ((mmcErase mmc first nr eraseArg).exec serve world).1.1 = 0) :
    ((mmcErase mmc first nr eraseArg).exec serve world).2.card =
      world.card.purged (world.card.sectorOf mmc first) (world.card.sectorOf mmc (first + nr - 1))
        (eraseArgs eraseArg) := by
  have refused (mmc : Mmc) (result : (((-1 : Int), mmc) : Int × Mmc).1 = 0) : False :=
    absurd (show (-1 : Int) = 0 from result) (by decide)
  have control : AllowsControl fun _ => True :=
    ⟨fun _ _ _ => trivial, fun _ _ _ => trivial, trivial, fun _ => trivial, trivial⟩
  have always : Always (fun _ => True) (fun _ => True) (fun result => mmc.SameCard result.2)
      (mmcDoErase mmc first (first + nr - 1) eraseArg) :=
    always_mmcDoErase control mmc first (first + nr - 1) eraseArg ⟨trivial, trivial⟩
  have same := always.result serve world
  unfold mmcErase at done ⊢
  rw [if_neg nonzero] at done ⊢
  split at done
  · exact absurd done (refused mmc)
  rename_i notSd
  rw [if_neg notSd]
  split at done
  · exact absurd done (refused mmc)
  rename_i known
  rw [if_neg known]
  split at done
  · exact absurd done (refused mmc)
  rename_i aligned
  rw [if_neg aligned, exec_bind]
  rw [exec_bind] at done
  have firstCard
      (done : ((mmcDoErase mmc first (first + nr - 1) eraseArg).exec serve world).1.1 = 0) :=
    exec_mmcDoErase first (first + nr - 1) eraseArg done
  generalize (mmcDoErase mmc first (first + nr - 1) eraseArg).exec serve world = erased
    at same firstCard done ⊢
  dsimp only at done ⊢
  split at done
  · exact absurd done (refused erased.1.2)
  rename_i succeeded
  rw [if_neg succeeded]
  have purged := firstCard (not_not.mp succeeded)
  unfold eraseArgs
  split at done
  · rename_i trims
    rw [if_pos trims, if_pos trims, exec_bind]
    rw [exec_bind] at done
    have secondCard :
        ((mmcDoErase erased.1.2 first (first + nr - 1) mmcSecureTrim2Arg).exec serve
          erased.2).2.card = _ :=
      exec_mmcDoErase first (first + nr - 1) mmcSecureTrim2Arg (by
        by_contra failed
        rw [exec_pure, if_pos failed] at done
        exact refused mmc done)
    rw [sectorOf_sameCard _ same, sectorOf_sameCard _ same, purged] at secondCard
    exact secondCard.trans (purged_purged world.card _ _ [eraseArg] [mmcSecureTrim2Arg])
  · rename_i once
    rw [if_neg once, if_neg once]
    exact purged

end Erase

end PinePhonePkg
