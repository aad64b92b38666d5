/-
This file shows that the books of the DMA driver are kept over any sequence of
its calls, with interrupts in between: the count of the driver is the number of
channels whose interrupt is enabled, and only channels that are held have it
enabled.
-/

import PinePhonePkg.Dma.Channels
import PinePhonePkg.Library.Bits
import PinePhonePkg.Library.Runs
import Mathlib.Data.Finset.Card
import Mathlib.Data.Fintype.Defs

namespace PinePhonePkg

open Library

namespace SunxiDma

/-! ### The enable bit of a channel -/

section EndBit

variable (dma : SunxiDma) (hdma : Hdma)

/-- The end-of-package bit of a channel in its register. -/
def endBit : U32 := BitVec.twoPow 32 (4 * (hdma.val % 8) + 1)

/-- The register with the interrupts of a channel enabled -/
def irqEn : U32 := if hdma.val < 8 then dma.irqEn0 else dma.irqEn1

/-- The end-of-package interrupt of the channel is enabled. -/
def endEnabled : Bool := (dma.irqEn hdma).getLsbD (4 * (hdma.val % 8) + 1)

/-- The interrupt at the end is switched on or off. -/
def setEnd (on : Bool) : SunxiDma :=
  if hdma.val < 8 then
    { dma with irqEn0 := if on then dma.irqEn0 ||| endBit hdma else dma.irqEn0 &&& ~~~endBit hdma }
  else
    { dma with irqEn1 := if on then dma.irqEn1 ||| endBit hdma else dma.irqEn1 &&& ~~~endBit hdma }

/-- The channels whose interrupt at the end is on -/
def enabledChannels : Finset Hdma := Finset.univ.filter fun hdma => dma.endEnabled hdma = true

theorem channalCount_lt : BitVec.ofNat 32 hdma.val < 8 ↔ hdma.val < 8 := by
  revert hdma
  decide

theorem lowMask (low : hdma.val < 8) :
    dmaPkgEndInt <<< (BitVec.ofNat 32 hdma.val * 4) = endBit hdma := by
  revert hdma
  decide

theorem highMask (high : ¬ hdma.val < 8) :
    dmaPkgEndInt <<< ((BitVec.ofNat 32 hdma.val - 8) * 4) = endBit hdma := by
  revert hdma
  decide

theorem and_endBit_ne_zero (word : U32) :
    word &&& endBit hdma ≠ 0 ↔ word.getLsbD (4 * (hdma.val % 8) + 1) = true :=
  and_twoPow_ne_zero_iff word (by omega)

theorem irqEn_setEnd (on : Bool) : (dma.setEnd hdma on).irqEn hdma =
    if on then dma.irqEn hdma ||| endBit hdma else dma.irqEn hdma &&& ~~~endBit hdma := by
  unfold setEnd irqEn
  split <;> rfl

theorem irqEn_setEnd_other {other : Hdma} (on : Bool)
    (apart : ¬ (other.val < 8 ↔ hdma.val < 8)) :
    (dma.setEnd hdma on).irqEn other = dma.irqEn other := by
  unfold setEnd irqEn
  by_cases low : hdma.val < 8
  · have high : ¬ other.val < 8 := by tauto
    simp only [low, high, if_true, if_false]
  · have low_other : other.val < 8 := by tauto
    simp only [low, low_other, if_true, if_false]

theorem irqEn_congr {other : Hdma} (together : other.val < 8 ↔ hdma.val < 8) :
    dma.irqEn other = dma.irqEn hdma := by
  unfold irqEn
  rw [if_congr together rfl rfl]

/-- To set or clear the bit of a channel leaves those of the others. -/
theorem endEnabled_setEnd (other : Hdma) (on : Bool) :
    (dma.setEnd hdma on).endEnabled other = if other = hdma then on else dma.endEnabled other := by
  unfold endEnabled
  by_cases together : other.val < 8 ↔ hdma.val < 8
  · have place : 4 * (other.val % 8) + 1 = 4 * (hdma.val % 8) + 1 ↔ other = hdma := by
      rw [Fin.ext_iff]
      omega
    have bit : decide (4 * (other.val % 8) + 1 = 4 * (hdma.val % 8) + 1) =
        decide (other = hdma) := decide_eq_decide.mpr place
    have inside : 4 * (hdma.val % 8) + 1 < 32 := by omega
    rw [irqEn_congr _ _ together, irqEn_setEnd, irqEn_congr dma _ together]
    unfold endBit
    cases on with
    | true =>
      rw [if_pos rfl, getLsbD_or_twoPow _ inside, bit]
      by_cases same : other = hdma <;> simp [same]
    | false =>
      rw [if_neg Bool.false_ne_true, getLsbD_and_not_twoPow _ inside, bit]
      by_cases same : other = hdma <;> simp [same]
  · rw [irqEn_setEnd_other _ _ _ together, if_neg]
    rintro rfl
    exact together Iff.rfl

theorem enabledChannels_setEnd_true :
    (dma.setEnd hdma true).enabledChannels = insert hdma dma.enabledChannels := by
  ext other
  simp only [enabledChannels, Finset.mem_filter, Finset.mem_univ, true_and, Finset.mem_insert,
    endEnabled_setEnd]
  by_cases same : other = hdma <;> simp [same]

theorem enabledChannels_setEnd_false :
    (dma.setEnd hdma false).enabledChannels = dma.enabledChannels.erase hdma := by
  ext other
  simp only [enabledChannels, Finset.mem_filter, Finset.mem_univ, true_and, Finset.mem_erase,
    endEnabled_setEnd]
  by_cases same : other = hdma <;> simp [same]

@[simp]
theorem setEnd_source (on : Bool) :
    (dma.setEnd hdma on).dmaChannalSource = dma.dmaChannalSource := by
  unfold setEnd
  split <;> rfl

@[simp]
theorem setEnd_dmaIntCount (on : Bool) : (dma.setEnd hdma on).dmaIntCount = dma.dmaIntCount := by
  unfold setEnd
  split <;> rfl

@[simp]
theorem setEnd_interruptSource (on : Bool) :
    (dma.setEnd hdma on).interruptSource = dma.interruptSource := by
  unfold setEnd
  split <;> rfl

end EndBit

/-! ### What the calls do to the books -/

section Calls

variable {dma : SunxiDma} {hdma : Hdma}
  (counted : (dma.dmaChannalSource hdma).channalCount = BitVec.ofNat 32 hdma.val)
include counted

theorem enableInt_eq (held : (dma.dmaChannalSource hdma).used ≠ 0) :
    dma.sunxiDmaEnableInt hdma =
      if dma.endEnabled hdma then (efiDeviceError, dma)
      else (efiSuccess, countInt (dma.setEnd hdma true)) := by
  unfold sunxiDmaEnableInt
  dsimp only
  rw [if_neg held, counted]
  unfold endEnabled irqEn setEnd
  by_cases low : hdma.val < 8
  · rw [if_pos ((channalCount_lt hdma).mpr low), lowMask hdma low, if_pos low, if_pos low, if_pos rfl]
    exact if_congr (and_endBit_ne_zero hdma _) rfl rfl
  · rw [if_neg (mt (channalCount_lt hdma).mp low), highMask hdma low, if_neg low, if_neg low,
      if_pos rfl]
    exact if_congr (and_endBit_ne_zero hdma _) rfl rfl

theorem disableInt_eq (held : (dma.dmaChannalSource hdma).used ≠ 0) :
    dma.sunxiDmaDisableInt hdma =
      if dma.endEnabled hdma then (efiSuccess, discountInt (dma.setEnd hdma false))
      else (efiDeviceError, dma) := by
  unfold sunxiDmaDisableInt
  dsimp only
  rw [if_neg held, counted]
  unfold endEnabled irqEn setEnd
  by_cases low : hdma.val < 8
  · rw [if_pos ((channalCount_lt hdma).mpr low), lowMask hdma low, if_pos low, if_pos low,
      if_neg Bool.false_ne_true, ← ite_not]
    exact if_congr (and_endBit_ne_zero hdma _) rfl rfl
  · rw [if_neg (mt (channalCount_lt hdma).mp low), highMask hdma low, if_neg low, if_neg low,
      if_neg Bool.false_ne_true, ← ite_not]
    exact if_congr (and_endBit_ne_zero hdma _) rfl rfl

end Calls

/-- The books are the same: which channels are used, which interrupts are enabled, their count and
the interrupt line. -/
structure SameBooks (dma after : SunxiDma) : Prop where
  used : ∀ hdma, (after.dmaChannalSource hdma).used = (dma.dmaChannalSource hdma).used
  channalCount : ∀ hdma,
    (after.dmaChannalSource hdma).channalCount = (dma.dmaChannalSource hdma).channalCount
  irqEn0 : after.irqEn0 = dma.irqEn0
  irqEn1 : after.irqEn1 = dma.irqEn1
  dmaIntCount : after.dmaIntCount = dma.dmaIntCount
  interruptSource : after.interruptSource = dma.interruptSource

theorem SameBooks.refl (dma : SunxiDma) : SameBooks dma dma :=
  ⟨fun _ => rfl, fun _ => rfl, rfl, rfl, rfl, rfl⟩

theorem SameBooks.trans {dma middle after : SunxiDma} (first : SameBooks dma middle)
    (second : SameBooks middle after) : SameBooks dma after where
  used hdma := (second.used hdma).trans (first.used hdma)
  channalCount hdma := (second.channalCount hdma).trans (first.channalCount hdma)
  irqEn0 := second.irqEn0.trans first.irqEn0
  irqEn1 := second.irqEn1.trans first.irqEn1
  dmaIntCount := second.dmaIntCount.trans first.dmaIntCount
  interruptSource := second.interruptSource.trans first.interruptSource

theorem clearPending_books (dma : SunxiDma) (low : Prop) [Decidable low] (first second : U32) :
    SameBooks dma (if low then dma.clearPending0 first else dma.clearPending1 second) := by
  split <;> exact ⟨fun _ => rfl, fun _ => rfl, rfl, rfl, rfl, rfl⟩

theorem setSource_books (dma : SunxiDma) (hdma : Hdma) (dmaFunc : DmaIrqHandler)
    {channal : SunxiDmaSource} (used : channal.used = (dma.dmaChannalSource hdma).used)
    (channalCount : channal.channalCount = (dma.dmaChannalSource hdma).channalCount) :
    SameBooks dma (dma.setSource hdma { channal with dmaFunc := dmaFunc }) := by
  refine ⟨fun other => ?_, fun other => ?_, rfl, rfl, rfl, rfl⟩ <;>
  · unfold setSource
    dsimp only
    rw [Function.update_apply]
    split
    · rename_i same
      rw [same]
      assumption
    · rfl

theorem installInt_books (dma : SunxiDma) (hdma : Hdma) (dmaIntFunc p : Ulong) :
    SameBooks dma (dma.sunxiDmaInstallInt hdma dmaIntFunc p).2 := by
  unfold sunxiDmaInstallInt
  dsimp only
  split
  · exact .refl dma
  · have cleared := clearPending_books dma ((dma.dmaChannalSource hdma).channalCount < 8)
      (dmaAllInt <<< ((dma.dmaChannalSource hdma).channalCount * 4))
      (dmaAllInt <<< (((dma.dmaChannalSource hdma).channalCount - 8) * 4))
    split
    · exact cleared.trans (setSource_books _ hdma _ (cleared.used hdma).symm
        (cleared.channalCount hdma).symm)
    · exact cleared

theorem freeInt_books (dma : SunxiDma) (hdma : Hdma) :
    SameBooks dma (dma.sunxiDmaFreeInt hdma).2 := by
  unfold sunxiDmaFreeInt
  dsimp only
  split
  · exact .refl dma
  · have cleared := clearPending_books dma ((dma.dmaChannalSource hdma).channalCount < 8)
      (dmaAllInt <<< (dma.dmaChannalSource hdma).channalCount)
      (dmaAllInt <<< ((dma.dmaChannalSource hdma).channalCount - 8))
    split
    · exact cleared.trans (setSource_books _ hdma _ (cleared.used hdma).symm
        (cleared.channalCount hdma).symm)
    · exact cleared

theorem dispatchAll_books {dispatch : SunxiDma → Hdma → SunxiDma × List DmaIntCall}
    (books : ∀ dma hdma, SameBooks dma (dispatch dma hdma).1) (channels : List Hdma)
    (dma : SunxiDma) : SameBooks dma (dispatchAll dispatch channels dma).1 := by
  induction channels generalizing dma with
  | nil => exact .refl dma
  | cons hdma rest inductionHypothesis => exact (books dma hdma).trans (inductionHypothesis _)

theorem intFunc_books (dma : SunxiDma) (source : Ulong) :
    SameBooks dma (dma.sunxiDmaIntFunc source).1 := by
  have low : ∀ (dma : SunxiDma) hdma, SameBooks dma (dma.dispatchLow hdma).1 := by
    intro dma hdma
    unfold dispatchLow
    dsimp only
    split <;> [split; skip] <;> exact ⟨fun _ => rfl, fun _ => rfl, rfl, rfl, rfl, rfl⟩
  have high : ∀ (dma : SunxiDma) hdma, SameBooks dma (dma.dispatchHigh hdma).1 := by
    intro dma hdma
    unfold dispatchHigh
    dsimp only
    split <;> [split; skip] <;> exact ⟨fun _ => rfl, fun _ => rfl, rfl, rfl, rfl, rfl⟩
  unfold sunxiDmaIntFunc
  dsimp only
  exact (dispatchAll_books low _ dma).trans (dispatchAll_books high _ _)

/-! ### What the books say -/

/-- The books are right: a used channel knows its number, the count is that of the enabled
interrupts, these are of used channels, and the line is on while there are any. -/
structure BooksRight (dma : SunxiDma) : Prop where
  channalCount : ∀ hdma, (dma.dmaChannalSource hdma).used ≠ 0 →
    (dma.dmaChannalSource hdma).channalCount = BitVec.ofNat 32 hdma.val
  counted : dma.dmaIntCount = dma.enabledChannels.card
  onlyUsed : ∀ hdma, dma.endEnabled hdma = true → (dma.dmaChannalSource hdma).used ≠ 0
  line : dma.interruptSource = true ↔ 0 < dma.dmaIntCount

theorem SameBooks.endEnabled {dma after : SunxiDma} (same : SameBooks dma after) (hdma : Hdma) :
    after.endEnabled hdma = dma.endEnabled hdma := by
  unfold SunxiDma.endEnabled irqEn
  rw [same.irqEn0, same.irqEn1]

theorem SameBooks.enabledChannels {dma after : SunxiDma} (same : SameBooks dma after) :
    after.enabledChannels = dma.enabledChannels := by
  unfold SunxiDma.enabledChannels
  simp only [same.endEnabled]

theorem BooksRight.congr {dma after : SunxiDma} (right : BooksRight dma)
    (same : SameBooks dma after) : BooksRight after where
  channalCount hdma := by
    rw [same.used, same.channalCount]
    exact right.channalCount hdma
  counted := by rw [same.dmaIntCount, same.enabledChannels, right.counted]
  onlyUsed hdma := by
    rw [same.endEnabled, same.used]
    exact right.onlyUsed hdma
  line := by rw [same.interruptSource, same.dmaIntCount, right.line]

theorem init_right (dma : SunxiDma) : BooksRight dma.sunxiDmaInit := by
  have none : ∀ hdma, (dma.sunxiDmaInit).endEnabled hdma = false := by
    intro hdma
    have clear : (dma.sunxiDmaInit).irqEn hdma = 0 := by
      unfold irqEn
      split <;> rfl
    unfold endEnabled
    rw [clear]
    exact BitVec.getLsbD_zero
  refine ⟨fun hdma used => absurd rfl used, ?_, fun hdma enabled => ?_, ?_⟩
  · unfold enabledChannels
    simp only [none]
    rfl
  · rw [none] at enabled
    exact absurd enabled Bool.false_ne_true
  · exact iff_of_false Bool.false_ne_true (lt_irrefl 0)

/-! ### What the calls keep -/

section Kept

variable {dma : SunxiDma} (right : BooksRight dma)
include right

theorem BooksRight.enableInt (hdma : Hdma) : BooksRight (dma.sunxiDmaEnableInt hdma).2 := by
  by_cases free : (dma.dmaChannalSource hdma).used = 0
  · unfold sunxiDmaEnableInt
    dsimp only
    rw [if_pos free]
    exact right
  rw [enableInt_eq (right.channalCount hdma free) free]
  cases already : dma.endEnabled hdma with
  | true => exact right
  | false =>
    rw [if_neg Bool.false_ne_true]
    have source : (dma.setEnd hdma true).countInt.dmaChannalSource = dma.dmaChannalSource :=
      setEnd_source dma hdma true
    have added : (dma.setEnd hdma true).countInt.enabledChannels =
        insert hdma dma.enabledChannels := enabledChannels_setEnd_true dma hdma
    have more : (dma.setEnd hdma true).countInt.dmaIntCount = dma.dmaIntCount + 1 := by
      simp [countInt]
    have new : hdma ∉ dma.enabledChannels := by
      simp [enabledChannels, already]
    have counted := right.counted
    refine ⟨?_, ?_, fun other enabled => ?_, ?_⟩
    · rw [source]
      exact right.channalCount
    · rw [added, Finset.card_insert_of_notMem new, more, counted]
      rfl
    · have bit : (dma.setEnd hdma true).endEnabled other = true := enabled
      rw [endEnabled_setEnd] at bit
      rw [source]
      by_cases same : other = hdma
      · rw [same]
        exact free
      · rw [if_neg same] at bit
        exact right.onlyUsed other bit
    · -- the line is switched on with the first interrupt and is on already otherwise
      rw [more]
      simp only [countInt, setEnd_dmaIntCount, setEnd_interruptSource]
      by_cases none : dma.dmaIntCount = 0
      · simp [none]
      · rw [if_neg none, right.line]
        omega

/-- After a call to disable it the interrupt of a used channel is not enabled. -/
theorem disableInt_right (hdma : Hdma) (used : (dma.dmaChannalSource hdma).used ≠ 0) :
    BooksRight (dma.sunxiDmaDisableInt hdma).2 ∧
      (dma.sunxiDmaDisableInt hdma).2.endEnabled hdma = false := by
  rw [disableInt_eq (right.channalCount hdma used) used]
  cases already : dma.endEnabled hdma with
  | false => exact ⟨right, already⟩
  | true =>
    have removed : (dma.setEnd hdma false).discountInt.enabledChannels =
        dma.enabledChannels.erase hdma := enabledChannels_setEnd_false dma hdma
    have member : hdma ∈ dma.enabledChannels := by
      simp [enabledChannels, already]
    have some : 0 < dma.enabledChannels.card := Finset.card_pos.mpr ⟨hdma, member⟩
    have counted := right.counted
    have bits : ∀ other, (dma.setEnd hdma false).discountInt.endEnabled other =
        if other = hdma then false else dma.endEnabled other :=
      fun other => endEnabled_setEnd dma hdma other false
    have source : (dma.setEnd hdma false).discountInt.dmaChannalSource = dma.dmaChannalSource :=
      setEnd_source dma hdma false
    have fewer : (dma.setEnd hdma false).discountInt.dmaIntCount = dma.dmaIntCount - 1 := by
      simp only [discountInt, setEnd_dmaIntCount]
      rw [if_pos (by omega)]
    rw [if_pos rfl]
    refine ⟨⟨?_, ?_, fun other enabled => ?_, ?_⟩, ?_⟩
    · rw [source]
      exact right.channalCount
    · rw [removed, Finset.card_erase_of_mem member, fewer]
      omega
    · rw [bits] at enabled
      rw [source]
      by_cases same : other = hdma
      · rw [if_pos same] at enabled
        exact absurd enabled Bool.false_ne_true
      · rw [if_neg same] at enabled
        exact right.onlyUsed other enabled
    · -- the line is switched off with the last interrupt and stays on otherwise
      rw [fewer]
      simp only [discountInt, setEnd_dmaIntCount, setEnd_interruptSource,
        if_pos (show 0 < dma.dmaIntCount by omega)]
      by_cases last : dma.dmaIntCount - 1 = 0
      · simp [last]
      · rw [if_neg last, right.line]
        omega
    · rw [bits, if_pos rfl]

theorem BooksRight.disableInt (hdma : Hdma) : BooksRight (dma.sunxiDmaDisableInt hdma).2 := by
  by_cases free : (dma.dmaChannalSource hdma).used = 0
  · unfold sunxiDmaDisableInt
    dsimp only
    rw [if_pos free]
    exact right
  · exact (disableInt_right right hdma free).1

omit right in
theorem setSource_source (dma : SunxiDma) (hdma : Hdma) (channal : SunxiDmaSource) (other : Hdma) :
    (dma.setSource hdma channal).dmaChannalSource other =
      if other = hdma then channal else dma.dmaChannalSource other :=
  Function.update_apply _ _ _ _

/-- A source that changes with its interrupt disabled leaves the books right. -/
theorem BooksRight.setSource (hdma : Hdma) (channal : SunxiDmaSource)
    (disabled : dma.endEnabled hdma = false)
    (numbered : channal.used ≠ 0 → channal.channalCount = BitVec.ofNat 32 hdma.val) :
    BooksRight (dma.setSource hdma channal) := by
  refine ⟨fun other used => ?_, right.counted, fun other enabled => ?_, right.line⟩
  · rw [setSource_source] at used ⊢
    by_cases same : other = hdma
    · rw [if_pos same] at used ⊢
      rw [same]
      exact numbered used
    · rw [if_neg same] at used ⊢
      exact right.channalCount other used
  · have bit : dma.endEnabled other = true := enabled
    rw [setSource_source, if_neg]
    · exact right.onlyUsed other bit
    · rintro rfl
      exact absurd (disabled.symm.trans bit) Bool.false_ne_true

theorem BooksRight.request : BooksRight dma.sunxiDmaRequest.2 := by
  unfold sunxiDmaRequest
  cases found : dma.freeChannal with
  | none => exact right
  | some hdma =>
    have free : (dma.dmaChannalSource hdma).used = 0 := by
      unfold freeChannal at found
      simpa using List.find?_some found
    refine right.setSource hdma _ ?_ fun _ => rfl
    by_contra enabled
    exact right.onlyUsed hdma (by simpa using enabled) free

theorem BooksRight.release (hdma : Hdma) : BooksRight (dma.sunxiDmaRelease hdma).2 := by
  unfold sunxiDmaRelease
  split
  · exact right
  · rename_i used
    obtain ⟨disabled, clear⟩ := disableInt_right right hdma used
    have freed := freeInt_books (dma.sunxiDmaDisableInt hdma).2 hdma
    exact (disabled.congr freed).setSource hdma _ ((freed.endEnabled hdma).trans clear)
      fun used => absurd rfl used

end Kept

theorem enableInt_source (dma : SunxiDma) (hdma : Hdma) :
    (dma.sunxiDmaEnableInt hdma).2.dmaChannalSource = dma.dmaChannalSource := by
  unfold sunxiDmaEnableInt
  dsimp only
  split_ifs <;> rfl

theorem disableInt_source (dma : SunxiDma) (hdma : Hdma) :
    (dma.sunxiDmaDisableInt hdma).2.dmaChannalSource = dma.dmaChannalSource := by
  unfold sunxiDmaDisableInt
  dsimp only
  split_ifs <;> rfl

end SunxiDma

/-! ### Calls of the protocol -/

variable {Requester : Type}

/-- A call, of which a request knows who makes it. -/
inductive DmaCall (Requester : Type) : Type where
  | request (requester : Requester) (dmatype : U32)
  | release (hdma : Hdma)
  | installInt (hdma : Hdma) (dmaIntFunc p : Ulong)
  | freeInt (hdma : Hdma)
  | enableInt (hdma : Hdma)
  | disableInt (hdma : Hdma)

/-- A request returns a handle, and the other calls a status. -/
inductive DmaReturn : Type where
  | handle (hdma : Option Hdma)
  | status (status : Ulong)

/-- A call that did nothing -/
def DmaReturn.IsError : DmaReturn → Prop
  | handle hdma => hdma = none
  | status code => code ≠ efiSuccess

/-- What a call does -/
def SunxiDma.call (dma : SunxiDma) : DmaCall Requester → DmaReturn × SunxiDma
  | .request _ _ => (.handle dma.sunxiDmaRequest.1, dma.sunxiDmaRequest.2)
  | .release hdma => (.status (dma.sunxiDmaRelease hdma).1, (dma.sunxiDmaRelease hdma).2)
  | .installInt hdma dmaIntFunc p =>
    (.status (dma.sunxiDmaInstallInt hdma dmaIntFunc p).1,
      (dma.sunxiDmaInstallInt hdma dmaIntFunc p).2)
  | .freeInt hdma => (.status (dma.sunxiDmaFreeInt hdma).1, (dma.sunxiDmaFreeInt hdma).2)
  | .enableInt hdma => (.status (dma.sunxiDmaEnableInt hdma).1, (dma.sunxiDmaEnableInt hdma).2)
  | .disableInt hdma => (.status (dma.sunxiDmaDisableInt hdma).1, (dma.sunxiDmaDisableInt hdma).2)

/-- A call that returns an error leaves the books as they are. -/
theorem call_error (dma : SunxiDma) (call : DmaCall Requester) (error : (dma.call call).1.IsError) :
    SunxiDma.SameBooks dma (dma.call call).2 := by
  cases call with
  | request requester dmatype =>
    have none : dma.sunxiDmaRequest.1 = none := error
    show SunxiDma.SameBooks dma dma.sunxiDmaRequest.2
    unfold SunxiDma.sunxiDmaRequest at none ⊢
    cases found : dma.freeChannal with
    | none => exact .refl dma
    | some hdma =>
      rw [found] at none
      exact absurd none (Option.some_ne_none _)
  | release hdma =>
    have failed : (dma.sunxiDmaRelease hdma).1 ≠ efiSuccess := error
    show SunxiDma.SameBooks dma (dma.sunxiDmaRelease hdma).2
    unfold SunxiDma.sunxiDmaRelease at failed ⊢
    split_ifs at failed ⊢
    · exact .refl dma
    · exact absurd rfl failed
  | installInt hdma dmaIntFunc p => exact SunxiDma.installInt_books dma hdma dmaIntFunc p
  | freeInt hdma => exact SunxiDma.freeInt_books dma hdma
  | enableInt hdma =>
    have failed : (dma.sunxiDmaEnableInt hdma).1 ≠ efiSuccess := error
    show SunxiDma.SameBooks dma (dma.sunxiDmaEnableInt hdma).2
    unfold SunxiDma.sunxiDmaEnableInt at failed ⊢
    dsimp only at failed ⊢
    split_ifs at failed ⊢
    all_goals first | exact .refl dma | exact absurd rfl failed
  | disableInt hdma =>
    have failed : (dma.sunxiDmaDisableInt hdma).1 ≠ efiSuccess := error
    show SunxiDma.SameBooks dma (dma.sunxiDmaDisableInt hdma).2
    unfold SunxiDma.sunxiDmaDisableInt at failed ⊢
    dsimp only at failed ⊢
    split_ifs at failed ⊢
    all_goals first | exact .refl dma | exact absurd rfl failed

theorem call_right {dma : SunxiDma} (right : dma.BooksRight) (call : DmaCall Requester) :
    (dma.call call).2.BooksRight := by
  cases call with
  | request requester dmatype => exact right.request
  | release hdma => exact right.release hdma
  | installInt hdma dmaIntFunc p => exact right.congr (SunxiDma.installInt_books dma hdma dmaIntFunc p)
  | freeInt hdma => exact right.congr (SunxiDma.freeInt_books dma hdma)
  | enableInt hdma => exact right.enableInt hdma
  | disableInt hdma => exact right.disableInt hdma

/-! ### Who holds which channel -/

/-- The driver together with the requests that returned a handle that was not released since. -/
structure DmaBooking (Requester : Type) : Type where
  dma : SunxiDma
  held : List (Requester × Hdma)

/-- What is held after a call: a request holds the channel it is given, and a release that
succeeds ends that. -/
def DmaCall.heldAfter (call : DmaCall Requester) (return_ : DmaReturn)
    (held : List (Requester × Hdma)) : List (Requester × Hdma) :=
  match call, return_ with
  | .request requester _, .handle (some hdma) => (requester, hdma) :: held
  | .release hdma, .status status =>
    if status = efiSuccess then held.filter fun hold => hold.2 ≠ hdma else held
  | _, _ => held

/-- What can happen: a call, the setting of pending bits by the channels, or an interrupt. -/
inductive DmaStep (Requester : Type) : Type where
  | call (call : DmaCall Requester)
  | pend (low high : U32)
  | interrupt (source : Ulong)

/-- A call or an interrupt, with the channels that are then held -/
def DmaBooking.step (booking : DmaBooking Requester) : DmaStep Requester → DmaBooking Requester
  | .call call =>
    ⟨(booking.dma.call call).2, call.heldAfter (booking.dma.call call).1 booking.held⟩
  | .pend low high =>
    ⟨{ booking.dma with
        irqPending0 := booking.dma.irqPending0 ||| low
        irqPending1 := booking.dma.irqPending1 ||| high }, booking.held⟩
  | .interrupt source => ⟨(booking.dma.sunxiDmaIntFunc source).1, booking.held⟩

/-- The driver has just been set up, and nothing is held. -/
def DmaBooking.start (Requester : Type) (dma : SunxiDma) : DmaBooking Requester :=
  ⟨dma.sunxiDmaInit, []⟩

/-- Someone holds the channel. -/
def DmaBooking.Holds (booking : DmaBooking Requester) (hdma : Hdma) : Prop :=
  ∃ requester, (requester, hdma) ∈ booking.held

/-- The books of the driver are kept. -/
structure DmaBooking.Kept (booking : DmaBooking Requester) : Prop where
  distinct : booking.held.Pairwise fun one other => one.2 ≠ other.2
  counted : booking.dma.dmaIntCount = booking.dma.enabledChannels.card
  onlyHeld : ∀ hdma, booking.dma.endEnabled hdma = true → booking.Holds hdma
  line : booking.dma.interruptSource = true ↔ 0 < booking.dma.dmaIntCount

/-- The used channels are those that are held, by one requester each. -/
structure DmaBooking.HoldsRight (booking : DmaBooking Requester) : Prop where
  distinct : booking.held.Pairwise fun one other => one.2 ≠ other.2
  used : ∀ hdma, (booking.dma.dmaChannalSource hdma).used ≠ 0 ↔ booking.Holds hdma

theorem DmaBooking.HoldsRight.congr {booking : DmaBooking Requester} (right : booking.HoldsRight)
    {after : SunxiDma}
    (used : ∀ hdma, (after.dmaChannalSource hdma).used =
      (booking.dma.dmaChannalSource hdma).used) :
    DmaBooking.HoldsRight ⟨after, booking.held⟩ :=
  ⟨right.distinct, fun hdma => by rw [used hdma]; exact right.used hdma⟩

theorem DmaBooking.HoldsRight.request {booking : DmaBooking Requester}
    (right : booking.HoldsRight) (requester : Requester) (dmatype : U32) :
    (booking.step (.call (.request requester dmatype))).HoldsRight := by
  unfold DmaBooking.step SunxiDma.call SunxiDma.sunxiDmaRequest
  dsimp only
  cases found : booking.dma.freeChannal with
  | none => exact right
  | some hdma =>
    have free : (booking.dma.dmaChannalSource hdma).used = 0 := by
      unfold SunxiDma.freeChannal at found
      simpa using List.find?_some found
    refine ⟨List.pairwise_cons.mpr ⟨fun hold member same => ?_, right.distinct⟩, fun other => ?_⟩
    · have holds : booking.Holds hdma := ⟨hold.1, by rw [show hdma = hold.2 from same]; exact member⟩
      exact (right.used hdma).mpr holds free
    · dsimp only
      rw [SunxiDma.setSource_source]
      by_cases same : other = hdma
      · rw [if_pos same, same]
        exact iff_of_true (show (1 : U32) ≠ 0 by decide) ⟨requester, List.mem_cons_self⟩
      · rw [if_neg same, right.used other]
        refine exists_congr fun holder => ?_
        simp [DmaCall.heldAfter, same]

theorem DmaBooking.HoldsRight.release {booking : DmaBooking Requester}
    (right : booking.HoldsRight) (hdma : Hdma) :
    (booking.step (.call (.release hdma))).HoldsRight := by
  unfold DmaBooking.step SunxiDma.call SunxiDma.sunxiDmaRelease
  dsimp only
  split
  · exact right
  have books := SunxiDma.freeInt_books (booking.dma.sunxiDmaDisableInt hdma).2 hdma
  refine ⟨right.distinct.filter _, fun other => ?_⟩
  dsimp only
  rw [SunxiDma.setSource_source]
  by_cases same : other = hdma
  · rw [if_pos same, same]
    refine iff_of_false (fun used => used rfl) ?_
    rintro ⟨holder, member⟩
    simp [DmaCall.heldAfter] at member
  · rw [if_neg same, books.used, SunxiDma.disableInt_source, right.used]
    refine exists_congr fun holder => ?_
    simp [DmaCall.heldAfter, same]

theorem DmaBooking.HoldsRight.step {booking : DmaBooking Requester} (right : booking.HoldsRight)
    (step : DmaStep Requester) : (booking.step step).HoldsRight := by
  cases step with
  | pend low high => exact right.congr fun _ => rfl
  | interrupt source => exact right.congr (SunxiDma.intFunc_books booking.dma source).used
  | call call =>
    cases call with
    | request requester dmatype => exact right.request requester dmatype
    | release hdma => exact right.release hdma
    | installInt hdma dmaIntFunc p =>
      exact right.congr (SunxiDma.installInt_books booking.dma hdma dmaIntFunc p).used
    | freeInt hdma => exact right.congr (SunxiDma.freeInt_books booking.dma hdma).used
    | enableInt hdma =>
      have source := SunxiDma.enableInt_source booking.dma hdma
      exact right.congr fun other => congrArg (fun sources => (sources other).used) source
    | disableInt hdma =>
      have source := SunxiDma.disableInt_source booking.dma hdma
      exact right.congr fun other => congrArg (fun sources => (sources other).used) source

/-- What holds of a booking in a run: the books of the driver and those of the holders. -/
theorem booking_right (dma : SunxiDma) (steps : List (DmaStep Requester)) :
    (run DmaBooking.step (.start Requester dma) steps).dma.BooksRight ∧
      (run DmaBooking.step (.start Requester dma) steps).HoldsRight := by
  refine run_invariant (fun booking : DmaBooking Requester =>
    booking.dma.BooksRight ∧ booking.HoldsRight) (fun booking step right => ⟨?_, right.2.step step⟩)
    ⟨SunxiDma.init_right dma, .nil, fun hdma => ?_⟩ steps
  · cases step with
    | call call => exact call_right right.1 call
    | pend low high => exact right.1.congr ⟨fun _ => rfl, fun _ => rfl, rfl, rfl, rfl, rfl⟩
    | interrupt source =>
      have after := right.1.congr (SunxiDma.intFunc_books booking.dma source)
      unfold DmaBooking.step
      dsimp only
      exact after
  · exact iff_of_false (fun used => used rfl) fun ⟨_, member⟩ => List.not_mem_nil member

/-- The same is held, and the books are the same. -/
structure DmaBooking.Unchanged (booking after : DmaBooking Requester) : Prop where
  held : after.held = booking.held
  books : SunxiDma.SameBooks booking.dma after.dma

/-- In every state of a run the books are kept, and a call that returns an error changes none. -/
theorem dma_books_kept (dma : SunxiDma) (steps : List (DmaStep Requester)) :
    let booking := run DmaBooking.step (.start Requester dma) steps
    booking.Kept ∧ ∀ call : DmaCall Requester, (booking.dma.call call).1.IsError →
      booking.Unchanged (booking.step (.call call)) := by
  obtain ⟨books, holds⟩ := booking_right dma steps
  generalize run DmaBooking.step (.start Requester dma) steps = booking at books holds ⊢
  refine ⟨⟨holds.distinct, books.counted, fun hdma enabled => ?_, books.line⟩,
    fun call error => ⟨?_, call_error booking.dma call error⟩⟩
  · exact (holds.used hdma).mp (books.onlyUsed hdma enabled)
  · -- only a request with a handle and a release with success change what is held
    show call.heldAfter (booking.dma.call call).1 booking.held = booking.held
    cases call with
    | request requester dmatype =>
      have none : booking.dma.sunxiDmaRequest.1 = none := error
      unfold SunxiDma.call
      rw [none]
      rfl
    | release hdma =>
      have failed : (booking.dma.sunxiDmaRelease hdma).1 ≠ efiSuccess := error
      exact if_neg failed
    | _ => rfl

end PinePhonePkg
