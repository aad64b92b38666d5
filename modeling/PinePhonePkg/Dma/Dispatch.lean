/-
This file shows when the interrupts of the DMA channels reach their handlers.
The dispatcher goes through all channels but the last, and a call that frees an
interrupt clears three bits that are not those of its channel.
-/

import PinePhonePkg.Dma.Bookkeeping

namespace PinePhonePkg

open Library

namespace SunxiDma

/-! ### The pending bits of a channel -/

section Pending

variable (dma : SunxiDma) (hdma : Hdma)

/-- The register with the pending interrupts of a channel -/
def irqPending : U32 := if hdma.val < 8 then dma.irqPending0 else dma.irqPending1

/-- One of the four pending bits of a channel; the end of a package is bit 1. -/
def pendingBit (bit : Nat) : Bool := (dma.irqPending hdma).getLsbD (4 * (hdma.val % 8) + bit)

/-- The channel has a handler and a package that has ended. -/
def Due : Prop := (dma.dmaChannalSource hdma).dmaFunc.mFunc ≠ 0 ∧ dma.pendingBit hdma 1 = true

instance : Decidable (dma.Due hdma) := inferInstanceAs (Decidable (_ ∧ _))

/-- A write to the pending register of a channel. -/
def clearPending (bits : U32) : SunxiDma :=
  if hdma.val < 8 then dma.clearPending0 bits else dma.clearPending1 bits

@[simp]
theorem clearPending_source (bits : U32) :
    (dma.clearPending hdma bits).dmaChannalSource = dma.dmaChannalSource := by
  unfold clearPending
  split <;> rfl

/-- A write clears the bits it has in its register. -/
theorem pendingBit_clearPending (bits : U32) (other : Hdma) {bit : Nat} (small : bit < 4) :
    (dma.clearPending hdma bits).pendingBit other bit =
      (dma.pendingBit other bit &&
        !(decide (other.val < 8 ↔ hdma.val < 8) &&
          bits.getLsbD (4 * (other.val % 8) + bit))) := by
  have inside : 4 * (other.val % 8) + bit < 32 := by omega
  unfold pendingBit irqPending clearPending clearPending0 clearPending1
  by_cases lowOther : other.val < 8 <;> by_cases low : hdma.val < 8 <;>
    simp [lowOther, low, inside]

end Pending

/-! ### One channel in the loop -/

section Serve

variable (dma : SunxiDma) (hdma : Hdma)

/-- The service of one channel, in either loop. -/
def serve : SunxiDma × List DmaIntCall :=
  if dma.Due hdma then
    (dma.clearPending hdma (endBit hdma), [.mFunc hdma (dma.dmaChannalSource hdma).dmaFunc])
  else (dma, [])

/-- A channel is served by looking at its handler first and at the pending bit then. -/
theorem serve_eq :
    dma.serve hdma =
      if (dma.dmaChannalSource hdma).dmaFunc.mFunc ≠ 0 then
        if dma.pendingBit hdma 1 = true then
          (dma.clearPending hdma (endBit hdma), [.mFunc hdma (dma.dmaChannalSource hdma).dmaFunc])
        else (dma, [])
      else (dma, []) := by
  unfold serve
  by_cases handler : (dma.dmaChannalSource hdma).dmaFunc.mFunc ≠ 0
  · rw [if_pos handler]
    exact if_congr (and_iff_right handler) rfl rfl
  · rw [if_neg handler]
    exact if_neg fun due : dma.Due hdma => handler due.1

theorem dispatchLow_eq (low : hdma.val < 8) : dma.dispatchLow hdma = dma.serve hdma := by
  have mask : dmaPkgEndInt <<< (hdma.val * 4) = endBit hdma := by
    revert hdma
    decide
  have pending : dma.irqPending0 &&& endBit hdma ≠ 0 ↔ dma.pendingBit hdma 1 = true := by
    unfold pendingBit irqPending
    rw [if_pos low]
    exact and_endBit_ne_zero hdma _
  unfold dispatchLow
  dsimp only
  rw [mask, if_congr pending rfl rfl, serve_eq, clearPending, if_pos low]

theorem dispatchHigh_eq (high : ¬ hdma.val < 8) : dma.dispatchHigh hdma = dma.serve hdma := by
  have mask : dmaPkgEndInt <<< (hdma.val * 4 % 32) = endBit hdma := by
    revert hdma
    decide
  have pending : dma.irqPending1 &&& endBit hdma ≠ 0 ↔ dma.pendingBit hdma 1 = true := by
    unfold pendingBit irqPending
    rw [if_neg high]
    exact and_endBit_ne_zero hdma _
  unfold dispatchHigh
  dsimp only
  rw [mask, if_congr pending rfl rfl, serve_eq, clearPending, if_neg high]

@[simp]
theorem serve_source : (dma.serve hdma).1.dmaChannalSource = dma.dmaChannalSource := by
  unfold serve
  split
  · exact clearPending_source dma hdma _
  · rfl

theorem pendingBit_serve (other : Hdma) {bit : Nat} (small : bit < 4) :
    (dma.serve hdma).1.pendingBit other bit =
      (dma.pendingBit other bit && !decide (other = hdma ∧ dma.Due hdma ∧ bit = 1)) := by
  unfold serve
  by_cases due : dma.Due hdma
  · have own : (decide (other.val < 8 ↔ hdma.val < 8) &&
        (endBit hdma).getLsbD (4 * (other.val % 8) + bit)) = decide (other = hdma ∧ bit = 1) := by
      unfold endBit
      rw [BitVec.getLsbD_twoPow, ← Bool.decide_and, ← Bool.decide_and, decide_eq_decide, Fin.ext_iff]
      omega
    rw [if_pos due, pendingBit_clearPending dma hdma _ other small, own]
    simp [due]
  · rw [if_neg due]
    simp [due]

theorem due_serve {other : Hdma} (distinct : other ≠ hdma) :
    (dma.serve hdma).1.Due other ↔ dma.Due other := by
  unfold Due
  rw [serve_source, pendingBit_serve dma hdma other (by decide)]
  simp [distinct]

end Serve

/-! ### The loops -/

/-- What a loop over distinct channels has done: the calls of those that were due, in order, with
their end bits cleared. -/
theorem dispatchAll_spec {dispatch : SunxiDma → Hdma → SunxiDma × List DmaIntCall}
    (channels : List Hdma) (serves : ∀ dma, ∀ hdma ∈ channels, dispatch dma hdma = serve dma hdma)
    (nodup : channels.Nodup) (dma : SunxiDma) :
    (dispatchAll dispatch channels dma).1.dmaChannalSource = dma.dmaChannalSource ∧
      (dispatchAll dispatch channels dma).2 =
        (channels.filter fun hdma => dma.Due hdma).map
          (fun hdma => .mFunc hdma (dma.dmaChannalSource hdma).dmaFunc) ∧
      ∀ other bit, bit < 4 → (dispatchAll dispatch channels dma).1.pendingBit other bit =
        (dma.pendingBit other bit && !decide (other ∈ channels ∧ dma.Due other ∧ bit = 1)) := by
  induction channels generalizing dma with
  | nil => exact ⟨rfl, rfl, fun other bit small => by simp [dispatchAll]⟩
  | cons hdma rest inductionHypothesis =>
    obtain ⟨fresh, nodup⟩ := List.nodup_cons.mp nodup
    obtain ⟨source, calls, bits⟩ := inductionHypothesis
      (fun dma other member => serves dma other (List.mem_cons_of_mem _ member)) nodup
      (dma.serve hdma).1
    have later : ∀ other ∈ rest, (dma.serve hdma).1.Due other ↔ dma.Due other := by
      intro other member
      exact due_serve dma hdma (fun same => fresh (same ▸ member))
    have left : rest.filter (fun other => (dma.serve hdma).1.Due other) =
        rest.filter fun other => dma.Due other :=
      List.filter_congr fun other member => by simp [later other member]
    unfold dispatchAll
    rw [serves dma hdma List.mem_cons_self]
    dsimp only
    refine ⟨source.trans (serve_source dma hdma), ?_, fun other bit small => ?_⟩
    · rw [calls, serve_source, left]
      by_cases due : dma.Due hdma <;> simp [serve, due]
    · rw [bits other bit small, pendingBit_serve dma hdma other small]
      by_cases same : other = hdma
      · subst same
        simp [fresh]
      · by_cases member : other ∈ rest
        · simp [same, member, later other member]
        · simp [same, member]

/-- The interrupt function serves the channels up to 14. -/
theorem intFunc_spec (dma : SunxiDma) (source : Ulong) :
    (dma.sunxiDmaIntFunc source).2 =
        ((List.finRange 16).filter fun hdma => dma.Due hdma ∧ hdma ≠ 15).map
          (fun hdma => .mFunc hdma (dma.dmaChannalSource hdma).dmaFunc) ++
            [.endOfInterrupt source] ∧
      ∀ other bit, bit < 4 → (dma.sunxiDmaIntFunc source).1.pendingBit other bit =
        (dma.pendingBit other bit && !decide (dma.Due other ∧ other ≠ 15 ∧ bit = 1)) := by
  have inLow : ∀ hdma : Hdma, hdma ∈ ([0, 1, 2, 3, 4, 5, 6, 7] : List Hdma) ↔ hdma.val < 8 := by
    decide
  have inHigh : ∀ hdma : Hdma, hdma ∈ ([8, 9, 10, 11, 12, 13, 14] : List Hdma) ↔
      ¬ hdma.val < 8 ∧ hdma ≠ 15 := by
    decide
  obtain ⟨lowSource, lowCalls, lowBits⟩ := dispatchAll_spec [0, 1, 2, 3, 4, 5, 6, 7]
    (fun dma hdma member => dispatchLow_eq dma hdma ((inLow hdma).mp member)) (by decide) dma
  unfold sunxiDmaIntFunc
  dsimp only
  generalize dispatchAll dispatchLow [0, 1, 2, 3, 4, 5, 6, 7] dma = low at lowSource lowCalls lowBits ⊢
  obtain ⟨-, highCalls, highBits⟩ := dispatchAll_spec [8, 9, 10, 11, 12, 13, 14]
    (fun dma hdma member => dispatchHigh_eq dma hdma ((inHigh hdma).mp member).1) (by decide) low.1
  -- the first loop leaves the channels of the second as they were
  have later : ∀ hdma : Hdma, ¬ hdma.val < 8 → (low.1.Due hdma ↔ dma.Due hdma) := by
    intro hdma high
    unfold Due
    rw [lowSource, lowBits hdma 1 (by decide), decide_eq_false fun due => high ((inLow hdma).mp due.1)]
    simp
  refine ⟨?_, fun other bit small => ?_⟩
  · have all : (List.finRange 16).filter (fun hdma => dma.Due hdma ∧ hdma ≠ 15) =
        ([0, 1, 2, 3, 4, 5, 6, 7] ++ [8, 9, 10, 11, 12, 13, 14] : List Hdma).filter
          fun hdma => dma.Due hdma := by
      have served : (List.finRange 16).filter (fun hdma => hdma ≠ 15) =
          [0, 1, 2, 3, 4, 5, 6, 7] ++ [8, 9, 10, 11, 12, 13, 14] := by decide
      rw [← served, List.filter_filter]
      exact List.filter_congr fun hdma _ => Bool.decide_and _ _
    have left : ([8, 9, 10, 11, 12, 13, 14] : List Hdma).filter (fun hdma => low.1.Due hdma) =
        [8, 9, 10, 11, 12, 13, 14].filter fun hdma => dma.Due hdma :=
      List.filter_congr fun hdma member =>
        decide_eq_decide.mpr (later hdma ((inHigh hdma).mp member).1)
    rw [lowCalls, highCalls, lowSource, left, all, List.filter_append, List.map_append]
  · rw [highBits other bit small, lowBits other bit small]
    by_cases first : other.val < 8
    · have notLast : other ≠ 15 := by
        rintro rfl
        exact absurd first (by decide)
      simp [inLow, inHigh, first, notLast]
    · simp [inLow, inHigh, first, later other first]
      grind

/-! ### What the interrupt function should do -/

/-- A run of the interrupt function calls the handler of each channel that is due once and no
other, clears the bits of these, and no bit of a channel that was not due. -/
structure Delivers (dma : SunxiDma) (served : SunxiDma × List DmaIntCall) : Prop where
  called : ∀ hdma, dma.Due hdma →
    served.2.count (.mFunc hdma (dma.dmaChannalSource hdma).dmaFunc) = 1
  others : ∀ hdma handler, .mFunc hdma handler ∈ served.2 →
    dma.Due hdma ∧ handler = (dma.dmaChannalSource hdma).dmaFunc
  cleared : ∀ hdma, dma.Due hdma → served.1.pendingBit hdma 1 = false
  kept : ∀ hdma bit, bit < 4 → ¬ dma.Due hdma →
    served.1.pendingBit hdma bit = dma.pendingBit hdma bit

/-- No pending bit of a channel other than this one has changed. -/
def KeepsOthers (dma : SunxiDma) (hdma : Hdma) (after : SunxiDma) : Prop :=
  ∀ other bit, other ≠ hdma → bit < 4 → after.pendingBit other bit = dma.pendingBit other bit

theorem intFunc_delivers_iff (dma : SunxiDma) (source : Ulong) :
    dma.Delivers (dma.sunxiDmaIntFunc source) ↔ ¬ dma.Due 15 := by
  obtain ⟨calls, bits⟩ := intFunc_spec dma source
  constructor
  · intro delivers due
    have cleared := delivers.cleared 15 due
    rw [bits 15 1 (by decide), due.2] at cleared
    simp at cleared
  · intro last
    have served : ∀ hdma, dma.Due hdma → hdma ≠ 15 := by
      rintro hdma due rfl
      exact last due
    refine ⟨fun hdma due => ?_, fun hdma handler member => ?_, fun hdma due => ?_,
      fun hdma bit small idle => ?_⟩
    · have injective : Function.Injective fun hdma =>
          DmaIntCall.mFunc hdma (dma.dmaChannalSource hdma).dmaFunc := by
        intro one other same
        exact (DmaIntCall.mFunc.inj same).1
      rw [calls, List.count_append, List.count_map_of_injective _ _ injective,
        List.count_eq_one_of_mem ((List.nodup_finRange 16).filter _)
          (by simp [due, served hdma due])]
      rfl
    · rw [calls] at member
      simp only [List.mem_append, List.mem_map, List.mem_filter, List.mem_singleton,
        decide_eq_true_eq, reduceCtorEq, or_false] at member
      obtain ⟨other, ⟨-, due, -⟩, same⟩ := member
      obtain ⟨rfl, rfl⟩ := DmaIntCall.mFunc.inj same
      exact ⟨due, rfl⟩
    · rw [bits hdma 1 (by decide)]
      simp [due, served hdma due]
    · rw [bits hdma bit small]
      simp [idle]

/-! ### Handlers that come and go -/

section Handlers

variable {dma : SunxiDma} {hdma : Hdma}

theorem keepsOthers_refl (dma : SunxiDma) (hdma : Hdma) : dma.KeepsOthers hdma dma :=
  fun _ _ _ _ => rfl

/-- Where a write to the pending register of a channel leaves the bits of the others. -/
theorem clearPending_keepsOthers_iff (bits : U32) :
    dma.KeepsOthers hdma (dma.clearPending hdma bits) ↔
      ∀ other bit, other ≠ hdma → bit < 4 → (other.val < 8 ↔ hdma.val < 8) →
        bits.getLsbD (4 * (other.val % 8) + bit) = true → dma.pendingBit other bit = false := by
  unfold KeepsOthers
  refine forall_congr' fun other => forall_congr' fun bit => forall_congr' fun _ =>
    forall_congr' fun small => ?_
  rw [pendingBit_clearPending dma hdma bits other small]
  by_cases together : other.val < 8 ↔ hdma.val < 8 <;>
    cases bits.getLsbD (4 * (other.val % 8) + bit) <;> cases dma.pendingBit other bit <;>
      simp [together]

/-- The three bits of a channel, and those that are written to free its interrupt. -/
def ownBits (hdma : Hdma) : U32 := dmaAllInt <<< (4 * (hdma.val % 8))

/-- The bits of a channel in its register -/
def freedBits (hdma : Hdma) : U32 := dmaAllInt <<< (hdma.val % 8)

theorem ownBits_eq (hdma : Hdma) : ownBits hdma =
    if hdma.val < 8 then dmaAllInt <<< (BitVec.ofNat 32 hdma.val * 4)
    else dmaAllInt <<< ((BitVec.ofNat 32 hdma.val - 8) * 4) := by
  revert hdma
  decide

theorem freedBits_eq (hdma : Hdma) : freedBits hdma =
    if hdma.val < 8 then dmaAllInt <<< BitVec.ofNat 32 hdma.val
    else dmaAllInt <<< (BitVec.ofNat 32 hdma.val - 8) := by
  revert hdma
  decide

theorem getLsbD_dmaAllInt (place : Nat) : dmaAllInt.getLsbD place = decide (place < 3) := by
  by_cases inside : place < 32
  · have all : ∀ place : Fin 32, dmaAllInt.getLsbD place.val = decide (place.val < 3) := by decide
    exact all ⟨place, inside⟩
  · rw [BitVec.getLsbD_of_ge _ _ (by omega), decide_eq_false (by omega)]

theorem getLsbD_ownBits_other (hdma other : Hdma) {bit : Nat} (distinct : other ≠ hdma)
    (together : other.val < 8 ↔ hdma.val < 8) (small : bit < 4) :
    (ownBits hdma).getLsbD (4 * (other.val % 8) + bit) = false := by
  have apart : 4 * (other.val % 8) + bit < 4 * (hdma.val % 8) ∨
      ¬ 4 * (other.val % 8) + bit - 4 * (hdma.val % 8) < 3 := by
    have := Fin.val_ne_of_ne distinct
    omega
  unfold ownBits
  rw [BitVec.getLsbD_shiftLeft, getLsbD_dmaAllInt]
  rcases apart with below | above
  · simp [below]
  · simp [above]

theorem getLsbD_freedBits (hdma : Hdma) {place : Nat} (inside : place < 32) :
    (freedBits hdma).getLsbD place = true ↔
      hdma.val % 8 ≤ place ∧ place ≤ hdma.val % 8 + 2 := by
  unfold freedBits
  rw [BitVec.getLsbD_shiftLeft, getLsbD_dmaAllInt]
  simp [inside]
  omega

/-- The bits that freeing the interrupt of a channel clears are not pending for another one. -/
def FreesOwn (dma : SunxiDma) (hdma : Hdma) : Prop :=
  ∀ other bit, other ≠ hdma → bit < 4 → (other.val < 8 ↔ hdma.val < 8) →
    hdma.val % 8 ≤ 4 * (other.val % 8) + bit → 4 * (other.val % 8) + bit ≤ hdma.val % 8 + 2 →
    dma.pendingBit other bit = false

section Used

variable (used : (dma.dmaChannalSource hdma).used ≠ 0)
  (counted : (dma.dmaChannalSource hdma).channalCount = BitVec.ofNat 32 hdma.val)
include used counted

theorem installInt_pendingBit (dmaIntFunc p : Ulong) (other : Hdma) (bit : Nat) :
    (dma.sunxiDmaInstallInt hdma dmaIntFunc p).2.pendingBit other bit =
      (dma.clearPending hdma (ownBits hdma)).pendingBit other bit := by
  unfold sunxiDmaInstallInt clearPending
  dsimp only
  rw [if_neg used, counted, ownBits_eq, if_congr (channalCount_lt hdma) rfl rfl]
  by_cases low : hdma.val < 8
  · rw [if_pos low, if_pos low, if_pos low]
    split <;> rfl
  · rw [if_neg low, if_neg low, if_neg low]
    split <;> rfl

theorem freeInt_pendingBit (other : Hdma) (bit : Nat) :
    (dma.sunxiDmaFreeInt hdma).2.pendingBit other bit =
      (dma.clearPending hdma (freedBits hdma)).pendingBit other bit := by
  unfold sunxiDmaFreeInt clearPending
  dsimp only
  rw [if_neg used, counted, freedBits_eq, if_congr (channalCount_lt hdma) rfl rfl]
  by_cases low : hdma.val < 8
  · rw [if_pos low, if_pos low, if_pos low]
    split <;> rfl
  · rw [if_neg low, if_neg low, if_neg low]
    split <;> rfl

/-- To install a handler clears bits of its channel only. -/
theorem installInt_keepsOthers (dmaIntFunc p : Ulong) :
    dma.KeepsOthers hdma (dma.sunxiDmaInstallInt hdma dmaIntFunc p).2 := by
  intro other bit distinct small
  rw [installInt_pendingBit used counted]
  refine (clearPending_keepsOthers_iff (ownBits hdma)).mpr ?_ other bit distinct small
  intro other bit distinct small together inMask
  rw [getLsbD_ownBits_other hdma other distinct together small] at inMask
  exact absurd inMask Bool.false_ne_true

theorem freeInt_keepsOthers_iff :
    dma.KeepsOthers hdma (dma.sunxiDmaFreeInt hdma).2 ↔ dma.FreesOwn hdma := by
  have same : dma.KeepsOthers hdma (dma.sunxiDmaFreeInt hdma).2 ↔
      dma.KeepsOthers hdma (dma.clearPending hdma (freedBits hdma)) := by
    unfold KeepsOthers
    simp only [freeInt_pendingBit used counted]
  rw [same, clearPending_keepsOthers_iff]
  unfold FreesOwn
  refine forall_congr' fun other => forall_congr' fun bit => forall_congr' fun _ =>
    forall_congr' fun small => forall_congr' fun _ => ?_
  rw [getLsbD_freedBits hdma (by omega), and_imp]

end Used

theorem installInt_unused (unused : (dma.dmaChannalSource hdma).used = 0) (dmaIntFunc p : Ulong) :
    (dma.sunxiDmaInstallInt hdma dmaIntFunc p).2 = dma := by
  unfold sunxiDmaInstallInt
  dsimp only
  rw [if_pos unused]

theorem freeInt_unused (unused : (dma.dmaChannalSource hdma).used = 0) :
    (dma.sunxiDmaFreeInt hdma).2 = dma := by
  unfold sunxiDmaFreeInt
  dsimp only
  rw [if_pos unused]

end Handlers

/-! ### Interrupts of a state -/

/-- No interrupt is lost or misdelivered: neither by the interrupt function, nor by a call that
installs a handler or frees one. -/
structure InterruptsRight (dma : SunxiDma) : Prop where
  delivers : ∀ source, dma.Delivers (dma.sunxiDmaIntFunc source)
  install : ∀ hdma dmaIntFunc p,
    dma.KeepsOthers hdma (dma.sunxiDmaInstallInt hdma dmaIntFunc p).2
  free : ∀ hdma, dma.KeepsOthers hdma (dma.sunxiDmaFreeInt hdma).2

/-- The last channel is not due, and no used channel would free bits that are pending for
another. -/
def InterruptsApart (dma : SunxiDma) : Prop :=
  ¬ dma.Due 15 ∧ ∀ hdma, (dma.dmaChannalSource hdma).used ≠ 0 → dma.FreesOwn hdma

theorem BooksRight.interrupts_iff {dma : SunxiDma} (right : dma.BooksRight) :
    dma.InterruptsRight ↔ dma.InterruptsApart := by
  constructor
  · intro interrupts
    refine ⟨(intFunc_delivers_iff dma 0).mp (interrupts.delivers 0), fun hdma used => ?_⟩
    exact (freeInt_keepsOthers_iff used (right.channalCount hdma used)).mp (interrupts.free hdma)
  · rintro ⟨last, apart⟩
    refine ⟨fun source => (intFunc_delivers_iff dma source).mpr last,
      fun hdma dmaIntFunc p => ?_, fun hdma => ?_⟩ <;>
    by_cases used : (dma.dmaChannalSource hdma).used = 0
    · rw [installInt_unused used]
      exact keepsOthers_refl dma hdma
    · exact installInt_keepsOthers used (right.channalCount hdma used) dmaIntFunc p
    · rw [freeInt_unused used]
      exact keepsOthers_refl dma hdma
    · exact (freeInt_keepsOthers_iff used (right.channalCount hdma used)).mpr (apart hdma used)

end SunxiDma

variable {Requester : Type}

/-- In every state of a run no interrupt is lost or misdelivered exactly if the last channel is not
due and no used channel would free bits that are pending for another. -/
theorem dma_interrupts_right_iff (dma : SunxiDma) (steps : List (DmaStep Requester)) :
    (run DmaBooking.step (.start Requester dma) steps).dma.InterruptsRight ↔
      (run DmaBooking.step (.start Requester dma) steps).dma.InterruptsApart :=
  (booking_right dma steps).1.interrupts_iff

/-- Sixteen requests, a handler for the last channel, and the end of a package on it. -/
def lastChannelSteps : List (DmaStep Unit) :=
  List.replicate 16 (.call (.request () 0)) ++
    [.call (.installInt 15 0x1000 0), .pend 0 0x20000000]

/-- The handler of the last channel is not called. -/
theorem dma_interrupts_not_right :
    ¬ ∀ (dma : SunxiDma) (steps : List (DmaStep Unit)),
      (run DmaBooking.step (.start Unit dma) steps).dma.InterruptsRight := by
  intro claim
  have right := claim ⟨0, 0, 0, 0, 0, fun _ => SunxiDma.noSource, false⟩ lastChannelSteps
  refine (SunxiDma.intFunc_delivers_iff _ 0).mp (right.delivers 0) ?_
  decide +kernel

end PinePhonePkg
