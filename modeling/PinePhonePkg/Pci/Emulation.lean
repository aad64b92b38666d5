/-
This file embeds the accesses of the emulated PCI device: to its memory window and
to its configuration header. The window is compared with the first address only, and
the header with nothing. So the accesses stay inside exactly if the last element
does; the strides of the device and of the buffer are always those of the width.
-/

import PinePhonePkg.Dxe.Status
import PinePhonePkg.Library.Strides

namespace PinePhonePkg

open Library

/-! ### The code -/

/-- The fields of `EFI_PCI_IO_PRIVATE_DATA` that are used: what `ConfigSpace->Device.Bar` gives at an
index, the address of the configuration header and the window of the root bridge. The header is an
object in memory, and ends below the last address. -/
structure PciIoPrivateData : Type where
  bar : U8 → U32
  configSpace : Ulong
  memoryStart : U32
  memorySize : U32
  configSpace_lt : configSpace.toNat + 64 < 2 ^ 64

/-- One element that is moved: the addresses it is read from and written to, and its bytes -/
structure Move : Type where
  source : Ulong
  destination : Ulong
  size : Nat
deriving DecidableEq

/-- `for (;Count > 0; Count--, In.buf += InStride, Out.buf += OutStride)` -/
def moveLoop (size : Nat) (inStride outStride : Ulong) : Nat → Ulong → Ulong → List Move
  | 0, _, _ => []
  | count + 1, input, output =>
    ⟨output, input, size⟩ :: moveLoop size inStride outStride count (input + inStride)
      (output + outStride)

/-- `1 << (Width & 0x03)` -/
def widthStride (width : U32) : Nat := 1 <<< (width &&& 0x03).toNat

/-- What is read through `Out` is written through `In`. -/
def pciRootBridgeIoMemRW (width : U32) (count : Ulong) (inStrideFlag : Bool) (input : Ulong)
    (outStrideFlag : Bool) (output : Ulong) : Ulong × List Move :=
  let stride := widthStride width
  let inStride : Ulong := if inStrideFlag then BitVec.ofNat 64 stride else 0
  let outStride : Ulong := if outStrideFlag then BitVec.ofNat 64 stride else 0
  if (width &&& 0x03).toNat < 3 then
    (efiSuccess, moveLoop stride inStride outStride count.toNat input output)
  else (efiInvalidParameter, [])

/-- The kinds of `EFI_PCI_IO_PROTOCOL_WIDTH`, of which each has four widths -/
inductive WidthKind : Type where
  | plain
  | fifo
  | fill
deriving DecidableEq

/-- How a width moves both addresses; others are not known. -/
def widthKind (width : U32) : Option WidthKind :=
  match width.toNat / 4 with
  | 0 => some .plain
  | 1 => some .fifo
  | 2 => some .fill
  | _ => none

namespace PciIoPrivateData

variable (pci : PciIoPrivateData)

/-- The sum of the window is one of 32 bits. -/
def pciRootBridgeMemAddressValid (address : Ulong) : Bool :=
  decide (address ≥ pci.memoryStart.setWidth 64) &&
    decide (address < (pci.memoryStart + pci.memorySize).setWidth 64)

/-- The checks that reads and writes share: a buffer, a valid address, and its alignment -/
def requestValid (width : U32) (address buffer : Ulong) : Bool :=
  decide (buffer ≠ 0) && pci.pciRootBridgeMemAddressValid address &&
    decide (address &&& BitVec.ofNat 64 (widthStride width - 1) = 0)

/-- Reads memory, if the request is valid. -/
def pciRootBridgeIoMemRead (width : U32) (address count buffer : Ulong) : Ulong × List Move :=
  if pci.requestValid width address buffer then
    match widthKind width with
    | some .plain => pciRootBridgeIoMemRW width count true buffer true address
    | some .fifo => pciRootBridgeIoMemRW width count true buffer false address
    | some .fill => pciRootBridgeIoMemRW width count false buffer true address
    | none => (efiInvalidParameter, [])
  else (efiInvalidParameter, [])

/-- Writes memory, if the request is valid. -/
def pciRootBridgeIoMemWrite (width : U32) (address count buffer : Ulong) : Ulong × List Move :=
  if pci.requestValid width address buffer then
    match widthKind width with
    | some .plain => pciRootBridgeIoMemRW width count true address true buffer
    | some .fifo => pciRootBridgeIoMemRW width count false address true buffer
    | some .fill => pciRootBridgeIoMemRW width count true address false buffer
    | none => (efiInvalidParameter, [])
  else (efiInvalidParameter, [])

/-- `Private->ConfigSpace->Device.Bar[BarIndex] + Offset` -/
def barAddress (barIndex : U8) (offset : Ulong) : Ulong :=
  (pci.bar barIndex).setWidth 64 + offset

/-- Reads at an offset of a bar. -/
def pciIoMemRead (width : U32) (barIndex : U8) (offset count buffer : Ulong) : Ulong × List Move :=
  pci.pciRootBridgeIoMemRead width (pci.barAddress barIndex offset) count buffer

/-- Writes at an offset of a bar. -/
def pciIoMemWrite (width : U32) (barIndex : U8) (offset count buffer : Ulong) : Ulong × List Move :=
  pci.pciRootBridgeIoMemWrite width (pci.barAddress barIndex offset) count buffer

/-- Reads the configuration; the request is not checked. -/
def pciIoPciRead (width offset : U32) (count buffer : Ulong) : Ulong × List Move :=
  pciRootBridgeIoMemRW width count true buffer true (pci.configSpace + offset.setWidth 64)

/-- Writes the configuration; the request is not checked. -/
def pciIoPciWrite (width offset : U32) (count buffer : Ulong) : Ulong × List Move :=
  pciRootBridgeIoMemRW width count true (pci.configSpace + offset.setWidth 64) true buffer

end PciIoPrivateData

/-! ### Right accesses -/

/-- The device side of a move, by the direction of the request -/
def Move.device (write : Bool) (move : Move) : Ulong := if write then move.destination else move.source

/-- The side of a move that is the caller's -/
def Move.buffer (write : Bool) (move : Move) : Ulong := if write then move.source else move.destination

/-- The bytes of an element are inside of a range of addresses. -/
def InsideRange (low high : Nat) (address : Ulong) (size : Nat) : Prop :=
  low ≤ address.toNat ∧ address.toNat + size ≤ high

/-- The request is refused without an access, or all of its elements are accessed inside of the
window: the device advances unless the width is a FIFO width, and the buffer unless it is a fill
width. -/
def MemRight (pci : PciIoPrivateData) (write : Bool) (width : U32) (address count buffer : Ulong)
    (result : Ulong × List Move) : Prop :=
  (result.1 ≠ efiSuccess ∧ result.2 = []) ∨
    (result.1 = efiSuccess ∧ result.2.length = count.toNat ∧
      ∀ index (among : index < result.2.length),
        result.2[index].size = widthStride width ∧
        result.2[index].device write = address +
          (if widthKind width = some .fifo then 0
            else BitVec.ofNat 64 (index * widthStride width)) ∧
        result.2[index].buffer write = buffer +
          (if widthKind width = some .fill then 0
            else BitVec.ofNat 64 (index * widthStride width)) ∧
        InsideRange pci.memoryStart.toNat (pci.memoryStart.toNat + pci.memorySize.toNat)
          (result.2[index].device write) result.2[index].size)

/-- All accesses are to the configuration header. -/
def ConfigRight (pci : PciIoPrivateData) (write : Bool) (result : Ulong × List Move) : Prop :=
  ∀ move ∈ result.2,
    InsideRange pci.configSpace.toNat (pci.configSpace.toNat + 64) (move.device write) move.size

/-- A request of the four functions -/
inductive PciRequest : Type where
  | mem (write : Bool) (width : U32) (barIndex : U8) (offset count buffer : Ulong)
  | config (write : Bool) (width offset : U32) (count buffer : Ulong)

/-- The function of the request does what it should. -/
def RequestRight (pci : PciIoPrivateData) : PciRequest → Prop
  | .mem write width barIndex offset count buffer =>
    MemRight pci write width (pci.barAddress barIndex offset) count buffer
      (if write then pci.pciIoMemWrite width barIndex offset count buffer
        else pci.pciIoMemRead width barIndex offset count buffer)
  | .config write width offset count buffer =>
    ConfigRight pci write (if write then pci.pciIoPciWrite width offset count buffer
      else pci.pciIoPciRead width offset count buffer)

/-- Where a request is not refused and moves something, its last element is inside: of a FIFO the
element at the first address. -/
def RequestFits (pci : PciIoPrivateData) : PciRequest → Prop
  | .mem _ width barIndex offset count buffer =>
    pci.requestValid width (pci.barAddress barIndex offset) buffer → (widthKind width).isSome →
      (width &&& 0x03).toNat < 3 → count ≠ 0 →
      (pci.barAddress barIndex offset).toNat +
          (if widthKind width = some .fifo then 0 else (count.toNat - 1) * widthStride width) +
          widthStride width ≤
        pci.memoryStart.toNat + pci.memorySize.toNat
  | .config _ width offset count _ =>
    (width &&& 0x03).toNat < 3 → count ≠ 0 → offset.toNat + count.toNat * widthStride width ≤ 64

/-! ### The moves of a loop -/

section Loop

variable (size : Nat) (inStride outStride : Ulong)

theorem length_moveLoop (count : Nat) (input output : Ulong) :
    (moveLoop size inStride outStride count input output).length = count := by
  induction count generalizing input output with
  | zero => rfl
  | succ count inductionHypothesis =>
    rw [moveLoop, List.length_cons, inductionHypothesis]

theorem getElem_moveLoop (count : Nat) (input output : Ulong) (index : Nat)
    (among : index < (moveLoop size inStride outStride count input output).length) :
    (moveLoop size inStride outStride count input output)[index] =
      ⟨output + BitVec.ofNat 64 index * outStride, input + BitVec.ofNat 64 index * inStride,
        size⟩ := by
  induction count generalizing input output index with
  | zero => exact absurd among (Nat.not_lt_zero _)
  | succ count inductionHypothesis =>
    cases index with
    | zero =>
      have start (address stride : Ulong) : address + BitVec.ofNat 64 0 * stride = address := by
        simp
      rw [start, start]
      rfl
    | succ index =>
      have next (address stride : Ulong) : address + stride + BitVec.ofNat 64 index * stride =
          address + BitVec.ofNat 64 (index + 1) * stride := by
        rw [BitVec.ofNat_add, BitVec.add_mul, BitVec.add_assoc,
          BitVec.add_comm (BitVec.ofNat 64 index * stride)]
        congr 2
        exact (BitVec.one_mul stride).symm
      have later : index < (moveLoop size inStride outStride count (input + inStride)
          (output + outStride)).length := Nat.lt_of_succ_lt_succ among
      have found := inductionHypothesis (input + inStride) (output + outStride) index later
      rw [next, next] at found
      exact found

end Loop

/-- How far an element is from the first one -/
def stridden (advances : Bool) (width : U32) (index : Nat) : Ulong :=
  if advances then BitVec.ofNat 64 (index * widthStride width) else 0

/-- A width of up to 32 bits moves all elements, each at the strides of the two sides. -/
theorem ioMemRW_moves {width : U32} (narrow : (width &&& 0x03).toNat < 3) (count : Ulong)
    (inStrideFlag : Bool) (input : Ulong) (outStrideFlag : Bool) (output : Ulong) :
    ∃ moves, pciRootBridgeIoMemRW width count inStrideFlag input outStrideFlag output =
        (efiSuccess, moves) ∧ moves.length = count.toNat ∧
      ∀ index (among : index < moves.length), moves[index] =
        ⟨output + stridden outStrideFlag width index, input + stridden inStrideFlag width index,
          widthStride width⟩ := by
  have scaled (advances : Bool) (index : Nat) : BitVec.ofNat 64 index *
      (if advances then BitVec.ofNat 64 (widthStride width) else 0) =
        stridden advances width index := by
    cases advances with
    | false => exact BitVec.mul_zero
    | true => exact (BitVec.ofNat_mul ..).symm
  refine ⟨_, if_pos narrow, length_moveLoop .., fun index among => ?_⟩
  rw [getElem_moveLoop, scaled, scaled]

/-! ### Requests to the window -/

section Mem

variable (pci : PciIoPrivateData) (write : Bool) {width : U32} (address count : Ulong)
  {buffer : Ulong}

/-- The function of the root bridge, by the direction -/
def memResult (width : U32) (buffer : Ulong) : Ulong × List Move :=
  if write then pci.pciRootBridgeIoMemWrite width address count buffer
  else pci.pciRootBridgeIoMemRead width address count buffer

/-- The checks are passed, and there is a width of up to 32 bits. -/
structure MemAccepted (width : U32) (buffer : Ulong) : Prop where
  valid : pci.requestValid width address buffer = true
  kind : (widthKind width).isSome = true
  narrow : (width &&& 0x03).toNat < 3

theorem memResult_refused (refused : ¬ MemAccepted pci address width buffer) :
    memResult pci write address count width buffer = (efiInvalidParameter, []) := by
  have wide (inStrideFlag outStrideFlag : Bool) (input output : Ulong)
      (isWide : ¬ (width &&& 0x03).toNat < 3) :
      pciRootBridgeIoMemRW width count inStrideFlag input outStrideFlag output =
        (efiInvalidParameter, []) := if_neg isWide
  unfold memResult PciIoPrivateData.pciRootBridgeIoMemRead PciIoPrivateData.pciRootBridgeIoMemWrite
  by_cases valid : pci.requestValid width address buffer = true
  · rw [if_pos valid, if_pos valid]
    cases kind : widthKind width with
    | none => cases write <;> rfl
    | some found =>
      have isWide : ¬ (width &&& 0x03).toNat < 3 := fun narrow =>
        refused ⟨valid, by rw [kind]; rfl, narrow⟩
      cases found <;> cases write <;> exact wide _ _ _ _ isWide
  · rw [if_neg valid, if_neg valid]
    cases write <;> rfl

/-- An accepted request moves all elements: the device stands for a FIFO, the buffer for a fill. -/
theorem memResult_accepted (accepted : MemAccepted pci address width buffer) :
    ∃ moves, memResult pci write address count width buffer = (efiSuccess, moves) ∧
      moves.length = count.toNat ∧
      ∀ index (among : index < moves.length), moves[index].size = widthStride width ∧
        moves[index].device write =
          address + stridden (decide (widthKind width ≠ some .fifo)) width index ∧
        moves[index].buffer write =
          buffer + stridden (decide (widthKind width ≠ some .fill)) width index := by
  have moved (inStrideFlag outStrideFlag : Bool) (input output : Ulong) :=
    ioMemRW_moves accepted.narrow count inStrideFlag input outStrideFlag output
  unfold memResult PciIoPrivateData.pciRootBridgeIoMemRead PciIoPrivateData.pciRootBridgeIoMemWrite
  rw [if_pos accepted.valid, if_pos accepted.valid]
  cases kind : widthKind width with
  | none =>
    have isKind := accepted.kind
    rw [kind] at isKind
    exact absurd isKind Bool.false_ne_true
  | some found =>
    cases found <;> cases write
    all_goals
      obtain ⟨moves, isResult, length, elements⟩ := moved _ _ _ _
      refine ⟨moves, isResult, length, fun index among => ?_⟩
      rw [elements index among]
      exact ⟨rfl, rfl, rfl⟩

end Mem

/-! ### When accesses are right -/

section Right

variable (pci : PciIoPrivateData) (write : Bool) {width : U32} {address count buffer : Ulong}

theorem stridden_kind (width : U32) (still : WidthKind) (index : Nat) :
    stridden (decide (widthKind width ≠ some still)) width index =
      if widthKind width = some still then 0 else BitVec.ofNat 64 (index * widthStride width) := by
  unfold stridden
  by_cases same : widthKind width = some still
  · simp [same]
  · simp [same]

/-- The device side of an element as a number -/
theorem toNat_stridden (still : Prop) [Decidable still] (index : Nat) :
    (address + (if still then 0 else BitVec.ofNat 64 (index * widthStride width))).toNat =
      (address.toNat + index * (if still then 0 else widthStride width)) % 2 ^ 64 := by
  rw [BitVec.toNat_add]
  split
  · rw [Nat.mul_zero]
    rfl
  · rw [BitVec.toNat_ofNat, Nat.add_mod_mod]

/-- The window is valid from its start on. -/
theorem start_le_of_valid (valid : pci.requestValid width address buffer = true) :
    pci.memoryStart.toNat ≤ address.toNat := by
  unfold PciIoPrivateData.requestValid PciIoPrivateData.pciRootBridgeMemAddressValid at valid
  simp only [Bool.and_eq_true, decide_eq_true_eq] at valid
  have reached := BitVec.le_def.mp valid.1.2.1
  rwa [BitVec.toNat_setWidth_of_le (by decide)] at reached

theorem count_ne_zero_iff (count : Ulong) : count ≠ 0 ↔ count.toNat ≠ 0 :=
  not_congr ⟨fun zero => by rw [zero]; rfl, fun zero => BitVec.eq_of_toNat_eq zero⟩

theorem efiInvalidParameter_ne : efiInvalidParameter ≠ efiSuccess := by decide

/-- A request to the window is right exactly if it is refused or its last element is inside. -/
theorem memRight_iff : MemRight pci write width address count buffer
      (memResult pci write address count width buffer) ↔
    (MemAccepted pci address width buffer → count ≠ 0 →
      address.toNat + (if widthKind width = some .fifo then 0
          else (count.toNat - 1) * widthStride width) + widthStride width ≤
        pci.memoryStart.toNat + pci.memorySize.toNat) := by
  by_cases accepted : MemAccepted pci address width buffer
  · obtain ⟨moves, isResult, length, elements⟩ :=
      memResult_accepted pci write address count accepted
    have start := start_le_of_valid pci accepted.valid
    have high : pci.memoryStart.toNat + pci.memorySize.toNat < 2 ^ 64 := by
      have first := pci.memoryStart.isLt
      have second := pci.memorySize.isLt
      omega
    have near : (if widthKind width = some .fifo then 0 else widthStride width) ≤
        widthStride width := by split <;> omega
    have strides : (∀ index < count.toNat, pci.memoryStart.toNat ≤ (address.toNat + index *
          (if widthKind width = some .fifo then 0 else widthStride width)) % 2 ^ 64 ∧
        (address.toNat + index *
          (if widthKind width = some .fifo then 0 else widthStride width)) % 2 ^ 64 +
          widthStride width ≤ pci.memoryStart.toNat + pci.memorySize.toNat) ↔ _ :=
      strides_inside_iff high address.isLt near _ _
    have isCount := count_ne_zero_iff count
    have last : (count.toNat - 1) * (if widthKind width = some .fifo then 0 else widthStride width) =
        if widthKind width = some .fifo then 0 else (count.toNat - 1) * widthStride width := by
      split
      · exact Nat.mul_zero _
      · rfl
    rw [isResult]
    refine Iff.trans ⟨?_, ?_⟩ (strides.trans ⟨?_, ?_⟩)
    · rintro (⟨refused, -⟩ | ⟨-, -, right⟩) index among
      · exact absurd rfl refused
      · obtain ⟨size, device, -, inside⟩ := right index (length.symm ▸ among)
        rw [InsideRange, device, toNat_stridden] at inside
        simp only [size] at inside
        exact inside
    · intro inside
      refine .inr ⟨rfl, length, fun index among => ?_⟩
      obtain ⟨size, device, bufferSide⟩ := elements index among
      rw [stridden_kind] at device bufferSide
      refine ⟨size, device, bufferSide, ?_⟩
      rw [InsideRange, device, toNat_stridden, size]
      exact inside index (length ▸ among)
    · intro ends _ isSome
      rw [← last]
      exact (ends (isCount.mp isSome)).2
    · intro bound isSome
      rw [last]
      exact ⟨start, bound accepted (isCount.mpr isSome)⟩
  · rw [memResult_refused pci write address count accepted]
    exact iff_of_true (.inl ⟨efiInvalidParameter_ne, rfl⟩) fun isAccepted => absurd isAccepted accepted

/-- The function of the header, by the direction -/
def configResult (pci : PciIoPrivateData) (write : Bool) (width offset : U32) (count buffer : Ulong) :
    Ulong × List Move :=
  if write then pci.pciIoPciWrite width offset count buffer
  else pci.pciIoPciRead width offset count buffer

/-- An access to the header is right exactly if its elements end with the header. -/
theorem configRight_iff (offset : U32) :
    ConfigRight pci write (configResult pci write width offset count buffer) ↔
      ((width &&& 0x03).toNat < 3 → count ≠ 0 →
        offset.toNat + count.toNat * widthStride width ≤ 64) := by
  by_cases narrow : (width &&& 0x03).toNat < 3
  · obtain ⟨moves, isResult, length, elements⟩ : ∃ moves,
        configResult pci write width offset count buffer = (efiSuccess, moves) ∧
          moves.length = count.toNat ∧ ∀ index (among : index < moves.length),
            moves[index].size = widthStride width ∧ moves[index].device write =
              pci.configSpace + offset.setWidth 64 +
                BitVec.ofNat 64 (index * widthStride width) := by
      cases write
      all_goals
        obtain ⟨moves, isResult, length, elements⟩ := ioMemRW_moves narrow count true _ true _
        refine ⟨moves, isResult, length, fun index among => ?_⟩
        rw [elements index among]
        exact ⟨rfl, rfl⟩
    have start : (pci.configSpace + offset.setWidth 64 : Ulong).toNat =
        (pci.configSpace.toNat + offset.toNat) % 2 ^ 64 := by
      rw [BitVec.toNat_add, BitVec.toNat_setWidth_of_le (by decide)]
    have strides := strides_inside_iff pci.configSpace_lt
      (pci.configSpace + offset.setWidth 64 : Ulong).isLt (Nat.le_refl (widthStride width))
      count.toNat pci.configSpace.toNat
    have isCount := count_ne_zero_iff count
    have device (index : Nat) : (pci.configSpace + offset.setWidth 64 +
        BitVec.ofNat 64 (index * widthStride width) : Ulong).toNat =
          ((pci.configSpace + offset.setWidth 64 : Ulong).toNat +
            index * widthStride width) % 2 ^ 64 := by
      rw [BitVec.toNat_add, BitVec.toNat_ofNat, Nat.add_mod_mod]
    have whole (some : count.toNat ≠ 0) : (count.toNat - 1) * widthStride width +
        widthStride width = count.toNat * widthStride width := by
      rw [← Nat.succ_mul]
      congr 1
      omega
    have small := offset.isLt
    have header := pci.configSpace_lt
    rw [isResult]
    refine Iff.trans ⟨?_, ?_⟩ (strides.trans ⟨?_, ?_⟩)
    · intro right index among
      have inside := right moves[index] (List.getElem_mem _)
      obtain ⟨size, isDevice⟩ := elements index (length.symm ▸ among)
      rw [InsideRange, isDevice, device, size] at inside
      exact inside
    · intro inside move member
      obtain ⟨index, among, rfl⟩ := List.getElem_of_mem member
      obtain ⟨size, isDevice⟩ := elements index among
      rw [InsideRange, isDevice, device, size]
      exact inside index (length ▸ among)
    · intro ends _ isSome
      obtain ⟨first, last⟩ := ends (isCount.mp isSome)
      have all := whole (isCount.mp isSome)
      rw [start] at first last
      omega
    · intro bound isSome
      have fits := bound narrow (isCount.mpr isSome)
      have all := whole isSome
      rw [start, Nat.mod_eq_of_lt (by omega)]
      omega
  · have refused : (configResult pci write width offset count buffer).2 = [] := by
      cases write <;> exact congrArg Prod.snd (if_neg narrow)
    refine iff_of_true (fun move member => ?_) fun isNarrow => absurd isNarrow narrow
    rw [refused] at member
    exact absurd member List.not_mem_nil

end Right

/-- The requests are right exactly if their elements fit. -/
theorem requestRight_iff (pci : PciIoPrivateData) (request : PciRequest) :
    RequestRight pci request ↔ RequestFits pci request := by
  cases request with
  | mem write width barIndex offset count buffer =>
    have right : RequestRight pci (.mem write width barIndex offset count buffer) ↔
        MemRight pci write width (pci.barAddress barIndex offset) count buffer
          (memResult pci write (pci.barAddress barIndex offset) count width buffer) := by
      cases write <;> exact Iff.rfl
    rw [right, memRight_iff]
    exact ⟨fun fits valid kind narrow => fits ⟨valid, kind, narrow⟩,
      fun fits accepted => fits accepted.valid accepted.kind accepted.narrow⟩
  | config write width offset count buffer => exact configRight_iff pci write offset

/-- The window of a host controller with 16 bytes of capabilities and one port, and a header in
memory -/
def samplePci : PciIoPrivateData where
  bar _ := 0x1c1a000
  configSpace := 0x50000000
  memoryStart := 0x1c1a000
  memorySize := 0x10 + (0x44 + (4 * 1 - 1))
  configSpace_lt := by decide

/-- Two words at the end of the window are read, of which the second ends behind it; and so is a word
behind the header. -/
theorem not_requestRight_last :
    ¬ RequestRight samplePci (.mem false 2 0 0x50 2 0x60000000) ∧
      ¬ RequestRight samplePci (.config false 2 64 1 0x60000000) := by
  constructor
  · rintro (⟨refused, -⟩ | ⟨-, -, right⟩)
    · exact absurd refused (by decide)
    · exact absurd (right 1 (by decide)).2.2.2.2 (by decide)
  · intro right
    exact absurd (right _ List.mem_cons_self).2 (by decide)

end PinePhonePkg
