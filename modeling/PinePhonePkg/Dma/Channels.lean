/-
This file models the DMA driver's sixteen channels: which of them are in use,
their interrupt handlers, the two interrupt enable registers, the two pending
registers, and the count by which the driver switches its interrupt line.
-/

import PinePhonePkg.Dxe.Status
import Mathlib.Data.Fintype.Fin
import Mathlib.Logic.Function.Basic

namespace PinePhonePkg

/-! ### The state -/

/-- The addresses of a handler and of its data; no handler is address 0. -/
structure DmaIrqHandler : Type where
  mData : Ulong
  mFunc : Ulong
deriving DecidableEq

/-- A channel of the driver, with the register that starts it. -/
structure SunxiDmaSource : Type where
  used : U32
  channalCount : U32
  dmaFunc : DmaIrqHandler
  enable : U32
deriving DecidableEq

/-- A handle, which is the address of one of the sources. -/
abbrev Hdma : Type := Fin 16

instance neZero_channels : NeZero 16 := ⟨by decide⟩

/-- The registers of the interrupts, the channels and the count of those that may interrupt -/
structure SunxiDma : Type where
  irqEn0 : U32
  irqEn1 : U32
  irqPending0 : U32
  irqPending1 : U32
  dmaIntCount : Int
  dmaChannalSource : Hdma → SunxiDmaSource
  /-- whether the interrupt controller passes `AW_IRQ_DMA` on -/
  interruptSource : Bool

namespace SunxiDma

/-- The interrupt at the end of a package -/
def dmaPkgEndInt : U32 := 1 <<< 1

def dmaAllInt : U32 := 7

variable (dma : SunxiDma)

/-- A channel has other books. -/
def setSource (hdma : Hdma) (source : SunxiDmaSource) : SunxiDma :=
  { dma with dmaChannalSource := Function.update dma.dmaChannalSource hdma source }

/-- A write to `irq_pending0`, which clears the bits that are ones. -/
def clearPending0 (bits : U32) : SunxiDma :=
  { dma with irqPending0 := dma.irqPending0 &&& ~~~bits }

/-- Takes interrupts of the upper channels back. -/
def clearPending1 (bits : U32) : SunxiDma :=
  { dma with irqPending1 := dma.irqPending1 &&& ~~~bits }

/-! ### Setting up -/

/-- A channel that nobody has -/
def noSource : SunxiDmaSource := ⟨0, 0, ⟨0, 0⟩, 0⟩

/-- `sunxi_dma_init`; the buffers of the channels are not modelled. -/
def sunxiDmaInit : SunxiDma :=
  let dma := (({ dma with irqEn0 := 0, irqEn1 := 0 }).clearPending0 0xffffffff).clearPending1
    0xffffffff
  { dma with
    dmaChannalSource := fun hdma => { noSource with enable := (dma.dmaChannalSource hdma).enable }
    dmaIntCount := 0
    interruptSource := false }

/-! ### Interrupts of a channel -/

/-- Keeps the function that a channel calls. -/
def sunxiDmaInstallInt (hdma : Hdma) (dmaIntFunc p : Ulong) : Ulong × SunxiDma :=
  let channal := dma.dmaChannalSource hdma
  if channal.used = 0 then (efiDeviceError, dma)
  else
    let channalCount := channal.channalCount
    let dma :=
      if channalCount < 8 then dma.clearPending0 (dmaAllInt <<< (channalCount * 4))
      else dma.clearPending1 (dmaAllInt <<< ((channalCount - 8) * 4))
    if channal.dmaFunc.mFunc = 0 then
      (efiSuccess, dma.setSource hdma { channal with dmaFunc := ⟨p, dmaIntFunc⟩ })
    else (efiDeviceError, dma)

/-- The end of `sunxi_dma_enable_int` -/
def countInt : SunxiDma :=
  { dma with
    interruptSource := if dma.dmaIntCount = 0 then true else dma.interruptSource
    dmaIntCount := dma.dmaIntCount + 1 }

/-- Switches the interrupt of a channel on, and that of the controller for the first one. -/
def sunxiDmaEnableInt (hdma : Hdma) : Ulong × SunxiDma :=
  let channal := dma.dmaChannalSource hdma
  if channal.used = 0 then (minusOne, dma)
  else
    let channalCount := channal.channalCount
    if channalCount < 8 then
      if dma.irqEn0 &&& dmaPkgEndInt <<< (channalCount * 4) ≠ 0 then (efiDeviceError, dma)
      else
        (efiSuccess,
          countInt { dma with irqEn0 := dma.irqEn0 ||| dmaPkgEndInt <<< (channalCount * 4) })
    else
      if dma.irqEn1 &&& dmaPkgEndInt <<< ((channalCount - 8) * 4) ≠ 0 then (efiDeviceError, dma)
      else
        (efiSuccess,
          countInt { dma with irqEn1 := dma.irqEn1 ||| dmaPkgEndInt <<< ((channalCount - 8) * 4) })

/-- The end of `sunxi_dma_disable_int` -/
def discountInt : SunxiDma :=
  let dmaIntCount := if 0 < dma.dmaIntCount then dma.dmaIntCount - 1 else dma.dmaIntCount
  { dma with
    dmaIntCount := dmaIntCount
    interruptSource := if dmaIntCount = 0 then false else dma.interruptSource }

/-- Switches the interrupt of a channel off, and that of the controller for the last one. -/
def sunxiDmaDisableInt (hdma : Hdma) : Ulong × SunxiDma :=
  let channal := dma.dmaChannalSource hdma
  if channal.used = 0 then (minusOne, dma)
  else
    let channalCount := channal.channalCount
    if channalCount < 8 then
      if dma.irqEn0 &&& dmaPkgEndInt <<< (channalCount * 4) = 0 then (efiDeviceError, dma)
      else
        (efiSuccess,
          discountInt { dma with irqEn0 := dma.irqEn0 &&& ~~~(dmaPkgEndInt <<< (channalCount * 4)) })
    else
      if dma.irqEn1 &&& dmaPkgEndInt <<< ((channalCount - 8) * 4) = 0 then (efiDeviceError, dma)
      else
        (efiSuccess,
          discountInt { dma with
            irqEn1 := dma.irqEn1 &&& ~~~(dmaPkgEndInt <<< ((channalCount - 8) * 4)) })

/-- `sunxi_dma_free_int`, which does not multiply the channel by the bits of one. -/
def sunxiDmaFreeInt (hdma : Hdma) : Ulong × SunxiDma :=
  let channal := dma.dmaChannalSource hdma
  if channal.used = 0 then (efiDeviceError, dma)
  else
    let channalCount := channal.channalCount
    let dma :=
      if channalCount < 8 then dma.clearPending0 (dmaAllInt <<< channalCount)
      else dma.clearPending1 (dmaAllInt <<< (channalCount - 8))
    if channal.dmaFunc.mFunc ≠ 0 then
      (efiSuccess, dma.setSource hdma { channal with dmaFunc := ⟨0, 0⟩ })
    else (efiDeviceError, dma)

/-! ### Channels -/

/-- The first channel that is not used. -/
def freeChannal : Option Hdma :=
  (List.finRange 16).find? fun i => (dma.dmaChannalSource i).used = 0

/-- `sunxi_dma_request`, which does not look at the type; without a channel the handle is 0. -/
def sunxiDmaRequest : Option Hdma × SunxiDma :=
  match dma.freeChannal with
  | some i =>
    (some i, dma.setSource i
      { dma.dmaChannalSource i with used := 1, channalCount := BitVec.ofNat 32 i.val })
  | none => (none, dma)

/-- Gives a channel back. -/
def sunxiDmaRelease (hdma : Hdma) : Ulong × SunxiDma :=
  if (dma.dmaChannalSource hdma).used = 0 then (minusOne, dma)
  else
    let dma := (dma.sunxiDmaDisableInt hdma).2
    let dma := (dma.sunxiDmaFreeInt hdma).2
    (efiSuccess, dma.setSource hdma { dma.dmaChannalSource hdma with enable := 0, used := 0 })

/-! ### The interrupt -/

/-- What the interrupt function calls. -/
inductive DmaIntCall : Type where
  | mFunc (i : Hdma) (handler : DmaIrqHandler)
  | endOfInterrupt (source : Ulong)
deriving DecidableEq

/-- The body of the first loop of `sunxi_dma_int_func` -/
def dispatchLow (i : Hdma) : SunxiDma × List DmaIntCall :=
  let handler := (dma.dmaChannalSource i).dmaFunc
  if handler.mFunc ≠ 0 then
    let pending := dmaPkgEndInt <<< (i.val * 4)
    if dma.irqPending0 &&& pending ≠ 0 then (dma.clearPending0 pending, [.mFunc i handler])
    else (dma, [])
  else (dma, [])

/-- The body of the second loop. Its shift is by 32 bits or more, which the instruction takes
modulo 32. -/
def dispatchHigh (i : Hdma) : SunxiDma × List DmaIntCall :=
  let handler := (dma.dmaChannalSource i).dmaFunc
  if handler.mFunc ≠ 0 then
    let pending := dmaPkgEndInt <<< (i.val * 4 % 32)
    if dma.irqPending1 &&& pending ≠ 0 then (dma.clearPending1 pending, [.mFunc i handler])
    else (dma, [])
  else (dma, [])

/-- The channels one after the other -/
def dispatchAll (dispatch : SunxiDma → Hdma → SunxiDma × List DmaIntCall) :
    List Hdma → SunxiDma → SunxiDma × List DmaIntCall
  | [], dma => (dma, [])
  | i :: rest, dma =>
    let served := dispatch dma i
    let later := dispatchAll dispatch rest served.1
    (later.1, served.2 ++ later.2)

/-- The interrupt: the lower channels, and then the upper ones -/
def sunxiDmaIntFunc (source : Ulong) : SunxiDma × List DmaIntCall :=
  let low := dispatchAll dispatchLow [0, 1, 2, 3, 4, 5, 6, 7] dma
  let high := dispatchAll dispatchHigh [8, 9, 10, 11, 12, 13, 14] low.1
  (high.1, low.2 ++ high.2 ++ [.endOfInterrupt source])

end SunxiDma

end PinePhonePkg
