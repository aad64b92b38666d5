/-
This file embeds the erase of the MMC core: the timeouts computed from CSD and
EXT_CSD, the CMD35, CMD36 and CMD38 of one erase, the alignment to erase groups,
and the record of the sectors an aligned erase had to leave out. The timeouts
are written back to the descriptor, so every function returns it.
-/

import PinePhonePkg.Mmc.Command

namespace PinePhonePkg

/-! ### The erase commands -/

def mmcEraseArg : U32 := 0x00000000

def mmcSecureEraseArg : U32 := 0x80000000

def mmcTrimArg : U32 := 0x00000001

def mmcDiscardArg : U32 := 0x00000003

def mmcSecureTrim1Arg : U32 := 0x80000001

def mmcSecureTrim2Arg : U32 := 0x80008000

/-- The first or last address of an erase, as the card takes it -/
def eraseAddressCmd (mmc : Mmc) (cmdidx : Nat) (address : U32) : MmcCmd :=
  ⟨cmdidx, mmcRspR1, if mmc.highCapacity then address else address * mmc.writeBlLen, some 0⟩

/-- The common body of `mmc_set_erase_start_addr` and `mmc_set_erase_end_addr`. -/
def mmcSetEraseAddr (mmc : Mmc) (cmdidx : Nat) (address : U32) : Driver Int := do
  let reply ← mmcSendCmd (eraseAddressCmd mmc cmdidx address) none
  if reply.error ≠ 0 then
    return reply.error
  mmcSendStatus mmc 300

/-- Sends the address of the first block. -/
def mmcSetEraseStartAddr (mmc : Mmc) (address : U32) : Driver Int :=
  mmcSetEraseAddr mmc mmcCmdEraseGroupStart address

/-- Sends the address of the last block. -/
def mmcSetEraseEndAddr (mmc : Mmc) (address : U32) : Driver Int :=
  mmcSetEraseAddr mmc mmcCmdEraseGroupEnd address

/-- CMD38 -/
def eraseCmd (eraseArg : U32) : MmcCmd :=
  ⟨mmcCmdErase, mmcRspR1b, eraseArg, some 0⟩

/-- Starts the erase. -/
def mmcLaunchErase (eraseArg : U32) : Driver Int := do
  let reply ← mmcSendCmd (eraseCmd eraseArg) none
  return reply.error

/-! ### Timeouts -/

/-- The units of the access time, in nanoseconds -/
def taccExp : List U32 := [1, 10, 100, 1000, 10000, 100000, 1000000, 10000000]

/-- The factors of the access time, in tenths -/
def taccMant : List U32 := [0, 10, 12, 13, 15, 20, 25, 30, 35, 40, 45, 50, 55, 60, 70, 80]

/-- The erase timeout in milliseconds that follows from CSD and the clock. -/
def mmcMmcDefEraseTimeout (mmc : Mmc) : U32 :=
  let r2wFactor := (getElem mmc.csd 3 three_lt_words >>> 26) &&& 0x7
  let taccClks := ((getElem mmc.csd 0 zero_lt_words >>> 8) &&& 0xff) * 100
  let e := (getElem mmc.csd 3 three_lt_words >>> 16) &&& 0x7
  let m := (getElem mmc.csd 3 three_lt_words >>> 19) &&& 0xf
  let taccNs := (taccExp.getD e.toNat 0 * taccMant.getD m.toNat 0 + 9) / 10
  let mult : U32 := 10 <<< r2wFactor.toNat
  let timeoutClks := (taccClks * mult) <<< 1
  let timeoutUs := if taccNs < 1000000 then (taccNs * mult) / 1000 else (taccNs / 1000) * mult
  let eraseTimeout := (timeoutUs + (timeoutClks * 1000) / (mmc.clock / 1000)) / 1000
  if eraseTimeout = 0 then 1 else eraseTimeout

def extCsdEraseGroupDef : Nat := 175

def extCsdRev : Nat := 192

def extCsdEraseTimeoutMult : Nat := 223

def extCsdSecTrimMult : Nat := 229

def extCsdSecEraseMult : Nat := 230

def extCsdTrimMult : Nat := 232

/-- The fields of `struct mmc_ext_csd` the timeouts are computed from. -/
structure MmcExtCsd where
  rev : U8
  eraseGroupDef : U8
  hcEraseTimeout : U32
  secTrimMult : U32
  secEraseMult : U32
  trimTimeout : U32

/-- A field that the source sets only from some EXT_CSD revision on. -/
def decodedFrom (rev least : U8) (value : U32) : Driver U32 :=
  if rev ≥ least then pure value else ask .unsetWord

/-- Reads the fields of an erase from the register. Those that the revision does not have are not
set. -/
def mmcDecodeExtCsd (extCsd : Buffer) : Driver MmcExtCsd := do
  let rev := extCsd extCsdRev
  let eraseGroupDef ← decodedFrom rev 3 ((extCsd extCsdEraseGroupDef).setWidth 32)
  let hcEraseTimeout ← decodedFrom rev 3 (300 * (extCsd extCsdEraseTimeoutMult).setWidth 32)
  let secTrimMult ← decodedFrom rev 4 ((extCsd extCsdSecTrimMult).setWidth 32)
  let secEraseMult ← decodedFrom rev 4 ((extCsd extCsdSecEraseMult).setWidth 32)
  let trimTimeout ← decodedFrom rev 4 (300 * (extCsd extCsdTrimMult).setWidth 32)
  return ⟨rev, eraseGroupDef.setWidth 8, hcEraseTimeout, secTrimMult, secEraseMult, trimTimeout⟩

/-- Keeps the timeouts that the fields give. -/
def Mmc.setTimeouts (mmc : Mmc) (extCsd : MmcExtCsd) : Mmc :=
  let eraseTimeout :=
    if extCsd.eraseGroupDef ≠ 0 ∧ extCsd.hcEraseTimeout ≠ 0 then extCsd.hcEraseTimeout
    else mmcMmcDefEraseTimeout mmc
  if extCsd.rev ≥ 4 then
    { mmc with
      eraseTimeout := eraseTimeout
      trimDiscardTimeout := extCsd.trimTimeout
      secureEraseTimeout := eraseTimeout * extCsd.secEraseMult
      secureTrimTimeout := eraseTimeout * extCsd.secTrimMult }
  else
    { mmc with
      eraseTimeout := eraseTimeout
      trimDiscardTimeout := 0
      secureEraseTimeout := 0
      secureTrimTimeout := 0 }

/-- The caller looks only at the descriptor, which keeps its timeouts when CMD8 fails. -/
def mmcMmcUpdateTimeout (mmc : Mmc) : Driver Mmc := do
  let (ret, extCsd) ← mmcSendExtCsd
  if ret ≠ 0 then
    return mmc
  let decoded ← mmcDecodeExtCsd extCsd
  return mmc.setTimeouts decoded

/-- Zero stands for an argument without a timeout. -/
def mmcMmcEraseTimeout (mmc : Mmc) (arg qty : U32) : U32 :=
  let eraseTimeout :=
    if arg = mmcDiscardArg ∨ arg = mmcTrimArg then mmc.trimDiscardTimeout
    else if arg = mmcEraseArg then mmc.eraseTimeout
    else if arg = mmcSecureEraseArg then mmc.secureEraseTimeout
    else if arg = mmcSecureTrim1Arg ∨ arg = mmcSecureTrim2Arg then mmc.secureTrimTimeout
    else 0
  eraseTimeout * qty

def mmcSdEraseTimeout : U32 := 0xffffff

/-- The time a number of groups or blocks is given -/
def mmcEraseTimeout (mmc : Mmc) (eraseArg qty : U32) : U32 :=
  if mmc.isSd then mmcSdEraseTimeout else mmcMmcEraseTimeout mmc eraseArg qty

/-! ### One erase -/

/-- Sends the first address, the last one and the erase, and waits until the card is done. -/
def mmcDoErase (mmc : Mmc) (first last eraseArg : U32) : Driver (Int × Mmc) := do
  let mmc ← mmcMmcUpdateTimeout mmc
  let err ← mmcSetEraseStartAddr mmc first
  if err ≠ 0 then
    return (err, mmc)
  let err ← mmcSetEraseEndAddr mmc last
  if err ≠ 0 then
    return (err, mmc)
  let err ← mmcLaunchErase eraseArg
  if err ≠ 0 then
    return (err, mmc)
  let qty := if mmc.isSd then last - first + 1 else (last - first) / mmc.eraseGrpSize + 1
  let timeout := mmcEraseTimeout mmc eraseArg qty
  if timeout = 0 then
    return (-1, mmc)
  let err ← mmcSendStatus mmc timeout
  return (err, mmc)

/-- The source also turns down a group size of zero, which a descriptor here does not have. -/
def mmcEraseGroupAligned (mmc : Mmc) (first nr : U32) : Bool :=
  first % mmc.eraseGrpSize = 0 ∧ nr % mmc.eraseGrpSize = 0

/-- The start moves up to the next group. When that leaves no sector, the count stays as it was;
else the count loses what lies before the new start and after the last whole group. -/
def mmcAlignEraseGroup (mmc : Mmc) (first nr : U32) : U32 × U32 :=
  let rem := first % mmc.eraseGrpSize
  if rem ≠ 0 then
    let rem := mmc.eraseGrpSize - rem
    if nr > rem then
      (first + rem, nr - rem - (nr - rem) % mmc.eraseGrpSize)
    else (first + rem, nr)
  else (first, nr - nr % mmc.eraseGrpSize)

/-- Erases blocks, after checks of what the card can do and of the alignment. -/
def mmcErase (mmc : Mmc) (first nr eraseArg : U32) : Driver (Int × Mmc) := do
  if nr = 0 then
    return (0, mmc)
  if mmc.isSd then
    return (-1, mmc)
  if eraseArg ≠ mmcEraseArg ∧ eraseArg ≠ mmcSecureEraseArg ∧ eraseArg ≠ mmcTrimArg ∧
      eraseArg ≠ mmcDiscardArg ∧ eraseArg ≠ mmcSecureTrim1Arg then
    return (-1, mmc)
  if (eraseArg = mmcEraseArg ∨ eraseArg = mmcSecureEraseArg) ∧
      ¬ mmcEraseGroupAligned mmc first nr then
    return (-1, mmc)
  let (ret, mmc) ← mmcDoErase mmc first (first + nr - 1) eraseArg
  if ret ≠ 0 then
    return (-1, mmc)
  if eraseArg = mmcSecureTrim1Arg then
    let (ret, mmc) ← mmcDoErase mmc first (first + nr - 1) mmcSecureTrim2Arg
    return if ret ≠ 0 then (-1, mmc) else (0, mmc)
  return (0, mmc)

/-! ### Sanitize -/

/-- Has the card erase what is no longer in use. -/
def mmcDoSanitize (mmc : Mmc) : Driver Int :=
  mmcDoSwitch mmc extCsdSanitizeStart 1 240000

/-! ### Erase with a record of what is left out -/

/-- The caller's array: a mask, then the start and the count of up to two ranges. -/
abbrev SkipSpace : Type := Nat → U32

/-- Notes a range that was not erased, and that there is one. -/
def mmcAddSkipSpace (skipSpace : SkipSpace) (index : Nat) (first nr : U32) : SkipSpace :=
  Function.update
    (Function.update
      (Function.update skipSpace 0 (skipSpace 0 ||| 1 <<< index))
      (index * 2 + 1) first)
    (index * 2 + 2) nr

/-- The parts of the range before and after the sectors that were erased. -/
def leftOut (skipSpace : SkipSpace) (first nr alignFirst alignNr : U32) : SkipSpace :=
  if alignFirst - first ≠ 0 then
    let skipSpace := mmcAddSkipSpace skipSpace 0 first (alignFirst - first)
    if nr - alignNr - skipSpace 2 ≠ 0 then
      mmcAddSkipSpace skipSpace 1 (alignFirst + alignNr) (nr - alignNr - skipSpace 2)
    else skipSpace
  else if nr - alignNr - 0 ≠ 0 then
    mmcAddSkipSpace skipSpace 0 (alignFirst + alignNr) (nr - alignNr - 0)
  else skipSpace

/-- Erases the whole groups of a range and notes the rest of it as not erased. -/
def mmcInsecureSecureErase (mmc : Mmc) (first nr : U32) (skipSpace : SkipSpace) (secure : Bool) :
    Driver (Int × Mmc × SkipSpace) := do
  let skipSpace := Function.update skipSpace 0 0
  let (alignFirst, alignNr) :=
    if mmcEraseGroupAligned mmc first nr then (first, nr) else mmcAlignEraseGroup mmc first nr
  if alignNr = 0 then
    return (-1, mmc, mmcAddSkipSpace skipSpace 0 first nr)
  let (ret, mmc) ← mmcErase mmc alignFirst alignNr
    (if secure then mmcSecureEraseArg else mmcEraseArg)
  if ret ≠ 0 then
    return (ret, mmc, mmcAddSkipSpace skipSpace 0 first nr)
  return (ret, mmc, leftOut skipSpace first nr alignFirst alignNr)

end PinePhonePkg
