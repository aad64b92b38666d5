/-
This file embeds the entry points of the erase functions: the secure wipe, which
picks one of five methods by card version and secure features, and the erase,
trim, discard, secure erase, secure trim and sanitize of the block device, each
of which clips its range on its own.
-/

import PinePhonePkg.Mmc.Erase

namespace PinePhonePkg

def extCsdSecErEn : U8 := 0x01

def extCsdSecGbClEn : U8 := 0x10

def extCsdSecSanitize : U8 := 0x40

/-- The card has a feature. -/
def Mmc.supports (mmc : Mmc) (feature : U8) : Bool :=
  mmc.secureFeature &&& feature != 0

/-! ### The secure wipe -/

/-- A trim of the whole range, which is recorded when the trim fails. -/
def trimWhole (mmc : Mmc) (first nr eraseArg : U32) (skipSpace : SkipSpace) :
    Driver (Int × Mmc × SkipSpace) := do
  let (ret, mmc) ← mmcErase mmc first nr eraseArg
  return (ret, mmc, if ret ≠ 0 then mmcAddSkipSpace skipSpace 0 first nr else skipSpace)

/-- Wipes a range by the methods the card has, which depend on its version. -/
def mmcDoSecureWipe (mmc : Mmc) (first nr : U32) (skipSpace : SkipSpace) :
    Driver (Int × Mmc × SkipSpace) := do
  if nr = 0 then
    return (0, mmc, skipSpace)
  if mmc.isSd then
    return (-2, mmc, skipSpace)
  let skipSpace := Function.update skipSpace 0 0
  if mmc.version ≤ mmcVersion441 then
    if mmc.supports extCsdSecErEn then
      if mmc.supports extCsdSecGbClEn then
        trimWhole mmc first nr mmcSecureTrim1Arg skipSpace
      else
        mmcInsecureSecureErase mmc first nr skipSpace true
    else if mmc.supports extCsdSecGbClEn then
      trimWhole mmc first nr mmcTrimArg skipSpace
    else
      return (-2, mmc, mmcAddSkipSpace skipSpace 0 first nr)
  else if mmc.version ≤ mmcVersion50 then
    if mmc.supports extCsdSecSanitize then
      let (ret, mmc, skipSpace) ←
        if mmc.supports extCsdSecGbClEn then trimWhole mmc first nr mmcTrimArg skipSpace
        else mmcInsecureSecureErase mmc first nr skipSpace false
      if ret ≠ 0 then
        return (ret, mmc, skipSpace)
      let ret ← mmcDoSanitize mmc
      if ret ≠ 0 then
        return (ret, mmc, mmcAddSkipSpace (Function.update skipSpace 0 0) 0 first nr)
      return (0, mmc, skipSpace)
    else
      return (-2, mmc, mmcAddSkipSpace skipSpace 0 first nr)
  else
    return (-3, mmc, skipSpace)

/-- What `mmc_secure_wipe` returns for the error code and the array it got. -/
def secureWipeResult (ret : Int) (skipSpace : SkipSpace) : Int :=
  if ret = -1 then -1
  else if ret = -2 ∨ ret = -3 then -1
  else if skipSpace 0 ≠ 0 then 1
  else 0

/-- Wipes a range, and tells whether some of it was not erased. -/
def mmcSecureWipe (mmc : Mmc) (start blkcnt : U32) (skipSpace : SkipSpace) :
    Driver (Int × Mmc × SkipSpace) := do
  if mmc.cfg.platformCaps.drvWipeFeature &&& drvParaDisableSecureWipe ≠ 0 then
    return (-1, mmc, skipSpace)
  let (ret, mmc, skipSpace) ← mmcDoSecureWipe mmc start blkcnt skipSpace
  return (secureWipeResult ret skipSpace, mmc, skipSpace)

/-! ### The block device entries -/

/-- The clip of every entry, in 32 bits: also when the start lies past the end of the card. -/
def clip (mmc : Mmc) (start blkcnt : U32) : U32 :=
  if start + blkcnt > mmc.blockDev.lba then mmc.blockDev.lba - start else blkcnt

/-- Erases the whole groups of a range, and does a sanitize if the platform asks for it. -/
def mmcMmcErase (mmc : Mmc) (start blkcnt : U32) (skipSpace : SkipSpace) :
    Driver (Int × Mmc × SkipSpace) := do
  if mmc.isSd then
    return (-1, mmc, skipSpace)
  if mmc.cfg.platformCaps.drvEraseFeature &&& drvParaDisableEmmcErase ≠ 0 then
    return (-1, mmc, skipSpace)
  if blkcnt = 0 then
    return (0, mmc, skipSpace)
  let (ret, mmc, skipSpace) ←
    mmcInsecureSecureErase mmc start (clip mmc start blkcnt) skipSpace false
  let ret := if skipSpace 0 ≠ 0 then 1 else ret
  if mmc.cfg.platformCaps.drvEraseFeature &&& drvParaEnableEmmcSanitizeWhenErase ≠ 0 ∧
      mmc.supports extCsdSecSanitize then
    -- a failing sanitize is only reported
    let _ ← mmcDoSanitize mmc
    return (ret, mmc, skipSpace)
  return (ret, mmc, skipSpace)

/-- Does a sanitize, on a card that has it. -/
def mmcMmcSanitize (mmc : Mmc) : Driver Int := do
  if mmc.isSd then
    return -1
  if ¬ mmc.supports extCsdSecSanitize then
    return -1
  let ret ← mmcDoSanitize mmc
  return if ret ≠ 0 then -1 else 0

/-- The common body of trim, discard and secure trim: `supported` is the check of each. -/
def eraseUnaligned (mmc : Mmc) (start blkcnt eraseArg : U32) (supported : Bool) :
    Driver (Int × Mmc) := do
  if mmc.isSd then
    return (-1, mmc)
  if blkcnt = 0 then
    return (0, mmc)
  if ¬ supported then
    return (-1, mmc)
  mmcErase mmc start (clip mmc start blkcnt) eraseArg

/-- Erases blocks, on a card that has trims. -/
def mmcMmcTrim (mmc : Mmc) (start blkcnt : U32) : Driver (Int × Mmc) :=
  eraseUnaligned mmc start blkcnt mmcTrimArg (mmc.supports extCsdSecGbClEn)

/-- Discards blocks, on a card of version 4.5 or newer. -/
def mmcMmcDiscard (mmc : Mmc) (start blkcnt : U32) : Driver (Int × Mmc) :=
  eraseUnaligned mmc start blkcnt mmcDiscardArg (mmc.version ≥ mmcVersion45)

/-- Erases blocks and the copies of them, on a card that has it. -/
def mmcMmcSecureTrim (mmc : Mmc) (start blkcnt : U32) : Driver (Int × Mmc) :=
  eraseUnaligned mmc start blkcnt mmcSecureTrim1Arg
    (mmc.supports extCsdSecErEn && mmc.supports extCsdSecGbClEn)

/-- Erases whole groups and the copies of them, on a card that has it. -/
def mmcMmcSecureErase (mmc : Mmc) (start blkcnt : U32) (skipSpace : SkipSpace) :
    Driver (Int × Mmc × SkipSpace) := do
  if mmc.isSd then
    return (-1, mmc, skipSpace)
  if blkcnt = 0 then
    return (0, mmc, skipSpace)
  if ¬ mmc.supports extCsdSecErEn then
    return (-1, mmc, skipSpace)
  mmcInsecureSecureErase mmc start (clip mmc start blkcnt) skipSpace true

end PinePhonePkg
