/-
This file embeds the block device interface over the MMC core: the mass
production reads and writes, the wrappers that keep ordinary block I/O out of
the secure storage area, and the secure storage itself, which keeps each item in
two copies.
-/

import PinePhonePkg.Mmc.Boot
import PinePhonePkg.Mmc.Wipe

namespace PinePhonePkg

open Library

/-! ### Mass production -/

def configMmcLogicalOffset : Ulong := 0

def boot0SdmmcStartAddr : Ulong := 256

def boot0Emmc3StartAddr : Ulong := 384

/-- The test both mass production functions make before they take a range for the boot image. -/
def isBootRange (devNum : Int) (start : Ulong) (blkcnt : U32) : Bool :=
  ((devNum = 2 ∧ start = boot0SdmmcStartAddr) ∨ (devNum = 3 ∧ start = boot0Emmc3StartAddr)) ∧
    start + blkcnt.setWidth 64 < configMmcLogicalOffset

/-- Writes blocks; a range that counts as the boot image goes to its own function. -/
def mmcBwriteMassPro (mmc : Mmc) (devNum : Int) (start : Ulong) (blkcnt : U32) (src : Buffer) :
    Driver (Ulong × Mmc) := do
  if isBootRange devNum start blkcnt then
    mmcBurnBoot mmc devNum (start.setWidth 32) blkcnt src
  else
    let blocksDo ← mmcBwrite (some mmc) (start.setWidth 32) blkcnt src
    return (blocksDo, mmc)

/-- Reads blocks; a range that counts as the boot image goes to its own function. -/
def mmcBreadMassPro (mmc : Mmc) (devNum : Int) (start : Ulong) (blkcnt : U32) (dst : Buffer) :
    Driver (Ulong × Buffer × Mmc) := do
  if isBootRange devNum start blkcnt then
    mmcGetBoot mmc devNum (start.setWidth 32) blkcnt dst
  else
    let (blocksDo, dst) ← mmcBread (some mmc) (start.setWidth 32) blkcnt dst
    return (blocksDo, dst, mmc)

/-! ### The secure area -/

def maxSecureStorageMaxItem : U32 := 32

/-- The sector of the first item -/
def sdmmcSecureStorageStartAdd : U32 := 6 * 1024 * 1024 / 512

/-- The sectors of an item -/
def sdmmcItemSize : U32 := 4 * 1024 / 512

/-- The number of sectors the check counts to the secure area. -/
def secureAreaSize : U32 := sdmmcItemSize * 2 * maxSecureStorageMaxItem

/-- The range reaches into the secure area, as the code tests it. -/
def checkSecureArea (start : Ulong) (blkcnt : U32) : Bool :=
  let staAdd : U32 := start.setWidth 32
  let endAdd : U32 := (start + blkcnt.setWidth 64 - 1).setWidth 32
  let seStaAdd := sdmmcSecureStorageStartAdd
  let seEndAdd := sdmmcSecureStorageStartAdd + secureAreaSize - 1
  if blkcnt ≤ secureAreaSize then
    (staAdd ≥ seStaAdd ∧ staAdd ≤ seEndAdd) ∨ (endAdd ≥ seStaAdd ∧ endAdd ≤ seEndAdd)
  else
    (seStaAdd ≥ staAdd ∧ seStaAdd ≤ endAdd) ∨ (seEndAdd ≥ staAdd ∧ seEndAdd ≤ endAdd)

/-! ### The wrappers -/

/-- `mmcBread`, unless the range reaches into the secure area -/
def mmcBreadSecure (mmc : Option Mmc) (start : Ulong) (blkcnt : U32) (dst : Buffer) :
    Driver (Ulong × Buffer) :=
  if checkSecureArea start blkcnt then pure (-1, dst)
  else mmcBread mmc (start.setWidth 32) blkcnt dst

/-- `mmcBwrite`, unless the range reaches into the secure area -/
def mmcBwriteSecure (mmc : Option Mmc) (start : Ulong) (blkcnt : U32) (src : Buffer) :
    Driver Ulong :=
  if checkSecureArea start blkcnt then pure (-1)
  else mmcBwrite mmc (start.setWidth 32) blkcnt src

/-- `mmcBerase`, unless the range reaches into the secure area -/
def mmcBeraseSecure (mmc : Mmc) (start : Ulong) (blkcnt : U32) : Driver Ulong :=
  if checkSecureArea start blkcnt then pure (-1)
  else mmcBerase mmc (start.setWidth 32) blkcnt

/-- `mmcBwriteMassPro`, unless the range reaches into the secure area -/
def mmcBwriteMassProSecure (mmc : Mmc) (devNum : Int) (start : Ulong) (blkcnt : U32)
    (src : Buffer) : Driver (Ulong × Mmc) :=
  if checkSecureArea start blkcnt then pure (-1, mmc)
  else mmcBwriteMassPro mmc devNum start blkcnt src

/-- `mmcBreadMassPro`, unless the range reaches into the secure area -/
def mmcBreadMassProSecure (mmc : Mmc) (devNum : Int) (start : Ulong) (blkcnt : U32)
    (dst : Buffer) : Driver (Ulong × Buffer × Mmc) :=
  if checkSecureArea start blkcnt then pure (-1, dst, mmc)
  else mmcBreadMassPro mmc devNum start blkcnt dst

/-- `mmcSecureWipe`, unless the range reaches into the secure area -/
def mmcSecureWipeSecure (mmc : Mmc) (start blkcnt : U32) (skipSpace : SkipSpace) :
    Driver (Int × Mmc × SkipSpace) :=
  if checkSecureArea (start.setWidth 64) blkcnt then pure (-1, mmc, skipSpace)
  else mmcSecureWipe mmc start blkcnt skipSpace

/-- `mmcMmcErase`, unless the range reaches into the secure area -/
def mmcMmcEraseSecure (mmc : Mmc) (start blkcnt : U32) (skipSpace : SkipSpace) :
    Driver (Int × Mmc × SkipSpace) :=
  if checkSecureArea (start.setWidth 64) blkcnt then pure (-1, mmc, skipSpace)
  else mmcMmcErase mmc start blkcnt skipSpace

/-- `mmcMmcTrim`, unless the range reaches into the secure area -/
def mmcMmcTrimSecure (mmc : Mmc) (start blkcnt : U32) : Driver (Int × Mmc) :=
  if checkSecureArea (start.setWidth 64) blkcnt then pure (-1, mmc)
  else mmcMmcTrim mmc start blkcnt

/-- `mmcMmcDiscard`, unless the range reaches into the secure area -/
def mmcMmcDiscardSecure (mmc : Mmc) (start blkcnt : U32) : Driver (Int × Mmc) :=
  if checkSecureArea (start.setWidth 64) blkcnt then pure (-1, mmc)
  else mmcMmcDiscard mmc start blkcnt

/-- `mmcMmcSanitize`, which has no range -/
def mmcMmcSanitizeSecure (mmc : Mmc) : Driver Int :=
  mmcMmcSanitize mmc

/-- `mmcMmcSecureErase`, unless the range reaches into the secure area -/
def mmcMmcSecureEraseSecure (mmc : Mmc) (start blkcnt : U32) (skipSpace : SkipSpace) :
    Driver (Int × Mmc × SkipSpace) :=
  if checkSecureArea (start.setWidth 64) blkcnt then pure (-1, mmc, skipSpace)
  else mmcMmcSecureErase mmc start blkcnt skipSpace

/-- `mmcMmcSecureTrim`, unless the range reaches into the secure area -/
def mmcMmcSecureTrimSecure (mmc : Mmc) (start blkcnt : U32) : Driver (Int × Mmc) :=
  if checkSecureArea (start.setWidth 64) blkcnt then pure (-1, mmc)
  else mmcMmcSecureTrim mmc start blkcnt

/-! ### Secure storage -/

/-- The sector of an item -/
def firstCopy (item : U32) : U32 :=
  sdmmcSecureStorageStartAdd + sdmmcItemSize * 2 * item

/-- The sector of the copy of an item -/
def secondCopy (item : U32) : U32 :=
  sdmmcSecureStorageStartAdd + sdmmcItemSize * 2 * item + sdmmcItemSize

/-- `buf` is `none` for a null pointer. -/
def sdmmcSecureStorageWrite (mmc : Option Mmc) (item : U32) (buf : Option Buffer) (blkcnt : U32) :
    Driver Int := do
  match buf with
  | none => return -1
  | some buf =>
    if item > maxSecureStorageMaxItem then
      return -1
    if blkcnt > sdmmcItemSize then
      return -1
    let ret ← mmcBwrite mmc (firstCopy item) blkcnt buf
    if ret.setWidth 32 ≠ blkcnt then
      return -1
    let ret ← mmcBwrite mmc (secondCopy item) blkcnt buf
    if ret.setWidth 32 ≠ blkcnt then
      return -1
    return blkcnt.toInt

/-- The caller's buffer is returned with the result. -/
def sdmmcSecureStorageRead (mmc : Option Mmc) (item : U32) (buf : Option Buffer) (blkcnt : U32) :
    Driver (Int × Option Buffer) := do
  match buf with
  | none => return (-1, none)
  | some buf =>
    if item > maxSecureStorageMaxItem then
      return (-1, some buf)
    if blkcnt > sdmmcItemSize then
      return (-1, some buf)
    match ← malloc ((blkcnt * 512).setWidth 64) with
    | none => return (-1, some buf)
    | some fstBak =>
      match ← malloc ((blkcnt * 512).setWidth 64) with
      | none => return (-1, some buf)
      | some secBak =>
        let (ret, fstBak) ← mmcBread mmc (firstCopy item) blkcnt fstBak
        if ret.setWidth 32 ≠ blkcnt then
          return (-1, some buf)
        let (ret, secBak) ← mmcBread mmc (secondCopy item) blkcnt secBak
        if ret.setWidth 32 ≠ blkcnt then
          return (-1, some buf)
        if ¬ Memory.Agree (blkcnt * 512).toNat fstBak secBak then
          return (-1, some buf)
        return (blkcnt.toInt, some (buf.overwrite 0 (blkcnt * 512).toNat fstBak))

/-- Reads the copy of an item. -/
def sdmmcSecureStorageReadBackup (mmc : Option Mmc) (item : U32) (buf : Option Buffer)
    (blkcnt : U32) : Driver (Int × Option Buffer) := do
  match buf with
  | none => return (-1, none)
  | some buf =>
    if item > maxSecureStorageMaxItem then
      return (-1, some buf)
    if blkcnt > sdmmcItemSize then
      return (-1, some buf)
    let (ret, buf) ← mmcBread mmc (secondCopy item) blkcnt buf
    if ret.setWidth 32 ≠ blkcnt then
      return (-1, some buf)
    return ((ret.setWidth 32).toInt, some buf)

end PinePhonePkg
