/-
This file gives the status codes of the firmware, words of 64 bits, and its
copy of memory.
-/

import PinePhonePkg.Mmc.Types

namespace PinePhonePkg

def efiSuccess : Ulong := 0

def efiInvalidParameter : Ulong := 0x8000000000000002

def efiUnsupported : Ulong := 0x8000000000000003

def efiBadBufferSize : Ulong := 0x8000000000000004

def efiDeviceError : Ulong := 0x8000000000000007

def efiOutOfResources : Ulong := 0x8000000000000009

def efiNoMedia : Ulong := 0x800000000000000c

/-- `EFI_ERROR` -/
def efiError (status : Ulong) : Bool := status.msb

def minusOne : Ulong := -1

/-- `CopyMem`, which reads all of the source before it writes. -/
def copyMem (memory : Buffer) (destination source length : Ulong) : Buffer :=
  memory.overwrite destination.toNat length.toNat (memory.drop source.toNat)

end PinePhonePkg
