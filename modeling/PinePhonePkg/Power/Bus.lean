/-
This file models the bus to the power chip: the layers between a driver that
reads or writes a register and the secure monitor that does it. The reply to a
read is cut to a byte before it is tested, so a read never fails, and a driver
goes on with the low byte of the error.
-/

import PinePhonePkg.Dxe.Status
import Mathlib.Logic.Function.Basic

namespace PinePhonePkg

open Library

/-! ### The layers -/

/-- A call of the secure monitor. -/
inductive PmuRequest : Type where
  | readPmu (addr : U32)
  | writePmu (addr value : U32)
deriving DecidableEq

/-- A program whose calls of the secure monitor return words of 32 bits. -/
abbrev Pmu (Result : Type) : Type := Program PmuRequest (fun _ => U32) Result

/-- The monitor reads a register of the chip. -/
def armSvcAriscReadPmu (addr : U32) : Pmu U32 := Program.send (.readPmu addr)

/-- The monitor writes a register of the chip. -/
def armSvcAriscWritePmu (addr value : U32) : Pmu U32 := Program.send (.writePmu addr value)

/-- `SunxiRsbReadSecureOS`, with `data` as it was: the status of 32 bits and `data` afterwards. -/
def sunxiRsbReadSecureOS (daddr : U32) (data : U8) : Pmu (U32 × U8) := do
  let reply ← armSvcAriscReadPmu daddr
  let ret : U32 := (reply.setWidth 8).setWidth 32
  if ret.slt 0 then
    return (1, data)
  return (0, (ret &&& 0xff).setWidth 8)

/-- Writes a byte through the monitor. -/
def sunxiRsbWriteSecureOS (daddr : U32) (data : U8) : Pmu U32 :=
  armSvcAriscWritePmu daddr (data.setWidth 32)

/-- `SunxiRsbRead`; `gSecureAccess` is 1 and nothing sets it. -/
def sunxiRsbRead (daddr : U32) (data : U8) : Pmu (Ulong × U8) := do
  let (ret, data) ← sunxiRsbReadSecureOS daddr data
  return (ret.signExtend 64, data)

/-- Writes a byte; the status is the signed result of the monitor. -/
def sunxiRsbWrite (daddr : U32) (data : U8) : Pmu Ulong := do
  let ret ← sunxiRsbWriteSecureOS daddr data
  return ret.signExtend 64

/-- The three bytes of a transfer -/
structure DeviceBuffer : Type where
  deviceAddr : U8
  deviceRegister : U8
  data : U8

/-- Reads the register that the buffer names. -/
def smbusBlockRead (buffer : DeviceBuffer) : Pmu (Ulong × DeviceBuffer) := do
  let (status, data) ← sunxiRsbRead (buffer.deviceRegister.setWidth 32) buffer.data
  return (status, { buffer with data := data })

/-- Writes the register that the buffer names. -/
def smbusBlockWrite (buffer : DeviceBuffer) : Pmu (Ulong × DeviceBuffer) := do
  let status ← sunxiRsbWrite (buffer.deviceRegister.setWidth 32) buffer.data
  return (status, buffer)

/-- The operations of the bus, of which two are known -/
inductive EfiSmbusOperation : Type where
  | efiSmbusReadBlock
  | efiSmbusWriteBlock
  | other
deriving DecidableEq

/-- One operation on the bus, on the bytes of the buffer. `outcome_three_bytes` shows that a call
with a buffer in memory comes to this through the monitor. -/
def smbusExecute (operation : EfiSmbusOperation) (pecCheck : Bool) (buffer : DeviceBuffer) :
    Pmu (Ulong × DeviceBuffer) :=
  if pecCheck then pure (efiUnsupported, buffer)
  else
    match operation with
    | .efiSmbusReadBlock => smbusBlockRead buffer
    | .efiSmbusWriteBlock => smbusBlockWrite buffer
    | .other => pure (efiUnsupported, buffer)

def axp81XAddr : U8 := 0x11

/-- `Axp81XPmBusRead`: the status and the byte. What the third byte of the buffer is before the
transfer does not matter, as a read always sets it. -/
def axp81XPmBusRead (deviceRegister : U8) : Pmu (Ulong × U8) := do
  let (status, buffer) ← smbusExecute .efiSmbusReadBlock false ⟨axp81XAddr, deviceRegister, 0⟩
  return (status, buffer.data)

/-- Writes a register of the chip. -/
def axp81XPmBusWrite (deviceRegister data : U8) : Pmu Ulong := do
  let (status, _) ← smbusExecute .efiSmbusWriteBlock false ⟨axp81XAddr, deviceRegister, data⟩
  return status

/-- Reads a register of whichever chip there is. -/
def axpPmBusRead (addr : U8) : Pmu (Ulong × U8) := axp81XPmBusRead addr

/-- Writes a register of whichever chip there is. -/
def axpPmBusWrite (addr data : U8) : Pmu Ulong := axp81XPmBusWrite addr data

/-! ### How the drivers use the bus -/

section Drivers

variable {Result : Type}

/-- `if (AxpPmBusRead (AXP81X_ADDR, addr, &value)) return error;` and then the rest -/
def readOr (addr : U8) (error : Result) (next : U8 → Pmu Result) : Pmu Result := do
  let (status, value) ← axpPmBusRead addr
  if status ≠ 0 then
    return error
  next value

/-- `if (AxpPmBusWrite (AXP81X_ADDR, addr, data)) return error;` and then the rest -/
def writeOr (addr data : U8) (error : Result) (next : Pmu Result) : Pmu Result := do
  let status ← axpPmBusWrite addr data
  if status ≠ 0 then
    return error
  next

/-! ### What the layers come to -/

/-- A byte as a word of 32 bits is not negative. -/
theorem byte_not_negative (byte : U8) : (byte.setWidth 32 : U32).slt 0 = false := by
  revert byte
  decide +kernel

theorem byte_low (byte : U8) : ((byte.setWidth 32 : U32) &&& 0xff).setWidth 8 = byte := by
  revert byte
  decide +kernel

theorem signExtend_ne_zero (word : U32) : word.signExtend 64 ≠ (0 : Ulong) ↔ word ≠ 0 := by
  refine not_congr ⟨fun zero => ?_, fun zero => by rw [zero]; rfl⟩
  have same : (word.signExtend 64).toInt = (0 : Ulong).toInt := congrArg BitVec.toInt zero
  rw [BitVec.toInt_signExtend_of_le (by decide)] at same
  exact BitVec.eq_of_toInt_eq same

/-- A read succeeds with the low byte of whatever the secure monitor replies. -/
theorem axpPmBusRead_eq (addr : U8) :
    axpPmBusRead addr =
      Program.call (.readPmu (addr.setWidth 32)) fun reply => pure (0, reply.setWidth 8) := by
  have read : ∀ reply : U32, (do
      if ((reply.setWidth 8).setWidth 32 : U32).slt 0 then
        return (1, 0)
      return (0, (((reply.setWidth 8).setWidth 32 : U32) &&& 0xff).setWidth 8) : Pmu (U32 × U8)) =
      pure (0, reply.setWidth 8) := by
    intro reply
    rw [byte_not_negative, if_neg Bool.false_ne_true, byte_low]
  unfold axpPmBusRead axp81XPmBusRead smbusExecute smbusBlockRead sunxiRsbRead sunxiRsbReadSecureOS
    armSvcAriscReadPmu
  simp only [Program.send, read]
  rfl

theorem axpPmBusWrite_eq (addr data : U8) :
    axpPmBusWrite addr data =
      Program.call (.writePmu (addr.setWidth 32) (data.setWidth 32)) fun reply =>
        pure (reply.signExtend 64) := rfl

/-- The error of a read is never returned. -/
theorem readOr_eq (addr : U8) (error : Result) (next : U8 → Pmu Result) :
    readOr addr error next =
      Program.call (.readPmu (addr.setWidth 32)) fun reply => next (reply.setWidth 8) := by
  unfold readOr
  rw [axpPmBusRead_eq]
  rfl

/-- The error of a write is returned when the secure monitor replies anything but zero. -/
theorem writeOr_eq (addr data : U8) (error : Result) (next : Pmu Result) :
    writeOr addr data error next =
      Program.call (.writePmu (addr.setWidth 32) (data.setWidth 32)) fun reply =>
        if reply ≠ 0 then pure error else next := by
  unfold writeOr
  rw [axpPmBusWrite_eq]
  refine congrArg (Program.call _) (funext fun reply => ?_)
  exact if_congr (signExtend_ne_zero reply) rfl rfl

/-! ### A bus that carries out every access -/

/-- The registers of the power chip -/
abbrev Registers : Type := U8 → U8

/-- The secure monitor reads or sets the register and reports success. -/
def servePmu : (request : PmuRequest) → Registers → U32 × Registers
  | .readPmu addr, registers => ((registers (addr.setWidth 8)).setWidth 32, registers)
  | .writePmu addr value, registers =>
    (0, Function.update registers (addr.setWidth 8) (value.setWidth 8))

theorem byte_back (byte : U8) : (byte.setWidth 32 : U32).setWidth 8 = byte := by
  revert byte
  decide +kernel

@[simp]
theorem exec_readOr (addr : U8) (error : Result) (next : U8 → Pmu Result) (registers : Registers) :
    Program.exec servePmu (readOr addr error next) registers =
      Program.exec servePmu (next (registers addr)) registers := by
  rw [readOr_eq]
  simp only [Program.exec, servePmu, byte_back]

@[simp]
theorem exec_writeOr (addr data : U8) (error : Result) (next : Pmu Result)
    (registers : Registers) :
    Program.exec servePmu (writeOr addr data error next) registers =
      Program.exec servePmu next (Function.update registers addr data) := by
  rw [writeOr_eq]
  simp only [Program.exec, servePmu, byte_back]
  rfl

end Drivers

end PinePhonePkg
