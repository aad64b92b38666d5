/-
This file gives the controller as the driver sees it: a file of registers in which
a reset returns the configuration to its reset values, the bits that ask for a
reset clear themselves, and interrupts may be raised before each access.
-/

import PinePhonePkg.Host.SendCmd
import PinePhonePkg.Host.Setup
import Mathlib.Logic.Function.Basic

namespace PinePhonePkg

open Library

/-! ### The register file -/

/-- The registers that a reset returns to their reset values -/
def HostReg.configuration : HostReg → Bool
  | .gctrl | .clkcr | .timeout | .width | .imask | .ftrglevel | .dbgc | .csdc | .ntsr | .hwrst
  | .dmac | .idie | .thldc | .dsbd | .drvDl | .sampDl | .dsDl => true
  | _ => false

/-- The gates and the reset of the bus, and the register of the module clock -/
def HostReg.clock : HostReg → Bool
  | .mclkbase | .hclkbase | .hclkrst => true
  | _ => false

/-- The registers that the hardware sets: a read may give anything. -/
def HostReg.volatile : HostReg → Bool
  | .cmd | .resp0 | .resp1 | .resp2 | .resp3 | .status | .bbcr | .idst | .database => true
  | _ => false

/-- The hardware: the reset values, the bits of GCTRL that reset the configuration, the result of a
calibration, the interrupts raised before each access and what the volatile registers hold then -/
structure Smhc : Type where
  resetValue : HostReg → U32
  resetBits : U32
  resets : 7 &&& resetBits ≠ 0
  calibration : U32
  calibrated : calibration &&& sdxcCalDone ≠ 0
  raised : Nat → U32
  held : Nat → HostReg → U32

/-- The registers of the controller and the time -/
structure HostWorld : Type where
  registers : HostReg → U32
  time : Nat

namespace HostWorld

variable (smhc : Smhc) (world : HostWorld)

/-- A register holds another value. -/
def set (reg : HostReg) (value : U32) : HostWorld :=
  { world with registers := Function.update world.registers reg value }

/-- The interrupts that are raised before an access -/
def tick : HostWorld :=
  { registers := Function.update world.registers .rint
      (world.registers .rint ||| smhc.raised world.time)
    time := world.time + 1 }

/-- The configuration holds what it does after a reset. -/
def reset : HostWorld :=
  { world with
    registers := fun reg => if reg.configuration then smhc.resetValue reg else world.registers reg }

/-- The value of a register, which for some depends on the time -/
def read (reg : HostReg) : U32 :=
  if reg.volatile then smhc.held world.time reg else world.registers reg

/-- Raw interrupts are cleared by ones, reset bits clear themselves, the start of a calibration
sets its result, and a controller whose bus reset is asked for is reset. -/
def write (mmcNo : Nat) (value : U32) : HostReg → HostWorld
  | .rint => world.set .rint (world.registers .rint &&& ~~~value)
  | .gctrl =>
    let world := if value &&& smhc.resetBits ≠ 0 then world.reset smhc else world.set .gctrl value
    world.set .gctrl (world.registers .gctrl &&& ~~~7)
  | .dmac => world.set .dmac (value &&& ~~~1)
  | .sampDl =>
    world.set .sampDl (if value &&& sdxcStartCal ≠ 0 then value ||| smhc.calibration else value)
  | .dsDl =>
    world.set .dsDl (if value &&& sdxcStartCal ≠ 0 then value ||| smhc.calibration else value)
  | .hclkrst =>
    let world := if value &&& bit (8 + mmcNo) = 0 then world.reset smhc else world
    world.set .hclkrst value
  | reg => world.set reg value

end HostWorld

/-- The controller of the number, and the rest of the memory, which is not followed -/
def serveHost (smhc : Smhc) (mmcNo : Nat) :
    (request : HostRequest) → HostWorld → request.Reply × HostWorld
  | .readl reg, world => ((world.tick smhc).read smhc reg, world.tick smhc)
  | .writel value reg, world => ((), (world.tick smhc).write smhc mmcNo value reg)
  | .storeWord _ _, world => ((), world)
  | .setDes _ _, world => ((), world)

/-! ### Accesses -/

section Accesses

variable (smhc : Smhc) (mmcNo : Nat) (world : HostWorld)

@[simp]
theorem exec_readl (reg : HostReg) :
    Program.exec (serveHost smhc mmcNo) (readl reg) world =
      ((world.tick smhc).read smhc reg, world.tick smhc) := rfl

@[simp]
theorem exec_writel (value : U32) (reg : HostReg) :
    Program.exec (serveHost smhc mmcNo) (writel value reg) world =
      ((), (world.tick smhc).write smhc mmcNo value reg) := rfl

@[simp]
theorem registers_set (reg other : HostReg) (value : U32) :
    (world.set reg value).registers other = if other = reg then value else world.registers other :=
  Function.update_apply _ _ _ _

@[simp]
theorem registers_tick (reg : HostReg) (other : reg ≠ .rint) :
    (world.tick smhc).registers reg = world.registers reg :=
  Function.update_of_ne other _ _

@[simp]
theorem registers_reset (reg : HostReg) :
    (world.reset smhc).registers reg =
      if reg.configuration then smhc.resetValue reg else world.registers reg := rfl

/-- A register that is not volatile holds what it held. -/
theorem read_eq {reg : HostReg} (kept : reg.volatile = false) :
    world.read smhc reg = world.registers reg := by
  unfold HostWorld.read
  rw [kept, if_neg Bool.false_ne_true]

/-- The low bits of the control register are clear. -/
theorem gctrl_write (value : U32) :
    (world.write smhc mmcNo value .gctrl).registers .gctrl &&& 7 = 0 := by
  have clear : ∀ word : U32, word &&& ~~~7 &&& 7 = 0 := by
    intro word
    rw [BitVec.and_assoc]
    have none : ~~~(7 : U32) &&& 7 = 0 := by decide
    rw [none]
    exact BitVec.and_zero
  unfold HostWorld.write
  rw [registers_set, if_pos rfl]
  exact clear _

/-- A wait for bits that are clear ends at once. -/
theorem exec_awaitClear {reg : HostReg} {mask : U32} (kept : reg.volatile = false)
    (notRint : reg ≠ .rint) (clear : world.registers reg &&& mask = 0) (turns : Nat) :
    Program.exec (serveHost smhc mmcNo) (awaitClear reg mask (turns + 1)) world =
      (some (), world.tick smhc) := by
  unfold awaitClear
  rw [Program.exec_bind, exec_readl, read_eq _ _ kept, registers_tick _ _ _ notRint, clear]
  rfl

end Accesses

end PinePhonePkg
