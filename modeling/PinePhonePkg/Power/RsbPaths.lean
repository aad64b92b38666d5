/-
This file runs the block transfers of the power chip against its registers, once
through the secure monitor and once through the bus controller, and compares what
comes of them. The controller may take any time for a transfer. It hears only the
chip that answers to the address of the transfer; the monitor hears every address.
-/

import PinePhonePkg.Power.Rsb
import PinePhonePkg.Library.Bits

namespace PinePhonePkg

open Library Program

namespace Rsb

/-! ### The bus controller and the chip -/

/-- The registers of the bus controller, and those of the power chip with the run-time address it
answers to. A transfer is over after `delay` reads of the status, of which `left` are still to
come. -/
structure RsbController : Type where
  ctrl : U32
  stat : U32
  daddr0 : U32
  data0 : U32
  cmd : U32
  saddr : U32
  left : Nat
  delay : Nat
  rtsaddr : U8
  pmu : Registers

/-- What a command moves: a number of registers, to the chip or from it -/
inductive RsbCommand : Type where
  | write (count : Nat)
  | read (count : Nat)
deriving DecidableEq

/-- The transfers there are, by their codes -/
def rsbCommand (cmd : U32) : Option RsbCommand :=
  if cmd = 0x4E then some (.write 1) else if cmd = 0x59 then some (.write 2)
  else if cmd = 0x63 then some (.write 4) else if cmd = 0x8B then some (.read 1)
  else if cmd = 0x9C then some (.read 2) else if cmd = 0xA6 then some (.read 4) else none

/-- The registers that follow the one with the address -/
def following (register : U8) (place : Nat) : U8 := register + BitVec.ofNat 8 place

namespace RsbController

variable (controller : RsbController)

/-- No transfer is under way, and the status has no flag. -/
def Idle : Prop := controller.stat = 0 ∧ controller.left = 0

/-- The chip has the address of the transfer. -/
def Addressed : Prop :=
  (controller.saddr >>> rsbRtsaddrShift).setWidth 8 = controller.rtsaddr

instance : Decidable controller.Addressed := inferInstanceAs (Decidable (_ = _))

/-- What a command does to the registers of the chip, and to the one for data -/
def perform : Option RsbCommand → RsbController
  | some (.write count) =>
    { controller with
      pmu := setEach (following (controller.daddr0.setWidth 8))
        (fun place => (controller.data0 >>> (8 * place)).setWidth 8) count controller.pmu }
  | some (.read count) =>
    { controller with
      data0 := lanes (fun place => controller.pmu (following (controller.daddr0.setWidth 8) place))
        0 32 count }
  | none => controller

/-- The transfer that the registers ask for; it is not acknowledged if the chip has another
address. -/
def transfer : RsbController :=
  if controller.Addressed then
    { controller.perform (rsbCommand controller.cmd) with
      stat := rsbToverInt
      left := controller.delay }
  else { controller with stat := rsbTerrInt ||| 0x10000, left := controller.delay }

/-- The status shows nothing until the transfer is over. -/
def read : RsbRegister → U32 × RsbController
  | .ctrl => (controller.ctrl, controller)
  | .stat =>
    if controller.left = 0 then (controller.stat, controller)
    else (0, { controller with left := controller.left - 1 })
  | .daddr0 => (controller.daddr0, controller)
  | .data0 => (controller.data0, controller)
  | .cmd => (controller.cmd, controller)
  | .saddr => (controller.saddr, controller)

/-- A flag of the status is cleared by a one, and the start bit clears itself. -/
def write (value : U32) : RsbRegister → RsbController
  | .ctrl =>
    if value &&& rsbStartTrans ≠ 0 then
      { controller with ctrl := value &&& ~~~rsbStartTrans }.transfer
    else { controller with ctrl := value }
  | .stat => { controller with stat := controller.stat &&& ~~~value }
  | .daddr0 => { controller with daddr0 := value }
  | .data0 => { controller with data0 := value }
  | .cmd => { controller with cmd := value }
  | .saddr => { controller with saddr := value }

end RsbController

/-- The secure monitor and the bus controller have the registers of the chip in common. -/
def serveRsb : (request : RsbRequest) → RsbController → request.Reply × RsbController
  | .monitor request, controller =>
    ((servePmu request controller.pmu).1,
      { controller with pmu := (servePmu request controller.pmu).2 })
  | .mmioRead32 register, controller => controller.read register
  | .mmioWrite32 register value, controller => ((), controller.write value register)

/-! ### What is compared -/

/-- The class of the status, the bytes of the caller and the registers of the chip -/
structure Outcome : Type where
  failed : Bool
  memory : Memory U8
  registers : Registers

/-- A call of the bus driver: an operation, and the address and the length of its buffer -/
structure SmbusCall : Type where
  operation : EfiSmbusOperation
  pecCheck : Bool
  length : Ulong
  buffer : Ulong

namespace SmbusCall

variable (call : SmbusCall)

/-- What comes of a call; `none` if it has not returned after so many polls. -/
def outcome (gSecureAccess : U32) (polls : Nat) (memory : Memory U8) (controller : RsbController) :
    Option Outcome :=
  let ran := exec serveRsb
    (smbusExecute gSecureAccess polls call.operation call.pecCheck call.length call.buffer memory)
    controller
  ran.1.map fun (status, memory) => ⟨efiError status, memory, ran.2.pmu⟩

/-- With secure access on, the outcome is the one with secure access off. -/
def PathsAgree (memory : Memory U8) (controller : RsbController) : Prop :=
  ∀ gSecureAccess polls, gSecureAccess ≠ 0 → controller.delay + 2 ≤ polls →
    ∃ outcome, call.outcome gSecureAccess polls memory controller = some outcome ∧
      call.outcome 0 polls memory controller = some outcome

/-- The length of the transfer, as `SunxiRsbRead` and `SunxiRsbWrite` get it -/
def len : U32 := (call.length - 2).setWidth 32

/-- The transfer is to the chip, from or to a buffer, and has a length that the controller takes. -/
structure Taken (memory : Memory U8) (controller : RsbController) : Prop where
  addressed : memory (dataAt call.buffer 0) = controller.rtsaddr
  data : call.buffer + 2 ≠ 0
  length : call.len = 1 ∨ call.len = 2 ∨ call.len = 4

/-- The bytes of the buffer beyond the first are those of the registers beyond the first. -/
def RestInPlace (memory : Memory U8) (controller : RsbController) : Prop :=
  ∀ place, 0 < place → place < call.len.toNat →
    memory (dataAt (call.buffer + 2) place) =
      controller.pmu (following (memory (dataAt call.buffer 1)) place)

end SmbusCall

/-! ### Transfers through the controller -/

section Controller

variable {controller : RsbController} {polls : Nat}

@[simp]
theorem exec_mmioRead32 {Result : Type} (register : RsbRegister) (next : U32 → RsbProgram Result)
    (controller : RsbController) :
    exec serveRsb (mmioRead32 register >>= next) controller =
      exec serveRsb (next (controller.read register).1) (controller.read register).2 :=
  rfl

@[simp]
theorem exec_mmioWrite32 {Result : Type} (register : RsbRegister) (value : U32)
    (next : Unit → RsbProgram Result) (controller : RsbController) :
    exec serveRsb (mmioWrite32 register value >>= next) controller =
      exec serveRsb (next ()) (controller.write value register) :=
  rfl

theorem read_stat_over (ended : controller.left = 0) :
    controller.read .stat = (controller.stat, controller) :=
  if_pos ended

theorem read_stat_early {left : Nat} (early : controller.left = left + 1) :
    controller.read .stat = (0, { controller with left := left }) := by
  unfold RsbController.read
  simp only [early]
  rw [if_neg (Nat.succ_ne_zero left), Nat.add_sub_cancel]

/-- The flags are cleared by the word that was read. -/
theorem write_stat (ended : controller.left = 0) :
    controller.write controller.stat .stat = { controller with stat := 0, left := 0 } := by
  unfold RsbController.write
  rw [BitVec.and_not_self, ← ended]

theorem exec_statusLoop (idle : controller.Idle) (enough : 0 < polls) :
    exec serveRsb (statusLoop polls) controller = (some (), controller) := by
  obtain ⟨polls, rfl⟩ := Nat.exists_eq_add_of_lt enough
  rw [Nat.zero_add, statusLoop, exec_mmioRead32, read_stat_over idle.2, idle.1]
  dsimp only
  rw [if_neg (by decide)]
  rfl

/-- The flags behind a transfer -/
def endFlags (addressed : Prop) [Decidable addressed] : U32 :=
  if addressed then rsbToverInt else rsbTerrInt ||| 0x10000

/-- What the loop behind a transfer makes of the flags -/
def endInfo (addressed : Prop) [Decidable addressed] : RsbInfo :=
  if addressed then ⟨0, 0, 0⟩ else ⟨0x100, 1, 0⟩

theorem exec_busyLoop (addressed : Prop) [Decidable addressed] (more left : Nat)
    (flags : controller.stat = endFlags addressed) (waiting : controller.left = left) :
    exec serveRsb (busyLoop (more + left + 2) ⟨0, 1, 0⟩) controller =
      (some (endInfo addressed), { controller with stat := 0, left := 0 }) := by
  induction left generalizing controller with
  | zero =>
    have cleared := write_stat waiting
    rw [busyLoop, if_neg (by decide : ¬(1 : U32) = 0), exec_mmioRead32, read_stat_over waiting]
    rw [flags] at cleared ⊢
    unfold endFlags endInfo at *
    dsimp only
    by_cases heard : addressed
    · rw [if_pos heard] at cleared
      rw [if_pos heard, if_pos heard, if_neg (by decide), if_neg (by decide), if_pos (by decide),
        exec_mmioWrite32, cleared]
      rfl
    · rw [if_neg heard] at cleared
      rw [if_neg heard, if_neg heard, if_neg (by decide), if_pos (by decide), exec_mmioWrite32,
        cleared]
      rfl
  | succ left inductionHypothesis =>
    rw [← Nat.add_assoc, busyLoop, if_neg (by decide : ¬(1 : U32) = 0), exec_mmioRead32,
      read_stat_early waiting]
    dsimp only
    rw [if_neg (by decide), if_neg (by decide), if_neg (by decide)]
    exact inductionHypothesis flags rfl

/-! ### One transfer -/

/-- The controller behind a transfer that was waited for -/
def RsbController.transferred (controller : RsbController) : RsbController :=
  { controller.transfer with stat := 0, left := 0 }

/-- The value that `rsb_read` and `rsb_write` return behind a transfer -/
def endValue (addressed : Prop) [Decidable addressed] : U32 :=
  if addressed then 0 else -0x100

theorem transfer_stat (controller : RsbController) :
    controller.transfer.stat = endFlags controller.Addressed := by
  unfold RsbController.transfer endFlags
  split <;> rfl

theorem transfer_left (controller : RsbController) :
    controller.transfer.left = controller.delay := by
  unfold RsbController.transfer
  split <;> rfl

/-- The transfer is started by the start bit, which does not stay. -/
theorem write_start (ctrl : U32) :
    controller.write (ctrl ||| rsbStartTrans) .ctrl =
      { controller with ctrl := (ctrl ||| rsbStartTrans) &&& ~~~rsbStartTrans }.transfer := by
  refine if_pos fun clear => ?_
  have bit := congrArg (fun word : U32 => word.getLsbD 7) clear
  simp [rsbStartTrans] at bit

theorem exec_startTransfer (enough : controller.delay + 2 ≤ polls) :
    ∃ ctrl, exec serveRsb (startTransfer polls) controller =
      (some (endValue controller.Addressed), { controller with ctrl := ctrl }.transferred) := by
  obtain ⟨more, rfl⟩ := Nat.exists_eq_add_of_le' enough
  refine ⟨(controller.ctrl ||| rsbStartTrans) &&& ~~~rsbStartTrans, ?_⟩
  have waited := exec_busyLoop controller.Addressed more controller.delay
    (transfer_stat { controller with
      ctrl := (controller.ctrl ||| rsbStartTrans) &&& ~~~rsbStartTrans }) (transfer_left _)
  rw [startTransfer, exec_mmioRead32]
  dsimp only [RsbController.read]
  rw [exec_mmioWrite32, write_start, ← Nat.add_assoc, exec_bind, waited]
  unfold endInfo endValue
  by_cases heard : controller.Addressed
  · rw [if_pos heard, if_pos heard]
    rfl
  · rw [if_neg heard, if_neg heard]
    rfl

/-! ### Reads and writes -/

theorem rejected_or_taken (len : U32) :
    (len > 4 ∨ len = 0 ∨ len = 3) ∨ len = 1 ∨ len = 2 ∨ len = 4 := by
  rw [gt_iff_lt, BitVec.lt_def]
  simp only [BitVec.toNat_eq]
  have four : (4 : U32).toNat = 4 := rfl
  have three : (3 : U32).toNat = 3 := rfl
  have two : (2 : U32).toNat = 2 := rfl
  have one : (1 : U32).toNat = 1 := rfl
  have zero : (0 : U32).toNat = 0 := rfl
  omega

theorem rsbCommand_cmdRead {len : U32} (taken : len = 1 ∨ len = 2 ∨ len = 4) :
    rsbCommand (rsbCmdRead len) = some (.read len.toNat) := by
  rcases taken with rfl | rfl | rfl <;> decide

theorem rsbCommand_cmdWrite {len : U32} (taken : len = 1 ∨ len = 2 ∨ len = 4) :
    rsbCommand (rsbCmdWrite len) = some (.write len.toNat) := by
  rcases taken with rfl | rfl | rfl <;> decide

theorem eight_mul_len {len : U32} (taken : len = 1 ∨ len = 2 ∨ len = 4) :
    8 * len.toNat ≤ 32 := by
  rcases taken with rfl | rfl | rfl <;> decide

theorem byte_shifted (byte : U8) :
    (((byte.setWidth 32 : U32) <<< rsbRtsaddrShift) >>> rsbRtsaddrShift).setWidth 8 = byte := by
  revert byte
  decide +kernel

theorem gathered (octet : Nat → U8) (count : Nat) :
    (List.range count).foldl (fun dat i => dat ||| (octet i).setWidth 32 <<< (i * 8)) (0 : U32) =
      lanes octet 0 32 count := by
  unfold lanes
  rw [List.range_eq_range']
  simp only [Nat.sub_zero, Nat.mul_comm]

variable (address register : U8) {data : Ulong} {len : U32} {memory : Memory U8}

/-- The controller when a transfer was asked for -/
def RsbController.asked (controller : RsbController) (address register : U8)
    (data0 cmd ctrl : U32) : RsbController :=
  { controller with
    saddr := address.setWidth 32 <<< rsbRtsaddrShift
    daddr0 := register.setWidth 32
    data0 := data0
    cmd := cmd
    ctrl := ctrl }

theorem RsbController.addressed_asked_iff (controller : RsbController) (data0 cmd ctrl : U32) :
    (controller.asked address register data0 cmd ctrl).Addressed ↔
      address = controller.rtsaddr := by
  show (((address.setWidth 32 : U32) <<< rsbRtsaddrShift) >>> rsbRtsaddrShift).setWidth 8 =
    controller.rtsaddr ↔ _
  rw [byte_shifted]

theorem transferred_of_addressed (heard : controller.Addressed) :
    controller.transferred =
      { controller.perform (rsbCommand controller.cmd) with stat := 0, left := 0 } := by
  unfold RsbController.transferred RsbController.transfer
  rw [if_pos heard]

theorem transferred_of_not_addressed (other : ¬controller.Addressed) :
    controller.transferred = { controller with stat := 0, left := 0 } := by
  unfold RsbController.transferred RsbController.transfer
  rw [if_neg other]

theorem exec_startTransfer_asked (enough : controller.delay + 2 ≤ polls) (data0 cmd ctrl : U32) :
    ∃ set, exec serveRsb (startTransfer polls)
        (controller.asked address register data0 cmd ctrl) =
      (some (endValue (address = controller.rtsaddr)),
        (controller.asked address register data0 cmd set).transferred) := by
  obtain ⟨set, started⟩ := exec_startTransfer
    (show (controller.asked address register data0 cmd ctrl).delay + 2 ≤ polls from enough)
  have value : endValue (controller.asked address register data0 cmd ctrl).Addressed =
      endValue (address = controller.rtsaddr) :=
    if_congr (controller.addressed_asked_iff address register data0 cmd ctrl) rfl rfl
  rw [value] at started
  exact ⟨set, started⟩

theorem exec_startTransfer_read (enough : controller.delay + 2 ≤ polls)
    (taken : len = 1 ∨ len = 2 ∨ len = 4) (data0 ctrl : U32) :
    ∃ after : RsbController, after.pmu = controller.pmu ∧
      (address = controller.rtsaddr → after.data0 =
        lanes (fun place => controller.pmu (following register place)) 0 32 len.toNat) ∧
      exec serveRsb (startTransfer polls)
          (controller.asked address register data0 (rsbCmdRead len) ctrl) =
        (some (endValue (address = controller.rtsaddr)), after) := by
  obtain ⟨set, started⟩ :=
    exec_startTransfer_asked address register enough data0 (rsbCmdRead len) ctrl
  have command := rsbCommand_cmdRead taken
  have heard := controller.addressed_asked_iff address register data0 (rsbCmdRead len) set
  refine ⟨_, ?_, fun addressed => ?_, started⟩
  · by_cases here : address = controller.rtsaddr
    · rw [transferred_of_addressed (heard.mpr here)]
      show (RsbController.perform _ (rsbCommand (rsbCmdRead len))).pmu = _
      rw [command]
      rfl
    · rw [transferred_of_not_addressed fun there => here (heard.mp there)]
      rfl
  · rw [transferred_of_addressed (heard.mpr addressed)]
    show (RsbController.perform _ (rsbCommand (rsbCmdRead len))).data0 = _
    rw [command]
    show lanes (fun place => controller.pmu (following ((register.setWidth 32).setWidth 8) place))
      0 32 len.toNat = _
    rw [byte_back]

theorem exec_startTransfer_write (enough : controller.delay + 2 ≤ polls)
    (taken : len = 1 ∨ len = 2 ∨ len = 4) (octet : Nat → U8) (ctrl : U32) :
    ∃ after : RsbController,
      (after.pmu = if address = controller.rtsaddr then
          setEach (following register) octet len.toNat controller.pmu
        else controller.pmu) ∧
      exec serveRsb (startTransfer polls)
          (controller.asked address register (lanes octet 0 32 len.toNat) (rsbCmdWrite len) ctrl) =
        (some (endValue (address = controller.rtsaddr)), after) := by
  obtain ⟨set, started⟩ := exec_startTransfer_asked address register enough
    (lanes octet 0 32 len.toNat) (rsbCmdWrite len) ctrl
  have command := rsbCommand_cmdWrite taken
  have heard := controller.addressed_asked_iff address register (lanes octet 0 32 len.toNat)
    (rsbCmdWrite len) set
  refine ⟨_, ?_, started⟩
  by_cases here : address = controller.rtsaddr
  · rw [transferred_of_addressed (heard.mpr here), if_pos here]
    show (RsbController.perform _ (rsbCommand (rsbCmdWrite len))).pmu = _
    rw [command]
    show setEach (following ((register.setWidth 32).setWidth 8))
      (fun place => (lanes octet 0 32 len.toNat >>> (8 * place)).setWidth 8) len.toNat
      controller.pmu = _
    rw [byte_back]
    refine setEach_congr (fun place inside => ?_) controller.pmu
    rw [lane_lanes octet 0 inside (eight_mul_len taken), Nat.zero_add]
  · rw [transferred_of_not_addressed fun there => here (heard.mp there), if_neg here]
    rfl

/-- What a read through the controller returns: the bytes that follow each other in the chip are
those that follow each other in memory. -/
theorem exec_rsbRead (idle : controller.Idle) (enough : controller.delay + 2 ≤ polls)
    (pointer : data ≠ 0) (taken : len = 1 ∨ len = 2 ∨ len = 4) :
    ∃ after : RsbController, after.pmu = controller.pmu ∧
      exec serveRsb
          (rsbRead polls (address.setWidth 32) (register.setWidth 32) data len memory) controller =
        (some (if address = controller.rtsaddr then
            (0, setEach (dataAt data) (fun place => controller.pmu (following register place))
              len.toNat memory)
          else (-0x100, memory)), after) := by
  have valid : ¬(len > 4 ∨ len = 0 ∨ len = 3) := by
    rcases taken with rfl | rfl | rfl <;> decide
  obtain ⟨after, kept, fetched, started⟩ := exec_startTransfer_read address register enough
    taken controller.data0 controller.ctrl
  refine ⟨after, kept, ?_⟩
  rw [rsbRead, if_neg valid, if_neg pointer, exec_bind,
    exec_statusLoop idle (Nat.lt_of_lt_of_le (Nat.succ_pos _) enough)]
  simp only [exec_mmioWrite32, RsbController.write]
  unfold RsbController.asked at started
  rw [exec_bind, started]
  unfold endValue
  by_cases addressed : address = controller.rtsaddr
  · rw [if_pos addressed, if_pos addressed]
    dsimp only
    rw [if_neg (by decide), exec_mmioRead32]
    show (some (0, setEach (dataAt data) (fun i => ((after.data0 >>> (i * 8)) &&& 0xff).setWidth 8)
      len.toNat memory), after) = _
    rw [fetched addressed]
    refine congrArg (fun memory => (some (0, memory), after))
      (setEach_congr (fun i inside => ?_) memory)
    rw [low_octet, Nat.mul_comm, lane_lanes _ 0 inside (eight_mul_len taken), Nat.zero_add]
  · rw [if_neg addressed, if_neg addressed]
    dsimp only
    rw [if_pos (by decide)]
    rfl

/-- What a write through the controller returns, and the registers of the chip behind it -/
theorem exec_rsbWrite (idle : controller.Idle) (enough : controller.delay + 2 ≤ polls)
    (pointer : data ≠ 0) (taken : len = 1 ∨ len = 2 ∨ len = 4) :
    ∃ after : RsbController,
      (after.pmu = if address = controller.rtsaddr then
          setEach (following register) (fun place => memory (dataAt data place)) len.toNat
            controller.pmu
        else controller.pmu) ∧
      exec serveRsb
          (rsbWrite polls (address.setWidth 32) (register.setWidth 32) data len memory) controller =
        (some (endValue (address = controller.rtsaddr)), after) := by
  have valid : ¬(len > 4 ∨ len = 0 ∨ len = 3) := by
    rcases taken with rfl | rfl | rfl <;> decide
  obtain ⟨after, put, started⟩ := exec_startTransfer_write address register enough
    taken (fun place => memory (dataAt data place)) controller.ctrl
  refine ⟨after, put, ?_⟩
  rw [rsbWrite, if_neg valid, if_neg pointer, exec_bind,
    exec_statusLoop idle (Nat.lt_of_lt_of_le (Nat.succ_pos _) enough)]
  simp only [exec_mmioWrite32, RsbController.write, gathered fun i => memory (dataAt data i)]
  exact started

/-- A length that the controller does not take, or no buffer, is rejected without a transfer. -/
theorem exec_rejected (rejected : (len > 4 ∨ len = 0 ∨ len = 3) ∨ data = 0)
    (rtsaddr daddr : U32) :
    exec serveRsb (rsbRead polls rtsaddr daddr data len memory) controller =
        (some (-1, memory), controller) ∧
      exec serveRsb (rsbWrite polls rtsaddr daddr data len memory) controller =
        (some (-1), controller) := by
  unfold rsbRead rsbWrite
  by_cases length : len > 4 ∨ len = 0 ∨ len = 3
  · rw [if_pos length, if_pos length]
    exact ⟨rfl, rfl⟩
  · have null := rejected.resolve_left length
    rw [if_neg length, if_neg length, if_pos null, if_pos null]
    exact ⟨rfl, rfl⟩

/-! ### Block transfers -/

theorem following_zero (register : U8) : following register 0 = register :=
  BitVec.add_zero register

theorem dataAt_zero (data : Ulong) : dataAt data 0 = data.toNat :=
  congrArg BitVec.toNat (BitVec.add_zero data)

/-- What the secure monitor is asked changes the registers of the chip only. -/
theorem exec_monitored {Result : Type} (program : Pmu Result) :
    exec serveRsb (monitored program) controller =
      ((exec servePmu program controller.pmu).1,
        { controller with pmu := (exec servePmu program controller.pmu).2 }) :=
  exec_sending (fun pmu => { controller with pmu := pmu }) (fun _ _ => ⟨rfl, rfl⟩) program
    controller.pmu

/-- The chip's register, through the secure monitor -/
theorem exec_readSecureOS (register : U8) (byte : U8) (pmu : Registers) :
    exec servePmu (sunxiRsbReadSecureOS (register.setWidth 32) byte) pmu =
      ((0, pmu register), pmu) := by
  unfold sunxiRsbReadSecureOS armSvcAriscReadPmu
  rw [exec_bind, exec_send]
  simp only [servePmu, byte_back, byte_not_negative, byte_low]
  rfl

theorem exec_writeSecureOS (register : U8) (byte : U8) (pmu : Registers) :
    exec servePmu (sunxiRsbWriteSecureOS (register.setWidth 32) byte) pmu =
      (0, Function.update pmu register byte) := by
  unfold sunxiRsbWriteSecureOS armSvcAriscWritePmu
  rw [exec_send]
  simp only [servePmu, byte_back]

variable {gSecureAccess : U32} (buffer length : Ulong)

theorem smbusBlockRead_secure (secure : gSecureAccess ≠ 0) :
    exec serveRsb (smbusBlockRead gSecureAccess polls buffer length memory) controller =
      (some (efiSuccess, Function.update memory (dataAt (buffer + 2) 0)
        (controller.pmu (memory (dataAt buffer 1)))), controller) := by
  unfold smbusBlockRead sunxiRsbRead
  rw [if_pos secure, exec_bind, exec_monitored, exec_readSecureOS, dataAt_zero]
  rfl

theorem smbusBlockWrite_secure (secure : gSecureAccess ≠ 0) :
    ∃ after : RsbController,
      after.pmu = Function.update controller.pmu (memory (dataAt buffer 1))
        (memory (dataAt (buffer + 2) 0)) ∧
      exec serveRsb (smbusBlockWrite gSecureAccess polls buffer length memory) controller =
        (some (efiSuccess, memory), after) := by
  refine ⟨{ controller with
    pmu := Function.update controller.pmu (memory (dataAt buffer 1))
      (memory (dataAt (buffer + 2) 0)) }, rfl, ?_⟩
  unfold smbusBlockWrite sunxiRsbWrite
  rw [if_pos secure, exec_bind, exec_bind, exec_monitored, exec_writeSecureOS,
    dataAt_zero (buffer + 2)]
  rfl

theorem smbusBlockRead_direct (idle : controller.Idle) (enough : controller.delay + 2 ≤ polls)
    (pointer : buffer + 2 ≠ 0)
    (taken : (length - 2).setWidth 32 = (1 : U32) ∨ (length - 2).setWidth 32 = (2 : U32) ∨
      (length - 2).setWidth 32 = (4 : U32)) :
    ∃ after : RsbController, after.pmu = controller.pmu ∧
      exec serveRsb (smbusBlockRead 0 polls buffer length memory) controller =
        (some (if memory (dataAt buffer 0) = controller.rtsaddr then
            (efiSuccess, setEach (dataAt (buffer + 2))
              (fun place => controller.pmu (following (memory (dataAt buffer 1)) place))
              ((length - 2).setWidth 32 : U32).toNat memory)
          else (efiDeviceError, memory)), after) := by
  obtain ⟨after, kept, ran⟩ := exec_rsbRead (memory (dataAt buffer 0)) (memory (dataAt buffer 1))
    idle enough pointer taken
  refine ⟨after, kept, ?_⟩
  unfold smbusBlockRead sunxiRsbRead
  rw [if_neg (by decide), exec_bind, ran]
  by_cases addressed : memory (dataAt buffer 0) = controller.rtsaddr
  · rw [if_pos addressed, if_pos addressed]
    rfl
  · rw [if_neg addressed, if_neg addressed]
    rfl

theorem smbusBlockWrite_direct (idle : controller.Idle) (enough : controller.delay + 2 ≤ polls)
    (pointer : buffer + 2 ≠ 0)
    (taken : (length - 2).setWidth 32 = (1 : U32) ∨ (length - 2).setWidth 32 = (2 : U32) ∨
      (length - 2).setWidth 32 = (4 : U32)) :
    ∃ after : RsbController,
      (after.pmu = if memory (dataAt buffer 0) = controller.rtsaddr then
          setEach (following (memory (dataAt buffer 1)))
            (fun place => memory (dataAt (buffer + 2) place))
            ((length - 2).setWidth 32 : U32).toNat controller.pmu
        else controller.pmu) ∧
      exec serveRsb (smbusBlockWrite 0 polls buffer length memory) controller =
        (some (if memory (dataAt buffer 0) = controller.rtsaddr then efiSuccess
          else efiDeviceError, memory), after) := by
  obtain ⟨after, put, ran⟩ := exec_rsbWrite (memory (dataAt buffer 0)) (memory (dataAt buffer 1))
    idle enough pointer taken
  refine ⟨after, put, ?_⟩
  unfold smbusBlockWrite sunxiRsbWrite endValue at *
  rw [if_neg (by decide), exec_bind, exec_bind, ran]
  by_cases addressed : memory (dataAt buffer 0) = controller.rtsaddr
  · rw [if_pos addressed, if_pos addressed]
    rfl
  · rw [if_neg addressed, if_neg addressed]
    rfl

theorem smbusBlocks_rejected
    (rejected : ((length - 2).setWidth 32 > (4 : U32) ∨ (length - 2).setWidth 32 = (0 : U32) ∨
      (length - 2).setWidth 32 = (3 : U32)) ∨ buffer + 2 = 0) :
    exec serveRsb (smbusBlockRead 0 polls buffer length memory) controller =
        (some (efiDeviceError, memory), controller) ∧
      exec serveRsb (smbusBlockWrite 0 polls buffer length memory) controller =
        (some (efiDeviceError, memory), controller) := by
  unfold smbusBlockRead sunxiRsbRead smbusBlockWrite sunxiRsbWrite
  obtain ⟨read, written⟩ := exec_rejected rejected ((memory (dataAt buffer 0)).setWidth 32)
    ((memory (dataAt buffer 1)).setWidth 32)
  rw [if_neg (by decide), if_neg (by decide), exec_bind, exec_bind,
    exec_bind, read, written]
  exact ⟨rfl, rfl⟩

end Controller

/-! ### The outcomes -/

/-- So many registers are moved. -/
def SmbusCall.moved (call : SmbusCall) (memory : Memory U8) (pmu : Registers) (count : Nat) :
    Outcome :=
  let register := memory (dataAt call.buffer 1)
  match call.operation with
  | .efiSmbusReadBlock =>
    ⟨false, setEach (dataAt (call.buffer + 2)) (fun place => pmu (following register place)) count
      memory, pmu⟩
  | .efiSmbusWriteBlock =>
    ⟨false, memory, setEach (following register)
      (fun place => memory (dataAt (call.buffer + 2) place)) count pmu⟩
  | .other => ⟨true, memory, pmu⟩

section Outcomes

variable {call : SmbusCall} {memory : Memory U8} {controller : RsbController} {polls : Nat}
  {gSecureAccess : U32}

theorem efiError_success : efiError efiSuccess = false := by decide

theorem efiError_deviceError : efiError efiDeviceError = true := by decide

theorem efiError_unsupported : efiError efiUnsupported = true := by decide

theorem outcome_of_exec {status : Ulong} {failed : Bool} {left : Memory U8} {pmu : Registers}
    {after : RsbController} (kind : efiError status = failed) (behind : after.pmu = pmu)
    (ran : exec serveRsb (smbusExecute gSecureAccess polls call.operation call.pecCheck
      call.length call.buffer memory) controller = (some (status, left), after)) :
    call.outcome gSecureAccess polls memory controller = some ⟨failed, left, pmu⟩ := by
  unfold SmbusCall.outcome
  rw [ran, ← kind, ← behind]
  rfl

/-- A call that is neither a block read nor a block write -/
theorem outcome_unsupported (other : call.pecCheck = true ∨ call.operation = .other) :
    call.outcome gSecureAccess polls memory controller =
      some ⟨true, memory, controller.pmu⟩ := by
  refine outcome_of_exec efiError_unsupported rfl ?_
  unfold smbusExecute
  by_cases checked : call.pecCheck
  · rw [if_pos checked]
    rfl
  · rw [if_neg checked, other.resolve_left checked]
    rfl

theorem outcome_secure (secure : gSecureAccess ≠ 0) (plain : call.pecCheck = false) :
    call.outcome gSecureAccess polls memory controller =
      some (call.moved memory controller.pmu 1) := by
  unfold SmbusCall.moved
  cases asked : call.operation with
  | efiSmbusReadBlock =>
    dsimp only
    rw [setEach_one, following_zero]
    refine outcome_of_exec efiError_success rfl ?_
    rw [asked, plain]
    exact smbusBlockRead_secure call.buffer call.length secure
  | efiSmbusWriteBlock =>
    dsimp only
    obtain ⟨after, put, ran⟩ := smbusBlockWrite_secure call.buffer call.length secure
    rw [setEach_one, following_zero]
    refine outcome_of_exec efiError_success put ?_
    rw [asked, plain]
    exact ran
  | other => exact outcome_unsupported (.inr asked)

theorem outcome_taken (idle : controller.Idle) (enough : controller.delay + 2 ≤ polls)
    (plain : call.pecCheck = false) (taken : call.Taken memory controller) :
    call.outcome 0 polls memory controller =
      some (call.moved memory controller.pmu call.len.toNat) := by
  unfold SmbusCall.moved
  cases asked : call.operation with
  | efiSmbusReadBlock =>
    obtain ⟨after, kept, ran⟩ := smbusBlockRead_direct call.buffer call.length idle enough
      taken.data taken.length
    rw [if_pos taken.addressed] at ran
    refine outcome_of_exec efiError_success kept ?_
    rw [asked, plain]
    exact ran
  | efiSmbusWriteBlock =>
    obtain ⟨after, put, ran⟩ := smbusBlockWrite_direct call.buffer call.length idle enough
      taken.data taken.length
    rw [if_pos taken.addressed] at ran put
    refine outcome_of_exec efiError_success put ?_
    rw [asked, plain]
    exact ran
  | other => exact outcome_unsupported (.inr asked)

/-- A transfer that is not taken fails and moves nothing. -/
theorem outcome_not_taken (idle : controller.Idle) (enough : controller.delay + 2 ≤ polls)
    (plain : call.pecCheck = false) (other : ¬call.Taken memory controller) :
    call.outcome 0 polls memory controller = some ⟨true, memory, controller.pmu⟩ := by
  by_cases sent : call.buffer + 2 ≠ 0 ∧ (call.len = 1 ∨ call.len = 2 ∨ call.len = 4)
  · have unheard : memory (dataAt call.buffer 0) ≠ controller.rtsaddr := fun addressed =>
      other ⟨addressed, sent.1, sent.2⟩
    cases asked : call.operation with
    | efiSmbusReadBlock =>
      obtain ⟨after, kept, ran⟩ := smbusBlockRead_direct call.buffer call.length idle enough
        sent.1 sent.2
      rw [if_neg unheard] at ran
      refine outcome_of_exec efiError_deviceError kept ?_
      rw [asked, plain]
      exact ran
    | efiSmbusWriteBlock =>
      obtain ⟨after, put, ran⟩ := smbusBlockWrite_direct call.buffer call.length idle enough
        sent.1 sent.2
      rw [if_neg unheard] at ran put
      refine outcome_of_exec efiError_deviceError put ?_
      rw [asked, plain]
      exact ran
    | other => exact outcome_unsupported (.inr asked)
  · have rejected : (call.len > 4 ∨ call.len = 0 ∨ call.len = 3) ∨ call.buffer + 2 = 0 := by
      rcases rejected_or_taken call.len with length | length
      · exact .inl length
      · exact .inr (not_not.mp fun data => sent ⟨data, length⟩)
    obtain ⟨read, written⟩ := smbusBlocks_rejected call.buffer call.length rejected
    cases asked : call.operation with
    | efiSmbusReadBlock =>
      refine outcome_of_exec efiError_deviceError rfl ?_
      rw [asked, plain]
      exact read
    | efiSmbusWriteBlock =>
      refine outcome_of_exec efiError_deviceError rfl ?_
      rw [asked, plain]
      exact written
    | other => exact outcome_unsupported (.inr asked)

/-- Through the secure monitor, a call is one on the three bytes that hold the address, the register
and one byte of data, whatever its length. -/
theorem outcome_three_bytes (secure : gSecureAccess ≠ 0) :
    call.outcome gSecureAccess polls memory controller =
      let ran := exec servePmu
        (PinePhonePkg.smbusExecute call.operation call.pecCheck
          ⟨memory (dataAt call.buffer 0), memory (dataAt call.buffer 1),
            memory (dataAt (call.buffer + 2) 0)⟩) controller.pmu
      some ⟨efiError ran.1.1, Function.update memory (dataAt (call.buffer + 2) 0) ran.1.2.data,
        ran.2⟩ := by
  unfold PinePhonePkg.smbusExecute
  cases checked : call.pecCheck with
  | true =>
    rw [outcome_unsupported (.inl checked), if_pos rfl, exec_pure]
    dsimp only
    rw [Function.update_eq_self, efiError_unsupported]
  | false =>
    rw [if_neg Bool.false_ne_true]
    cases asked : call.operation with
    | efiSmbusReadBlock =>
      rw [outcome_secure secure checked, SmbusCall.moved, asked]
      dsimp only
      unfold PinePhonePkg.smbusBlockRead PinePhonePkg.sunxiRsbRead
      rw [exec_bind, exec_bind, exec_readSecureOS, setEach_one, following_zero]
      exact congrArg (fun failed => some (Outcome.mk failed _ _)) efiError_success.symm
    | efiSmbusWriteBlock =>
      rw [outcome_secure secure checked, SmbusCall.moved, asked]
      dsimp only
      unfold PinePhonePkg.smbusBlockWrite PinePhonePkg.sunxiRsbWrite
      rw [exec_bind, exec_bind, exec_writeSecureOS, setEach_one, following_zero]
      dsimp only [exec_pure]
      rw [Function.update_eq_self]
      exact congrArg (fun failed => some (Outcome.mk failed _ _)) efiError_success.symm
    | other =>
      rw [outcome_unsupported (.inr asked)]
      dsimp only
      rw [exec_pure]
      dsimp only
      rw [Function.update_eq_self, efiError_unsupported]

/-! ### When the paths agree -/

theorem dataAt_apart {len : U32} (taken : len = 1 ∨ len = 2 ∨ len = 4) (data : Ulong) :
    ∀ first < len.toNat, ∀ second < len.toNat, dataAt data first = dataAt data second →
      first = second := by
  have short := eight_mul_len taken
  intro first firstLt second secondLt same
  unfold dataAt at same
  rw [BitVec.toNat_add, BitVec.toNat_add, BitVec.toNat_ofNat, BitVec.toNat_ofNat] at same
  omega

theorem following_apart {len : U32} (taken : len = 1 ∨ len = 2 ∨ len = 4) (register : U8) :
    ∀ first < len.toNat, ∀ second < len.toNat,
      following register first = following register second → first = second := by
  have short := eight_mul_len taken
  intro first firstLt second secondLt same
  have same' := congrArg BitVec.toNat same
  unfold following at same'
  rw [BitVec.toNat_add, BitVec.toNat_add, BitVec.toNat_ofNat, BitVec.toNat_ofNat] at same'
  omega

theorem len_pos {len : U32} (taken : len = 1 ∨ len = 2 ∨ len = 4) : 0 < len.toNat := by
  rcases taken with rfl | rfl | rfl <;> decide

/-- One register is moved as the controller moves them all exactly if the rest is in place. -/
theorem moved_one_eq_iff (supported : call.operation ≠ .other)
    (taken : call.len = 1 ∨ call.len = 2 ∨ call.len = 4) :
    call.moved memory controller.pmu 1 = call.moved memory controller.pmu call.len.toNat ↔
      call.RestInPlace memory controller := by
  unfold SmbusCall.moved SmbusCall.RestInPlace
  cases asked : call.operation with
  | efiSmbusReadBlock =>
    dsimp only
    rw [Outcome.mk.injEq, and_iff_right rfl, and_iff_left rfl,
      setEach_one_eq_iff (len_pos taken) memory (dataAt_apart taken _)]
  | efiSmbusWriteBlock =>
    dsimp only
    rw [Outcome.mk.injEq, and_iff_right rfl, and_iff_right rfl,
      setEach_one_eq_iff (len_pos taken) controller.pmu (following_apart taken _)]
    exact forall₃_congr fun place _ _ => eq_comm
  | other => exact absurd asked supported

/-- A transfer through the secure monitor succeeds. -/
theorem moved_ne_failed (supported : call.operation ≠ .other) (count : Nat) :
    call.moved memory controller.pmu count ≠ ⟨true, memory, controller.pmu⟩ := by
  unfold SmbusCall.moved
  intro same
  cases asked : call.operation with
  | efiSmbusReadBlock =>
    rw [asked] at same
    exact Bool.false_ne_true (congrArg Outcome.failed same)
  | efiSmbusWriteBlock =>
    rw [asked] at same
    exact Bool.false_ne_true (congrArg Outcome.failed same)
  | other => exact supported asked

end Outcomes

/-- The two paths agree exactly if the call is not supported, or the controller takes the transfer
and what it moves beyond the first register is in its place already. -/
theorem pathsAgree_iff (call : SmbusCall) (memory : Memory U8) {controller : RsbController}
    (idle : controller.Idle) :
    call.PathsAgree memory controller ↔
      (call.pecCheck = true ∨ call.operation = .other) ∨
        call.Taken memory controller ∧ call.RestInPlace memory controller := by
  by_cases other : call.pecCheck = true ∨ call.operation = .other
  · refine iff_of_true (fun gSecureAccess polls _ _ => ?_) (.inl other)
    exact ⟨_, outcome_unsupported other, outcome_unsupported other⟩
  · have plain : call.pecCheck = false := by
      rw [← Bool.not_eq_true]
      exact fun checked => other (.inl checked)
    have supported : call.operation ≠ .other := fun asked => other (.inr asked)
    rw [or_iff_right other]
    constructor
    · intro agree
      obtain ⟨outcome, secure, direct⟩ := agree 1 _ (by decide) (Nat.le_refl _)
      rw [outcome_secure (by decide) plain] at secure
      by_cases taken : call.Taken memory controller
      · rw [outcome_taken idle (Nat.le_refl _) plain taken] at direct
        exact ⟨taken, (moved_one_eq_iff supported taken.length).mp
          (Option.some.inj (secure.trans direct.symm))⟩
      · rw [outcome_not_taken idle (Nat.le_refl _) plain taken] at direct
        exact absurd (Option.some.inj (secure.trans direct.symm)) (moved_ne_failed supported 1)
    · rintro ⟨taken, rest⟩ gSecureAccess polls secure enough
      refine ⟨_, outcome_secure secure plain, ?_⟩
      rw [outcome_taken idle enough plain taken,
        (moved_one_eq_iff supported taken.length).mpr rest]

/-! ### Runs -/

/-- An idle controller, and a chip whose registers are all one -/
def sampleController : RsbController where
  ctrl := 0
  stat := 0
  daddr0 := 0
  data0 := 0
  cmd := 0
  saddr := 0
  left := 0
  delay := 5
  rtsaddr := 0x2d
  pmu := fun _ => 1

/-- A buffer for the first register of the chip -/
def sampleMemory : Memory U8 := Function.update (fun _ => 0) 0x1000 0x2d

/-- A read with the length -/
def sampleCall (length : Ulong) : SmbusCall := ⟨.efiSmbusReadBlock, false, length, 0x1000⟩

theorem sampleCall_taken {length : Ulong} (taken : (sampleCall length).len = 1 ∨
    (sampleCall length).len = 2 ∨ (sampleCall length).len = 4) :
    (sampleCall length).Taken sampleMemory sampleController where
  addressed := (by decide : sampleMemory (dataAt 0x1000 0) = 0x2d)
  data := (by decide : (0x1000 : Ulong) + 2 ≠ 0)
  length := taken

/-- The call of the drivers -/
theorem pathsAgree_three : (sampleCall 3).PathsAgree sampleMemory sampleController :=
  (pathsAgree_iff (sampleCall 3) sampleMemory ⟨rfl, rfl⟩).mpr
    (.inr ⟨sampleCall_taken (.inl (by decide)), fun place positive inside =>
      absurd inside (Nat.not_lt.mpr positive)⟩)

/-- Of two registers, the secure monitor fetches one. -/
theorem not_pathsAgree_four :
    ¬∀ (call : SmbusCall) (memory : Memory U8) (controller : RsbController), controller.Idle →
      call.PathsAgree memory controller := by
  intro claim
  have taken : (sampleCall 4).Taken sampleMemory sampleController :=
    sampleCall_taken (.inr (.inl (by decide)))
  obtain ⟨outcome, secure, direct⟩ := claim (sampleCall 4) sampleMemory sampleController
    ⟨rfl, rfl⟩ 1 _ (by decide) (Nat.le_refl _)
  rw [outcome_secure (by decide) rfl] at secure
  rw [outcome_taken ⟨rfl, rfl⟩ (Nat.le_refl _) rfl taken] at direct
  have rest := (moved_one_eq_iff (by decide : (sampleCall 4).operation ≠ .other)
    taken.length).mp (Option.some.inj (secure.trans direct.symm))
  exact absurd (rest 1 Nat.one_pos (by decide)) (by decide)

end Rsb

end PinePhonePkg
