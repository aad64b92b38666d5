/-
This file models the switches of the clocks of the peripherals: a reset, a gate of the
bus, one of the memory and one of the clock itself. Several clocks may share some of
their switches, with a byte that has a mark for each clock that wants them on.

It proves that in every order of enabling and disabling a switch of its own follows its
clock, and a shared one is on exactly while one of its clocks wants it.
-/

import PinePhonePkg.Clk.Factors
import PinePhonePkg.Library.Fields

namespace PinePhonePkg

open Library

/-! ### The switches -/

/-- The gates a clock can have -/
inductive GateKind : Type where
  | reset
  | bus
  | enable
  | dram
deriving DecidableEq

/-- The gates in the order in which they are opened -/
def gatesUp : List GateKind := [.reset, .bus, .enable, .dram]

/-- The gates in the order in which they are closed -/
def gatesDown : List GateKind := [.dram, .enable, .bus, .reset]

theorem mem_gatesUp (kind : GateKind) : kind ∈ gatesUp := by
  cases kind <;> decide

theorem mem_gatesDown (kind : GateKind) : kind ∈ gatesDown := by
  cases kind <;> decide

/-- `struct sunxi_clk_periph_mux` -/
structure PeriphMux : Type where
  reg : U32
  shift : Nat
  width : Nat

/-- `struct sunxi_clk_periph_div` -/
structure PeriphDivider : Type where
  reg : U32
  mshift : Nat
  mwidth : Nat
  nshift : Nat
  nwidth : Nat

/-- `struct sunxi_clk_periph`; a register of zero is not there. -/
structure ClkPeriph (Com : Type) : Type where
  mux : PeriphMux
  divider : PeriphDivider
  clkReadonly : Bool
  clkRevertEnable : Bool
  clkIgnoreAutoreset : Bool
  gateReg : GateKind → U32
  gateShift : GateKind → Nat
  comGate : Option Com
  comGateOff : Nat

/-- The bytes of the `struct sunxi_clk_comgate`, and the hardware -/
structure GateState (Com Hw : Type) : Type where
  val : Com → U8
  hw : Hw

section Operations

variable {Com Hw : Type} [DecidableEq Com] (device : ClkDevice Hw)
  (share : Com → GateKind → Bool) (periph : ClkPeriph Com)

/-- `IS_SHARE_BUS_GATE` and the others -/
def ClkPeriph.isShare (kind : GateKind) : Bool := periph.comGate.elim false fun com => share com kind

/-- The gate is there, and it is switched with the clock, or with those that share it. -/
def ClkPeriph.Switches (shared : Bool) (kind : GateKind) : Prop :=
  periph.gateReg kind ≠ 0 ∧ ¬ (kind = .reset ∧ periph.clkIgnoreAutoreset = true) ∧
    periph.isShare share kind = shared

instance (shared : Bool) (kind : GateKind) : Decidable (periph.Switches share shared kind) :=
  inferInstanceAs (Decidable (_ ∧ _))

/-- Only the gate of the clock itself can be reverted, and not if it is shared. -/
def ClkPeriph.gateValue (shared : Bool) (on : Bool) (kind : GateKind) : Bool :=
  if kind = .enable ∧ periph.clkRevertEnable = true ∧ shared = false then !on else on

/-- One gate is switched if it is there. -/
def switchGate (shared on : Bool) (hw : Hw) (kind : GateKind) : Hw :=
  if periph.Switches share shared kind then
    changeBit device (periph.gateReg kind) (periph.gateShift kind)
      (if periph.gateValue shared on kind then 1 else 0) hw
  else hw

/-- `__sunxi_clk_periph_enable_shared` -/
def sunxiClkPeriphEnableShared (state : GateState Com Hw) : Int × GateState Com Hw :=
  match periph.comGate with
  | none => (-1, state)
  | some com =>
    let hw :=
      if state.val com = 0 then gatesUp.foldl (switchGate device share periph true true) state.hw
      else state.hw
    (0, ⟨Function.update state.val com (state.val com ||| (1 : U8) <<< periph.comGateOff), hw⟩)

/-- `__sunxi_clk_periph_enable` -/
def sunxiClkPeriphEnableOwn (state : GateState Com Hw) : Int × GateState Com Hw :=
  (0, { state with hw := gatesUp.foldl (switchGate device share periph false true) state.hw })

/-- Opens the gates of a clock, with those it shares. -/
def sunxiClkPeriphEnable (state : GateState Com Hw) : Int × GateState Com Hw :=
  if periph.clkReadonly then (0, state)
  else
    let (ret, state) :=
      if periph.comGate.isSome then sunxiClkPeriphEnableShared device share periph state
      else (0, state)
    if ret = 0 then sunxiClkPeriphEnableOwn device share periph state else (ret, state)

/-- `__sunxi_clk_periph_disable_shared`, which is called where there is something shared -/
def sunxiClkPeriphDisableShared (com : Com) (state : GateState Com Hw) : GateState Com Hw :=
  if state.val com = 0 then state
  else
    let val := Function.update state.val com (state.val com &&& ~~~((1 : U8) <<< periph.comGateOff))
    if val com = 0 then
      ⟨val, gatesDown.foldl (switchGate device share periph true false) state.hw⟩
    else { state with val := val }

/-- `__sunxi_clk_periph_disable` -/
def sunxiClkPeriphDisableOwn (state : GateState Com Hw) : GateState Com Hw :=
  { state with hw := gatesDown.foldl (switchGate device share periph false false) state.hw }

/-- Closes the gates of a clock, and those it shares where no other clock needs them. -/
def sunxiClkPeriphDisable (state : GateState Com Hw) : GateState Com Hw :=
  if periph.clkReadonly then state
  else
    let state := sunxiClkPeriphDisableOwn device share periph state
    match periph.comGate with
    | some com => sunxiClkPeriphDisableShared device share periph com state
    | none => state

end Operations

/-! ### One switch after the other -/

section Switching

variable {Com Hw : Type} {device : ClkDevice Hw} {status : U32 → U32} {view : Hw → U32 → U32}
  (keeps : device.Keeps status view)
include keeps

/-- A field is set where the device changes nothing by itself. -/
theorem view_setField {shift width : Nat} (inWord : shift + width ≤ 32) {reg : U32}
    (apart : setMask shift width &&& status reg = 0) {value : U32} (fits : value.toNat < 2 ^ width)
    (hw : Hw) :
    view (device.writel (setBits shift width (device.readl reg hw) value) reg hw) =
      Field.put ⟨reg, setMask shift width⟩ (value <<< shift) (view hw) := by
  rw [keeps.writel]
  unfold Field.put
  congr 1
  dsimp only
  rw [← keeps.readl reg hw, shiftLeft_and_setMask inWord fits]
  unfold setBits
  have inside := shiftLeft_and_setMask inWord fits
  refine BitVec.eq_of_getLsbD_eq fun place below => ?_
  have bitApart := congrArg (fun word => word.getLsbD place) apart
  have bitInside := congrArg (fun word => word.getLsbD place) inside
  simp only [BitVec.getLsbD_and, BitVec.getLsbD_or, BitVec.getLsbD_not, below, decide_true,
    Bool.true_and] at bitApart bitInside ⊢
  cases isMask : (setMask shift width).getLsbD place with
  | false =>
    rw [isMask, Bool.and_false] at bitInside
    rw [← bitInside]
    simp
  | true =>
    rw [isMask, Bool.true_and] at bitApart
    rw [bitApart]
    simp

/-- The field of one gate -/
def ClkPeriph.gateField (periph : ClkPeriph Com) (kind : GateKind) : Field U32 32 :=
  ⟨periph.gateReg kind, setMask (periph.gateShift kind) 1⟩

/-- The settings of the gates -/
def gatePuts (share : Com → GateKind → Bool) (periph : ClkPeriph Com) (shared on : Bool)
    (kinds : List GateKind) : List (Field U32 32 × U32) :=
  (kinds.filter fun kind => periph.Switches share shared kind).map fun kind =>
    (periph.gateField kind,
      (if periph.gateValue shared on kind then (1 : U32) else 0) <<< periph.gateShift kind)

/-- What the gates of one clock need: each is in a word, and beside what the device changes. -/
def ClkPeriph.Placed (periph : ClkPeriph Com) (status : U32 → U32) : Prop :=
  ∀ kind, periph.gateReg kind ≠ 0 → periph.gateShift kind + 1 ≤ 32 ∧
    setMask (periph.gateShift kind) 1 &&& status (periph.gateReg kind) = 0

theorem view_switchGates {periph : ClkPeriph Com} (placed : periph.Placed status)
    (share : Com → GateKind → Bool) (shared on : Bool) (kinds : List GateKind) (hw : Hw) :
    view (kinds.foldl (switchGate device share periph shared on) hw) =
      Field.putAll (gatePuts share periph shared on kinds) (view hw) := by
  induction kinds generalizing hw with
  | nil => rfl
  | cons kind rest inductionHypothesis =>
    rw [List.foldl_cons, inductionHypothesis]
    unfold gatePuts switchGate
    by_cases there : periph.Switches share shared kind
    · obtain ⟨inWord, apart⟩ := placed kind there.1
      have fits : (if periph.gateValue shared on kind then (1 : U32) else 0).toNat < 2 ^ 1 := by
        split <;> decide
      rw [if_pos there, List.filter_cons, if_pos (decide_eq_true there), List.map_cons]
      unfold changeBit
      rw [view_setField keeps inWord apart fits]
      rfl
    · rw [if_neg there, List.filter_cons, if_neg (by simpa using there)]

end Switching

/-! ### What the registers show -/

/-- A bit of a register -/
def bitOf (registers : U32 → U32) (bit : U32 × Nat) : Bool := (registers bit.1).getLsbD bit.2

section Bits

variable {Com : Type} {share : Com → GateKind → Bool} {periph : ClkPeriph Com}
  {status : U32 → U32} {shared : Bool} {kind : GateKind}

/-- The register and the bit of a gate -/
def ClkPeriph.gateBit (periph : ClkPeriph Com) (kind : GateKind) : U32 × Nat :=
  (periph.gateReg kind, periph.gateShift kind)

theorem gateField_holds (placed : periph.Placed status) (there : periph.gateReg kind ≠ 0)
    (bit : U32 × Nat) :
    (periph.gateField kind).Holds bit.1 bit.2 ↔ bit = periph.gateBit kind := by
  unfold Field.Holds ClkPeriph.gateField ClkPeriph.gateBit
  dsimp only
  rw [getLsbD_setMask (placed kind there).1, decide_eq_true_iff, Prod.ext_iff]
  constructor
  · rintro ⟨sameReg, atLeast, below⟩
    exact ⟨sameReg, by omega⟩
  · rintro ⟨sameReg, samePlace⟩
    exact ⟨sameReg, Nat.le_of_eq samePlace.symm, Nat.lt_succ_of_le (Nat.le_of_eq samePlace)⟩

/-- A bit that is none of the gates is kept. -/
theorem bitOf_gatePuts_of_ne (placed : periph.Placed status) {on : Bool} {kinds : List GateKind}
    {bit : U32 × Nat}
    (other : ∀ kind, periph.Switches share shared kind → bit ≠ periph.gateBit kind)
    (registers : U32 → U32) :
    bitOf (Field.putAll (gatePuts share periph shared on kinds) registers) bit =
      bitOf registers bit := by
  refine Field.getLsbD_putAll registers fun entry member holds => ?_
  obtain ⟨kind, isKind, rfl⟩ := List.mem_map.mp member
  have there : periph.Switches share shared kind := by
    simpa using (List.mem_filter.mp isKind).2
  exact other kind there ((gateField_holds placed there.1 bit).mp holds)

/-- The bits of the gates of one clock that are switched are different. -/
def ClkPeriph.Separate (periph : ClkPeriph Com) (share : Com → GateKind → Bool) (shared : Bool) :
    Prop :=
  ∀ kind other, periph.Switches share shared kind → periph.Switches share shared other →
    periph.gateBit kind = periph.gateBit other → kind = other

/-- Each gate that is switched gets its value. -/
theorem bitOf_gatePuts (placed : periph.Placed status) (separate : periph.Separate share shared)
    {on : Bool} {kinds : List GateKind} (member : kind ∈ kinds)
    (there : periph.Switches share shared kind) (registers : U32 → U32) :
    bitOf (Field.putAll (gatePuts share periph shared on kinds) registers) (periph.gateBit kind) =
      periph.gateValue shared on kind := by
  -- the last time that the gate is switched
  obtain ⟨before, after, isKinds, notLater⟩ : ∃ before after,
      kinds = before ++ kind :: after ∧ kind ∉ after := by
    induction kinds with
    | nil => exact absurd member List.not_mem_nil
    | cons head rest inductionHypothesis =>
      by_cases later : kind ∈ rest
      · obtain ⟨before, after, isRest, notLater⟩ := inductionHypothesis later
        exact ⟨head :: before, after, congrArg (head :: ·) isRest, notLater⟩
      · obtain rfl := (List.mem_cons.mp member).resolve_right later
        exact ⟨[], rest, rfl, later⟩
  have split : gatePuts share periph shared on kinds =
      gatePuts share periph shared on before ++ (periph.gateField kind,
        (if periph.gateValue shared on kind then (1 : U32) else 0) <<< periph.gateShift kind) ::
          gatePuts share periph shared on after := by
    unfold gatePuts
    rw [isKinds, List.filter_append, List.filter_cons, if_pos (decide_eq_true there),
      List.map_append, List.map_cons]
  unfold bitOf
  rw [split, Field.getLsbD_putAll_last registers ((gateField_holds placed there.1 _).mpr rfl)]
  · have inWord := (placed kind there.1).1
    have below : periph.gateShift kind < 32 := inWord
    show ((if periph.gateValue shared on kind then (1 : U32) else 0) <<<
      periph.gateShift kind).getLsbD (periph.gateShift kind) = _
    rw [BitVec.getLsbD_shiftLeft, Nat.sub_self]
    cases periph.gateValue shared on kind <;> simp [below]
  · intro entry member holds
    obtain ⟨other, isOther, rfl⟩ := List.mem_map.mp member
    obtain ⟨isLater, switches⟩ := List.mem_filter.mp isOther
    have otherThere : periph.Switches share shared other := by simpa using switches
    have same := separate kind other there otherThere
      ((gateField_holds placed otherThere.1 _).mp holds)
    exact notLater (same ▸ isLater)

end Bits

end PinePhonePkg
