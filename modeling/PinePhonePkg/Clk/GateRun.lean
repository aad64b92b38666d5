/-
This file follows the switches of the peripheral clocks over whole sessions, in which
any clock is enabled and disabled at any time.

It proves that a session leaves each switch as if the clocks had been noted down: a
switch of its own as its clock was last asked for, and a shared one on exactly if one
of its clocks was.
-/

import PinePhonePkg.Clk.PeriphRate
import PinePhonePkg.Clk.Sun50i
import PinePhonePkg.Library.Sessions

namespace PinePhonePkg

open Library

/-- A clock is switched on or off. -/
inductive GateCall (Periph : Type) : Type where
  | enable (periph : Periph)
  | disable (periph : Periph)

section Sessions

variable {Periph Com Hw : Type} [DecidableEq Periph] [DecidableEq Com] (device : ClkDevice Hw)
  (share : Com → GateKind → Bool) (periphs : Periph → ClkPeriph Com)

/-- What a call does -/
def gateStep (state : GateState Com Hw) : GateCall Periph → Int × GateState Com Hw
  | .enable periph => sunxiClkPeriphEnable device share (periphs periph) state
  | .disable periph => (0, sunxiClkPeriphDisable device share (periphs periph) state)

/-- Which clocks are asked for. One that is read-only is not. -/
def wantStep (wanted : Periph → Bool) : GateCall Periph → Int × (Periph → Bool)
  | .enable periph =>
    (0, if (periphs periph).clkReadonly then wanted else Function.update wanted periph true)
  | .disable periph =>
    (0, if (periphs periph).clkReadonly then wanted else Function.update wanted periph false)

/-- The gate is switched with this clock, or with those that share it. -/
def Switched (periph : Periph) (shared : Bool) (kind : GateKind) : Prop :=
  (periphs periph).clkReadonly = false ∧ (periphs periph).Switches share shared kind

/-- The clock has a mark in the byte. -/
def IsUser (periph : Periph) (com : Com) : Prop :=
  (periphs periph).clkReadonly = false ∧ (periphs periph).comGate = some com

/-- Different gates have different bits. Clocks that share gates know the same ones, and they have
different marks in the byte. -/
structure GateLayout (status : U32 → U32) : Prop where
  placed : ∀ periph, (periphs periph).Placed status
  own : ∀ periph other kind kind', Switched share periphs periph false kind →
    Switched share periphs other false kind' →
    (periphs periph).gateBit kind = (periphs other).gateBit kind' → periph = other ∧ kind = kind'
  shared : ∀ periph other kind kind', Switched share periphs periph true kind →
    Switched share periphs other true kind' →
    (periphs periph).gateBit kind = (periphs other).gateBit kind' →
    (periphs periph).comGate = (periphs other).comGate ∧ kind = kind'
  apart : ∀ periph other kind kind', Switched share periphs periph false kind →
    Switched share periphs other true kind' →
    (periphs periph).gateBit kind ≠ (periphs other).gateBit kind'
  agree : ∀ com periph other kind, IsUser periphs periph com → IsUser periphs other com →
    Switched share periphs periph true kind →
    Switched share periphs other true kind ∧
      (periphs other).gateBit kind = (periphs periph).gateBit kind
  marks : ∀ com periph other, IsUser periphs periph com → IsUser periphs other com →
    (periphs periph).comGateOff = (periphs other).comGateOff → periph = other
  inByte : ∀ com periph, IsUser periphs periph com → (periphs periph).comGateOff < 8

variable {device share periphs} {status : U32 → U32} {view : Hw → U32 → U32}

/-- The bytes have a mark for each clock that is asked for. -/
def MarksShow (periphs : Periph → ClkPeriph Com) (val : Com → U8) (wanted : Periph → Bool) : Prop :=
  ∀ com place, (val com).getLsbD place = true ↔
    ∃ user, IsUser periphs user com ∧ (periphs user).comGateOff = place ∧ wanted user = true

/-- The gates of their own show which clocks are asked for. -/
def OwnFollow (share : Com → GateKind → Bool) (periphs : Periph → ClkPeriph Com)
    (registers : U32 → U32) (wanted : Periph → Bool) : Prop :=
  ∀ periph kind, Switched share periphs periph false kind →
    bitOf registers ((periphs periph).gateBit kind) =
      (periphs periph).gateValue false (wanted periph) kind

/-- The gates that are shared are open exactly for clocks that are asked for. -/
def SharedFollow (share : Com → GateKind → Bool) (periphs : Periph → ClkPeriph Com)
    (registers : U32 → U32) (wanted : Periph → Bool) : Prop :=
  ∀ com periph kind, IsUser periphs periph com → Switched share periphs periph true kind →
    (bitOf registers ((periphs periph).gateBit kind) = true ↔
      ∃ user, IsUser periphs user com ∧ wanted user = true)

/-- The registers and the bytes show which clocks are asked for. -/
structure GatesFollow (share : Com → GateKind → Bool) (periphs : Periph → ClkPeriph Com)
    (view : Hw → U32 → U32) (state : GateState Com Hw) (wanted : Periph → Bool) : Prop where
  own : OwnFollow share periphs (view state.hw) wanted
  shared : SharedFollow share periphs (view state.hw) wanted
  marks : MarksShow periphs state.val wanted

/-! ### The byte -/

theorem getLsbD_mark {place mark : Nat} (inByte : mark < 8) :
    ((1 : U8) <<< mark).getLsbD place = decide (place = mark) := by
  rw [BitVec.getLsbD_shiftLeft]
  by_cases same : place = mark
  · subst same
    simp [inByte]
  · rw [decide_eq_false same]
    by_cases before : place < mark
    · simp [before]
    · have high : (1 : U8).getLsbD (place - mark) = false := by
        have some : place - mark ≠ 0 := by omega
        rw [show (1 : U8) = 1#8 from rfl, BitVec.getLsbD_one]
        simp [some]
      rw [high, Bool.and_false]

variable {state : GateState Com Hw} {val : Com → U8} {wanted : Periph → Bool} {com : Com}

omit [DecidableEq Periph] [DecidableEq Com] in
/-- The byte is zero exactly if no clock wants the gates. -/
theorem MarksShow.val_eq_zero_iff (marks : MarksShow periphs val wanted) :
    val com = 0 ↔ ¬ ∃ user, IsUser periphs user com ∧ wanted user = true := by
  constructor
  · rintro zero ⟨user, isUser, wants⟩
    have mark := (marks com _).mpr ⟨user, isUser, rfl, wants⟩
    rw [zero] at mark
    simp at mark
  · intro none
    refine BitVec.eq_of_getLsbD_eq fun place _ => ?_
    have zero : (0 : U8).getLsbD place = false := by simp
    rw [zero]
    refine eq_false_of_ne_true fun marked => none ?_
    obtain ⟨user, isUser, -, wants⟩ := (marks com place).mp marked
    exact ⟨user, isUser, wants⟩

/-! ### The gates of one clock -/

section Phases

variable (keeps : device.Keeps status view) (layout : GateLayout share periphs status)
  {periph : Periph} (writable : (periphs periph).clkReadonly = false) {kinds : List GateKind}
  (all : ∀ kind, kind ∈ kinds) (on : Bool) (hw : Hw)
include layout

omit [DecidableEq Periph] [DecidableEq Com] in
theorem GateLayout.separate (periph : Periph) (writable : (periphs periph).clkReadonly = false)
    (shared : Bool) : (periphs periph).Separate share shared := by
  intro kind other isKind isOther same
  cases shared with
  | false => exact (layout.own periph periph kind other ⟨writable, isKind⟩ ⟨writable, isOther⟩ same).2
  | true =>
    exact (layout.shared periph periph kind other ⟨writable, isKind⟩ ⟨writable, isOther⟩ same).2

include keeps

omit [DecidableEq Periph] [DecidableEq Com] in
/-- Bits that are no gate of the clock are kept. -/
theorem bitOf_switchGates_of_ne {shared : Bool} {bit : U32 × Nat}
    (other : ∀ kind, (periphs periph).Switches share shared kind →
      bit ≠ (periphs periph).gateBit kind) :
    bitOf (view (kinds.foldl (switchGate device share (periphs periph) shared on) hw)) bit =
      bitOf (view hw) bit := by
  rw [view_switchGates keeps (layout.placed periph)]
  exact bitOf_gatePuts_of_ne (layout.placed periph) other _

include writable

omit [DecidableEq Periph] [DecidableEq Com] in
/-- The gates that are shared are beside those of one clock. -/
theorem bitOf_own_shared {other : Periph} {kind : GateKind}
    (switched : Switched share periphs other true kind) :
    bitOf (view (kinds.foldl (switchGate device share (periphs periph) false on) hw))
        ((periphs other).gateBit kind) =
      bitOf (view hw) ((periphs other).gateBit kind) :=
  bitOf_switchGates_of_ne keeps layout on hw fun kind' there same =>
    layout.apart periph other kind' kind ⟨writable, there⟩ switched same.symm

omit [DecidableEq Periph] [DecidableEq Com] in
theorem bitOf_shared_own {other : Periph} {kind : GateKind}
    (switched : Switched share periphs other false kind) :
    bitOf (view (kinds.foldl (switchGate device share (periphs periph) true on) hw))
        ((periphs other).gateBit kind) =
      bitOf (view hw) ((periphs other).gateBit kind) :=
  bitOf_switchGates_of_ne keeps layout on hw fun kind' there =>
    layout.apart other periph kind kind' switched ⟨writable, there⟩

include all

omit [DecidableEq Com] in
/-- The gates of the clock follow, and those of other clocks are kept. -/
theorem bitOf_own_own {other : Periph} {kind : GateKind}
    (switched : Switched share periphs other false kind) :
    bitOf (view (kinds.foldl (switchGate device share (periphs periph) false on) hw))
        ((periphs other).gateBit kind) =
      if other = periph then (periphs periph).gateValue false on kind
      else bitOf (view hw) ((periphs other).gateBit kind) := by
  by_cases same : other = periph
  · subst same
    rw [if_pos rfl, view_switchGates keeps (layout.placed other)]
    exact bitOf_gatePuts (layout.placed other) (layout.separate other writable false) (all kind)
      switched.2 _
  · rw [if_neg same]
    refine bitOf_switchGates_of_ne keeps layout on hw fun kind' there sameBit => same ?_
    exact (layout.own other periph kind kind' switched ⟨writable, there⟩ sameBit).1

omit [DecidableEq Periph] in
/-- The gates that the clock shares follow, and others are kept. -/
theorem bitOf_shared_shared {com com' : Com} (isUser : IsUser periphs periph com) {other : Periph}
    (isOther : IsUser periphs other com') {kind : GateKind}
    (switched : Switched share periphs other true kind) :
    bitOf (view (kinds.foldl (switchGate device share (periphs periph) true on) hw))
        ((periphs other).gateBit kind) =
      if com' = com then on else bitOf (view hw) ((periphs other).gateBit kind) := by
  by_cases same : com' = com
  · subst same
    obtain ⟨there, sameBit⟩ := layout.agree com' other periph kind isOther isUser switched
    have isValue : (periphs periph).gateValue true on kind = on := by
      unfold ClkPeriph.gateValue
      rw [if_neg fun reverted => Bool.noConfusion reverted.2.2]
    rw [if_pos rfl, view_switchGates keeps (layout.placed periph), ← sameBit,
      bitOf_gatePuts (layout.placed periph) (layout.separate periph writable true) (all kind) there.2,
      isValue]
  · rw [if_neg same]
    refine bitOf_switchGates_of_ne keeps layout on hw fun kind' there sameBit => same ?_
    have sameCom := (layout.shared other periph kind kind' switched ⟨writable, there⟩ sameBit).1
    rw [isOther.2, isUser.2] at sameCom
    exact Option.some.inj sameCom

end Phases

section Wanting

variable (layout : GateLayout share periphs status) {periph : Periph}

omit [DecidableEq Com] in
/-- Other bytes have no mark of the clock. -/
theorem wanted_update_of_ne {wants : Bool} {com' : Com}
    (notUser : ¬ IsUser periphs periph com') (condition : Periph → Prop) :
    (∃ user, IsUser periphs user com' ∧ condition user ∧
        Function.update wanted periph wants user = true) ↔
      ∃ user, IsUser periphs user com' ∧ condition user ∧ wanted user = true := by
  refine exists_congr fun user => and_congr_right fun isUser => ?_
  have same : user ≠ periph := by
    rintro rfl
    exact notUser isUser
  rw [Function.update_of_ne same]

include layout in
omit [DecidableEq Com] in
/-- The byte has the mark of the clock exactly if the clock is asked for, and the other marks are
kept. -/
theorem wanted_update_mark {wants : Bool} (isUser : IsUser periphs periph com) (place : Nat) :
    (∃ user, IsUser periphs user com ∧ (periphs user).comGateOff = place ∧
        Function.update wanted periph wants user = true) ↔
      if place = (periphs periph).comGateOff then wants = true
      else ∃ user, IsUser periphs user com ∧ (periphs user).comGateOff = place ∧
        wanted user = true := by
  split
  next isMark =>
    subst isMark
    constructor
    · rintro ⟨user, isOther, sameMark, isWanted⟩
      obtain rfl := layout.marks com user periph isOther isUser sameMark
      rwa [Function.update_self] at isWanted
    · exact fun isWanted => ⟨periph, isUser, rfl, (Function.update_self _ _ _).trans isWanted⟩
  next otherMark =>
    refine exists_congr fun user => and_congr_right fun _ => and_congr_right fun isMark => ?_
    have same : user ≠ periph := by
      rintro rfl
      exact otherMark isMark.symm
    rw [Function.update_of_ne same]

include layout in
/-- The marks after one more clock is asked for -/
theorem MarksShow.set (marks : MarksShow periphs val wanted) (isUser : IsUser periphs periph com) :
    MarksShow periphs
      (Function.update val com (val com ||| (1 : U8) <<< (periphs periph).comGateOff))
      (Function.update wanted periph true) := by
  intro com' place
  by_cases same : com' = com
  · subst same
    rw [Function.update_self, wanted_update_mark layout isUser, BitVec.getLsbD_or,
      getLsbD_mark (layout.inByte com' periph isUser), ← marks com' place]
    split <;> simp_all
  · have notUser : ¬ IsUser periphs periph com' := fun isOther =>
      same (Option.some.inj (isOther.2.symm.trans isUser.2))
    rw [Function.update_of_ne same, marks com' place]
    exact (wanted_update_of_ne notUser fun user => (periphs user).comGateOff = place).symm

include layout in
/-- The marks after one clock less is asked for -/
theorem MarksShow.clear (marks : MarksShow periphs val wanted) (isUser : IsUser periphs periph com) :
    MarksShow periphs
      (Function.update val com (val com &&& ~~~((1 : U8) <<< (periphs periph).comGateOff)))
      (Function.update wanted periph false) := by
  intro com' place
  by_cases same : com' = com
  · subst same
    have small := layout.inByte com' periph isUser
    rw [Function.update_self, wanted_update_mark layout isUser, BitVec.getLsbD_and,
      BitVec.getLsbD_not, getLsbD_mark small, ← marks com' place]
    by_cases inside : place < 8
    · split <;> simp_all
    · have high : (val com').getLsbD place = false := BitVec.getLsbD_of_ge _ _ (Nat.not_lt.mp inside)
      have other : place ≠ (periphs periph).comGateOff := by omega
      simp [high, other]
  · have notUser : ¬ IsUser periphs periph com' := fun isOther =>
      same (Option.some.inj (isOther.2.symm.trans isUser.2))
    rw [Function.update_of_ne same, marks com' place]
    exact (wanted_update_of_ne notUser fun user => (periphs user).comGateOff = place).symm

end Wanting

/-! ### Enabling and disabling -/

section Steps

variable {periph : Periph}

omit [DecidableEq Periph] [DecidableEq Com] in
theorem not_isUser (alone : (periphs periph).comGate = none) (com : Com) :
    ¬ IsUser periphs periph com := by
  rintro ⟨-, isSome⟩
  rw [alone] at isSome
  exact absurd isSome.symm (Option.some_ne_none com)

omit [DecidableEq Com] in
/-- Nobody is a user more or less for a clock that shares nothing. -/
theorem exists_user_update_of_ne {wants : Bool} (notUser : ¬ IsUser periphs periph com) :
    (∃ user, IsUser periphs user com ∧ Function.update wanted periph wants user = true) ↔
      ∃ user, IsUser periphs user com ∧ wanted user = true := by
  have users := @wanted_update_of_ne _ _ _ periphs wanted periph wants com notUser fun _ => True
  simpa only [true_and] using users

omit [DecidableEq Com] in
theorem GatesFollow.alone (follow : GatesFollow share periphs view state wanted)
    (alone : (periphs periph).comGate = none) {wants : Bool} {hw : Hw}
    (own : OwnFollow share periphs (view hw) (Function.update wanted periph wants))
    (kept : ∀ other kind, Switched share periphs other true kind →
      bitOf (view hw) ((periphs other).gateBit kind) =
        bitOf (view state.hw) ((periphs other).gateBit kind)) :
    GatesFollow share periphs view { state with hw := hw }
      (Function.update wanted periph wants) := by
  refine ⟨own, fun com other kind isOther switched => ?_, fun com place => ?_⟩
  · rw [exists_user_update_of_ne (not_isUser alone com),
      ← follow.shared com other kind isOther switched, kept other kind switched]
  · refine (follow.marks com place).trans ?_
    exact (wanted_update_of_ne (not_isUser alone com) fun user =>
      (periphs user).comGateOff = place).symm

variable (keeps : device.Keeps status view) (layout : GateLayout share periphs status)
  (writable : (periphs periph).clkReadonly = false)
include keeps layout writable

omit [DecidableEq Com] in
/-- After its own gates are switched they follow the clock. -/
theorem OwnFollow.switch {kinds : List GateKind} (all : ∀ kind, kind ∈ kinds) (on : Bool) {hw : Hw}
    (own : OwnFollow share periphs (view hw) wanted) :
    OwnFollow share periphs
      (view (kinds.foldl (switchGate device share (periphs periph) false on) hw))
      (Function.update wanted periph on) := by
  intro other kind switched
  rw [bitOf_own_own keeps layout writable all on hw switched]
  split
  next same => rw [same, Function.update_self]
  next different => rw [Function.update_of_ne different, own other kind switched]

/-- After the gates that a clock shares are opened, or were open, they follow. -/
theorem SharedFollow.open (isUser : IsUser periphs periph com)
    (marks : MarksShow periphs state.val wanted)
    (shared : SharedFollow share periphs (view state.hw) wanted) :
    SharedFollow share periphs
      (view (if state.val com = 0 then
        gatesUp.foldl (switchGate device share (periphs periph) true true) state.hw
        else state.hw))
      (Function.update wanted periph true) := by
  intro com' other kind isOther switched
  have old := shared com' other kind isOther switched
  by_cases same : com' = com
  · subst same
    have some : ∃ user, IsUser periphs user com' ∧ Function.update wanted periph true user = true :=
      ⟨periph, isUser, Function.update_self _ _ _⟩
    refine iff_of_true ?_ some
    split
    next => rw [bitOf_shared_shared keeps layout writable mem_gatesUp true _ isUser isOther switched,
      if_pos rfl]
    next used => exact old.mpr (not_not.mp fun none => used (marks.val_eq_zero_iff.mpr none))
  · have notUser : ¬ IsUser periphs periph com' := fun isAlso =>
      same (Option.some.inj (isAlso.2.symm.trans isUser.2))
    rw [exists_user_update_of_ne notUser, ← old]
    split
    next => rw [bitOf_shared_shared keeps layout writable mem_gatesUp true _ isUser isOther switched,
      if_neg same]
    next => rfl

/-- After the gates that a clock shares are closed, or kept for others, they follow. -/
theorem SharedFollow.close (isUser : IsUser periphs periph com) {val : Com → U8}
    (marksAfter : MarksShow periphs val (Function.update wanted periph false))
    (shared : SharedFollow share periphs (view state.hw) wanted) :
    SharedFollow share periphs
      (view (if val com = 0 then
        gatesDown.foldl (switchGate device share (periphs periph) true false) state.hw
        else state.hw))
      (Function.update wanted periph false) := by
  intro com' other kind isOther switched
  have old := shared com' other kind isOther switched
  by_cases same : com' = com
  · subst same
    split
    next zero =>
      rw [bitOf_shared_shared keeps layout writable mem_gatesDown false _ isUser isOther switched,
        if_pos rfl]
      exact iff_of_false Bool.false_ne_true (marksAfter.val_eq_zero_iff.mp zero)
    next used =>
      have some := not_not.mp fun none => used (marksAfter.val_eq_zero_iff.mpr none)
      refine iff_of_true (old.mpr ?_) some
      obtain ⟨user, isAlso, wants⟩ := some
      refine ⟨user, isAlso, ?_⟩
      by_cases isSelf : user = periph
      · rw [isSelf, Function.update_self] at wants
        exact absurd wants Bool.false_ne_true
      · rwa [Function.update_of_ne isSelf] at wants
  · have notUser : ¬ IsUser periphs periph com' := fun isAlso =>
      same (Option.some.inj (isAlso.2.symm.trans isUser.2))
    rw [exists_user_update_of_ne notUser, ← old]
    split
    next =>
      rw [bitOf_shared_shared keeps layout writable mem_gatesDown false _ isUser isOther switched,
        if_neg same]
    next => rfl

theorem GatesFollow.enable (follow : GatesFollow share periphs view state wanted) :
    (sunxiClkPeriphEnable device share (periphs periph) state).1 = 0 ∧
      GatesFollow share periphs view (sunxiClkPeriphEnable device share (periphs periph) state).2
        (Function.update wanted periph true) := by
  unfold sunxiClkPeriphEnable
  rw [if_neg (ne_true_of_eq_false writable)]
  cases isCom : (periphs periph).comGate with
  | none =>
    refine ⟨rfl, follow.alone isCom (follow.own.switch keeps layout writable mem_gatesUp true) ?_⟩
    exact fun other kind switched => bitOf_own_shared keeps layout writable true _ switched
  | some com =>
    have isUser : IsUser periphs periph com := ⟨writable, isCom⟩
    unfold sunxiClkPeriphEnableShared
    rw [isCom]
    refine ⟨rfl, ?_, fun com' other kind isOther switched => ?_,
      follow.marks.set layout isUser⟩
    · refine OwnFollow.switch keeps layout writable mem_gatesUp true
        fun other kind switched => ?_
      rw [← follow.own other kind switched]
      dsimp only
      split
      next => exact bitOf_shared_own keeps layout writable true _ switched
      next => rfl
    · rw [← follow.shared.open keeps layout writable isUser follow.marks com' other kind isOther
        switched]
      exact Bool.eq_iff_iff.mp (bitOf_own_shared keeps layout writable true _ switched)

theorem GatesFollow.disable (follow : GatesFollow share periphs view state wanted) :
    GatesFollow share periphs view (sunxiClkPeriphDisable device share (periphs periph) state)
      (Function.update wanted periph false) := by
  unfold sunxiClkPeriphDisable
  rw [if_neg (ne_true_of_eq_false writable)]
  have own := follow.own.switch keeps layout writable mem_gatesDown false
  have kept : ∀ other kind, Switched share periphs other true kind →
      bitOf (view (sunxiClkPeriphDisableOwn device share (periphs periph) state).hw)
          ((periphs other).gateBit kind) =
        bitOf (view state.hw) ((periphs other).gateBit kind) :=
    fun other kind switched => bitOf_own_shared keeps layout writable false _ switched
  cases isCom : (periphs periph).comGate with
  | none => exact follow.alone isCom own kept
  | some com =>
    have isUser : IsUser periphs periph com := ⟨writable, isCom⟩
    have marksAfter := follow.marks.clear layout isUser
    have sharedKept : SharedFollow share periphs
        (view (sunxiClkPeriphDisableOwn device share (periphs periph) state).hw) wanted := by
      intro com' other kind isOther switched
      rw [kept other kind switched]
      exact follow.shared com' other kind isOther switched
    have shared := @SharedFollow.close _ _ _ _ _ _ _ _ _ _
      (sunxiClkPeriphDisableOwn device share (periphs periph) state) _ com periph keeps layout
      writable isUser _ marksAfter sharedKept
    rw [Function.update_self] at shared
    -- a clock that is closed keeps its own gates closed while the shared ones are closed
    have ownAfter : ∀ hw, OwnFollow share periphs (view hw) (Function.update wanted periph false) →
        OwnFollow share periphs
          (view (gatesDown.foldl (switchGate device share (periphs periph) true false) hw))
          (Function.update wanted periph false) := by
      intro hw before other kind switched
      rw [← before other kind switched]
      exact bitOf_shared_own keeps layout writable false hw switched
    have sameVal : (sunxiClkPeriphDisableOwn device share (periphs periph) state).val = state.val :=
      rfl
    dsimp only
    unfold sunxiClkPeriphDisableShared
    dsimp only
    rw [sameVal, Function.update_self]
    split
    next zero =>
      -- nobody wanted the gates before
      have notWanted : wanted periph = false := eq_false_of_ne_true fun wants =>
        follow.marks.val_eq_zero_iff.mp zero ⟨periph, isUser, wants⟩
      have sameWanted : Function.update wanted periph false = wanted := by
        rw [← notWanted, Function.update_eq_self]
      rw [sameWanted] at own ⊢
      exact ⟨own, sharedKept, follow.marks⟩
    next =>
      split
      next zero =>
        rw [if_pos zero] at shared
        exact ⟨ownAfter _ own, shared, marksAfter⟩
      next used =>
        rw [if_neg used] at shared
        exact ⟨own, shared, marksAfter⟩

end Steps

/-! ### Sessions -/

section Session

variable (keeps : device.Keeps status view) (layout : GateLayout share periphs status)
include keeps layout

theorem gateStep_follows (state : GateState Com Hw) (wanted : Periph → Bool)
    (call : GateCall Periph) (follow : GatesFollow share periphs view state wanted) :
    (gateStep device share periphs state call).1 = (wantStep periphs wanted call).1 ∧
      GatesFollow share periphs view (gateStep device share periphs state call).2
        (wantStep periphs wanted call).2 := by
  cases call with
  | enable periph =>
    unfold gateStep wantStep
    dsimp only
    cases isReadonly : (periphs periph).clkReadonly with
    | true =>
      unfold sunxiClkPeriphEnable
      rw [if_pos isReadonly, if_pos rfl]
      exact ⟨rfl, follow⟩
    | false =>
      rw [if_neg Bool.false_ne_true]
      exact follow.enable keeps layout isReadonly
  | disable periph =>
    unfold gateStep wantStep
    dsimp only
    cases isReadonly : (periphs periph).clkReadonly with
    | true =>
      unfold sunxiClkPeriphDisable
      rw [if_pos isReadonly, if_pos rfl]
      exact ⟨rfl, follow⟩
    | false =>
      rw [if_neg Bool.false_ne_true]
      exact ⟨rfl, follow.disable keeps layout isReadonly⟩

omit [DecidableEq Periph] in
/-- A bit that is no gate is kept. -/
theorem bitOf_gateStep {bit : U32 × Nat}
    (other : ∀ periph shared kind, Switched share periphs periph shared kind →
      bit ≠ (periphs periph).gateBit kind)
    (state : GateState Com Hw) (call : GateCall Periph) :
    bitOf (view (gateStep device share periphs state call).2.hw) bit =
      bitOf (view state.hw) bit := by
  have kept : ∀ periph, (periphs periph).clkReadonly = false → ∀ shared on (kinds : List GateKind) hw,
      bitOf (view (kinds.foldl (switchGate device share (periphs periph) shared on) hw)) bit =
        bitOf (view hw) bit := by
    intro periph writable shared on kinds hw
    exact bitOf_switchGates_of_ne keeps layout on hw fun kind there =>
      other periph shared kind ⟨writable, there⟩
  unfold gateStep
  cases call with
  | enable periph =>
    dsimp only
    unfold sunxiClkPeriphEnable
    cases isReadonly : (periphs periph).clkReadonly with
    | true => rw [if_pos rfl]
    | false =>
      have keptHere := kept periph isReadonly
      rw [if_neg Bool.false_ne_true]
      cases isCom : (periphs periph).comGate with
      | none => exact keptHere false true gatesUp state.hw
      | some com =>
        unfold sunxiClkPeriphEnableShared
        rw [isCom]
        refine (keptHere false true gatesUp _).trans ?_
        dsimp only
        split
        next => exact keptHere true true gatesUp state.hw
        next => rfl
  | disable periph =>
    dsimp only
    unfold sunxiClkPeriphDisable
    cases isReadonly : (periphs periph).clkReadonly with
    | true => rw [if_pos rfl]
    | false =>
      have keptHere := kept periph isReadonly
      have own := keptHere false false gatesDown state.hw
      rw [if_neg Bool.false_ne_true]
      cases isCom : (periphs periph).comGate with
      | none => exact own
      | some com =>
        unfold sunxiClkPeriphDisableShared
        dsimp only
        split
        next => exact own
        next =>
          split
          next => exact (keptHere true false gatesDown _).trans own
          next => exact own

/-- In every session each call succeeds, each gate of its own follows its clock, a gate that is
shared is open exactly while one of its clocks is asked for, and no other bit is changed. -/
theorem session_gateStep {state : GateState Com Hw} {wanted : Periph → Bool}
    (follow : GatesFollow share periphs view state wanted) (calls : List (GateCall Periph)) :
    (session (gateStep device share periphs) state calls).1 =
        (session (wantStep periphs) wanted calls).1 ∧
      GatesFollow share periphs view (session (gateStep device share periphs) state calls).2
        (session (wantStep periphs) wanted calls).2 ∧
      ∀ bit, (∀ periph shared kind, Switched share periphs periph shared kind →
          bit ≠ (periphs periph).gateBit kind) →
        bitOf (view (session (gateStep device share periphs) state calls).2.hw) bit =
          bitOf (view state.hw) bit := by
  have all : ∀ call ∈ calls, True := fun _ _ => trivial
  obtain ⟨replies, final⟩ := session_refines (fun state wanted call follow _ =>
    gateStep_follows keeps layout state wanted call follow) follow all
  refine ⟨replies, final, fun bit other => ?_⟩
  exact session_keeps (fun state : GateState Com Hw => bitOf (view state.hw) bit)
    (fun state call _ => bitOf_gateStep keeps layout other state call) state all

end Session

end Sessions

/-! ### The clocks of the boards -/

section Boards

variable {Periph Com : Type} [DecidableEq Com] (share : Com → GateKind → Bool)
  (periphs : Periph → ClkPeriph Com)

instance (periph : Periph) (shared : Bool) (kind : GateKind) :
    Decidable (Switched share periphs periph shared kind) :=
  inferInstanceAs (Decidable (_ ∧ _))

instance (periph : Periph) (com : Com) : Decidable (IsUser periphs periph com) :=
  inferInstanceAs (Decidable (_ ∧ _))

end Boards

theorem not_switched_shared (periph : DispPeriph) (kind : GateKind) :
    ¬ Switched comGateShare dispPeriph periph true kind := by
  intro isShared
  have there : (dispPeriph periph).isShare comGateShare kind = true := isShared.2.2.2
  unfold ClkPeriph.isShare at there
  rw [comGate_dispPeriph] at there
  exact Bool.false_ne_true there

theorem not_isUser_dispPeriph (periph : DispPeriph) (com : ComGateName) :
    ¬ IsUser dispPeriph periph com := by
  intro isUser
  rw [IsUser, comGate_dispPeriph] at isUser
  exact Option.some_ne_none com isUser.2.symm

/-- Each gate of a clock of the display has a bit of its own. -/
theorem dispLayout : GateLayout comGateShare dispPeriph lockStatus where
  placed := by
    have all : ∀ periph ∈ dispPeriphs, ∀ kind ∈ gatesUp, (dispPeriph periph).gateReg kind ≠ 0 →
        (dispPeriph periph).gateShift kind + 1 ≤ 32 ∧ setMask ((dispPeriph periph).gateShift kind) 1 &&&
          lockStatus ((dispPeriph periph).gateReg kind) = 0 := by decide +kernel
    exact fun periph kind => all periph (mem_dispPeriphs periph) kind (mem_gatesUp kind)
  own := by
    have all : ∀ periph ∈ dispPeriphs, ∀ other ∈ dispPeriphs, ∀ kind ∈ gatesUp, ∀ kind' ∈ gatesUp,
        Switched comGateShare dispPeriph periph false kind →
        Switched comGateShare dispPeriph other false kind' →
        (dispPeriph periph).gateBit kind = (dispPeriph other).gateBit kind' →
        periph = other ∧ kind = kind' := by decide +kernel
    exact fun periph other kind kind' => all periph (mem_dispPeriphs periph) other
      (mem_dispPeriphs other) kind (mem_gatesUp kind) kind' (mem_gatesUp kind')
  shared := fun periph _ kind _ isShared => absurd isShared (not_switched_shared periph kind)
  apart := fun _ other _ kind' _ isShared => absurd isShared (not_switched_shared other kind')
  agree := fun com periph _ _ isUser => absurd isUser (not_isUser_dispPeriph periph com)
  marks := fun com periph _ isUser => absurd isUser (not_isUser_dispPeriph periph com)
  inByte := fun com periph isUser => absurd isUser (not_isUser_dispPeriph periph com)

/-- The clocks of `clk-sun8iw10.c` with an entry of `com_gates` -/
inductive CsiPeriph : Type where
  | csiS
  | csiM
  | csiMisc
deriving DecidableEq

/-- `SUNXI_CLK_PERIPH` of these clocks -/
def csiPeriph : CsiPeriph → ClkPeriph ComGateName
  | .csiS =>
    { sunxiClkPeriph ⟨0x0134, 24, 3⟩ ⟨0x0134, 16, 4, 0, 0⟩ 0x0134 0x02c4 0x0064 0x0100 31 8 8 1 with
      comGate := some .csi
      comGateOff := 0 }
  | .csiM =>
    { sunxiClkPeriph ⟨0x0134, 8, 3⟩ ⟨0x0134, 0, 5, 0, 0⟩ 0x0134 0x02c4 0x0064 0x0100 15 8 8 1 with
      comGate := some .csi
      comGateOff := 1 }
  | .csiMisc =>
    { sunxiClkPeriph ⟨0, 0, 0⟩ ⟨0, 0, 0, 0, 0⟩ 0x0130 0x02c4 0x0064 0x0100 31 8 8 1 with
      comGate := some .csi
      comGateOff := 2 }

theorem isUser_csiPeriph {periph : CsiPeriph} {com : ComGateName}
    (isUser : IsUser csiPeriph periph com) : com = .csi := by
  cases periph <;> exact (Option.some.inj isUser.2).symm

/-- They share all gates but those of the clocks themselves. -/
theorem csiLayout : GateLayout comGateShare csiPeriph lockStatus where
  placed := by rintro (_ | _ | _) (_ | _ | _ | _) <;> decide
  own := by rintro (_ | _ | _) (_ | _ | _) (_ | _ | _ | _) (_ | _ | _ | _) <;> decide
  shared := by rintro (_ | _ | _) (_ | _ | _) (_ | _ | _ | _) (_ | _ | _ | _) <;> decide
  apart := by rintro (_ | _ | _) (_ | _ | _) (_ | _ | _ | _) (_ | _ | _ | _) <;> decide
  agree := by
    intro com periph other kind isUser
    obtain rfl := isUser_csiPeriph isUser
    revert periph other kind isUser
    rintro (_ | _ | _) (_ | _ | _) (_ | _ | _ | _) <;> decide
  marks := by
    intro com periph other isUser
    obtain rfl := isUser_csiPeriph isUser
    revert periph other isUser
    rintro (_ | _ | _) (_ | _ | _) <;> decide
  inByte := by
    intro com periph _
    cases periph <;> decide

/-- All gates are closed, and no clock is asked for. -/
theorem gatesFollow_zero {Periph : Type} {periphs : Periph → ClkPeriph ComGateName}
    (plain : ∀ periph kind, (periphs periph).gateValue false false kind = false) :
    GatesFollow comGateShare periphs (fun hw reg => hw reg &&& ~~~lockStatus reg)
      ⟨fun _ => 0, fun _ => 0⟩ fun _ => false := by
  have closed : ∀ bit, bitOf (fun reg => (0 : U32) &&& ~~~lockStatus reg) bit = false := by
    intro bit
    simp [bitOf]
  refine ⟨fun periph kind _ => ?_, fun com periph kind _ _ => ?_, fun com place => ?_⟩
  · exact (closed _).trans (plain periph kind).symm
  · refine iff_of_false (fun isOpen => ?_) fun ⟨_, _, asked⟩ => Bool.false_ne_true asked
    exact Bool.false_ne_true ((closed _).symm.trans isOpen)
  · simp

/-- A clock of the display that is asked for is on when another has been disabled, and one of the
clocks that share gates keeps them open. -/
theorem session_gateStep_boards :
    (∀ kind ∈ gatesUp, bitOf (fun reg => (session (gateStep lockedRegisters comGateShare dispPeriph)
        ⟨fun _ => 0, fun _ => 0⟩ [.enable .hdmi, .enable .de, .disable .de]).2.hw reg &&&
          ~~~lockStatus reg) ((dispPeriph .hdmi).gateBit kind) = true) ∧
      bitOf (fun reg => (session (gateStep lockedRegisters comGateShare csiPeriph)
        ⟨fun _ => 0, fun _ => 0⟩ [.enable .csiS, .enable .csiMisc, .disable .csiS]).2.hw reg &&&
          ~~~lockStatus reg) ((csiPeriph .csiS).gateBit .reset) = true := by
  have display := session_gateStep lockedRegisters_keeps dispLayout
    (gatesFollow_zero fun periph kind => by cases periph <;> cases kind <;> rfl)
    [.enable .hdmi, .enable .de, .disable .de]
  have csi := session_gateStep lockedRegisters_keeps csiLayout
    (gatesFollow_zero fun periph kind => by cases periph <;> cases kind <;> rfl)
    [.enable .csiS, .enable .csiMisc, .disable .csiS]
  refine ⟨fun kind member => ?_, ?_⟩
  · exact (display.2.1.own .hdmi kind (by revert kind; decide)).trans (by cases kind <;> rfl)
  · exact (csi.2.1.shared .csi .csiS .reset ⟨rfl, rfl⟩ (by decide)).mpr ⟨.csiMisc, ⟨rfl, rfl⟩, rfl⟩

end PinePhonePkg
