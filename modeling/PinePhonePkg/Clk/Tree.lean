/-
This file models the clocks of the display driver: clocks are registered one after
the other under their names, a clock is switched on with its parent and off when
nobody needs it, it can be moved to another parent, and its rate can be set. What a
clock does to the hardware is given by its operations.

It proves that an enabling and a disabling go up the tree and end at a root, and that
they keep the reference counts of the tree balanced; an enabling that fails on its way
up leaves the counts as they were.
-/

import PinePhonePkg.Library.RefTree
import PinePhonePkg.Mmc.Types

namespace PinePhonePkg

open Library RefTree

/-! ### Clocks -/

/-- `struct clk_ops` of a clock, with its `struct clk_hw` -/
structure ClkOps (Hw : Type) : Type where
  enable : Option (Hw → Int × Hw)
  disable : Option (Hw → Hw)
  recalcRate : Option (Hw → Ulong → Ulong)
  /-- The rate, and the rate of the parent that it is for -/
  roundRate : Option (Hw → Ulong → Ulong → Ulong × Ulong)
  setParent : Option (Hw → Nat → Int × Hw)
  getParent : Option (Hw → Nat)
  setRate : Option (Hw → Ulong → Ulong → Int × Hw)
  init : Option (Hw → Hw)

/-- What does not change in a `struct clk` -/
structure ClkTable (Clock Hw : Type) : Type where
  name : Clock → List U8
  ops : Clock → ClkOps Hw
  parentNames : Clock → List (List U8)
  clkIsRoot : Clock → Bool
  clkSetParentGate : Clock → Bool
  clkGetRateNocache : Clock → Bool

/-- What changes, and the hardware. An array of parents that is not there yet is `none`. -/
structure ClkState (Clock Hw : Type) : Type where
  /-- The clocks that are registered, with the newest first -/
  clkList : List Clock
  parent : Clock → Option Clock
  parents : Clock → Option (Nat → Option Clock)
  rate : Clock → Ulong
  newRate : Clock → Ulong
  enableCount : Clock → U32
  prepareCount : Clock → U32
  hw : Hw

section Operations

variable {Clock Hw : Type} [DecidableEq Clock] (table : ClkTable Clock Hw)

/-- `__clk_lookup` -/
def clkLookup (name : List U8) (state : ClkState Clock Hw) : Option Clock :=
  state.clkList.find? fun clk => table.name clk = name

/-- `clk->enable_count` -/
def ClkState.setEnableCount (clk : Clock) (count : U32) (state : ClkState Clock Hw) :
    ClkState Clock Hw :=
  { state with enableCount := Function.update state.enableCount clk count }

/-- What a clock does to the hardware when it goes off -/
def ClkState.switchOff (clk : Clock) (state : ClkState Clock Hw) : ClkState Clock Hw :=
  match (table.ops clk).disable with
  | some disable => { state with hw := disable state.hw }
  | none => state

/-- What a clock does to the hardware when it goes on -/
def ClkState.switchOn (clk : Clock) (state : ClkState Clock Hw) : Int × ClkState Clock Hw :=
  match (table.ops clk).enable with
  | some enable => ((enable state.hw).1, { state with hw := (enable state.hw).2 })
  | none => (0, state)

/-- `__clk_disable`. The recursion goes up the tree; `none` says that it did not end within the
given depth. -/
def clkDisableInner : Nat → Option Clock → ClkState Clock Hw → Option (ClkState Clock Hw)
  | 0, _, _ => none
  | _ + 1, none, state => some state
  | depth + 1, some clk, state =>
    if state.enableCount clk = 0 then some state
    else
      let state := state.setEnableCount clk (state.enableCount clk - 1)
      if state.enableCount clk > 0 then some state
      else clkDisableInner depth (state.parent clk) (state.switchOff table clk)

/-- `__clk_enable`, with the value that is returned -/
def clkEnableInner : Nat → Option Clock → ClkState Clock Hw → Option (Int × ClkState Clock Hw)
  | 0, _, _ => none
  | _ + 1, none, state => some (-1, state)
  | depth + 1, some clk, state =>
    if table.clkIsRoot clk then some (0, state)
    else if state.enableCount clk = 0 then
      match clkEnableInner depth (state.parent clk) state with
      | none => none
      | some (ret, state) =>
        if ret ≠ 0 then some (ret, state)
        else
          match state.switchOn table clk with
          | (ret, state) =>
            if ret ≠ 0 then
              (clkDisableInner table depth (state.parent clk) state).map fun state => (ret, state)
            else some (0, state.setEnableCount clk (state.enableCount clk + 1))
    else some (0, state.setEnableCount clk (state.enableCount clk + 1))

/-- The array of parents, filled with zeros when it is made -/
def ClkState.cachedParents (clk : Clock) (state : ClkState Clock Hw) : Nat → Option Clock :=
  (state.parents clk).getD fun _ => none

/-- The index of a parent in the array, or else in the names -/
def parentIndex (clk parent : Clock) (state : ClkState Clock Hw) : Option Nat :=
  (List.range (table.parentNames clk).length).find? fun index =>
    state.cachedParents clk index = some parent ∨
      (table.parentNames clk)[index]? = some (table.name parent)

/-- The array of parents after the search: a parent found by its name is entered. -/
def enterParent (clk parent : Clock) (index : Nat) (state : ClkState Clock Hw) :
    ClkState Clock Hw :=
  { state with
    parents := Function.update state.parents clk (some
      (if state.cachedParents clk index = some parent then state.cachedParents clk
        else Function.update (state.cachedParents clk) index
          (clkLookup table (table.name parent) state))) }

/-- The clock is fed by another parent from here on. -/
def ClkState.switchParent (clk : Clock) (index : Nat) (state : ClkState Clock Hw) :
    Int × ClkState Clock Hw :=
  let parent := Function.update state.parent clk (state.cachedParents clk index)
  match (table.ops clk).setParent with
  | some setParent =>
    ((setParent state.hw index).1, { state with hw := (setParent state.hw index).2, parent := parent })
  | none => (-1, { state with parent := parent })

/-- `__clk_set_parent`. The new parent comes into use before the clock goes over, and the old one
stays in use until after that. -/
def clkSetParentInner (depth : Nat) (clk parent : Clock) (state : ClkState Clock Hw) :
    Option (Int × ClkState Clock Hw) :=
  let oldParent := state.parent clk
  match parentIndex table clk parent state with
  | none =>
    some (-1, { state with
      parents := Function.update state.parents clk (some (state.cachedParents clk)) })
  | some index =>
    let state := enterParent table clk parent index state
    match
      (if state.enableCount clk ≠ 0 then
        (clkEnableInner table depth (some parent) state).map Prod.snd
      else some state) with
    | none => none
    | some state =>
      match state.switchParent table clk index with
      | (ret, state) =>
        if state.enableCount clk ≠ 0 then
          (clkDisableInner table depth oldParent state).map fun state => (ret, state)
        else some (ret, state)

/-- `__clk_recalc_rates` -/
def clkRecalcRates (clk : Clock) (state : ClkState Clock Hw) : ClkState Clock Hw :=
  let parentRate := (state.parent clk).elim 0 state.rate
  { state with
    rate := Function.update state.rate clk
      (match (table.ops clk).recalcRate with
      | some recalcRate => recalcRate state.hw parentRate
      | none => parentRate) }

/-- `clk_disable` -/
def clkDisable (depth : Nat) (clk : Option Clock) (state : ClkState Clock Hw) :
    Option (Int × ClkState Clock Hw) :=
  match clk with
  | none => some (-1, state)
  | some clk => (clkDisableInner table depth (some clk) state).map fun state => (0, state)

/-- Takes a reference to a clock and to those above it. -/
def clkPrepareEnable (depth : Nat) (clk : Option Clock) (state : ClkState Clock Hw) :
    Option (Int × ClkState Clock Hw) :=
  match clk with
  | none => some (-1, state)
  | some clk => clkEnableInner table depth (some clk) state

/-- A clock that is moved is not counted as prepared, so the gate never refuses. -/
def clkSetParent (depth : Nat) (clk parent : Clock) (state : ClkState Clock Hw) :
    Option (Int × ClkState Clock Hw) :=
  if (table.ops clk).setParent.isNone then some (-1, state)
  else if state.parent clk = some parent then some (0, state)
  else
    match
      (if table.clkSetParentGate clk ∧ state.prepareCount clk ≠ 0 then some (-1, state)
      else clkSetParentInner table depth clk parent state) with
    | none => none
    | some (ret, state) =>
      if ret ≠ 0 then some (ret, clkRecalcRates table clk state) else some (ret, state)

/-- The rate of the children is not set anew. -/
def clkSetRate (clk : Clock) (rate : Ulong) (state : ClkState Clock Hw) :
    Int × ClkState Clock Hw :=
  if rate = state.rate clk ∧ ¬ table.clkGetRateNocache clk then (0, state)
  else
    match state.parent clk with
    | none => (-1, state)
    | some parent =>
      let (newRate, bestParentRate) :=
        match (table.ops clk).roundRate with
        | some roundRate => roundRate state.hw rate (state.rate parent)
        | none => (state.newRate parent, state.rate parent)
      let hw :=
        match (table.ops clk).setRate with
        | some setRate => (setRate state.hw newRate bestParentRate).2
        | none => state.hw
      (0, { state with
        newRate := Function.update state.newRate clk newRate
        hw := hw
        rate := Function.update state.rate clk
          (match (table.ops clk).recalcRate with
          | some recalcRate => recalcRate hw bestParentRate
          | none => bestParentRate) })

/-- `__clk_init_parent` of a clock that was just made -/
def clkInitParent (clk : Clock) (state : ClkState Clock Hw) : Option Clock :=
  match table.parentNames clk with
  | [] => none
  | [name] => clkLookup table name state
  | names =>
    match (table.ops clk).getParent with
    | some getParent => names[getParent state.hw]?.bind fun name => clkLookup table name state
    | none => none

/-- The operations go together. -/
def ClkOps.Sane (ops : ClkOps Hw) : Prop :=
  (ops.setRate.isSome → ops.roundRate.isSome ∧ ops.recalcRate.isSome) ∧
    (ops.setParent.isSome → ops.getParent.isSome)

instance (ops : ClkOps Hw) : Decidable ops.Sane := inferInstanceAs (Decidable (_ ∧ _))

/-- `clk_register` and `__clk_init`, with the clock that is returned. A clock that is not registered
is as its memory is made, filled with zeros. -/
def clkRegister (clk : Clock) (state : ClkState Clock Hw) : Option Clock × ClkState Clock Hw :=
  if (clkLookup table (table.name clk) state).isSome then (none, state)
  else if ¬ (table.ops clk).Sane then (none, state)
  else
    let names := table.parentNames clk
    let parents :=
      if names.length > 1 then
        some fun index => names[index]?.bind fun name => clkLookup table name state
      else none
    let parent := clkInitParent table clk state
    let rate :=
      match (table.ops clk).recalcRate with
      | some recalcRate => recalcRate state.hw (parent.elim 0 state.rate)
      | none => parent.elim 0 state.rate
    (some clk,
      { clkList := clk :: state.clkList
        parent := Function.update state.parent clk parent
        parents := Function.update state.parents clk parents
        rate := Function.update state.rate clk rate
        newRate := Function.update state.newRate clk 0
        enableCount := Function.update state.enableCount clk 0
        prepareCount := Function.update state.prepareCount clk 0
        hw := (table.ops clk).init.elim state.hw fun init => init state.hw })

end Operations

/-! ### Going up the tree -/

/-- What the operations do to clocks that are on: an enabling that succeeds puts its clock on, and
nothing but its own disabling puts a clock off. -/
structure ClkGates {Clock Hw : Type} (table : ClkTable Clock Hw) (isOn : Hw → Clock → Prop) :
    Prop where
  enable_self : ∀ clk, ∀ enable ∈ (table.ops clk).enable, ∀ hw, (enable hw).1 = 0 →
    isOn (enable hw).2 clk
  enable_other : ∀ clk, ∀ enable ∈ (table.ops clk).enable, ∀ hw other, other ≠ clk →
    isOn hw other → isOn (enable hw).2 other
  disable_other : ∀ clk, ∀ disable ∈ (table.ops clk).disable, ∀ hw other, other ≠ clk →
    isOn hw other → isOn (disable hw) other
  setParent : ∀ clk, ∀ setParent ∈ (table.ops clk).setParent, ∀ hw index other,
    isOn hw other → isOn (setParent hw index).2 other
  setRate : ∀ clk, ∀ setRate ∈ (table.ops clk).setRate, ∀ hw rate parentRate other,
    isOn hw other → isOn (setRate hw rate parentRate).2 other
  init : ∀ clk, ∀ init ∈ (table.ops clk).init, ∀ hw other, isOn hw other → isOn (init hw) other

section Tree

variable {Clock Hw : Type} [DecidableEq Clock] {table : ClkTable Clock Hw}
  {isOn : Hw → Clock → Prop}

/-- A clock in use has a parent, and it is on if it can be put on. -/
structure Running (table : ClkTable Clock Hw) (isOn : Hw → Clock → Prop)
    (state : ClkState Clock Hw) : Prop where
  parent : ∀ clk, state.enableCount clk ≠ 0 → state.parent clk ≠ none
  isOn : ∀ clk, (table.ops clk).enable ≠ none → state.enableCount clk ≠ 0 → isOn state.hw clk

/-- Each parent has a lower rank than its clock. -/
def Ranked (rank : Clock → Nat) (state : ClkState Clock Hw) : Prop :=
  ∀ clk up, state.parent clk = some up → rank up < rank clk

/-- How far it is from a clock up to a root -/
def height (rank : Clock → Nat) (clk : Option Clock) : Nat := clk.elim 0 fun clk => rank clk + 1

/-- Counts and the hardware change, and only at clocks up to a height. -/
structure Below (rank : Clock → Nat) (limit : Nat) (state after : ClkState Clock Hw) : Prop where
  clkList : after.clkList = state.clkList
  parent : after.parent = state.parent
  parents : after.parents = state.parents
  prepareCount : after.prepareCount = state.prepareCount
  enableCount : ∀ other, limit ≤ rank other → after.enableCount other = state.enableCount other

variable {rank : Clock → Nat} {limit : Nat} {state middle after : ClkState Clock Hw}

omit [DecidableEq Clock] in
theorem Below.refl (state : ClkState Clock Hw) : Below rank limit state state :=
  ⟨rfl, rfl, rfl, rfl, fun _ _ => rfl⟩

omit [DecidableEq Clock] in
theorem Below.trans (first : Below rank limit state middle) (second : Below rank limit middle after) :
    Below rank limit state after :=
  ⟨second.clkList.trans first.clkList, second.parent.trans first.parent,
    second.parents.trans first.parents,
    second.prepareCount.trans first.prepareCount,
    fun other above => (second.enableCount other above).trans (first.enableCount other above)⟩

omit [DecidableEq Clock] in
theorem Below.mono {wider : Nat} (below : Below rank limit state after) (le : limit ≤ wider) :
    Below rank wider state after :=
  ⟨below.clkList, below.parent, below.parents, below.prepareCount,
    fun other above => below.enableCount other (Nat.le_trans le above)⟩

omit [DecidableEq Clock] in
theorem Ranked.height_parent (ranked : Ranked rank state) (clk : Clock) :
    height rank (state.parent clk) ≤ rank clk := by
  unfold height
  cases isUp : state.parent clk with
  | none => exact Nat.zero_le _
  | some up => exact ranked clk up isUp

omit [DecidableEq Clock] in
theorem Ranked.parent_ne (ranked : Ranked rank state) (clk : Clock) :
    state.parent clk ≠ some clk := fun same => absurd (ranked clk clk same) (Nat.lt_irrefl _)

omit [DecidableEq Clock] in
theorem Ranked.below (ranked : Ranked rank state) (below : Below rank limit state after) :
    Ranked rank after := by
  unfold Ranked
  rw [below.parent]
  exact ranked

theorem below_setEnableCount (clk : Clock) (count : U32) (state : ClkState Clock Hw) :
    Below rank (rank clk + 1) state (state.setEnableCount clk count) := by
  refine ⟨rfl, rfl, rfl, rfl, fun other above => Function.update_of_ne ?_ _ _⟩
  rintro rfl
  exact absurd above (Nat.not_succ_le_self _)

omit [DecidableEq Clock] in
theorem below_switchOff (clk : Clock) (state : ClkState Clock Hw) :
    Below rank limit state (state.switchOff table clk) := by
  unfold ClkState.switchOff
  cases (table.ops clk).disable with
  | none => exact Below.refl state
  | some disable => exact ⟨rfl, rfl, rfl, rfl, fun _ _ => rfl⟩

omit [DecidableEq Clock] in
theorem below_switchOn (clk : Clock) (state : ClkState Clock Hw) :
    Below rank limit state (state.switchOn table clk).2 := by
  unfold ClkState.switchOn
  cases (table.ops clk).enable with
  | none => exact Below.refl state
  | some enable => exact ⟨rfl, rfl, rfl, rfl, fun _ _ => rfl⟩

omit [DecidableEq Clock] in
theorem enableCount_switchOff (clk : Clock) (state : ClkState Clock Hw) :
    (state.switchOff table clk).enableCount = state.enableCount := by
  unfold ClkState.switchOff
  cases (table.ops clk).disable <;> rfl

omit [DecidableEq Clock] in
theorem enableCount_switchOn (clk : Clock) (state : ClkState Clock Hw) :
    (state.switchOn table clk).2.enableCount = state.enableCount := by
  unfold ClkState.switchOn
  cases (table.ops clk).enable <;> rfl

omit [DecidableEq Clock] in
theorem parent_switchOff (clk : Clock) (state : ClkState Clock Hw) :
    (state.switchOff table clk).parent = state.parent :=
  (below_switchOff clk state : Below (fun _ => 0) 0 _ _).parent

/-- Another count of a clock that stays in use, or goes out of use -/
theorem Running.setEnableCount (running : Running table isOn state) {clk : Clock} {count : U32}
    (used : count ≠ 0 → state.enableCount clk ≠ 0) :
    Running table isOn (state.setEnableCount clk count) := by
  have before : ∀ other, (state.setEnableCount clk count).enableCount other ≠ 0 →
      state.enableCount other ≠ 0 := by
    intro other isUsed
    unfold ClkState.setEnableCount at isUsed
    dsimp only at isUsed
    by_cases same : other = clk
    · subst same
      rw [Function.update_self] at isUsed
      exact used isUsed
    · rwa [Function.update_of_ne same] at isUsed
  exact ⟨fun other isUsed => running.parent other (before other isUsed),
    fun other gated isUsed => running.isOn other gated (before other isUsed)⟩

omit [DecidableEq Clock] in
/-- A clock that is not in use is put off. -/
theorem Running.switchOff (gates : ClkGates table isOn) (running : Running table isOn state)
    {clk : Clock} (unused : state.enableCount clk = 0) :
    Running table isOn (state.switchOff table clk) := by
  unfold ClkState.switchOff
  cases isDisable : (table.ops clk).disable with
  | none => exact running
  | some disable =>
    refine ⟨running.parent, fun other gated isUsed => ?_⟩
    refine gates.disable_other clk disable isDisable state.hw other ?_
      (running.isOn other gated isUsed)
    rintro rfl
    exact isUsed unused

omit [DecidableEq Clock] in
/-- A clock that is not in use is put on, or that fails. -/
theorem Running.switchOn (gates : ClkGates table isOn) (running : Running table isOn state)
    {clk : Clock} (unused : state.enableCount clk = 0) :
    Running table isOn (state.switchOn table clk).2 ∧
      ((state.switchOn table clk).1 = 0 → (table.ops clk).enable ≠ none →
        isOn (state.switchOn table clk).2.hw clk) := by
  unfold ClkState.switchOn
  cases isEnable : (table.ops clk).enable with
  | none => exact ⟨running, fun _ gated => absurd rfl gated⟩
  | some enable =>
    refine ⟨⟨running.parent, fun other gated isUsed => ?_⟩, fun success _ => ?_⟩
    · refine gates.enable_other clk enable isEnable state.hw other ?_
        (running.isOn other gated isUsed)
      rintro rfl
      exact isUsed unused
    · exact gates.enable_self clk enable isEnable state.hw success

/-- A clock comes into use when it is on and has a parent. -/
theorem Running.enter (running : Running table isOn state) {clk : Clock} (count : U32)
    (parent : state.parent clk ≠ none)
    (on : (table.ops clk).enable ≠ none → isOn state.hw clk) :
    Running table isOn (state.setEnableCount clk count) := by
  refine ⟨fun other isUsed => ?_, fun other gated isUsed => ?_⟩
  · by_cases same : other = clk
    · exact same ▸ parent
    · refine running.parent other ?_
      unfold ClkState.setEnableCount at isUsed
      dsimp only at isUsed
      rwa [Function.update_of_ne same] at isUsed
  · by_cases same : other = clk
    · subst same
      exact on gated
    · refine running.isOn other gated ?_
      unfold ClkState.setEnableCount at isUsed
      dsimp only at isUsed
      rwa [Function.update_of_ne same] at isUsed

/-! ### The counts -/

omit [DecidableEq Clock] in
/-- The references of a clock, as a number -/
def ClkState.refs (state : ClkState Clock Hw) (clk : Clock) : Nat := (state.enableCount clk).toNat

omit [DecidableEq Clock] in
theorem refs_eq_zero_iff (clk : Clock) : state.refs clk = 0 ↔ state.enableCount clk = 0 :=
  ⟨fun none => BitVec.eq_of_toNat_eq none, fun none => congrArg BitVec.toNat none⟩

theorem refs_setEnableCount (clk : Clock) (count : U32) (state : ClkState Clock Hw) :
    (state.setEnableCount clk count).refs = Function.update state.refs clk count.toNat := by
  funext other
  unfold ClkState.refs ClkState.setEnableCount
  by_cases same : other = clk
  · subst same
    simp
  · simp [Function.update_of_ne same]

omit [DecidableEq Clock] in
theorem toNat_enableCount_sub_one {clk : Clock} (used : state.enableCount clk ≠ 0) :
    (state.enableCount clk - 1).toNat = state.refs clk - 1 := by
  have positive : state.refs clk ≠ 0 := fun none => used ((refs_eq_zero_iff clk).mp none)
  exact BitVec.toNat_sub_of_le (BitVec.le_def.mpr (Nat.one_le_iff_ne_zero.mpr positive))

variable [Fintype Clock]

/-- No clock is held so often that its count could overflow when each other clock needs it too. -/
def HoldsFit (holds : Clock → Nat) : Prop := ∀ clk, holds clk + Fintype.card Clock < 0x100000000

omit [DecidableEq Clock] in
instance (holds : Clock → Nat) : Decidable (HoldsFit holds) :=
  inferInstanceAs (Decidable (∀ _, _))

/-- The references of the clocks are those that are held from outside and those of the clocks that
are in use. -/
abbrev ClkState.Counted (table : ClkTable Clock Hw) (state : ClkState Clock Hw)
    (holds : Clock → Nat) : Prop :=
  Balanced (fun clk => table.clkIsRoot clk = true) state.parent state.refs holds

theorem counted_hold_root {clk : Clock} (root : table.clkIsRoot clk = true)
    (state : ClkState Clock Hw) (holds : Clock → Nat) :
    state.Counted table (holdUp holds (some clk)) ↔ state.Counted table holds :=
  @Balanced.hold_root _ _ _ (fun clk => table.clkIsRoot clk = true) _ _ _ clk root

/-- The count of a clock does not overflow when one more reference is taken. -/
theorem toNat_enableCount_add_one {holds : Clock → Nat} (ranked : Ranked rank state)
    (fit : HoldsFit holds) (counted : state.Counted table holds) (clk : Clock) :
    (state.enableCount clk + 1).toNat = state.refs clk + 1 := by
  have few := counted.count_lt (ranked.parent_ne clk)
  have room := fit clk
  rw [BitVec.toNat_add]
  exact Nat.mod_eq_of_lt (Nat.lt_of_le_of_lt few room)

/-- What a disabling does: it ends, and gives back one reference. -/
structure Disabled (table : ClkTable Clock Hw) (isOn : Hw → Clock → Prop) (rank : Clock → Nat)
    (clk : Option Clock) (state after : ClkState Clock Hw) : Prop where
  below : Below rank (height rank clk) state after
  running : Running table isOn state → Running table isOn after
  counted : ∀ holds, state.Counted table (holdUp holds clk) → after.Counted table holds

theorem disabled_clkDisableInner (gates : ClkGates table isOn) {depth : Nat} (clk : Option Clock)
    (ranked : Ranked rank state) (deep : height rank clk < depth) :
    ∃ after, clkDisableInner table depth clk state = some after ∧
      Disabled table isOn rank clk state after := by
  induction depth generalizing clk state with
  | zero => exact absurd deep (Nat.not_lt_zero _)
  | succ depth inductionHypothesis =>
    cases clk with
    | none => exact ⟨state, rfl, Below.refl state, id, fun _ counted => counted⟩
    | some clk =>
      unfold clkDisableInner
      by_cases unused : state.enableCount clk = 0
      · rw [if_pos unused]
        refine ⟨state, rfl, Below.refl state, id, fun holds counted => ?_⟩
        by_cases root : table.clkIsRoot clk = true
        · exact (counted_hold_root root state holds).mp counted
        · have counts := counted.counts clk root
          rw [holdUp_some, hold_self, (refs_eq_zero_iff clk).mpr unused] at counts
          omega
      · rw [if_neg unused]
        dsimp only
        have isCount : (state.setEnableCount clk (state.enableCount clk - 1)).enableCount clk =
            state.enableCount clk - 1 := Function.update_self _ _ _
        rw [isCount]
        have isLess := toNat_enableCount_sub_one unused
        by_cases several : state.enableCount clk - 1 > 0
        · rw [if_pos several]
          refine ⟨_, rfl, below_setEnableCount clk _ state, fun running => ?_,
            fun holds counted => ?_⟩
          · exact running.setEnableCount fun _ => unused
          · have left : 0 < state.refs clk - 1 := isLess ▸ BitVec.lt_def.mp several
            unfold ClkState.Counted
            rw [refs_setEnableCount, isLess]
            exact Balanced.drop counted (by omega)
        · rw [if_neg several]
          have isZero : state.enableCount clk - 1 = 0 := by
            refine BitVec.eq_of_toNat_eq (Nat.eq_zero_of_not_pos fun left => several ?_)
            exact BitVec.lt_def.mpr left
          have last : state.refs clk = 1 := by
            have positive : state.refs clk ≠ 0 := fun none => unused ((refs_eq_zero_iff clk).mp none)
            have noneLeft : state.refs clk - 1 = 0 := isLess ▸ congrArg BitVec.toNat isZero
            omega
          rw [isZero]
          generalize isLeft : state.setEnableCount clk 0 = left
          have below : Below rank (rank clk + 1) state (left.switchOff table clk) := by
            subst isLeft
            exact (below_setEnableCount clk 0 state).trans (below_switchOff clk _)
          have higher : height rank (left.parent clk) < depth := by
            subst isLeft
            exact Nat.lt_of_le_of_lt (ranked.height_parent clk) (Nat.lt_of_succ_lt_succ deep)
          obtain ⟨after, isAfter, disabled⟩ := inductionHypothesis (left.parent clk)
            (ranked.below below) higher
          refine ⟨after, isAfter, below.trans (disabled.below.mono ?_), fun running => ?_,
            fun holds counted => ?_⟩
          · subst isLeft
            exact Nat.le_succ_of_le (ranked.height_parent clk)
          · refine disabled.running (Running.switchOff gates ?_ ?_)
            · subst isLeft
              exact running.setEnableCount fun positive => absurd rfl positive
            · subst isLeft
              exact Function.update_self _ _ _
          · refine disabled.counted holds ?_
            have leave := Balanced.leave counted last (ranked.parent_ne clk)
            have isRefs : (left.switchOff table clk).refs = left.refs := by
              unfold ClkState.refs
              rw [enableCount_switchOff]
            unfold ClkState.Counted
            rw [isRefs, parent_switchOff]
            subst isLeft
            rw [refs_setEnableCount]
            exact leave

/-- What an enabling does: it ends, and takes one reference if it succeeds. -/
structure Enabled (table : ClkTable Clock Hw) (isOn : Hw → Clock → Prop) (rank : Clock → Nat)
    (clk : Option Clock) (state : ClkState Clock Hw) (ret : Int) (after : ClkState Clock Hw) :
    Prop where
  some : ret = 0 → clk ≠ none
  below : Below rank (height rank clk) state after
  running : Running table isOn state → Running table isOn after
  counted : ∀ holds, HoldsFit holds → state.Counted table holds →
    after.Counted table (if ret = 0 then holdUp holds clk else holds)

theorem enabled_clkEnableInner (gates : ClkGates table isOn) {depth : Nat} (clk : Option Clock)
    (ranked : Ranked rank state) (deep : height rank clk < depth) :
    ∃ ret after, clkEnableInner table depth clk state = some (ret, after) ∧
      Enabled table isOn rank clk state ret after := by
  induction depth generalizing clk state with
  | zero => exact absurd deep (Nat.not_lt_zero _)
  | succ depth inductionHypothesis =>
    cases clk with
    | none =>
      exact ⟨-1, state, rfl, fun success => absurd success (by decide), Below.refl state, id,
        fun _ _ counted => counted⟩
    | some clk =>
      unfold clkEnableInner
      have isSome : (0 : Int) = 0 → some clk ≠ none := fun _ => by simp
      by_cases root : table.clkIsRoot clk = true
      · rw [if_pos root]
        refine ⟨0, state, rfl, isSome, Below.refl state, id, fun holds _ counted => ?_⟩
        exact (counted_hold_root root state holds).mpr counted
      · rw [if_neg root]
        by_cases unused : state.enableCount clk = 0
        · rw [if_pos unused]
          have higher : height rank (state.parent clk) < depth :=
            Nat.lt_of_le_of_lt (ranked.height_parent clk) (Nat.lt_of_succ_lt_succ deep)
          have upward : height rank (state.parent clk) ≤ height rank (some clk) :=
            Nat.le_succ_of_le (ranked.height_parent clk)
          obtain ⟨ret, middle, isMiddle, enabled⟩ :=
            inductionHypothesis (state.parent clk) ranked higher
          rw [isMiddle]
          dsimp only
          by_cases failed : ret ≠ 0
          · rw [if_pos failed]
            refine ⟨ret, middle, rfl, fun success => absurd success failed,
              enabled.below.mono upward, enabled.running, fun holds fit counted => ?_⟩
            have kept := enabled.counted holds fit counted
            rw [if_neg failed] at kept ⊢
            exact kept
          · rw [if_neg failed]
            have success : ret = 0 := not_not.mp failed
            have still : middle.enableCount clk = 0 := by
              rw [enabled.below.enableCount clk (ranked.height_parent clk)]
              exact unused
            have on := fun running => Running.switchOn gates (enabled.running running) still
            have below : Below rank (rank clk + 1) state (middle.switchOn table clk).2 :=
              (enabled.below.mono upward).trans (below_switchOn clk middle)
            have isCount := @enableCount_switchOn _ _ table clk middle
            generalize isSwitched : middle.switchOn table clk = switched at on below isCount ⊢
            obtain ⟨ret', next⟩ := switched
            dsimp only at on below isCount ⊢
            have held : ∀ holds, HoldsFit holds → state.Counted table holds →
                next.Counted table (holdUp holds (next.parent clk)) := by
              intro holds fit counted
              have parent := enabled.counted holds fit counted
              rw [if_pos success] at parent
              unfold ClkState.Counted ClkState.refs at parent ⊢
              rw [enabled.below.parent] at parent
              rw [below.parent, isCount]
              exact parent
            by_cases failed' : ret' ≠ 0
            · rw [if_pos failed']
              obtain ⟨after, isAfter, disabled⟩ := disabled_clkDisableInner gates
                (next.parent clk) (ranked.below below) (below.parent ▸ higher)
              rw [isAfter]
              refine ⟨ret', after, rfl, fun success' => absurd success' failed',
                below.trans (disabled.below.mono (below.parent ▸ upward)), fun running => ?_,
                fun holds fit counted => ?_⟩
              · exact disabled.running (on running).1
              · rw [if_neg failed']
                exact disabled.counted holds (held holds fit counted)
            · rw [if_neg failed']
              have success' : ret' = 0 := not_not.mp failed'
              have unused' : next.enableCount clk = 0 := by
                rw [isCount]
                exact still
              refine ⟨0, _, rfl, isSome, below.trans (below_setEnableCount clk _ next),
                fun running => ?_, fun holds fit counted => ?_⟩
              · refine Running.enter (on running).1 _ ?_ ((on running).2 success')
                rw [below.parent]
                exact enabled.some success
              · rw [if_pos rfl, unused']
                unfold ClkState.Counted
                rw [refs_setEnableCount]
                exact Balanced.enter (held holds fit counted) root
                  ((refs_eq_zero_iff clk).mpr unused') ((ranked.below below).parent_ne clk)
        · rw [if_neg unused]
          have used : 0 < state.refs clk :=
            Nat.pos_of_ne_zero fun none => unused ((refs_eq_zero_iff clk).mp none)
          refine ⟨0, _, rfl, isSome, below_setEnableCount clk _ state, fun running => ?_,
            fun holds fit counted => ?_⟩
          · exact running.setEnableCount fun _ => unused
          · unfold ClkState.Counted
            rw [refs_setEnableCount, toNat_enableCount_add_one ranked fit counted clk]
            exact Balanced.bump counted used

end Tree

end PinePhonePkg
