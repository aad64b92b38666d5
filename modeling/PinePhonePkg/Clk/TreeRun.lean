/-
This file follows the clocks over whole runs of calls. A client disables only what it
has enabled before, and the new parent of a clock in use can be put on when the clock
is moved.

It proves that each clock has as many references as there are clients and clocks in
use that need it, that a clock in use is on and fed by clocks that are on, and that no
clock is in use when all clients are done.
-/

import PinePhonePkg.Clk.Tree
import PinePhonePkg.Library.Runs

namespace PinePhonePkg

open Library RefTree

section Moving

variable {Clock Hw : Type} [DecidableEq Clock] {table : ClkTable Clock Hw}
  {isOn : Hw → Clock → Prop} {rank : Clock → Nat} {state : ClkState Clock Hw}

/-! ### The parents that are known -/

omit [DecidableEq Clock] in
/-- What can be a parent of a clock has a lower rank. -/
def ClkTable.Layered (table : ClkTable Clock Hw) (rank : Clock → Nat) : Prop :=
  ∀ clk up, table.name up ∈ table.parentNames clk → rank up < rank clk

/-- What is in the array of parents has the name at its place. -/
def Cached (table : ClkTable Clock Hw) (state : ClkState Clock Hw) : Prop :=
  ∀ clk index up, state.cachedParents clk index = some up →
    (table.parentNames clk)[index]? = some (table.name up)

omit [DecidableEq Clock] in
theorem clkLookup_some {name : List U8} {clk : Clock}
    (found : clkLookup table name state = some clk) :
    clk ∈ state.clkList ∧ table.name clk = name :=
  ⟨List.mem_of_find?_eq_some found, by simpa using List.find?_some found⟩

omit [DecidableEq Clock] in
/-- Clocks with names of their own are found by them. -/
theorem clkLookup_name (names : (state.clkList.map table.name).Nodup) {clk : Clock}
    (registered : clk ∈ state.clkList) : clkLookup table (table.name clk) state = some clk := by
  cases found : clkLookup table (table.name clk) state with
  | none =>
    have missing := List.find?_eq_none.mp found clk registered
    simp at missing
  | some other =>
    obtain ⟨isRegistered, same⟩ := clkLookup_some found
    exact congrArg some (List.inj_on_of_nodup_map names isRegistered registered same)

theorem Cached.parentNames {clk parent : Clock} {index : Nat} (cached : Cached table state)
    (found : parentIndex table clk parent state = some index) :
    (table.parentNames clk)[index]? = some (table.name parent) := by
  have matched := List.find?_some found
  rw [decide_eq_true_eq] at matched
  rcases matched with pointer | named
  · exact cached clk index parent pointer
  · exact named

section Enter

variable {parent : Clock} (lookup : clkLookup table (table.name parent) state = some parent)
include lookup

/-- The parent that was found is entered at its index. -/
theorem cachedParents_enterParent (clk : Clock) (index : Nat) :
    (enterParent table clk parent index state).cachedParents clk index = some parent := by
  unfold enterParent ClkState.cachedParents
  simp only [Function.update_self, Option.getD_some]
  split
  next entered => exact entered
  next => rw [Function.update_self, lookup]

theorem Cached.enterParent (cached : Cached table state) {clk : Clock} {index : Nat}
    (named : (table.parentNames clk)[index]? = some (table.name parent)) :
    Cached table (enterParent table clk parent index state) := by
  intro other place up entered
  unfold PinePhonePkg.enterParent ClkState.cachedParents at entered
  dsimp only at entered
  by_cases same : other = clk
  · subst same
    rw [Function.update_self, Option.getD_some] at entered
    split at entered
    next => exact cached other place up entered
    next =>
      by_cases here : place = index
      · subst here
        rw [Function.update_self, lookup] at entered
        rw [← Option.some.inj entered]
        exact named
      · rw [Function.update_of_ne here] at entered
        exact cached other place up entered
  · rw [Function.update_of_ne same] at entered
    exact cached other place up entered

end Enter

/-! ### Another parent -/

variable [Fintype Clock]

/-- What holds of the clocks between the calls -/
structure ClkInvariant (table : ClkTable Clock Hw) (isOn : Hw → Clock → Prop) (rank : Clock → Nat)
    (holds : Clock → Nat) (state : ClkState Clock Hw) : Prop where
  names : (state.clkList.map table.name).Nodup
  known : ∀ clk up, state.parent clk = some up → up ∈ state.clkList
  held : ∀ clk, holds clk ≠ 0 → clk ∈ state.clkList
  ranked : Ranked rank state
  cached : Cached table state
  running : Running table isOn state
  counted : state.Counted table holds

/-- The new parent of a clock in use can be put on. -/
def ParentEnables (table : ClkTable Clock Hw) (depth : Nat) (clk parent : Clock)
    (state : ClkState Clock Hw) : Prop :=
  ∀ index, parentIndex table clk parent state = some index → state.enableCount clk ≠ 0 →
    ∀ ret after, clkEnableInner table depth (some parent)
      (enterParent table clk parent index state) = some (ret, after) → ret = 0

variable {depth : Nat} {holds : Clock → Nat}

omit [DecidableEq Clock] [Fintype Clock] in
theorem Cached.below {limit : Nat} {after : ClkState Clock Hw} (cached : Cached table state)
    (below : Below rank limit state after) : Cached table after := by
  unfold Cached ClkState.cachedParents
  rw [below.parents]
  exact cached

omit [Fintype Clock] in
/-- A clock that goes over stays on with all others. -/
theorem Running.switchParent (gates : ClkGates table isOn) (running : Running table isOn state)
    {clk up : Clock} {index : Nat} (entered : state.cachedParents clk index = some up) :
    Running table isOn (state.switchParent table clk index).2 := by
  have parent : ∀ other, state.enableCount other ≠ 0 →
      Function.update state.parent clk (state.cachedParents clk index) other ≠ none := by
    intro other used
    by_cases same : other = clk
    · subst same
      rw [Function.update_self, entered]
      simp
    · rw [Function.update_of_ne same]
      exact running.parent other used
  unfold ClkState.switchParent
  cases isSetParent : (table.ops clk).setParent with
  | none => exact ⟨parent, running.isOn⟩
  | some setParent =>
    exact ⟨parent, fun other gated used =>
      gates.setParent clk setParent isSetParent state.hw index other
        (running.isOn other gated used)⟩

omit [Fintype Clock] in
theorem switchParent_fields (clk : Clock) (index : Nat) (state : ClkState Clock Hw) :
    (state.switchParent table clk index).2.clkList = state.clkList ∧
      (state.switchParent table clk index).2.parent =
        Function.update state.parent clk (state.cachedParents clk index) ∧
      (state.switchParent table clk index).2.parents = state.parents ∧
      (state.switchParent table clk index).2.enableCount = state.enableCount := by
  unfold ClkState.switchParent
  cases (table.ops clk).setParent <;> exact ⟨rfl, rfl, rfl, rfl⟩

/-- A clock that goes over to a parent of a lower rank -/
theorem ClkInvariant.switchParent (gates : ClkGates table isOn) {clk up : Clock} {index : Nat}
    {held : Clock → Nat} (invariant : ClkInvariant table isOn rank held state)
    (entered : state.cachedParents clk index = some up) (lower : rank up < rank clk)
    (registered : up ∈ state.clkList) (isHeld : ∀ clk, holds clk ≠ 0 → clk ∈ state.clkList)
    (counted : Balanced (fun clk => table.clkIsRoot clk = true)
      (Function.update state.parent clk (some up)) state.refs holds) :
    ClkInvariant table isOn rank holds (state.switchParent table clk index).2 := by
  obtain ⟨isList, isParent, isParents, isCount⟩ :=
    @switchParent_fields _ _ _ table clk index state
  rw [entered] at isParent
  have parents : ∀ other upper, (state.switchParent table clk index).2.parent other = some upper →
      rank upper < rank other ∧ upper ∈ state.clkList := by
    intro other upper same
    rw [isParent] at same
    by_cases isClk : other = clk
    · subst isClk
      rw [Function.update_self] at same
      obtain rfl := Option.some.inj same
      exact ⟨lower, registered⟩
    · rw [Function.update_of_ne isClk] at same
      exact ⟨invariant.ranked other upper same, invariant.known other upper same⟩
  refine ⟨isList ▸ invariant.names, fun other upper same => isList ▸ (parents other upper same).2,
    isList ▸ isHeld, fun other upper same => (parents other upper same).1, ?_,
    invariant.running.switchParent gates entered, ?_⟩
  · unfold Cached ClkState.cachedParents
    rw [isParents]
    exact invariant.cached
  · unfold ClkState.Counted ClkState.refs
    rw [isParent, isCount]
    exact counted

/-- After an enabling or a disabling -/
theorem ClkInvariant.after {limit : Nat} {held : Clock → Nat} {after : ClkState Clock Hw}
    (invariant : ClkInvariant table isOn rank held state) (below : Below rank limit state after)
    (running : Running table isOn after) (isHeld : ∀ clk, holds clk ≠ 0 → clk ∈ state.clkList)
    (counted : after.Counted table holds) : ClkInvariant table isOn rank holds after := by
  refine ⟨below.clkList ▸ invariant.names, ?_, below.clkList ▸ isHeld,
    invariant.ranked.below below, invariant.cached.below below, running, counted⟩
  rw [below.clkList, below.parent]
  exact invariant.known

/-- Only the arrays of parents are other ones. -/
theorem ClkInvariant.withParents {after : ClkState Clock Hw}
    (invariant : ClkInvariant table isOn rank holds state) (cached : Cached table after)
    (clkList : after.clkList = state.clkList) (parent : after.parent = state.parent)
    (enableCount : after.enableCount = state.enableCount) (hw : after.hw = state.hw) :
    ClkInvariant table isOn rank holds after := by
  refine ⟨clkList ▸ invariant.names, ?_, clkList ▸ invariant.held, ?_, cached, ⟨?_, ?_⟩, ?_⟩
  · rw [clkList, parent]
    exact invariant.known
  · unfold Ranked
    rw [parent]
    exact invariant.ranked
  · rw [enableCount, parent]
    exact invariant.running.parent
  · rw [enableCount, hw]
    exact invariant.running.isOn
  · unfold ClkState.Counted ClkState.refs
    rw [parent, enableCount]
    exact invariant.counted

/-- What is held is registered, and so is a new parent that is held as well. -/
theorem ClkInvariant.held_hold (invariant : ClkInvariant table isOn rank holds state)
    {parent : Clock} (registered : parent ∈ state.clkList) :
    ∀ clk, hold holds parent clk ≠ 0 → clk ∈ state.clkList := by
  intro clk isHeld
  by_cases same : clk = parent
  · exact same ▸ registered
  · rw [hold_of_ne same] at isHeld
    exact invariant.held clk isHeld

/-- What is held is registered, and so is the parent that a clock leaves. -/
theorem ClkInvariant.held_holdUp (invariant : ClkInvariant table isOn rank holds state)
    (clk : Clock) : ∀ other, holdUp holds (state.parent clk) other ≠ 0 → other ∈ state.clkList := by
  intro other isHeld
  rw [holdUp_apply] at isHeld
  by_cases isOld : state.parent clk = some other
  · exact invariant.known clk other isOld
  · rw [if_neg isOld] at isHeld
    exact invariant.held other isHeld

section Move

variable {clk parent : Clock} {index : Nat}

/-- The parent that was found is entered in the array. -/
theorem ClkInvariant.enterParent (invariant : ClkInvariant table isOn rank holds state)
    (registered : parent ∈ state.clkList)
    (found : parentIndex table clk parent state = some index) :
    (enterParent table clk parent index state).cachedParents clk index = some parent ∧
      ClkInvariant table isOn rank holds (PinePhonePkg.enterParent table clk parent index state) := by
  have named := invariant.cached.parentNames found
  have lookup := clkLookup_name invariant.names registered
  exact ⟨cachedParents_enterParent lookup clk index,
    invariant.withParents (Cached.enterParent lookup invariant.cached named) rfl rfl rfl rfl⟩

/-- A clock in use goes over when its new parent has been put on for it, and gives the old one
back. -/
theorem ClkInvariant.moveUsed (gates : ClkGates table isOn) (deep : ∀ clk, rank clk + 1 < depth)
    (invariant : ClkInvariant table isOn rank holds state)
    (isEntry : state.cachedParents clk index = some parent) (lower : rank parent < rank clk)
    (registered : parent ∈ state.clkList) {middle : ClkState Clock Hw}
    (below : Below rank (height rank (some parent)) state middle)
    (running : Running table isOn middle) (taken : middle.Counted table (hold holds parent))
    (used : middle.enableCount clk ≠ 0) :
    ∃ after, clkDisableInner table depth (state.parent clk)
        (middle.switchParent table clk index).2 = some after ∧
      ClkInvariant table isOn rank holds after := by
  have before : ClkInvariant table isOn rank (hold holds parent) middle :=
    invariant.after below running (invariant.held_hold registered) taken
  have isEntry' : middle.cachedParents clk index = some parent := by
    unfold ClkState.cachedParents at isEntry ⊢
    rw [below.parents]
    exact isEntry
  have old : middle.parent clk = state.parent clk := congrFun below.parent clk
  have isHeld : ∀ other, holdUp holds (middle.parent clk) other ≠ 0 →
      other ∈ middle.clkList := by
    rw [old, below.clkList]
    exact invariant.held_holdUp clk
  have isUsed : 0 < middle.refs clk :=
    Nat.pos_of_ne_zero fun none => used ((refs_eq_zero_iff clk).mp none)
  have moved := before.switchParent gates isEntry' lower (below.clkList ▸ registered) isHeld
    (Balanced.move taken isUsed)
  rw [old] at moved
  have higher : height rank (state.parent clk) < depth :=
    Nat.lt_of_le_of_lt (invariant.ranked.height_parent clk) (Nat.lt_of_succ_lt (deep clk))
  obtain ⟨after, isAfter, disabled⟩ :=
    disabled_clkDisableInner gates (state.parent clk) moved.ranked higher
  refine ⟨after, isAfter, moved.after disabled.below (disabled.running moved.running) ?_
    (disabled.counted holds moved.counted)⟩
  rw [(switchParent_fields clk index middle).1, below.clkList]
  exact invariant.held

end Move

/-- A clock is moved with the counts balanced. -/
theorem clkSetParentInner_spec (gates : ClkGates table isOn) (layered : table.Layered rank)
    (deep : ∀ clk, rank clk + 1 < depth) (fit : HoldsFit holds)
    (invariant : ClkInvariant table isOn rank holds state) {clk parent : Clock}
    (registered : parent ∈ state.clkList) (enables : ParentEnables table depth clk parent state) :
    ∃ ret after, clkSetParentInner table depth clk parent state = some (ret, after) ∧
      ClkInvariant table isOn rank holds after := by
  unfold clkSetParentInner
  dsimp only
  cases found : parentIndex table clk parent state with
  | none =>
    refine ⟨-1, _, rfl, invariant.withParents (fun other place up entered => ?_) rfl rfl rfl rfl⟩
    refine invariant.cached other place up ?_
    unfold ClkState.cachedParents at entered ⊢
    dsimp only at entered
    by_cases same : other = clk
    · subst same
      rwa [Function.update_self, Option.getD_some] at entered
    · rwa [Function.update_of_ne same] at entered
  | some index =>
    dsimp only
    have lower : rank parent < rank clk :=
      layered clk parent (List.mem_of_getElem? (invariant.cached.parentNames found))
    obtain ⟨isEntry, start⟩ := invariant.enterParent registered found
    have able := enables index found
    have isRegistered : parent ∈ (enterParent table clk parent index state).clkList := registered
    have isOld : (enterParent table clk parent index state).parent clk = state.parent clk := rfl
    have isCount : (enterParent table clk parent index state).enableCount = state.enableCount := rfl
    generalize enterParent table clk parent index state = entered at *
    by_cases used : entered.enableCount clk ≠ 0
    · rw [if_pos used]
      obtain ⟨ret, middle, isMiddle, enabled⟩ :=
        enabled_clkEnableInner gates (some parent) start.ranked (deep parent)
      have taken := enabled.counted holds fit start.counted
      rw [if_pos (able (isCount ▸ used) ret middle isMiddle)] at taken
      have stillUsed : middle.enableCount clk ≠ 0 := by
        rw [enabled.below.enableCount clk lower]
        exact used
      obtain ⟨after, isAfter, moved⟩ := start.moveUsed gates deep isEntry lower isRegistered
        enabled.below (enabled.running start.running) taken stillUsed
      rw [isMiddle]
      dsimp only [Option.map_some]
      rw [(switchParent_fields clk index middle).2.2.2, if_pos stillUsed, ← isOld, isAfter]
      exact ⟨_, after, rfl, moved⟩
    · rw [if_neg used]
      dsimp only
      have moved := start.switchParent gates isEntry lower isRegistered start.held
        (Balanced.move_unused start.counted ((refs_eq_zero_iff clk).mpr (not_not.mp used)))
      rw [(switchParent_fields clk index entered).2.2.2, if_neg used]
      exact ⟨_, _, rfl, moved⟩

theorem clkSetParent_spec (gates : ClkGates table isOn) (layered : table.Layered rank)
    (deep : ∀ clk, rank clk + 1 < depth) (fit : HoldsFit holds)
    (invariant : ClkInvariant table isOn rank holds state)
    {clk parent : Clock} (registered : parent ∈ state.clkList)
    (enables : ParentEnables table depth clk parent state) :
    ∃ ret after, clkSetParent table depth clk parent state = some (ret, after) ∧
      ClkInvariant table isOn rank holds after := by
  unfold clkSetParent
  by_cases fixed : (table.ops clk).setParent.isNone = true
  · rw [if_pos fixed]
    exact ⟨-1, state, rfl, invariant⟩
  · rw [if_neg fixed]
    by_cases same : state.parent clk = some parent
    · rw [if_pos same]
      exact ⟨0, state, rfl, invariant⟩
    · rw [if_neg same]
      have rates : ∀ {state : ClkState Clock Hw}, ClkInvariant table isOn rank holds state →
          ClkInvariant table isOn rank holds (clkRecalcRates table clk state) :=
        fun invariant => invariant.withParents invariant.cached rfl rfl rfl rfl
      by_cases gate : table.clkSetParentGate clk ∧ state.prepareCount clk ≠ 0
      · rw [if_pos gate]
        exact ⟨-1, _, if_pos (by decide), rates invariant⟩
      · rw [if_neg gate]
        obtain ⟨ret, after, isAfter, moved⟩ :=
          clkSetParentInner_spec gates layered deep fit invariant registered enables
        rw [isAfter]
        dsimp only
        by_cases failed : ret ≠ 0
        · rw [if_pos failed]
          exact ⟨ret, _, rfl, rates moved⟩
        · rw [if_neg failed]
          exact ⟨ret, after, rfl, moved⟩

/-! ### Rates and new clocks -/

omit [Fintype Clock] in
theorem hw_clkSetRate (gates : ClkGates table isOn) (clk : Clock) (rate : Ulong)
    (state : ClkState Clock Hw) {other : Clock} (on : isOn state.hw other) :
    isOn (clkSetRate table clk rate state).2.hw other := by
  unfold clkSetRate
  split
  next => exact on
  next =>
    cases state.parent clk with
    | none => exact on
    | some parent =>
      dsimp only
      cases isSetRate : (table.ops clk).setRate with
      | none => exact on
      | some setRate => exact gates.setRate clk setRate isSetRate _ _ _ other on

theorem ClkInvariant.clkSetRate (gates : ClkGates table isOn)
    (invariant : ClkInvariant table isOn rank holds state) (clk : Clock) (rate : Ulong) :
    ClkInvariant table isOn rank holds (clkSetRate table clk rate state).2 := by
  have hw := @hw_clkSetRate _ _ _ table isOn gates clk rate state
  have fields : (PinePhonePkg.clkSetRate table clk rate state).2.clkList = state.clkList ∧
      (PinePhonePkg.clkSetRate table clk rate state).2.parent = state.parent ∧
      (PinePhonePkg.clkSetRate table clk rate state).2.parents = state.parents ∧
      (PinePhonePkg.clkSetRate table clk rate state).2.enableCount = state.enableCount := by
    unfold PinePhonePkg.clkSetRate
    split
    next => exact ⟨rfl, rfl, rfl, rfl⟩
    next => cases state.parent clk <;> exact ⟨rfl, rfl, rfl, rfl⟩
  obtain ⟨isList, isParent, isParents, isCount⟩ := fields
  refine ⟨isList ▸ invariant.names, ?_, isList ▸ invariant.held, ?_, ?_, ⟨?_, ?_⟩, ?_⟩
  · rw [isList, isParent]
    exact invariant.known
  · unfold Ranked
    rw [isParent]
    exact invariant.ranked
  · unfold Cached ClkState.cachedParents
    rw [isParents]
    exact invariant.cached
  · rw [isCount, isParent]
    exact invariant.running.parent
  · rw [isCount]
    exact fun other gated used => hw (invariant.running.isOn other gated used)
  · unfold ClkState.Counted ClkState.refs
    rw [isParent, isCount]
    exact invariant.counted

/-- A clock that is not registered is not in use. -/
theorem ClkInvariant.unused (invariant : ClkInvariant table isOn rank holds state) {clk : Clock}
    (unregistered : clk ∉ state.clkList) : state.enableCount clk = 0 := by
  refine (refs_eq_zero_iff clk).mp ?_
  by_cases root : table.clkIsRoot clk = true
  · exact invariant.counted.roots clk root
  · have notHeld : holds clk = 0 := not_not.mp fun held => unregistered (invariant.held clk held)
    have noUser : users (link state.parent state.refs) clk = ∅ := by
      refine Finset.filter_eq_empty_iff.mpr fun other _ linked => unregistered ?_
      unfold link at linked
      split at linked
      next => exact invariant.known other clk linked
      next => exact absurd linked (by simp)
    rw [invariant.counted.counts clk root, notHeld, noUser]
    rfl

omit [DecidableEq Clock] [Fintype Clock] in
/-- The first parent is one of the registered clocks with a name of a parent. -/
theorem clkInitParent_some {clk up : Clock} (found : clkInitParent table clk state = some up) :
    up ∈ state.clkList ∧ table.name up ∈ table.parentNames clk := by
  unfold clkInitParent at found
  split at found
  next => exact absurd found (by simp)
  next name isName =>
    obtain ⟨registered, same⟩ := clkLookup_some found
    rw [isName]
    exact ⟨registered, List.mem_singleton.mpr same⟩
  next =>
    split at found
    next getParent _ =>
      obtain ⟨name, isName, isUp⟩ := Option.bind_eq_some_iff.mp found
      obtain ⟨registered, same⟩ := clkLookup_some isUp
      exact ⟨registered, same ▸ List.mem_of_getElem? isName⟩
    next => exact absurd found (by simp)

theorem ClkInvariant.clkRegister (gates : ClkGates table isOn) (layered : table.Layered rank)
    (invariant : ClkInvariant table isOn rank holds state) (clk : Clock) :
    ClkInvariant table isOn rank holds (clkRegister table clk state).2 := by
  unfold PinePhonePkg.clkRegister
  split
  next => exact invariant
  next unknown =>
    split
    next => exact invariant
    next =>
      dsimp only
      have newName : table.name clk ∉ state.clkList.map table.name := by
        intro member
        obtain ⟨other, registered, same⟩ := List.mem_map.mp member
        have found := clkLookup_name invariant.names registered
        rw [same] at found
        exact unknown (by rw [found]; rfl)
      have unregistered : clk ∉ state.clkList := fun member => newName (List.mem_map_of_mem member)
      have unused := invariant.unused unregistered
      have sameCount : Function.update state.enableCount clk 0 = state.enableCount :=
        Function.update_eq_self_iff.mpr unused.symm
      have parents : ∀ other up,
          Function.update state.parent clk (clkInitParent table clk state) other = some up →
          rank up < rank other ∧ up ∈ state.clkList := by
        intro other up same
        by_cases isClk : other = clk
        · subst isClk
          rw [Function.update_self] at same
          obtain ⟨registered, named⟩ := clkInitParent_some same
          exact ⟨layered other up named, registered⟩
        · rw [Function.update_of_ne isClk] at same
          exact ⟨invariant.ranked other up same, invariant.known other up same⟩
      refine ⟨List.nodup_cons.mpr ⟨newName, invariant.names⟩,
        fun other up same => List.mem_cons_of_mem _ (parents other up same).2,
        fun other held => List.mem_cons_of_mem _ (invariant.held other held),
        fun other up same => (parents other up same).1, fun other place up entered => ?_,
        ⟨fun other used => ?_, fun other gated used => ?_⟩, ?_⟩
      · unfold ClkState.cachedParents at entered
        dsimp only at entered
        by_cases isClk : other = clk
        · subst isClk
          rw [Function.update_self] at entered
          split at entered
          next =>
            obtain ⟨name, isName, isUp⟩ := Option.bind_eq_some_iff.mp entered
            rw [isName, (clkLookup_some isUp).2]
          next => exact absurd entered (by simp)
        · rw [Function.update_of_ne isClk] at entered
          exact invariant.cached other place up entered
      · dsimp only at used ⊢
        rw [sameCount] at used
        have different : other ≠ clk := by
          rintro rfl
          exact used unused
        rw [Function.update_of_ne different]
        exact invariant.running.parent other used
      · dsimp only at used ⊢
        rw [sameCount] at used
        have on := invariant.running.isOn other gated used
        cases isInit : (table.ops clk).init with
        | none => exact on
        | some init => exact gates.init clk init isInit state.hw other on
      · unfold ClkState.Counted ClkState.refs
        dsimp only
        rw [sameCount]
        exact Balanced.move_unused invariant.counted ((refs_eq_zero_iff clk).mpr unused)

end Moving

/-! ### Runs -/

/-- What a client asks of the tree -/
inductive ClkCall (Clock : Type) : Type where
  | register (clk : Clock)
  | prepareEnable (clk : Clock)
  | disable (clk : Clock)
  | setParent (clk parent : Clock)
  | setRate (clk : Clock) (rate : Ulong)

/-- The clocks, what the clients hold, and whether every call has ended -/
structure ClkSession (Clock Hw : Type) : Type where
  state : ClkState Clock Hw
  holds : Clock → Nat
  ended : Bool

section Runs

variable {Clock Hw : Type} [DecidableEq Clock] (table : ClkTable Clock Hw) (depth : Nat)

/-- What a call does; it does not end where the depth is not enough. -/
def clkCall (state : ClkState Clock Hw) : ClkCall Clock → Option (Int × ClkState Clock Hw)
  | .register clk => some (0, (clkRegister table clk state).2)
  | .prepareEnable clk => clkPrepareEnable table depth clk state
  | .disable clk => clkDisable table depth clk state
  | .setParent clk parent => clkSetParent table depth clk parent state
  | .setRate clk rate => some (clkSetRate table clk rate state)

/-- A client holds a clock that it has enabled until it disables it. -/
def clientHolds (ret : Int) (holds : Clock → Nat) : ClkCall Clock → Clock → Nat
  | .prepareEnable clk => if ret = 0 then hold holds clk else holds
  | .disable clk => Function.update holds clk (holds clk - 1)
  | _ => holds

/-- A call with the references that its client then holds -/
def clkStep (session : ClkSession Clock Hw) (call : ClkCall Clock) : ClkSession Clock Hw :=
  match clkCall table depth session.state call with
  | some (ret, state) => ⟨state, clientHolds ret session.holds call, session.ended⟩
  | none => { session with ended := false }

/-- Clients know the clocks that are registered, they disable what they hold, a clock in use is
moved only to a parent that can be put on, and no count is near its end when a reference is taken. -/
def ClkFair [Fintype Clock] (session : ClkSession Clock Hw) : ClkCall Clock → Prop
  | .register _ => True
  | .prepareEnable clk => clk ∈ session.state.clkList ∧ HoldsFit session.holds
  | .disable clk => 0 < session.holds clk
  | .setParent clk parent =>
    parent ∈ session.state.clkList ∧ HoldsFit session.holds ∧
      ParentEnables table depth clk parent session.state
  | .setRate _ _ => True

/-- Before the first clock is registered -/
def noClocks (hw : Hw) : ClkSession Clock Hw where
  state := {
    clkList := []
    parent := fun _ => none
    parents := fun _ => none
    rate := fun _ => 0
    newRate := fun _ => 0
    enableCount := fun _ => 0
    prepareCount := fun _ => 0
    hw := hw }
  holds := fun _ => 0
  ended := true

variable {table depth} [Fintype Clock] {isOn : Hw → Clock → Prop} {rank : Clock → Nat}

/-- What holds of a session -/
def ClkSession.Right (table : ClkTable Clock Hw) (isOn : Hw → Clock → Prop) (rank : Clock → Nat)
    (session : ClkSession Clock Hw) : Prop :=
  ClkInvariant table isOn rank session.holds session.state ∧ session.ended = true

theorem right_noClocks (hw : Hw) : (noClocks hw : ClkSession Clock Hw).Right table isOn rank := by
  refine ⟨⟨List.nodup_nil, fun _ _ same => absurd same (by simp [noClocks]),
    fun _ held => absurd rfl held, fun _ _ same => absurd same (by simp [noClocks]),
    fun _ _ _ entered => absurd entered (by simp [noClocks, ClkState.cachedParents]),
    ⟨fun _ used => absurd rfl used, fun _ _ used => absurd rfl used⟩,
    fun clk _ => ?_, fun _ _ => rfl⟩, rfl⟩
  have noUser : users (link (noClocks hw).state.parent (noClocks hw).state.refs) clk = ∅ :=
    Finset.filter_eq_empty_iff.mpr fun other _ => by simp [noClocks, link, ClkState.refs]
  rw [noUser]
  rfl

omit [Fintype Clock] in
theorem clkStep_eq {session : ClkSession Clock Hw} {call : ClkCall Clock} {ret : Int}
    {after : ClkState Clock Hw}
    (ends : clkCall table depth session.state call = some (ret, after)) :
    clkStep table depth session call =
      ⟨after, clientHolds ret session.holds call, session.ended⟩ := by
  unfold clkStep
  rw [ends]

theorem right_clkStep (gates : ClkGates table isOn) (layered : table.Layered rank)
    (deep : ∀ clk, rank clk + 1 < depth) {session : ClkSession Clock Hw} {call : ClkCall Clock}
    (right : session.Right table isOn rank) (fair : ClkFair table depth session call) :
    (clkStep table depth session call).Right table isOn rank := by
  obtain ⟨invariant, ended⟩ := right
  cases call with
  | register clk => exact ⟨invariant.clkRegister gates layered clk, ended⟩
  | prepareEnable clk =>
    obtain ⟨ret, after, isAfter, enabled⟩ :=
      enabled_clkEnableInner gates (some clk) invariant.ranked (deep clk)
    have ends : clkCall table depth session.state (.prepareEnable clk) = some (ret, after) := isAfter
    rw [clkStep_eq ends]
    refine ⟨invariant.after enabled.below (enabled.running invariant.running) ?_
      (enabled.counted session.holds fair.2 invariant.counted), ended⟩
    intro other held
    by_cases same : other = clk
    · exact same ▸ fair.1
    · refine invariant.held other ?_
      unfold clientHolds at held
      dsimp only at held
      split at held
      next => rwa [hold_of_ne same] at held
      next => exact held
  | disable clk =>
    obtain ⟨after, isAfter, disabled⟩ :=
      disabled_clkDisableInner gates (some clk) invariant.ranked (deep clk)
    have ends : clkCall table depth session.state (.disable clk) = some (0, after) := by
      unfold clkCall clkDisable
      dsimp only
      rw [isAfter]
      rfl
    have less : hold (Function.update session.holds clk (session.holds clk - 1)) clk =
        session.holds := by
      unfold hold
      rw [Function.update_self, Function.update_idem, Nat.sub_add_cancel fair,
        Function.update_eq_self]
    rw [clkStep_eq ends]
    refine ⟨invariant.after disabled.below (disabled.running invariant.running) ?_
      (disabled.counted _ ?_), ended⟩
    · intro other held
      unfold clientHolds at held
      by_cases same : other = clk
      · exact invariant.held other (same ▸ Nat.pos_iff_ne_zero.mp fair)
      · dsimp only at held
        rw [Function.update_of_ne same] at held
        exact invariant.held other held
    · unfold clientHolds
      dsimp only
      rw [holdUp_some, less]
      exact invariant.counted
  | setParent clk parent =>
    obtain ⟨ret, after, isAfter, moved⟩ :=
      clkSetParent_spec gates layered deep fair.2.1 invariant fair.1 fair.2.2
    have ends : clkCall table depth session.state (.setParent clk parent) = some (ret, after) :=
      isAfter
    rw [clkStep_eq ends]
    exact ⟨moved, ended⟩
  | setRate clk rate => exact ⟨invariant.clkSetRate gates clk rate, ended⟩

theorem right_clkRun (gates : ClkGates table isOn) (layered : table.Layered rank)
    (deep : ∀ clk, rank clk + 1 < depth) (hw : Hw) {calls : List (ClkCall Clock)}
    (fair : Along (clkStep table depth) (ClkFair table depth) (noClocks hw) calls) :
    (run (clkStep table depth) (noClocks hw) calls).Right table isOn rank :=
  fair.invariant (fun _ _ right isFair => right_clkStep gates layered deep right isFair)
    (right_noClocks hw)

/-- A clock in use is fed by a root or by a clock in use. -/
theorem ClkInvariant.fed {holds : Clock → Nat} {state : ClkState Clock Hw}
    (invariant : ClkInvariant table isOn rank holds state) {clk : Clock}
    (used : state.enableCount clk ≠ 0) :
    ∃ up, state.parent clk = some up ∧
      (table.clkIsRoot up = true ∨ state.enableCount up ≠ 0) := by
  cases isParent : state.parent clk with
  | none => exact absurd isParent (invariant.running.parent clk used)
  | some up =>
    have refs : ∀ clk, 0 < state.refs clk ↔ state.enableCount clk ≠ 0 := fun clk =>
      Nat.pos_iff_ne_zero.trans (refs_eq_zero_iff clk).not
    refine ⟨up, rfl, ?_⟩
    rw [← refs up]
    exact Balanced.parent_used invariant.counted ((refs clk).mpr used) isParent

/-- In every fair run each call ends, a clock that is counted has as many references as clients and
clocks in use hold on to it, a clock in use is on and is fed by a root or a clock in use, and when
no client holds a clock any more no clock is in use. -/
theorem clkRun_balanced (gates : ClkGates table isOn) (layered : table.Layered rank)
    (deep : ∀ clk, rank clk + 1 < depth) (hw : Hw) {calls : List (ClkCall Clock)}
    (fair : Along (clkStep table depth) (ClkFair table depth) (noClocks hw) calls) :
    (run (clkStep table depth) (noClocks hw) calls).ended = true ∧
      (∀ clk, table.clkIsRoot clk = false →
        ((run (clkStep table depth) (noClocks hw) calls).state.enableCount clk).toNat =
          (run (clkStep table depth) (noClocks hw) calls).holds clk +
            (Finset.univ.filter fun user =>
              (run (clkStep table depth) (noClocks hw) calls).state.enableCount user ≠ 0 ∧
                (run (clkStep table depth) (noClocks hw) calls).state.parent user =
                  some clk).card) ∧
      (∀ clk, (run (clkStep table depth) (noClocks hw) calls).state.enableCount clk ≠ 0 →
        ((table.ops clk).enable ≠ none →
          isOn (run (clkStep table depth) (noClocks hw) calls).state.hw clk) ∧
        ∃ up, (run (clkStep table depth) (noClocks hw) calls).state.parent clk = some up ∧
          (table.clkIsRoot up = true ∨
            (run (clkStep table depth) (noClocks hw) calls).state.enableCount up ≠ 0)) ∧
      ((∀ clk, table.clkIsRoot clk = false →
          (run (clkStep table depth) (noClocks hw) calls).holds clk = 0) →
        ∀ clk, (run (clkStep table depth) (noClocks hw) calls).state.enableCount clk = 0) := by
  have right := right_clkRun gates layered deep hw fair
  generalize run (clkStep table depth) (noClocks hw) calls = final at right ⊢
  obtain ⟨invariant, ended⟩ := right
  refine ⟨ended, fun clk counted => ?_, fun clk used => ?_, fun free => ?_⟩
  · have counts := invariant.counted.counts clk (by simp [counted])
    refine counts.trans ?_
    congr 2
    refine Finset.filter_congr fun user _ => ?_
    have refs : 0 < final.state.refs user ↔ final.state.enableCount user ≠ 0 :=
      Nat.pos_iff_ne_zero.trans (refs_eq_zero_iff user).not
    unfold link
    split
    next isUsed => exact (and_iff_right (refs.mp isUsed)).symm
    next unused => exact iff_of_false (by simp) fun both => unused (refs.mpr both.1)
  · exact ⟨fun gated => invariant.running.isOn clk gated used, invariant.fed used⟩
  · refine fun clk => (refs_eq_zero_iff clk).mp ?_
    exact Balanced.count_eq_zero invariant.counted invariant.ranked
      (fun clk counted => free clk (eq_false_of_ne_true counted)) clk

end Runs

/-- The oscillator, the PLL that it feeds, and a clock that the PLL feeds -/
inductive ThreeClocks : Type where
  | hosc
  | pllVideo0
  | tcon1
deriving DecidableEq

/-- All of them -/
def threeClocks : Finset ThreeClocks := {.hosc, .pllVideo0, .tcon1}

theorem mem_threeClocks (clk : ThreeClocks) : clk ∈ threeClocks := by
  cases clk <;> decide

instance : Fintype ThreeClocks := ⟨threeClocks, mem_threeClocks⟩

/-- How far the clocks are from the crystal -/
def threeRanks : ThreeClocks → Nat
  | .hosc => 0
  | .pllVideo0 => 1
  | .tcon1 => 2

/-- Each clock has a switch, and nothing else. -/
def threeOps (clk : ThreeClocks) : ClkOps (ThreeClocks → Bool) where
  enable := some fun hw => (0, Function.update hw clk true)
  disable := some fun hw => Function.update hw clk false
  recalcRate := none
  roundRate := none
  setParent := none
  getParent := none
  setRate := none
  init := none

/-- The names, operations and parents of the three clocks -/
def threeTable : ClkTable ThreeClocks (ThreeClocks → Bool) where
  name := fun clk => [BitVec.ofNat 8 (threeRanks clk)]
  ops := threeOps
  parentNames := fun clk =>
    match clk with
    | .hosc => []
    | .pllVideo0 => [[0]]
    | .tcon1 => [[1]]
  clkIsRoot := fun clk => clk = .hosc
  clkSetParentGate := fun _ => false
  clkGetRateNocache := fun _ => false

theorem threeTable_layered : threeTable.Layered threeRanks := by
  intro clk up named
  cases clk <;> cases up <;> revert named <;> decide

theorem threeTable_gates : ClkGates threeTable fun hw clk => hw clk = true where
  enable_self := by
    rintro clk _ ⟨⟩ hw -
    exact Function.update_self _ _ _
  enable_other := by
    rintro clk _ ⟨⟩ hw other different on
    exact (Function.update_of_ne different _ _).trans on
  disable_other := by
    rintro clk _ ⟨⟩ hw other different on
    exact (Function.update_of_ne different _ _).trans on
  setParent := by rintro clk _ ⟨⟩
  setRate := by rintro clk _ ⟨⟩
  init := by rintro clk _ ⟨⟩

/-- The clocks are registered, the last one is enabled twice and disabled once. -/
def threeCalls : List (ClkCall ThreeClocks) :=
  [.register .hosc, .register .pllVideo0, .register .tcon1, .prepareEnable .tcon1,
    .prepareEnable .tcon1, .disable .tcon1]

theorem clkRun_balanced_three :
    (run (clkStep threeTable 4) (noClocks fun _ => false) threeCalls).state.hw .tcon1 = true := by
  have fair : Along (clkStep threeTable 4) (ClkFair threeTable 4) (noClocks fun _ => false)
      threeCalls := by
    refine ⟨trivial, trivial, trivial, ?_, ?_, ?_, trivial⟩
    · exact ⟨List.mem_cons_self, by decide⟩
    · exact ⟨List.mem_cons_self, by decide⟩
    · exact Nat.succ_pos 1
  have deep : ∀ clk, threeRanks clk + 1 < 4 := by
    intro clk
    cases clk <;> decide
  have balanced := clkRun_balanced threeTable_gates threeTable_layered deep (fun _ => false) fair
  exact (balanced.2.2.1 .tcon1 (by decide)).1 (by simp [threeTable, threeOps])

end PinePhonePkg
