/-
This file settles whether host and card stay in the same bus mode when an eMMC
changes it. A CMD6 counts as done when the clock phase and the status after it
are good, whether or not the card carried it out, and a change that stops
between the two registers leaves the card in a mode that has no name.
-/

import PinePhonePkg.Card.Partition
import PinePhonePkg.Mmc.BusMode

namespace PinePhonePkg

open Library Program

/-! ### Modes and registers -/

/-- The timing that a speed mode is for -/
def hsTimingOf (speedMode : U32) : Option U8 :=
  if speedMode = ds26Sdr12 then some extCsdTimingBc
  else if speedMode = hssdr52Sdr25 ∨ speedMode = hsddr52Ddr50 then some extCsdTimingHs
  else if speedMode = hs200Sdr104 then some extCsdTimingHs200
  else if speedMode = hs400 then some extCsdTimingHs400
  else none

/-- BUS_WIDTH tells the two DDR modes from the others. -/
def busWidthOf (speedMode width : U32) : Option U8 :=
  if speedMode = hs400 ∨ speedMode = hsddr52Ddr50 then
    if width = 4 then some extCsdBusDdr4 else if width = 8 then some extCsdBusDdr8 else none
  else if width = 1 then some extCsdBusWidth1
  else if width = 4 then some extCsdBusWidth4
  else if width = 8 then some extCsdBusWidth8
  else none

/-- The speed mode and the width of the descriptor are those of the card. -/
structure Mmc.DescribesBus (mmc : Mmc) (card : Card) : Prop where
  timing : hsTimingOf mmc.speedMode = some (card.extCsd extCsdHsTiming.toNat)
  width : busWidthOf mmc.speedMode mmc.busWidth = some (card.extCsd extCsdBusWidth.toNat)

theorem busWidthOf_injective {speedMode first second : U32} {value : U8}
    (own : busWidthOf speedMode first = some value)
    (other : busWidthOf speedMode second = some value) : first = second := by
  unfold busWidthOf at own other
  grind [extCsdBusDdr4, extCsdBusDdr8, extCsdBusWidth1, extCsdBusWidth4, extCsdBusWidth8]

/-- A value of BUS_WIDTH belongs to the DDR modes or to the others. -/
theorem busWidthOf_ddr_iff {first second width other : U32} {value : U8}
    (own : busWidthOf first width = some value) (same : busWidthOf second other = some value) :
    (first = hs400 ∨ first = hsddr52Ddr50) ↔ (second = hs400 ∨ second = hsddr52Ddr50) := by
  unfold busWidthOf at own same
  grind [extCsdBusDdr4, extCsdBusDdr8, extCsdBusWidth1, extCsdBusWidth4, extCsdBusWidth8]

theorem busWidthOf_congr {first second : U32} (width : U32)
    (same : (first = hs400 ∨ first = hsddr52Ddr50) ↔ (second = hs400 ∨ second = hsddr52Ddr50)) :
    busWidthOf first width = busWidthOf second width := by
  unfold busWidthOf
  simp only [same]

theorem busWidthOf_ddr8 {speedMode width : U32}
    (own : busWidthOf speedMode width = some extCsdBusDdr8) :
    busWidthOf hs400 width = some extCsdBusDdr8 := by
  unfold busWidthOf at own ⊢
  grind [extCsdBusDdr4, extCsdBusDdr8, extCsdBusWidth1, extCsdBusWidth4, extCsdBusWidth8]

theorem describesBus_iff (mmc : Mmc) (card : Card) :
    mmc.DescribesBus card ↔
      hsTimingOf mmc.speedMode = some (card.extCsd extCsdHsTiming.toNat) ∧
        busWidthOf mmc.speedMode mmc.busWidth = some (card.extCsd extCsdBusWidth.toNat) :=
  ⟨fun described => ⟨described.timing, described.width⟩, fun ⟨timing, width⟩ => ⟨timing, width⟩⟩

theorem afterSwitch_register (card : Card) (index value : U8) (answer : Answer) :
    (card.afterSwitch index value answer).extCsd index.toNat =
      if answer.accepted then value else card.extCsd index.toNat := by
  unfold Card.afterSwitch
  split
  · exact Function.update_self _ _ _
  · rfl

theorem afterSwitch_other (card : Card) (index value : U8) (answer : Answer) {other : Nat}
    (apart : other ≠ index.toNat) :
    (card.afterSwitch index value answer).extCsd other = card.extCsd other := by
  unfold Card.afterSwitch
  split
  · exact Function.update_of_ne apart _ _
  · rfl

/-! ### One CMD6 -/

/-- What the host takes the next CMD6 for, by the clock phase and the status after it. -/
def World.switchCounts (world : World) (mmc : Mmc) : Prop :=
  world.nextSwitch.switchResult mmc 1000 = 0

/-- The register has the value already, or the card takes the next CMD6 exactly when the host
counts it. -/
def World.SwitchTold (world : World) (mmc : Mmc) (index value : U8) : Prop :=
  world.card.extCsd index.toNat = value ∨
    (world.nextSwitch.accepted = true ↔ world.switchCounts mmc)

theorem told_of_counts {world : World} {mmc : Mmc} {index value : U8}
    (counted : world.switchCounts mmc) :
    world.SwitchTold mmc index value ↔
      (world.card.afterSwitch index value world.nextSwitch).extCsd index.toNat = value := by
  rw [afterSwitch_register]
  unfold World.SwitchTold
  rw [iff_true_right counted]
  cases world.nextSwitch.accepted with
  | false | true => simp

theorem told_of_not_counts {world : World} {mmc : Mmc} {index value : U8}
    (uncounted : ¬ world.switchCounts mmc) :
    world.SwitchTold mmc index value ↔
      (world.card.afterSwitch index value world.nextSwitch).extCsd index.toNat =
        world.card.extCsd index.toNat := by
  rw [afterSwitch_register]
  unfold World.SwitchTold
  rw [iff_false_right uncounted]
  cases world.nextSwitch.accepted with
  | false => simp
  | true => simp [eq_comm]

theorem exec_mmcSwitch (mmc : Mmc) (index value : U8) (world : World) :
    ((mmcSwitch mmc index value).exec serve world).1 = world.nextSwitch.switchResult mmc 1000 ∧
      ((mmcSwitch mmc index value).exec serve world).2.card =
        world.card.afterSwitch index value world.nextSwitch := by
  have switched : (mmcSwitch mmc index value).exec serve world = _ :=
    exec_mmcDoSwitch mmc index value 1000 world
  rw [switched, answer_switchCmd]
  refine ⟨rfl, ?_⟩
  show world.card.perform (switchCmd index value) none _ = _
  rw [answer_switchCmd, perform_switch]
  rfl

/-! ### The switch of the timing -/

/-- The CMD6 for HS_TIMING is sent. -/
def TimingSent (mmc : Mmc) (change : TimingSwitch) (world : World) : Prop :=
  mmc.speedMode ≠ change.spdMode ∧ mmc.cfg.hostCaps &&& change.hostCap ≠ 0 ∧
    (world.answer sendExtCsdCmd (some sendExtCsdData)).error = 0 ∧
    world.card.extCsd extCsdCardType &&& change.cardTypes ≠ 0

/-- How the switch of the timing ends: without a CMD6, with one that counts as failed, or with one
that counts as done. -/
inductive TimingEnds (mmc : Mmc) (change : TimingSwitch) (world : World) :
    (Int × Mmc) × World → Prop where
  | stays {err : Int} {after : World} (unsent : ¬ TimingSent mmc change world)
      (already : err = 0 → mmc.speedMode = change.spdMode) (card : after.card = world.card) :
      TimingEnds mmc change world ((err, mmc), after)
  | fails {err : Int} {after : World} (sent : TimingSent mmc change world)
      (uncounted : ¬ world.switchCounts mmc) (failed : err ≠ 0)
      (card : after.card =
        world.card.afterSwitch extCsdHsTiming change.timing world.nextSwitch) :
      TimingEnds mmc change world ((err, mmc), after)
  | counts {after : World} (sent : TimingSent mmc change world)
      (counted : world.switchCounts mmc)
      (card : after.card =
        world.card.afterSwitch extCsdHsTiming change.timing world.nextSwitch) :
      TimingEnds mmc change world ((0, { mmc with
        speedMode := change.spdMode, cardCaps := mmc.cardCaps ||| change.cardCap }), after)

theorem switchTiming_ends (mmc : Mmc) (change : TimingSwitch) (world : World) :
    TimingEnds mmc change world ((switchTiming mmc change).exec serve world) := by
  unfold switchTiming
  by_cases already : mmc.speedMode = change.spdMode
  · rw [if_pos already]
    exact .stays (fun sent => sent.1 already) (fun _ => already) rfl
  rw [if_neg already]
  by_cases unable : mmc.cfg.hostCaps &&& change.hostCap = 0
  · rw [if_pos unable]
    exact .stays (fun sent => sent.2.1 unable) (fun none => absurd none (by decide)) rfl
  rw [if_neg unable, exec_bind, exec_mmcSendExtCsd]
  have unchanged : (world.command sendExtCsdCmd (some sendExtCsdData)).card = world.card :=
    perform_quiet world.card sendExtCsdCmd sendExtCsdCmd_quiet (some sendExtCsdData)
      (world.answer sendExtCsdCmd (some sendExtCsdData))
  dsimp only
  by_cases unread : (world.answer sendExtCsdCmd (some sendExtCsdData)).error ≠ 0
  · rw [if_pos unread]
    exact .stays (fun sent => unread sent.2.2.1) (fun none => absurd none unread) unchanged
  rw [if_neg unread]
  have fetched : world.card.fetch sendExtCsdCmd
      (world.answer sendExtCsdCmd (some sendExtCsdData)) = world.card.extCsd :=
    if_pos (not_not.mp unread)
  rw [fetched]
  by_cases unfit : world.card.extCsd extCsdCardType &&& change.cardTypes = 0
  · rw [if_pos unfit]
    exact .stays (fun sent => sent.2.2.2 unfit) (fun none => absurd none (by decide)) unchanged
  rw [if_neg unfit, exec_bind]
  have sent : TimingSent mmc change world := ⟨already, unable, not_not.mp unread, unfit⟩
  have next : (world.command sendExtCsdCmd (some sendExtCsdData)).nextSwitch =
      world.nextSwitch := by
    show world.plan.command mmcCmdSwitch
      (Function.update world.sent sendExtCsdCmd.cmdidx (world.sent sendExtCsdCmd.cmdidx + 1)
        mmcCmdSwitch) = _
    rw [Function.update_of_ne (by decide)]
    rfl
  obtain ⟨result, card⟩ := exec_mmcSwitch mmc extCsdHsTiming change.timing
    (world.command sendExtCsdCmd (some sendExtCsdData))
  rw [unchanged, next] at card
  rw [next] at result
  generalize (mmcSwitch mmc extCsdHsTiming change.timing).exec serve
    (world.command sendExtCsdCmd (some sendExtCsdData)) = switched at result card ⊢
  by_cases failed : switched.1 ≠ 0
  · rw [if_pos failed]
    exact .fails sent (fun counted => failed (result.trans counted)) failed card
  · rw [if_neg failed]
    exact .counts sent (result.symm.trans (not_not.mp failed)) card

/-- The switch that gets a card to this speed mode. -/
def timingSwitch (spdMode : U32) : Option TimingSwitch :=
  [toDs, toHs, toHs200, toHs400].find? fun change => change.spdMode = spdMode

theorem timingSwitch_spec {spdMode : U32} {change : TimingSwitch}
    (found : timingSwitch spdMode = some change) :
    change.spdMode = spdMode ∧ hsTimingOf change.spdMode = some change.timing := by
  unfold timingSwitch at found
  have own := List.find?_some found
  refine ⟨of_decide_eq_true own, ?_⟩
  have member := List.mem_of_find?_eq_some found
  have timings : ∀ change ∈ [toDs, toHs, toHs200, toHs400],
      hsTimingOf change.spdMode = some change.timing := by
    decide
  exact timings change member

theorem mmcMmcSwitchSpeedMode_eq (mmc : Mmc) (spdMode : U32) :
    mmcMmcSwitchSpeedMode mmc spdMode =
      match timingSwitch spdMode with
      | some change => switchTiming mmc change
      | none => pure (-1, mmc) := by
  unfold mmcMmcSwitchSpeedMode timingSwitch
  by_cases ds : spdMode = ds26Sdr12
  · rw [if_pos ds, ds]
    rfl
  by_cases hs : spdMode = hssdr52Sdr25
  · rw [if_neg ds, if_pos hs, hs]
    rfl
  by_cases hs200 : spdMode = hs200Sdr104
  · rw [if_neg ds, if_neg hs, if_pos hs200, hs200]
    rfl
  by_cases fastest : spdMode = hs400
  · rw [if_neg ds, if_neg hs, if_neg hs200, if_pos fastest, fastest]
    rfl
  · rw [if_neg ds, if_neg hs, if_neg hs200, if_neg fastest, List.find?_eq_none.mpr]
    intro change member
    simp only [List.mem_cons, List.not_mem_nil, or_false] at member
    rcases member with rfl | rfl | rfl | rfl
    · exact fun same => ds (of_decide_eq_true same).symm
    · exact fun same => hs (of_decide_eq_true same).symm
    · exact fun same => hs200 (of_decide_eq_true same).symm
    · exact fun same => fastest (of_decide_eq_true same).symm

/-! ### The switch of the width -/

/-- How the switch of the width ends: without a look at the width for HS400, without a CMD6, with
one that counts as failed, or with one that counts as done. -/
inductive WidthEnds (mmc : Mmc) (spdMode width : U32) (world : World) :
    (Int × Mmc) × World → Prop where
  | skips (fastest : spdMode = hs400) : WidthEnds mmc spdMode width world ((0, mmc), world)
  | rejects (slower : spdMode ≠ hs400)
      (rejected : mmcCheckBuswidth mmc (spdMode = hsddr52Ddr50) width ≠ 0) :
      WidthEnds mmc spdMode width world ((-1, mmc), world)
  | fails {err : Int} {after : World} (slower : spdMode ≠ hs400)
      (fits : mmcCheckBuswidth mmc (spdMode = hsddr52Ddr50) width = 0)
      (uncounted : ¬ world.switchCounts mmc) (failed : err ≠ 0)
      (card : after.card = world.card.afterSwitch extCsdBusWidth (busWidthValue spdMode width)
        world.nextSwitch) :
      WidthEnds mmc spdMode width world ((err, mmc), after)
  | counts {after : World} (slower : spdMode ≠ hs400)
      (fits : mmcCheckBuswidth mmc (spdMode = hsddr52Ddr50) width = 0)
      (counted : world.switchCounts mmc)
      (card : after.card = world.card.afterSwitch extCsdBusWidth (busWidthValue spdMode width)
        world.nextSwitch) :
      WidthEnds mmc spdMode width world ((0, { mmc with
        speedMode := if spdMode = hsddr52Ddr50 then hsddr52Ddr50 else mmc.speedMode
        busWidth := width }), after)

theorem mmcMmcSwitchBusWidth_ends (mmc : Mmc) (spdMode width : U32) (world : World) :
    WidthEnds mmc spdMode width world
      ((mmcMmcSwitchBusWidth mmc spdMode width).exec serve world) := by
  unfold mmcMmcSwitchBusWidth
  by_cases fastest : spdMode = hs400
  · rw [if_pos fastest]
    exact .skips fastest
  rw [if_neg fastest]
  by_cases rejected : mmcCheckBuswidth mmc (spdMode = hsddr52Ddr50) width ≠ 0
  · rw [if_pos rejected]
    exact .rejects fastest rejected
  rw [if_neg rejected, exec_bind]
  obtain ⟨result, card⟩ :=
    exec_mmcSwitch mmc extCsdBusWidth (busWidthValue spdMode width) world
  generalize (mmcSwitch mmc extCsdBusWidth (busWidthValue spdMode width)).exec serve world =
    switched at result card ⊢
  by_cases failed : switched.1 ≠ 0
  · rw [if_pos failed]
    exact .fails fastest (not_not.mp rejected) (fun counted => failed (result.trans counted))
      failed card
  · rw [if_neg failed, exec_bind]
    unfold mmcSetBusWidth
    rw [exec_bind, exec_mmcSetIos]
    have ends := WidthEnds.counts fastest (not_not.mp rejected)
      (result.symm.trans (not_not.mp failed)) card
    split
    · rename_i ddr
      rw [if_pos ddr] at ends
      exact ends
    · rename_i sdr
      rw [if_neg sdr] at ends
      exact ends

/-! ### The change of the mode -/

/-- After a change of the bus mode the descriptor is right about the card, and success means the
requested mode. -/
structure BusAgrees (spdMode width : U32) (run : (Int × Mmc) × World) : Prop where
  described : run.1.2.DescribesBus run.2.card
  requested : run.1.1 = 0 → run.1.2.speedMode = spdMode ∧ run.1.2.busWidth = width

/-- A CMD6 for HS_TIMING is told. -/
def TimingTold (mmc : Mmc) (spdMode : U32) (world : World) : Prop :=
  ∀ change, timingSwitch (tmpSpdMd spdMode) = some change → TimingSent mmc change world →
    world.SwitchTold mmc extCsdHsTiming change.timing

/-- The width is that of HS400 already; or it is turned down, or its CMD6 counts as failed and is
not carried out, in a mode that was not DDR before; or its CMD6 counts as failed and sets the width
there was; or its CMD6 counts as done and BUS_WIDTH has the value. -/
def WidthTold (mmc : Mmc) (spdMode width : U32) (world : World) : Prop :=
  if spdMode = hs400 then mmc.busWidth = width
  else if mmcCheckBuswidth { mmc with speedMode := tmpSpdMd spdMode }
      (spdMode = hsddr52Ddr50) width ≠ 0 then ¬ mmc.Ddr
  else if world.nextSwitch.switchResult mmc 1000 = 0 then
    world.nextSwitch.accepted = true ∨
      world.card.extCsd extCsdBusWidth.toNat = busWidthValue spdMode width
  else if world.nextSwitch.accepted then spdMode ≠ hsddr52Ddr50 ∧ mmc.busWidth = width
  else ¬ mmc.Ddr

/-- A width that is not turned down has its own value of BUS_WIDTH. -/
theorem busWidthOf_value {mmc : Mmc} {spdMode width : U32} (emmc : mmc.isSd = false)
    (speed : mmc.speedMode = tmpSpdMd spdMode) (slower : spdMode ≠ hs400)
    (fits : mmcCheckBuswidth mmc (spdMode = hsddr52Ddr50) width = 0) :
    busWidthOf spdMode width = some (busWidthValue spdMode width) := by
  unfold mmcCheckBuswidth at fits
  rw [emmc, speed] at fits
  unfold busWidthOf busWidthValue
  unfold tmpSpdMd at fits
  grind

/-- `mmc_mmc_switch_bus_mode` after the switch of the timing. -/
def fromTiming (mmc : Mmc) (spdMode width : U32) : Driver (Int × Mmc) := do
  let (err, mmc) ← mmcMmcSwitchBusWidth mmc spdMode width
  if err ≠ 0 then
    return (err, mmc)
  if spdMode = hsddr52Ddr50 then
    return (err, { mmc with
      speedMode := hsddr52Ddr50, cardCaps := mmc.cardCaps ||| mmcModeDdr52Mhz })
  return (err, mmc)

/-- The switch of the speed mode, with the world it leaves -/
def speedRun (mmc : Mmc) (spdMode : U32) (world : World) : (Int × Mmc) × World :=
  (mmcMmcSwitchSpeedMode mmc (tmpSpdMd spdMode)).exec serve world

theorem exec_mmcMmcSwitchBusMode {mmc : Mmc} (emmc : mmc.isSd = false) (spdMode width : U32)
    (world : World) :
    (mmcMmcSwitchBusMode mmc spdMode width).exec serve world =
      if (speedRun mmc spdMode world).1.1 ≠ 0 then speedRun mmc spdMode world
      else (fromTiming (speedRun mmc spdMode world).1.2 spdMode width).exec serve
        (speedRun mmc spdMode world).2 := by
  unfold mmcMmcSwitchBusMode speedRun
  rw [emmc, if_neg Bool.false_ne_true, exec_bind]
  generalize (mmcMmcSwitchSpeedMode mmc (tmpSpdMd spdMode)).exec serve world = run
  obtain ⟨⟨err, reached⟩, after⟩ := run
  dsimp only
  split <;> rfl

/-- The rest of the change, with the width switched or not. -/
theorem exec_fromTiming (mmc : Mmc) (spdMode width : U32) (world : World) :
    (fromTiming mmc spdMode width).exec serve world =
      let run := (mmcMmcSwitchBusWidth mmc spdMode width).exec serve world
      if run.1.1 ≠ 0 ∨ spdMode ≠ hsddr52Ddr50 then run
      else ((run.1.1, { run.1.2 with
        speedMode := hsddr52Ddr50, cardCaps := run.1.2.cardCaps ||| mmcModeDdr52Mhz }), run.2) := by
  unfold fromTiming
  rw [exec_bind]
  generalize (mmcMmcSwitchBusWidth mmc spdMode width).exec serve world = run
  obtain ⟨⟨err, reached⟩, after⟩ := run
  dsimp only
  by_cases failed : err ≠ 0
  · rw [if_pos failed, if_pos (Or.inl failed)]
    rfl
  rw [if_neg failed]
  by_cases ddr : spdMode = hsddr52Ddr50
  · rw [if_pos ddr, if_neg (by simp [ddr, not_not.mp failed])]
    rfl
  · rw [if_neg ddr, if_pos (Or.inr ddr)]
    rfl

theorem tmpSpdMd_sdr {spdMode : U32} (slower : spdMode ≠ hs400) :
    ¬ (tmpSpdMd spdMode = hs400 ∨ tmpSpdMd spdMode = hsddr52Ddr50) := by
  unfold tmpSpdMd
  split
  · decide
  · rename_i sdr
    exact not_or.mpr ⟨slower, sdr⟩

theorem tmpSpdMd_of_ne {spdMode : U32} (sdr : spdMode ≠ hsddr52Ddr50) : tmpSpdMd spdMode = spdMode :=
  if_neg sdr

/-- The value of BUS_WIDTH for a width stays right without DDR when there was no DDR before. -/
theorem width_kept_iff {mmc : Mmc} {speedMode : U32} {value : U8}
    (described : busWidthOf mmc.speedMode mmc.busWidth = some value)
    (sdr : ¬ (speedMode = hs400 ∨ speedMode = hsddr52Ddr50)) :
    busWidthOf speedMode mmc.busWidth = some value ↔ ¬ mmc.Ddr :=
  ⟨fun same => (busWidthOf_ddr_iff described same).not.mpr sdr,
    fun left => (busWidthOf_congr _ (iff_of_false sdr left)).trans described⟩

theorem hsTimingOf_tmpSpdMd (spdMode : U32) : hsTimingOf (tmpSpdMd spdMode) = hsTimingOf spdMode := by
  unfold tmpSpdMd
  split
  · rename_i ddr
    rw [ddr]
    rfl
  · rfl

/-- A change that fails after the timing agrees when BUS_WIDTH is that of the width before. -/
theorem failed_agrees_iff {reached : Mmc} {spdMode width : U32} {err : Int} {after : World}
    (speed : reached.speedMode = tmpSpdMd spdMode) (failed : err ≠ 0) :
    BusAgrees spdMode width ((err, reached), after) ↔
      hsTimingOf (tmpSpdMd spdMode) = some (after.card.extCsd extCsdHsTiming.toNat) ∧
        busWidthOf (tmpSpdMd spdMode) reached.busWidth =
          some (after.card.extCsd extCsdBusWidth.toNat) := by
  rw [← speed, ← describesBus_iff]
  exact ⟨fun agrees => agrees.described, fun described => ⟨described, fun done => absurd done failed⟩⟩

/-- A change that succeeds agrees when both registers are those of the requested mode. -/
theorem done_agrees_iff {final : Mmc} {spdMode width : U32} {after : World}
    (speed : final.speedMode = spdMode) (busWidth : final.busWidth = width) :
    BusAgrees spdMode width ((0, final), after) ↔
      hsTimingOf (tmpSpdMd spdMode) = some (after.card.extCsd extCsdHsTiming.toNat) ∧
        busWidthOf spdMode width = some (after.card.extCsd extCsdBusWidth.toNat) := by
  rw [hsTimingOf_tmpSpdMd, ← speed, ← busWidth, ← describesBus_iff]
  exact ⟨fun agrees => agrees.described, fun described => ⟨described, fun _ => ⟨rfl, rfl⟩⟩⟩

section Width

variable (mmc : Mmc) {reached : Mmc} {spdMode width : U32} {before : World}

/-- From the switch of the timing on, the timing has to be right, and the width told. -/
theorem fromTiming_agrees_iff (emmc : reached.isSd = false)
    (cfg : reached.cfg = mmc.cfg) (version : reached.version = mmc.version)
    (speed : reached.speedMode = tmpSpdMd spdMode) (busWidth : reached.busWidth = mmc.busWidth)
    (described : busWidthOf mmc.speedMode mmc.busWidth =
      some (before.card.extCsd extCsdBusWidth.toNat))
    (ready : spdMode = hs400 → before.card.extCsd extCsdBusWidth.toNat = extCsdBusDdr8) :
    BusAgrees spdMode width ((fromTiming reached spdMode width).exec serve before) ↔
      hsTimingOf (tmpSpdMd spdMode) = some (before.card.extCsd extCsdHsTiming.toNat) ∧
        WidthTold mmc spdMode width before := by
  have counts : before.nextSwitch.switchResult mmc 1000 = 0 ↔ before.switchCounts reached := by
    unfold World.switchCounts Answer.switchResult Answer.switchPolls Answer.phaseResult
    rw [cfg]
  have check : mmcCheckBuswidth { mmc with speedMode := tmpSpdMd spdMode }
      (spdMode = hsddr52Ddr50) width =
        mmcCheckBuswidth reached (spdMode = hsddr52Ddr50) width := by
    unfold mmcCheckBuswidth Mmc.isSd
    rw [cfg, version, speed]
  rw [exec_fromTiming]
  dsimp only
  unfold WidthTold
  rw [check]
  have ends := mmcMmcSwitchBusWidth_ends reached spdMode width before
  generalize (mmcMmcSwitchBusWidth reached spdMode width).exec serve before = run at ends ⊢
  cases ends with
  | skips fastest =>
    have sdr : spdMode ≠ hsddr52Ddr50 := by
      rw [fastest]
      decide
    rw [if_pos (Or.inr sdr), if_pos fastest]
    refine ⟨fun agrees => ⟨?_, busWidth.symm.trans (agrees.requested rfl).2⟩, ?_⟩
    · rw [← speed]
      exact agrees.described.timing
    · rintro ⟨timing, same⟩
      refine (done_agrees_iff (speed.trans (tmpSpdMd_of_ne sdr)) (busWidth.trans same)).mpr
        ⟨timing, ?_⟩
      rw [ready fastest] at described ⊢
      rw [fastest, ← same]
      exact busWidthOf_ddr8 described
  | rejects slower rejected =>
    rw [if_pos (Or.inl (show (-1 : Int) ≠ 0 by decide)), if_neg slower, if_pos rejected,
      failed_agrees_iff speed (by decide), busWidth,
      width_kept_iff described (tmpSpdMd_sdr slower)]
  | fails slower fits uncounted failed card =>
    have own := busWidthOf_value emmc speed slower fits
    rw [if_pos (Or.inl failed), if_neg slower, if_neg (not_not.mpr fits),
      if_neg (fun none => uncounted (counts.mp none)), failed_agrees_iff speed failed, busWidth,
      card, afterSwitch_register, afterSwitch_other _ _ _ _ (by decide)]
    refine and_congr_right fun _ => ?_
    split
    · refine ⟨fun same => ?_, fun ⟨sdr, same⟩ => ?_⟩
      · have sdr : spdMode ≠ hsddr52Ddr50 := fun ddr =>
          tmpSpdMd_sdr slower ((busWidthOf_ddr_iff same own).mpr (Or.inr ddr))
        rw [tmpSpdMd_of_ne sdr] at same
        exact ⟨sdr, busWidthOf_injective same own⟩
      · rw [tmpSpdMd_of_ne sdr, same]
        exact own
    · exact width_kept_iff described (tmpSpdMd_sdr slower)
  | @counts after slower fits counted card =>
    have own := busWidthOf_value emmc speed slower fits
    rw [if_neg slower, if_neg (not_not.mpr fits), if_pos (counts.mpr counted)]
    have final (finished : Mmc) (speed : finished.speedMode = spdMode)
        (busWidth : finished.busWidth = width) :
        BusAgrees spdMode width ((0, finished), after) ↔
          hsTimingOf (tmpSpdMd spdMode) = some (before.card.extCsd extCsdHsTiming.toNat) ∧
            (before.nextSwitch.accepted = true ∨
              before.card.extCsd extCsdBusWidth.toNat = busWidthValue spdMode width) := by
      rw [done_agrees_iff speed busWidth, own, card, afterSwitch_register,
        afterSwitch_other _ _ _ _ (by decide)]
      refine and_congr_right fun _ => ?_
      cases before.nextSwitch.accepted with
      | false => simp [eq_comm]
      | true => simp
    by_cases ddr : spdMode = hsddr52Ddr50
    · rw [if_neg (by simp [ddr])]
      exact final _ ddr.symm rfl
    · rw [if_pos (Or.inr ddr)]
      refine final _ ?_ rfl
      rw [if_neg ddr, speed, tmpSpdMd_of_ne ddr]

end Width

/-- From an eMMC in the mode the descriptor says, and with the 8-bit DDR width set for HS400, a
change of the bus mode keeps the descriptor right and its success means the requested mode, exactly
when the CMD6 for HS_TIMING is told and after it so is the width. -/
theorem bus_mode_agrees_iff (mmc : Mmc) (spdMode width : U32) (world : World)
    (emmc : mmc.isSd = false) (described : mmc.DescribesBus world.card)
    (ready : spdMode = hs400 → world.card.extCsd extCsdBusWidth.toNat = extCsdBusDdr8) :
    BusAgrees spdMode width ((mmcMmcSwitchBusMode mmc spdMode width).exec serve world) ↔
      TimingTold mmc spdMode world ∧
        ((speedRun mmc spdMode world).1.1 = 0 →
          WidthTold mmc spdMode width (speedRun mmc spdMode world).2) := by
  rw [exec_mmcMmcSwitchBusMode emmc]
  have untouched (err : Int) (after : World) (failed : err ≠ 0) (card : after.card = world.card) :
      BusAgrees spdMode width ((err, mmc), after) :=
    ⟨card ▸ described, fun done => absurd done failed⟩
  cases found : timingSwitch (tmpSpdMd spdMode) with
  | none =>
    have run : speedRun mmc spdMode world = ((-1, mmc), world) := by
      unfold speedRun
      rw [mmcMmcSwitchSpeedMode_eq, found]
      rfl
    have failed : (-1 : Int) ≠ 0 := by decide
    rw [run, if_pos failed]
    refine iff_of_true (untouched (-1) world failed rfl) ⟨fun change this => ?_, fun done => ?_⟩
    · exact absurd (found.symm.trans this) (Option.some_ne_none change).symm
    · exact absurd done failed
  | some change =>
    have ends : TimingEnds mmc change world (speedRun mmc spdMode world) := by
      unfold speedRun
      rw [mmcMmcSwitchSpeedMode_eq, found]
      exact switchTiming_ends mmc change world
    obtain ⟨named, timing⟩ := timingSwitch_spec found
    have told : TimingTold mmc spdMode world ↔
        (TimingSent mmc change world → world.SwitchTold mmc extCsdHsTiming change.timing) :=
      ⟨fun all => all change found, fun one other this =>
        Option.some.inj (found.symm.trans this) ▸ one⟩
    rw [told]
    generalize speedRun mmc spdMode world = run at ends ⊢
    cases ends with
    | @stays err after unsent already card =>
      rw [iff_true_intro (fun sent => absurd sent unsent :
        TimingSent mmc change world → world.SwitchTold mmc extCsdHsTiming change.timing)]
      by_cases done : err = 0
      · have speed := (already done).trans named
        rw [if_neg (not_not.mpr done), fromTiming_agrees_iff mmc emmc rfl rfl speed rfl
          (card ▸ described.width) (card ▸ ready)]
        have right : hsTimingOf (tmpSpdMd spdMode) =
            some (after.card.extCsd extCsdHsTiming.toNat) := by
          rw [← speed, card]
          exact described.timing
        exact ⟨fun both => ⟨trivial, fun _ => both.2⟩, fun both => ⟨right, both.2 done⟩⟩
      · rw [if_pos done]
        exact iff_of_true (untouched err after done card) ⟨trivial, fun none => absurd none done⟩
    | @fails err after sent uncounted failed card =>
      have width : after.card.extCsd extCsdBusWidth.toNat =
          world.card.extCsd extCsdBusWidth.toNat := by
        rw [card]
        exact afterSwitch_other _ _ _ _ (by decide)
      rw [if_pos failed]
      constructor
      · intro agrees
        refine ⟨fun _ => (told_of_not_counts uncounted).mpr ?_, fun none => absurd none failed⟩
        rw [← card]
        exact Option.some.inj (agrees.described.timing.symm.trans described.timing)
      · rintro ⟨told, _⟩
        have same := (told_of_not_counts uncounted).mp (told sent)
        rw [← card] at same
        exact ⟨⟨described.timing.trans (congrArg some same.symm),
          described.width.trans (congrArg some width.symm)⟩, fun done => absurd done failed⟩
    | @counts after sent counted card =>
      have width : after.card.extCsd extCsdBusWidth.toNat =
          world.card.extCsd extCsdBusWidth.toNat := by
        rw [card]
        exact afterSwitch_other _ _ _ _ (by decide)
      rw [if_neg (not_not.mpr rfl), told_of_counts counted, ← card]
      refine Iff.trans (fromTiming_agrees_iff mmc emmc rfl rfl named rfl
        (width.symm ▸ described.width) (width.symm ▸ ready)) ?_
      refine and_congr ?_ ⟨fun told _ => told, fun told => told rfl⟩
      rw [← named, timing, Option.some.injEq, eq_comm]
      exact ⟨fun right _ => right, fun right => right sent⟩

/-- An eMMC and its host that can both do every mode. -/
def busDevice : Mmc :=
  { Mmc.unidentified with
    version := mmcVersion50, cfg := ⟨true, true, 0x1CF, ⟨0, 0, 0⟩, 65535, blocks_pos⟩ }

/-- A card that has all the modes -/
def busCard : Card :=
  { Card.blank true with extCsd := fun index => if index = extCsdCardType then 0xFF else 0 }

theorem busDevice_described : busDevice.DescribesBus busCard :=
  ⟨by decide, by decide⟩

theorem bus_mode_agrees_iff_fine :
    busDevice.isSd = false ∧ busDevice.DescribesBus (World.start busCard .fine).card ∧
      (BusAgrees hs200Sdr104 8
          ((mmcMmcSwitchBusMode busDevice hs200Sdr104 8).exec serve (.start busCard .fine)) ↔
        TimingTold busDevice hs200Sdr104 (.start busCard .fine) ∧
          ((speedRun busDevice hs200Sdr104 (.start busCard .fine)).1.1 = 0 →
            WidthTold busDevice hs200Sdr104 8
              (speedRun busDevice hs200Sdr104 (.start busCard .fine)).2)) :=
  ⟨by decide, busDevice_described, bus_mode_agrees_iff busDevice hs200Sdr104 8
    (.start busCard .fine) (by decide) busDevice_described (fun fastest => absurd fastest (by decide))⟩

/-- The first CMD6 fails, and the card does not carry it out. -/
def refusingPlan : Plan :=
  { Plan.fine with
    command := fun cmdidx turn =>
      if cmdidx = mmcCmdSwitch ∧ turn = 0 then { Answer.fine with error := -1, accepted := false }
      else .fine }

/-- The change to HS200 succeeds, and the card is still in the slowest timing. -/
theorem bus_mode_not_agrees :
    busDevice.isSd = false ∧ busDevice.DescribesBus busCard ∧
      ¬ BusAgrees hs200Sdr104 8
        ((mmcMmcSwitchBusMode busDevice hs200Sdr104 8).exec serve
          (.start busCard refusingPlan)) := by
  have wrong : hsTimingOf ((mmcMmcSwitchBusMode busDevice hs200Sdr104 8).exec serve
      (.start busCard refusingPlan)).1.2.speedMode ≠
        some (((mmcMmcSwitchBusMode busDevice hs200Sdr104 8).exec serve
          (.start busCard refusingPlan)).2.card.extCsd extCsdHsTiming.toNat) := by
    decide +kernel
  exact ⟨by decide, busDevice_described, fun agrees => wrong agrees.described.timing⟩

end PinePhonePkg
