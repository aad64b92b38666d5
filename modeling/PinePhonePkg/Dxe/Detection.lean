/-
This file follows the detection of card 0 over whole runs of timer callbacks.
Its results say when the media data describes the card in the slot, and when an
insertion comes after three callbacks that read the card as present.
-/

import PinePhonePkg.Dxe.HotPlug

namespace PinePhonePkg

open Library

variable {Database : Type}

/-! ### What the parts leave alone -/

/-- The second state differs from the first in the handles, the database, the pool and in
actions of the given kind at the end of the log. -/
structure SdMmcDxe.Extends (kind : Action → Prop) (before after : SdMmcDxe Database) :
    Prop where
  media : after.gSdMmc0 = before.gSdMmc0
  count : after.detectCount = before.detectCount
  lock : after.gCard0DetectLock = before.gCard0DetectLock
  log : ∃ actions, after.log = before.log ++ actions ∧ ∀ action ∈ actions, kind action

theorem SdMmcDxe.Extends.refl (kind : Action → Prop) (dxe : SdMmcDxe Database) :
    dxe.Extends kind dxe :=
  ⟨rfl, rfl, rfl, [], (List.append_nil _).symm, fun _ member => absurd member (by simp)⟩

variable {dxe after first : SdMmcDxe Database} {input : Card0Input}

theorem SdMmcDxe.Extends.trans {kind : Action → Prop} {second third : SdMmcDxe Database}
    (before : first.Extends kind second) (after : second.Extends kind third) :
    first.Extends kind third := by
  obtain ⟨actions, log, kinds⟩ := before.log
  obtain ⟨more, moreLog, moreKinds⟩ := after.log
  refine ⟨after.media.trans before.media, after.count.trans before.count,
    after.lock.trans before.lock, actions ++ more, ?_, ?_⟩
  · rw [moreLog, log, List.append_assoc]
  · intro action member
    exact (List.mem_append.mp member).elim (kinds action) (moreKinds action)

/-- An interface is installed. -/
def Action.IsInstalled : Action → Prop
  | .installed .. => True
  | _ => False

/-- An interface is uninstalled. -/
def Action.IsUninstalled : Action → Prop
  | .uninstalled .. => True
  | _ => False

section Services

variable (services : HandleServices Database Protocol Pointer)

theorem installMmcFlashIoProtocol_extends (dxe : SdMmcDxe Database) :
    dxe.Extends Action.IsInstalled (installMmcFlashIoProtocol services dxe) := by
  unfold installMmcFlashIoProtocol
  dsimp only
  split
  · exact ⟨rfl, rfl, rfl, (SdMmcDxe.Extends.refl _ dxe).log⟩
  · exact ⟨rfl, rfl, rfl, [_], rfl, by simp [Action.IsInstalled]⟩

theorem publishBlockIo_extends {blockIo devicePath : Pointer}
    (published : publishBlockIo services blockIo devicePath dxe = .ok after) :
    dxe.Extends Action.IsInstalled after := by
  unfold publishBlockIo at published
  split at published
  · cases published
  · obtain rfl := Except.ok.inj published
    exact ⟨rfl, rfl, rfl, [_, _], List.append_assoc _ _ _, by simp [Action.IsInstalled]⟩

theorem installCard0_extends (installed : installCard0 services dxe = .ok after) :
    dxe.Extends Action.IsInstalled after := by
  unfold installCard0 at installed
  dsimp only at installed
  have allocated (pool : Pool) : dxe.Extends Action.IsInstalled { dxe with pool := pool } :=
    ⟨rfl, rfl, rfl, (SdMmcDxe.Extends.refl _ dxe).log⟩
  split at installed
  · exact (allocated _).trans (publishBlockIo_extends services installed)
  · exact (allocated _).trans ((installMmcFlashIoProtocol_extends services _).trans
      (publishBlockIo_extends services installed))

theorem uninstallCard0_extends (dxe : SdMmcDxe Database) :
    dxe.Extends Action.IsUninstalled (uninstallCard0 services dxe) := by
  unfold uninstallCard0
  split
  · exact .refl _ dxe
  · split
    · exact .refl _ dxe
    · refine ⟨rfl, rfl, rfl, _, rfl, ?_⟩
      intro action member
      obtain ⟨entry, -, rfl⟩ := List.mem_map.mp member
      trivial

/-- Between two pools some of the pointers were freed, and nothing was allocated. -/
structure Pool.Frees (before : Pool) (entries : List (Protocol × Pointer)) (after : Pool) :
    Prop where
  next : after.next = before.next
  keeps : before.freed ⊆ after.freed
  only : after.freed ⊆ entries.map Prod.snd ++ before.freed

theorem Pool.Frees.cons {before middle after : Pool} {entry : Protocol × Pointer}
    {rest : List (Protocol × Pointer)} (freed : before.freePool entry.2 = some middle)
    (frees : middle.Frees rest after) : before.Frees (entry :: rest) after := by
  unfold Pool.freePool at freed
  split at freed
  · cases freed
  · obtain rfl := Option.some.inj freed
    refine ⟨frees.next, fun pointer old => frees.keeps (List.mem_cons_of_mem _ old), ?_⟩
    intro pointer member
    have member := frees.only member
    simp only [List.map_cons, List.cons_append, List.mem_append, List.mem_cons] at member ⊢
    rcases member with rest | new | old
    · exact .inr (.inl rest)
    · exact .inl new
    · exact .inr (.inr old)

/-- Freeing the interfaces changes the pool alone, whether it comes back or stops. -/
theorem SdMmcDxe.freeInterfaces_frees (dxe : SdMmcDxe Database)
    (entries : List (Protocol × Pointer)) :
    ∃ pool, dxe.pool.Frees entries pool ∧
      (dxe.freeInterfaces entries = .ok { dxe with pool := pool } ∨
        dxe.freeInterfaces entries = .error { dxe with pool := pool }) := by
  induction entries generalizing dxe with
  | nil =>
    exact ⟨dxe.pool, ⟨rfl, List.Subset.refl _, List.Subset.refl _⟩, .inl rfl⟩
  | cons entry rest inductionHypothesis =>
    unfold SdMmcDxe.freeInterfaces
    split
    · exact ⟨dxe.pool, ⟨rfl, List.Subset.refl _, List.subset_append_right _ _⟩, .inr rfl⟩
    · rename_i middle freed
      obtain ⟨pool, frees, ends⟩ := inductionHypothesis { dxe with pool := middle }
      exact ⟨pool, .cons freed frees, ends⟩

theorem removeCard0_extends (removed : removeCard0 services dxe = .ok after) :
    after.gSdMmc0.mediaPresent = false ∧ after.detectCount = dxe.detectCount ∧
      ∃ actions, after.log = dxe.log ++ actions := by
  have extended := uninstallCard0_extends services dxe
  obtain ⟨removals, log, -⟩ := extended.log
  obtain ⟨pool, -, ends | stops⟩ := (uninstallCard0 services dxe).freeInterfaces_frees
    (card0Interfaces services dxe)
  · rw [removeCard0, ends] at removed
    obtain rfl := Except.ok.inj removed
    refine ⟨rfl, extended.count, removals ++ [.logicalExit], ?_⟩
    change (uninstallCard0 services dxe).log ++ _ = _
    rw [log, List.append_assoc]
  · rw [removeCard0, stops] at removed
    cases removed

/-- What a step does after its part has come back. -/
theorem map_release_eq_ok {step : Halting Database (SdMmcDxe Database)}
    (done : step.map SdMmcDxe.release = .ok after) :
    ∃ middle, step = .ok middle ∧ after = middle.release := by
  cases step with
  | error stopped => cases done
  | ok middle => exact ⟨middle, rfl, (Except.ok.inj done).symm⟩

/-! ### The cases of a callback -/

/-- What a callback does with the media data and the count, and the actions it takes. -/
inductive Detects (input : Card0Input) (dxe after : SdMmcDxe Database) :
    List Action → Prop where
  | idle (present : Bool) (media : dxe.gSdMmc0.mediaPresent = present)
      (same : after.gSdMmc0 = dxe.gSdMmc0) (count : after.detectCount = dxe.detectCount)
      (reads : card0Present input.gpioValue = some present) :
      Detects input dxe after [.reading present]
  | removed (rest : List Action) (media : dxe.gSdMmc0.mediaPresent = true)
      (gone : after.gSdMmc0.mediaPresent = false) (count : after.detectCount = dxe.detectCount)
      (reads : card0Present input.gpioValue = some false) :
      Detects input dxe after (.reading false :: rest)
  | bounced (media : dxe.gSdMmc0.mediaPresent = false)
      (same : after.gSdMmc0 = dxe.gSdMmc0) (count : after.detectCount = 0)
      (reads : card0Present input.gpioValue = some true)
      (readsAgain : card0Present input.gpioValueAgain = some false) :
      Detects input dxe after [.reading true, .reading false]
  | counted (media : dxe.gSdMmc0.mediaPresent = false)
      (same : after.gSdMmc0 = dxe.gSdMmc0) (count : after.detectCount = dxe.detectCount + 1)
      (few : ¬ 3 ≤ dxe.detectCount + 1) (reads : card0Present input.gpioValue = some true) :
      Detects input dxe after [.reading true, .reading true]
  | failed (media : dxe.gSdMmc0.mediaPresent = false)
      (gone : after.gSdMmc0.mediaPresent = false) (count : after.detectCount = 0)
      (init : sdmmcLogicalInit input.card ≠ 0)
      (reads : card0Present input.gpioValue = some true) :
      Detects input dxe after [.reading true, .reading true,
        .logicalInit (sdmmcLogicalInit input.card) input.card.lba]
  | inserted (installs : List Action) (media : dxe.gSdMmc0.mediaPresent = false)
      (appears : after.gSdMmc0.mediaPresent = true)
      (last : after.gSdMmc0.lastBlock = BitVec.ofInt 64 (-1)) (count : after.detectCount = 0)
      (enough : 3 ≤ dxe.detectCount + 1) (init : sdmmcLogicalInit input.card = 0)
      (reads : card0Present input.gpioValue = some true)
      (readsAgain : card0Present input.gpioValueAgain = some true)
      (installed : ∀ action ∈ installs, action.IsInstalled) :
      Detects input dxe after (.reading true :: .reading true ::
        .logicalInit 0 input.card.lba :: installs)

theorem sdmmcLogicalInit_neg_iff (card : Card0) :
    sdmmcLogicalInit card < 0 ↔ sdmmcLogicalInit card ≠ 0 := by
  unfold sdmmcLogicalInit
  split
  · simp
  · split <;> simp

theorem detectCard0_present (again : card0Present input.gpioValueAgain = some true)
    (dxe : SdMmcDxe Database) :
    detectCard0 input dxe =
      if 3 ≤ dxe.detectCount + 1 then
        .ok (initDetectedCard input.card
          { dxe.record (.reading true) with detectCount := dxe.detectCount + 1 })
      else
        .ok (.noMedia, { dxe.record (.reading true) with detectCount := dxe.detectCount + 1 }) := by
  unfold detectCard0
  rw [again]

theorem insertCard0_detects (media : dxe.gSdMmc0.mediaPresent = false)
    (reads : card0Present input.gpioValue = some true)
    (done : insertCard0 services input (dxe.acquire.record (.reading true)) = .ok after) :
    after.gCard0DetectLock = false ∧
      ∃ actions, after.log = dxe.log ++ actions ∧ Detects input dxe after actions := by
  unfold insertCard0 at done
  cases again : card0Present input.gpioValueAgain with
  | none =>
    rw [detectCard0, again] at done
    cases done
  | some present =>
    cases present with
    | false =>
      rw [detectCard0, again] at done
      obtain rfl := Except.ok.inj done
      exact ⟨rfl, _, List.append_assoc _ _ _, .bounced media rfl rfl reads again⟩
    | true =>
      have counted := detectCard0_present again (dxe.acquire.record (.reading true))
      by_cases enough : 3 ≤ dxe.detectCount + 1
      · rw [counted.trans (if_pos enough)] at done
        by_cases init : sdmmcLogicalInit input.card = 0
        · have succeeds : ¬ sdmmcLogicalInit input.card < 0 := by rw [init]; decide
          simp only [initDetectedCard, if_neg succeeds] at done
          obtain ⟨middle, installed, rfl⟩ := map_release_eq_ok done
          have extended := installCard0_extends services installed
          obtain ⟨installs, log, kinds⟩ := extended.log
          refine ⟨rfl, _, ?_, .inserted installs media ?_ ?_ ?_ enough init reads again kinds⟩
          · change middle.log = _
            rw [log, init]
            simp [SdMmcDxe.record, SdMmcDxe.acquire]
          · exact congrArg EfiBlockIoMedia.mediaPresent extended.media
          · refine (congrArg EfiBlockIoMedia.lastBlock extended.media).trans ?_
            change BitVec.ofInt 64 (sdmmcLogicalInit input.card - 1) = _
            rw [init]
            rfl
          · exact extended.count
        · have fails := (sdmmcLogicalInit_neg_iff input.card).mpr init
          simp only [initDetectedCard, if_pos fails] at done
          obtain rfl := Except.ok.inj done
          refine ⟨rfl, _, ?_, .failed media rfl rfl init reads⟩
          simp [SdMmcDxe.release, SdMmcDxe.record, SdMmcDxe.acquire]
      · rw [counted.trans (if_neg enough)] at done
        obtain rfl := Except.ok.inj done
        exact ⟨rfl, _, List.append_assoc _ _ _, .counted media rfl rfl enough reads⟩

/-- The lock is free again after a callback that found it free. -/
theorem card0DetectTimerCallback_detects (free : dxe.gCard0DetectLock = false)
    (done : card0DetectTimerCallback services input dxe = .ok after) :
    after.gCard0DetectLock = false ∧
      ∃ actions, after.log = dxe.log ++ actions ∧ Detects input dxe after actions := by
  unfold card0DetectTimerCallback at done
  rw [free, if_neg Bool.false_ne_true] at done
  cases reads : card0Present input.gpioValue with
  | none =>
    rw [reads] at done
    cases done
  | some present =>
    rw [reads] at done
    dsimp only at done
    change (if dxe.gSdMmc0.mediaPresent = true then _ else _) = _ at done
    cases media : dxe.gSdMmc0.mediaPresent with
    | true =>
      rw [media, if_pos rfl] at done
      cases present with
      | true =>
        obtain rfl := Except.ok.inj done
        exact ⟨rfl, _, rfl, .idle true media rfl rfl reads⟩
      | false =>
        obtain ⟨middle, removed, rfl⟩ := map_release_eq_ok done
        obtain ⟨gone, count, actions, log⟩ := removeCard0_extends services removed
        refine ⟨rfl, .reading false :: actions, ?_, .removed _ media gone count reads⟩
        change middle.log = _
        rw [log]
        exact List.append_assoc _ _ _
    | false =>
      rw [media, if_neg Bool.false_ne_true] at done
      cases present with
      | true => exact insertCard0_detects services media reads done
      | false =>
        obtain rfl := Except.ok.inj done
        exact ⟨rfl, _, rfl, .idle false media rfl rfl reads⟩

/-! ### Runs -/

/-- A callback of a run: what it meets, and the states before and after it. -/
structure Callback (Database : Type) : Type where
  before : SdMmcDxe Database
  input : Card0Input
  after : SdMmcDxe Database

/-- What others do to the database: they install no interface of this driver, and leave the
handles alone that have one. -/
structure OthersChange (before after : Database) : Prop where
  foreign (handle : Nat) (protocol : Protocol) (number : Nat) :
    services.interface after handle protocol = some (.pool number) →
      services.interface before handle protocol = some (.pool number)
  own (handle : Nat) :
    (∃ protocol number, services.interface before handle protocol = some (.pool number)) →
      ∀ protocol, services.interface after handle protocol =
        services.interface before handle protocol

/-- The timer callbacks from the state `first` on, in any order with what others do. -/
inductive Run (first : SdMmcDxe Database) :
    List (Callback Database) → SdMmcDxe Database → Prop where
  | start : Run first [] first
  | timer {past : List (Callback Database)} {dxe after : SdMmcDxe Database} (input : Card0Input)
      (run : Run first past dxe) (done : card0DetectTimerCallback services input dxe = .ok after) :
      Run first (past ++ [⟨dxe, input, after⟩]) after
  | others {past : List (Callback Database)} {dxe : SdMmcDxe Database} (database : Database)
      (run : Run first past dxe) (change : OthersChange services dxe.database database) :
      Run first past { dxe with database := database }

/-- The driver is loaded on a database that has none of its interfaces. -/
structure Loads (boot : Card0Input) (database : Database) (first : SdMmcDxe Database) :
    Prop where
  clean (handle : Nat) (protocol : Protocol) (number : Nat) :
    services.interface database handle protocol ≠ some (.pool number)
  done : initializeCard0 services boot (.unloaded database) = .ok first

end Services

/-! ### The media data -/

/-- The last initialisation succeeded, and no removal was seen since. -/
def InitialisedSince (log : List Action) (lba : Ulong) : Prop :=
  ∃ before since, log = before ++ .logicalInit 0 lba :: since ∧
    ∀ action ∈ since, action ≠ .reading false ∧ action ≠ .logicalExit ∧
      ∀ result sectors, action ≠ .logicalInit result sectors

theorem InitialisedSince.append {log actions : List Action} {lba : Ulong}
    (initialised : InitialisedSince log lba)
    (quiet : ∀ action ∈ actions, action ≠ .reading false ∧ action ≠ .logicalExit ∧
      ∀ result sectors, action ≠ .logicalInit result sectors) :
    InitialisedSince (log ++ actions) lba := by
  obtain ⟨before, since, rfl, still⟩ := initialised
  refine ⟨before, since ++ actions, by simp, ?_⟩
  intro action member
  exact (List.mem_append.mp member).elim (still action) (quiet action)

theorem Action.IsInstalled.quiet {action : Action} (installed : action.IsInstalled) :
    action ≠ .reading false ∧ action ≠ .logicalExit ∧
      ∀ result sectors, action ≠ .logicalInit result sectors := by
  cases action with
  | installed handle protocol pointer => exact ⟨nofun, nofun, nofun⟩
  | reading | logicalInit | logicalExit | uninstalled => exact installed.elim

theorem initialisedSince_init (log installs : List Action) (lba : Ulong)
    (installed : ∀ action ∈ installs, action.IsInstalled) :
    InitialisedSince (log ++ .logicalInit 0 lba :: installs) lba :=
  ⟨log, installs, rfl, fun action member => (installed action member).quiet⟩

/-- With a card present, the card in the slot is the one of the last initialisation. -/
def SdMmcDxe.Initialised (dxe : SdMmcDxe Database) : Prop :=
  dxe.gSdMmc0.mediaPresent = true → ∃ lba, InitialisedSince dxe.log lba

/-- With a card present, the last block is the last sector of the card in the slot. -/
def SdMmcDxe.Described (dxe : SdMmcDxe Database) : Prop :=
  dxe.gSdMmc0.mediaPresent = true →
    ∃ lba, InitialisedSince dxe.log lba ∧ dxe.gSdMmc0.lastBlock.toNat + 1 = lba.toNat

/-- The callback initialises the card in the slot, and succeeds. -/
structure Callback.Inserts (callback : Callback Database) : Prop where
  free : callback.before.gCard0DetectLock = false
  absent : callback.before.gSdMmc0.mediaPresent = false
  reads : card0Present callback.input.gpioValue = some true
  readsAgain : card0Present callback.input.gpioValueAgain = some true
  enough : 3 ≤ callback.before.detectCount + 1
  init : sdmmcLogicalInit callback.input.card = 0

instance (callback : Callback Database) : Decidable callback.Inserts :=
  decidable_of_iff
    (callback.before.gCard0DetectLock = false ∧ callback.before.gSdMmc0.mediaPresent = false ∧
      card0Present callback.input.gpioValue = some true ∧
      card0Present callback.input.gpioValueAgain = some true ∧
      3 ≤ callback.before.detectCount + 1 ∧ sdmmcLogicalInit callback.input.card = 0)
    ⟨fun ⟨free, absent, reads, readsAgain, enough, init⟩ =>
        ⟨free, absent, reads, readsAgain, enough, init⟩,
      fun inserts => ⟨inserts.free, inserts.absent, inserts.reads, inserts.readsAgain,
        inserts.enough, inserts.init⟩⟩

/-- A card is initialised when the driver is loaded. -/
structure Card0Input.Boots (input : Card0Input) : Prop where
  reads : card0Present input.gpioValue = some true
  init : sdmmcLogicalInit input.card = 0

/-- What holds between two callbacks. The count only goes on while no card is present. -/
structure SdMmcDxe.Watching (dxe : SdMmcDxe Database) : Prop where
  free : dxe.gCard0DetectLock = false
  initialised : dxe.Initialised
  few : dxe.detectCount ≤ 2
  restart : dxe.gSdMmc0.mediaPresent = true → dxe.detectCount = 0

section Services

variable {services : HandleServices Database Protocol Pointer}

/-- A card that is present after a callback was there before, or is inserted by it. -/
theorem Detects.of_present {actions : List Action} (detects : Detects input dxe after actions)
    (media : after.gSdMmc0.mediaPresent = true) :
    (dxe.gSdMmc0.mediaPresent = true ∧ after.gSdMmc0 = dxe.gSdMmc0 ∧
        actions = [.reading true]) ∨
      (dxe.gSdMmc0.mediaPresent = false ∧
        (dxe.gCard0DetectLock = false → Callback.Inserts ⟨dxe, input, after⟩) ∧
        ∃ installs : List Action, (∀ action ∈ installs, action.IsInstalled) ∧
          actions = .reading true :: .reading true :: .logicalInit 0 input.card.lba :: installs) := by
  cases detects with
  | idle present was same =>
    rw [same] at media
    obtain rfl : present = true := was.symm.trans media
    exact .inl ⟨was, same, rfl⟩
  | bounced was same | counted was same =>
    rw [same, was] at media
    exact absurd media Bool.false_ne_true
  | removed _ _ gone | failed _ gone => exact absurd (gone.symm.trans media) Bool.false_ne_true
  | inserted installs was appears last count enough init reads readsAgain installed =>
    exact .inr ⟨was, fun free => ⟨free, was, reads, readsAgain, enough, init⟩, installs, installed,
      rfl⟩

theorem Detects.initialised {actions : List Action} (detects : Detects input dxe after actions)
    (log : after.log = dxe.log ++ actions) (before : dxe.Initialised) : after.Initialised := by
  intro media
  rcases detects.of_present media with ⟨was, same, rfl⟩ | ⟨-, -, installs, installed, rfl⟩
  · obtain ⟨lba, initialised⟩ := before was
    refine ⟨lba, ?_⟩
    rw [log]
    exact initialised.append (by simp)
  · have since := initialisedSince_init (dxe.log ++ [.reading true, .reading true]) installs
      input.card.lba installed
    refine ⟨input.card.lba, ?_⟩
    rw [log]
    simpa using since

theorem Detects.watching {actions : List Action} (detects : Detects input dxe after actions)
    (free : after.gCard0DetectLock = false) (log : after.log = dxe.log ++ actions)
    (before : dxe.Watching) : after.Watching := by
  refine ⟨free, detects.initialised log before.initialised, ?_, ?_⟩
  · cases detects with
    | idle present was same count reads => exact count ▸ before.few
    | removed rest was gone count reads => exact count ▸ before.few
    | counted was same count few reads =>
      rw [count]
      bv_omega
    | bounced _ _ count | failed _ _ count | inserted _ _ _ _ count =>
      rw [count]
      decide
  · intro media
    cases detects with
    | idle present was same count reads => exact count.trans (before.restart (same ▸ media))
    | removed rest was gone count reads => exact count.trans (before.restart was)
    | counted was same count few reads =>
      rw [same, was] at media
      exact absurd media Bool.false_ne_true
    | bounced _ _ count | failed _ _ count | inserted _ _ _ _ count => exact count

/-- How loading the driver leaves the media data. -/
theorem initializeCard0_watching {boot : Card0Input} {database : Database}
    (done : initializeCard0 services boot (.unloaded database) = .ok first) :
    first.Watching ∧ (¬ boot.Boots → first.gSdMmc0.mediaPresent = false) ∧
      (boot.Boots → first.gSdMmc0.mediaPresent = true ∧
        first.gSdMmc0.lastBlock = boot.card.lba - 1 ∧ InitialisedSince first.log boot.card.lba) := by
  unfold initializeCard0 at done
  cases reads : card0Present boot.gpioValue with
  | none =>
    rw [reads] at done
    cases done
  | some present =>
    rw [reads] at done
    cases present with
    | false =>
      obtain rfl := Except.ok.inj done
      refine ⟨⟨rfl, fun media => absurd media Bool.false_ne_true, ?_, fun _ => rfl⟩,
        fun _ => rfl, fun boots => ?_⟩
      · exact (by decide : (0 : U32) ≤ 2)
      · exact absurd (Option.some.inj (reads.symm.trans boots.reads)) Bool.false_ne_true
    | true =>
      dsimp only at done
      by_cases init : sdmmcLogicalInit boot.card = 0
      · rw [if_neg (not_not_intro init)] at done
        have extended := installCard0_extends services done
        obtain ⟨installs, log, kinds⟩ := extended.log
        have media : first.gSdMmc0.mediaPresent = true :=
          congrArg EfiBlockIoMedia.mediaPresent extended.media
        have since : InitialisedSince first.log boot.card.lba := by
          rw [log, init]
          have := initialisedSince_init [.reading true] installs boot.card.lba kinds
          simpa [SdMmcDxe.record, SdMmcDxe.unloaded] using this
        refine ⟨⟨extended.lock, fun _ => ⟨_, since⟩, ?_, fun _ => extended.count⟩,
          fun not => absurd ⟨reads, init⟩ not,
          fun _ => ⟨media, congrArg EfiBlockIoMedia.lastBlock extended.media, since⟩⟩
        rw [extended.count]
        exact (by decide : (0 : U32) ≤ 2)
      · rw [if_pos init] at done
        obtain rfl := Except.ok.inj done
        refine ⟨⟨rfl, fun media => absurd media Bool.false_ne_true, ?_, fun _ => rfl⟩,
          fun _ => rfl, fun boots => absurd boots.init init⟩
        exact (by decide : (0 : U32) ≤ 2)

theorem initializeCard0_count {boot : Card0Input} {database : Database}
    (done : initializeCard0 services boot (.unloaded database) = .ok first) :
    first.detectCount = 0 := by
  unfold initializeCard0 at done
  split at done
  · cases done
  · obtain rfl := Except.ok.inj done
    rfl
  · dsimp only at done
    split at done
    · obtain rfl := Except.ok.inj done
      rfl
    · exact (installCard0_extends services done).count

theorem Detects.described {actions : List Action} (detects : Detects input dxe after actions)
    (free : dxe.gCard0DetectLock = false) (log : after.log = dxe.log ++ actions)
    (keeps : ¬ Callback.Inserts ⟨dxe, input, after⟩) (before : dxe.Described) :
    after.Described := by
  intro media
  rcases detects.of_present media with ⟨was, same, rfl⟩ | ⟨-, inserts, -⟩
  · obtain ⟨lba, initialised, last⟩ := before was
    rw [same]
    refine ⟨lba, ?_, last⟩
    rw [log]
    exact initialised.append (by simp)
  · exact absurd (inserts free) keeps

/-- A last block below zero describes no card. -/
theorem not_described (media : dxe.gSdMmc0.mediaPresent = true)
    (last : dxe.gSdMmc0.lastBlock = BitVec.ofInt 64 (-1)) : ¬ dxe.Described := by
  intro described
  obtain ⟨lba, -, block⟩ := described media
  rw [last] at block
  have beyond : (BitVec.ofInt 64 (-1)).toNat + 1 = 2 ^ 64 := by decide
  have small := lba.isLt
  omega

/-- A callback that inserts a card leaves a last block that describes none. -/
theorem Callback.Inserts.not_described {callback : Callback Database}
    (inserts : callback.Inserts)
    (done : card0DetectTimerCallback services callback.input callback.before =
      .ok callback.after) : ¬ callback.after.Described := by
  obtain ⟨-, actions, log, detects⟩ :=
    card0DetectTimerCallback_detects services inserts.free done
  have present := inserts.reads
  cases detects with
  | idle present was same count reads =>
    have reading := Option.some.inj (reads.symm.trans inserts.reads)
    exact absurd (inserts.absent.symm.trans (was.trans reading)) Bool.false_ne_true
  | removed rest was gone count reads =>
    exact absurd (inserts.absent.symm.trans was) Bool.false_ne_true
  | bounced was same count reads readsAgain =>
    exact absurd (Option.some.inj (readsAgain.symm.trans inserts.readsAgain)) Bool.false_ne_true
  | counted was same count few reads => exact absurd inserts.enough few
  | failed was gone count init reads => exact absurd inserts.init init
  | inserted installs was appears last count enough init reads readsAgain installed =>
    exact PinePhonePkg.not_described appears last

/-! ### The count of readings -/

/-- The actions of a callback. -/
def Callback.actions (callback : Callback Database) : List Action :=
  callback.after.log.drop callback.before.log.length

/-- The callback reads the pin, and reads the card as present each time. -/
structure Callback.ReadsPresent (callback : Callback Database) : Prop where
  reads : .reading true ∈ callback.actions
  never : .reading false ∉ callback.actions

/-- No card is read as absent while readings are counted. -/
def Callback.Steady (callback : Callback Database) : Prop :=
  callback.before.gSdMmc0.mediaPresent = false → callback.before.detectCount ≠ 0 →
    card0Present callback.input.gpioValue ≠ some false

instance (callback : Callback Database) : Decidable callback.Steady :=
  inferInstanceAs (Decidable (_ → _ → _))

/-- A card becomes present after three callbacks in a row that read it as present. -/
def Debounced (past : List (Callback Database)) : Prop :=
  ∀ earlier callback, earlier ++ [callback] <+: past →
    callback.before.gSdMmc0.mediaPresent = false → callback.after.gSdMmc0.mediaPresent = true →
    ∃ start first second, earlier = start ++ [first, second] ∧ first.ReadsPresent ∧
      second.ReadsPresent ∧ callback.ReadsPresent

/-- The count is the number of the last callbacks that read the card as present. -/
def Counts (past : List (Callback Database)) (dxe : SdMmcDxe Database) : Prop :=
  ∃ earlier recent, past = earlier ++ recent ∧ recent.length = dxe.detectCount.toNat ∧
    ∀ callback ∈ recent, callback.ReadsPresent

theorem counts_of_zero (past : List (Callback Database)) (zero : dxe.detectCount = 0) :
    Counts past dxe :=
  ⟨past, [], (List.append_nil _).symm, by rw [zero]; rfl, fun _ member => absurd member (by simp)⟩

theorem Callback.actions_eq {callback : Callback Database} {actions : List Action}
    (log : callback.after.log = callback.before.log ++ actions) : callback.actions = actions := by
  unfold Callback.actions
  rw [log, List.drop_left]

theorem Detects.counts {actions : List Action} (detects : Detects input dxe after actions)
    (log : after.log = dxe.log ++ actions) (watching : dxe.Watching)
    (steady : Callback.Steady ⟨dxe, input, after⟩) {past : List (Callback Database)}
    (before : Counts past dxe) : Counts (past ++ [⟨dxe, input, after⟩]) after := by
  cases detects with
  | idle present was same count reads =>
    refine counts_of_zero _ (count.trans ?_)
    cases present with
    | true => exact watching.restart was
    | false => exact Classical.byContradiction fun counting => steady was counting reads
  | removed rest was gone count reads =>
    exact counts_of_zero _ (count.trans (watching.restart was))
  | bounced _ _ count | failed _ _ count | inserted _ _ _ _ count => exact counts_of_zero _ count
  | counted was same count few reads =>
    obtain ⟨earlier, recent, rfl, length, present⟩ := before
    refine ⟨earlier, recent ++ [⟨dxe, input, after⟩], List.append_assoc _ _ _, ?_, ?_⟩
    · have small := watching.few
      rw [List.length_append, length, count]
      change dxe.detectCount.toNat + 1 = _
      bv_omega
    · intro callback member
      rcases List.mem_append.mp member with old | new
      · exact present callback old
      · obtain rfl := List.mem_singleton.mp new
        constructor
        · rw [Callback.actions_eq log]
          simp
        · rw [Callback.actions_eq log]
          simp

/-- A card that becomes present was counted three times. -/
theorem Detects.debounced {actions : List Action} (detects : Detects input dxe after actions)
    (log : after.log = dxe.log ++ actions) (watching : dxe.Watching)
    {past : List (Callback Database)} (counts : Counts past dxe)
    (absent : dxe.gSdMmc0.mediaPresent = false) (present : after.gSdMmc0.mediaPresent = true) :
    ∃ start first second, past = start ++ [first, second] ∧ first.ReadsPresent ∧
      second.ReadsPresent ∧ Callback.ReadsPresent ⟨dxe, input, after⟩ := by
  rcases detects.of_present present with ⟨was, -⟩ | ⟨-, inserts, installs, installed, rfl⟩
  · exact absurd (absent.symm.trans was) Bool.false_ne_true
  · obtain ⟨start, recent, rfl, length, read⟩ := counts
    have two : recent.length = 2 := by
      have few := watching.few
      have enough := (inserts watching.free).enough
      rw [length]
      bv_omega
    obtain ⟨first, second, rfl⟩ := List.length_eq_two.mp two
    refine ⟨start, first, second, rfl, read first (by simp), read second (by simp), ?_⟩
    constructor
    · rw [Callback.actions_eq log]
      simp
    · rw [Callback.actions_eq log]
      intro member
      simp only [List.mem_cons, Action.reading.injEq, Bool.false_eq_true, reduceCtorEq,
        false_or] at member
      exact (installed _ member).elim

/-! ### Whole runs -/

/-- Every callback of a run starts and ends between callbacks, and does what it detects. -/
theorem Run.detects {past : List (Callback Database)} (run : Run services first past dxe)
    (watching : first.Watching) :
    dxe.Watching ∧ ∀ callback ∈ past, callback.before.Watching ∧ callback.after.Watching ∧
      card0DetectTimerCallback services callback.input callback.before = .ok callback.after := by
  induction run with
  | start => exact ⟨watching, fun _ member => absurd member (by simp)⟩
  | timer input run done inductionHypothesis =>
    obtain ⟨before, members⟩ := inductionHypothesis
    obtain ⟨free, actions, log, detects⟩ :=
      card0DetectTimerCallback_detects services before.free done
    have after := detects.watching free log before
    refine ⟨after, fun callback member => ?_⟩
    rcases List.mem_append.mp member with old | new
    · exact members callback old
    · obtain rfl := List.mem_singleton.mp new
      exact ⟨before, after, done⟩
  | others database run change inductionHypothesis =>
    obtain ⟨before, members⟩ := inductionHypothesis
    exact ⟨⟨before.free, before.initialised, before.few, before.restart⟩, members⟩

/-- The callbacks that meet the given inputs one after the other. -/
def runCallbacks (services : HandleServices Database Protocol Pointer) :
    List Card0Input → SdMmcDxe Database → Option (List (Callback Database) × SdMmcDxe Database)
  | [], dxe => some ([], dxe)
  | input :: rest, dxe =>
    match card0DetectTimerCallback services input dxe with
    | .error _ => none
    | .ok after =>
      (runCallbacks services rest after).map fun last => (⟨dxe, input, after⟩ :: last.1, last.2)

theorem run_runCallbacks {last : SdMmcDxe Database} {inputs : List Card0Input}
    {past more : List (Callback Database)} (run : Run services first past dxe)
    (done : runCallbacks services inputs dxe = some (more, last)) :
    Run services first (past ++ more) last := by
  induction inputs generalizing past more dxe with
  | nil =>
    obtain ⟨rfl, rfl⟩ := Prod.mk.inj (Option.some.inj done)
    rw [List.append_nil]
    exact run
  | cons input rest inductionHypothesis =>
    unfold runCallbacks at done
    split at done
    · cases done
    · rename_i after step
      obtain ⟨⟨tail, final⟩, continues, equal⟩ := Option.map_eq_some_iff.mp done
      obtain ⟨rfl, rfl⟩ := Prod.mk.inj equal
      have := inductionHypothesis (run.timer input step) continues
      rwa [List.append_assoc] at this

theorem Run.described {past : List (Callback Database)} (run : Run services first past dxe)
    (watching : first.Watching) (described : first.Described)
    (keeps : ∀ callback ∈ past, ¬ callback.Inserts) :
    dxe.Described ∧ ∀ callback ∈ past, callback.after.Described := by
  induction run with
  | start => exact ⟨described, fun _ member => absurd member (by simp)⟩
  | timer input run done inductionHypothesis =>
    obtain ⟨before, members⟩ :=
      inductionHypothesis fun callback member => keeps callback (List.mem_append_left _ member)
    have free := (run.detects watching).1.free
    obtain ⟨-, actions, log, detects⟩ := card0DetectTimerCallback_detects services free done
    have after := detects.described free log (keeps _ (by simp)) before
    refine ⟨after, fun callback member => ?_⟩
    rcases List.mem_append.mp member with old | new
    · exact members callback old
    · obtain rfl := List.mem_singleton.mp new
      exact after
  | others database run change inductionHypothesis => exact inductionHypothesis keeps

theorem Run.counts {past : List (Callback Database)} (run : Run services first past dxe)
    (watching : first.Watching) (zero : first.detectCount = 0)
    (steady : ∀ callback ∈ past, callback.Steady) : Counts past dxe ∧ Debounced past := by
  induction run with
  | start => exact ⟨counts_of_zero _ zero, fun earlier callback before => by simp at before⟩
  | timer input run done inductionHypothesis =>
    obtain ⟨counts, debounced⟩ :=
      inductionHypothesis fun callback member => steady callback (List.mem_append_left _ member)
    have before := (run.detects watching).1
    obtain ⟨-, actions, log, detects⟩ :=
      card0DetectTimerCallback_detects services before.free done
    refine ⟨detects.counts log before (steady _ (by simp)) counts, ?_⟩
    intro earlier callback isPrefix absent present
    rcases List.prefix_concat_iff.mp isPrefix with whole | shorter
    · obtain ⟨rfl, same⟩ := List.append_inj' whole rfl
      obtain rfl := List.singleton_inj.mp same
      exact detects.debounced log before counts absent present
    · exact debounced earlier callback shorter absent present
  | others database run change inductionHypothesis => exact inductionHypothesis steady

/-- Without an insertion no card becomes present in a callback. -/
theorem Run.debounced_of_not_inserts {past : List (Callback Database)}
    (run : Run services first past dxe) (watching : first.Watching)
    (keeps : ∀ callback ∈ past, ¬ callback.Inserts) :
    Debounced past := by
  intro earlier callback isPrefix absent present
  have member : callback ∈ past := isPrefix.subset (by simp)
  obtain ⟨before, -, done⟩ := (run.detects watching).2 callback member
  obtain ⟨-, actions, log, detects⟩ := card0DetectTimerCallback_detects services before.free done
  rcases detects.of_present present with ⟨was, -⟩ | ⟨-, inserts, -⟩
  · exact absurd (absent.symm.trans was) Bool.false_ne_true
  · exact absurd (inserts before.free) (keeps callback member)

/-- What detection promises of a run: a card that is present is initialised and described, and
it becomes present after three callbacks that read it as present. -/
structure Detected (first : SdMmcDxe Database) (past : List (Callback Database)) : Prop where
  start : first.Described
  described : ∀ callback ∈ past, callback.after.Described
  debounced : Debounced past

/-- A card that is present was initialised and not removed since, in every run; its last block
is right as long as only the card found when the driver was loaded is present; and it becomes
present after three readings when no reading of an absent card comes between them. -/
theorem cardDetection_described_iff (services : HandleServices Database Protocol Pointer)
    (boot : Card0Input) (database : Database) (first dxe : SdMmcDxe Database)
    (past : List (Callback Database)) (loads : Loads services boot database first)
    (run : Run services first past dxe) :
    (first.Initialised ∧ dxe.Initialised ∧ ∀ callback ∈ past, callback.after.Initialised) ∧
      (Detected first past ↔
        (boot.Boots → boot.card.lba ≠ 0) ∧ ∀ callback ∈ past, ¬ callback.Inserts) ∧
      ((∀ callback ∈ past, callback.Steady) → Debounced past) := by
  obtain ⟨watching, absent, present⟩ := initializeCard0_watching loads.done
  have detects := run.detects watching
  refine ⟨⟨watching.initialised, detects.1.initialised,
    fun callback member => (detects.2 callback member).2.1.initialised⟩, ⟨?_, ?_⟩, ?_⟩
  · rintro ⟨start, described, -⟩
    constructor
    · intro boots zero
      obtain ⟨media, last, -⟩ := present boots
      exact not_described media (by rw [last, zero]; rfl) start
    · intro callback member inserts
      exact inserts.not_described (detects.2 callback member).2.2 (described callback member)
  · rintro ⟨sectors, keeps⟩
    have start : first.Described := by
      intro media
      by_cases boots : boot.Boots
      · obtain ⟨-, last, since⟩ := present boots
        refine ⟨_, since, ?_⟩
        have some := sectors boots
        rw [last]
        bv_omega
      · exact absurd ((absent boots).symm.trans media) Bool.false_ne_true
    exact ⟨start, (run.described watching start keeps).2,
      run.debounced_of_not_inserts watching keeps⟩
  · intro steady
    exact (run.counts watching (initializeCard0_count loads.done) steady).2

end Services

/-! ### A card that is plugged in -/

/-- A callback that meets a card of eight sectors. -/
def pluggedInput : Card0Input where
  gpioValue := 0
  gpioValueAgain := 0
  card := { sunxiMmcInit := 0, mmcInit := 0, lba := 8 }

/-- No card is in the slot. -/
def emptySlotInput : Card0Input :=
  { pluggedInput with gpioValue := 1, gpioValueAgain := 1 }

/-- The driver on an empty database with no card in the slot. -/
def emptySlot : SdMmcDxe (HandleTable Protocol Pointer) :=
  (SdMmcDxe.unloaded HandleTable.empty).record (.reading false)

theorem loads_emptySlot :
    Loads HandleTable.services emptySlotInput HandleTable.empty emptySlot where
  clean _ _ _ := nofun
  done := rfl

/-- Three callbacks on the empty slot meet the card; the last one inserts it. -/
theorem runCallbacks_inserts :
    (runCallbacks HandleTable.services (List.replicate 3 pluggedInput) emptySlot).map
        (fun result => decide (result.1.length = 3 ∧ (∀ callback ∈ result.1, callback.Steady) ∧
          ∃ callback ∈ result.1, callback.Inserts)) =
      some true := by
  decide +kernel

theorem cardDetection_described_iff_plugged :
    ∃ past last, Run HandleTable.services emptySlot past last ∧ past.length = 3 ∧
      (∀ callback ∈ past, callback.after.Initialised) ∧ ¬ Detected emptySlot past ∧
      Debounced past := by
  obtain ⟨⟨past, last⟩, done, facts⟩ := Option.map_eq_some_iff.mp runCallbacks_inserts
  obtain ⟨length, steady, callback, member, inserts⟩ := of_decide_eq_true facts
  have run := run_runCallbacks .start done
  obtain ⟨initialised, detected, debounced⟩ := cardDetection_described_iff HandleTable.services
    emptySlotInput HandleTable.empty emptySlot last past loads_emptySlot run
  exact ⟨past, last, run, length, initialised.2.2,
    fun all => (detected.mp all).2 callback member inserts, debounced steady⟩

/-- The media data after the card was read as present three times. -/
theorem runCallbacks_plugged :
    ((runCallbacks HandleTable.services (List.replicate 3 pluggedInput) emptySlot).bind
        fun result => result.1.getLast?.map fun callback =>
          (callback.after.gSdMmc0.mediaPresent, callback.after.gSdMmc0.lastBlock)) =
      some (true, BitVec.ofInt 64 (-1)) := by
  decide +kernel

/-- A card that is plugged in is counted three times, initialised, and gets a last block that
is not its own. -/
theorem cardDetection_not_described :
    ¬ ∀ (services : HandleServices (HandleTable Protocol Pointer) Protocol Pointer)
        (boot : Card0Input) (database : HandleTable Protocol Pointer)
        (first dxe : SdMmcDxe (HandleTable Protocol Pointer))
        (past : List (Callback (HandleTable Protocol Pointer))),
        services.Lawful → Loads services boot database first → Run services first past dxe →
          Detected first past := by
  intro claim
  obtain ⟨⟨past, last⟩, done, inserted⟩ := Option.bind_eq_some_iff.mp runCallbacks_plugged
  obtain ⟨callback, isLast, equal⟩ := Option.map_eq_some_iff.mp inserted
  obtain ⟨present, block⟩ := Prod.mk.inj equal
  have run := run_runCallbacks .start done
  have detected := claim _ _ _ _ _ _ HandleTable.services_lawful loads_emptySlot run
  exact not_described present block
    (detected.described callback (List.mem_of_getLast? isLast))

end PinePhonePkg
