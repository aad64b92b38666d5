/-
This file follows the interfaces of card 0 through insertions and removals. What
the driver installs and removes is kept as a ledger; a removal balances it when
every interface that the removal names is on the handle of the card.
-/

import PinePhonePkg.Dxe.Detection
import Mathlib.Data.List.Nodup

namespace PinePhonePkg

open Library

variable {Database : Type}

/-! ### The ledger -/

/-- An interface together with the handle it is installed on. -/
abbrev Installed : Type := Nat × Protocol × Pointer

/-- The interfaces that were installed -/
def installs (log : List Action) : List Installed :=
  log.filterMap fun
    | .installed handle protocol pointer => some (handle, protocol, pointer)
    | _ => none

/-- The interfaces that were uninstalled -/
def uninstalls (log : List Action) : List Installed :=
  log.filterMap fun
    | .uninstalled handle protocol pointer => some (handle, protocol, pointer)
    | _ => none

theorem installs_append (first second : List Action) :
    installs (first ++ second) = installs first ++ installs second :=
  List.filterMap_append

theorem uninstalls_append (first second : List Action) :
    uninstalls (first ++ second) = uninstalls first ++ uninstalls second :=
  List.filterMap_append

/-- What was installed is what was uninstalled and what is installed now; only what was
uninstalled is freed. -/
structure Ledger (log : List Action) (pool : Pool) (current : List Installed) : Prop where
  balanced : (installs log).Perm (uninstalls log ++ current)
  distinct : ((installs log).map fun entry => entry.2.2).Nodup
  numbered : ∀ entry ∈ installs log, ∃ number < pool.next, entry.2.2 = .pool number
  freed : ∀ pointer ∈ pool.freed, pointer ∈ (uninstalls log).map fun entry => entry.2.2

variable {dxe after : SdMmcDxe Database} {current : List Installed} {handle : Nat}
  {input : Card0Input} {database : Database}

theorem Ledger.congr {log other : List Action} {pool : Pool} (ledger : Ledger log pool current)
    (installed : installs other = installs log) (uninstalled : uninstalls other = uninstalls log) :
    Ledger other pool current where
  balanced := by
    rw [installed, uninstalled]
    exact ledger.balanced
  distinct := by
    rw [installed]
    exact ledger.distinct
  numbered := by
    rw [installed]
    exact ledger.numbered
  freed := by
    rw [uninstalled]
    exact ledger.freed

theorem Ledger.allocated {log : List Action} {pool : Pool} (ledger : Ledger log pool current) :
    Ledger log pool.allocateZeroPool.2 current where
  balanced := ledger.balanced
  distinct := ledger.distinct
  numbered entry member := by
    obtain ⟨number, small, equal⟩ := ledger.numbered entry member
    exact ⟨number, Nat.lt_succ_of_lt small, equal⟩
  freed := ledger.freed

theorem Ledger.installed {log : List Action} {pool : Pool} (ledger : Ledger log pool current)
    (handle : Nat) (protocol : Protocol) {number : Nat} (allocated : number < pool.next)
    (fresh : ∀ entry ∈ installs log, entry.2.2 ≠ .pool number) :
    Ledger (log ++ [.installed handle protocol (.pool number)]) pool
      (current ++ [(handle, protocol, .pool number)]) where
  balanced := by
    rw [installs_append, uninstalls_append]
    have more := ledger.balanced.append_right [(handle, protocol, Pointer.pool number)]
    rw [List.append_assoc] at more
    change ((installs log) ++ _).Perm ((uninstalls log ++ []) ++ _)
    rw [List.append_nil]
    exact more
  distinct := by
    rw [installs_append, List.map_append]
    refine List.nodup_append.mpr ⟨ledger.distinct, by simp [installs], ?_⟩
    intro pointer old other new equal
    obtain ⟨entry, member, rfl⟩ := List.mem_map.mp old
    have otherEq : other = .pool number := List.mem_singleton.mp new
    exact fresh entry member (equal.trans otherEq)
  numbered entry member := by
    rw [installs_append] at member
    rcases List.mem_append.mp member with old | new
    · exact ledger.numbered entry old
    · have entryEq : entry = (handle, protocol, .pool number) := List.mem_singleton.mp new
      exact ⟨number, allocated, by rw [entryEq]⟩
  freed pointer member := by
    rw [uninstalls_append, List.map_append]
    exact List.mem_append_left _ (ledger.freed pointer member)

theorem Ledger.distinct_balanced {log : List Action} {pool : Pool}
    (ledger : Ledger log pool current) :
    ((uninstalls log ++ current).map fun entry => entry.2.2).Nodup :=
  (ledger.balanced.map _).nodup_iff.mp ledger.distinct

/-! ### The interfaces of the database -/

section Services

variable (services : HandleServices Database Protocol Pointer)

/-- The interfaces of this driver in the database. -/
def Lists (database : Database) (current : List Installed) : Prop :=
  ∀ handle protocol number, services.interface database handle protocol = some (.pool number) ↔
    (handle, protocol, .pool number) ∈ current

/-- The handle of the card, with the interfaces that a removal names as far as they are there. -/
structure CardHandle (dxe : SdMmcDxe Database) (current : List Installed) (handle : Nat) :
    Prop where
  named : dxe.gSdMmcHandle0 = some handle
  blockIo : (services.interface dxe.database handle .blockIo).isSome
  devicePath : (services.interface dxe.database handle .devicePath).isSome
  own : ∀ protocol pointer, services.interface dxe.database handle protocol = some pointer →
    ∃ number, pointer = .pool number
  only : ∀ entry ∈ current, entry.1 = handle

/-- The interfaces of the driver are those of the card that is present. -/
def SdMmcDxe.Linked (dxe : SdMmcDxe Database) : Prop :=
  ∃ current, Ledger dxe.log dxe.pool current ∧ Lists services dxe.database current ∧
    (dxe.gSdMmc0.mediaPresent = false → current = []) ∧
    (dxe.gSdMmc0.mediaPresent = true → ∃ handle, CardHandle services dxe current handle)

/-- No interface that is installed points to freed memory; none was uninstalled twice; and with
no card present, each one that was installed was uninstalled. -/
structure SdMmcDxe.Safe (dxe : SdMmcDxe Database) : Prop where
  alive (handle : Nat) (protocol : Protocol) (pointer : Pointer) :
    services.interface dxe.database handle protocol = some pointer → pointer ∉ dxe.pool.freed
  once : (uninstalls dxe.log).Nodup
  all : dxe.gSdMmc0.mediaPresent = false →
    ∀ entry, entry ∈ installs dxe.log ↔ entry ∈ uninstalls dxe.log

variable {services}

theorem Ledger.safe (ledger : Ledger dxe.log dxe.pool current)
    (lists : Lists services dxe.database current)
    (absent : dxe.gSdMmc0.mediaPresent = false → current = []) : dxe.Safe services := by
  have distinct := ledger.distinct_balanced
  rw [List.map_append] at distinct
  obtain ⟨uninstalled, -, disjoint⟩ := List.nodup_append.mp distinct
  refine ⟨?_, List.Nodup.of_map _ uninstalled, ?_⟩
  · intro handle protocol pointer installed free
    have gone := ledger.freed pointer free
    obtain ⟨entry, member, rfl⟩ := List.mem_map.mp gone
    obtain ⟨number, -, numbered⟩ :=
      ledger.numbered entry (ledger.balanced.mem_iff.mpr (List.mem_append_left _ member))
    rw [numbered] at installed gone
    have now := (lists handle protocol number).mp installed
    exact disjoint _ gone _ (List.mem_map_of_mem now) rfl
  · intro media entry
    rw [ledger.balanced.mem_iff, absent media, List.append_nil]

theorem SdMmcDxe.Linked.safe (linked : dxe.Linked services) :
    dxe.Safe services := by
  obtain ⟨current, ledger, lists, absent, -⟩ := linked
  exact ledger.safe lists absent

/-! ### Insertion -/

theorem lookup_flashIo (protocol : Protocol) (flashIo : Pointer) :
    [(Protocol.sunxiFlashIo, flashIo)].lookup protocol =
      if protocol = .sunxiFlashIo then some flashIo else none := by
  cases protocol <;> rfl

theorem lookup_blockIo (protocol : Protocol) (blockIo devicePath : Pointer) :
    [(Protocol.blockIo, blockIo), (.devicePath, devicePath)].lookup protocol =
      if protocol = .blockIo then some blockIo
      else if protocol = .devicePath then some devicePath else none := by
  cases protocol <;> rfl

theorem Lists.flashIo (lawful : services.Lawful) {after : Database} {number : Nat}
    (lists : Lists services database current)
    (installed : services.install database none [(.sunxiFlashIo, .pool number)] =
      some (after, handle)) :
    Lists services after (current ++ [(handle, .sunxiFlashIo, .pool number)]) := by
  intro other protocol k
  rw [lawful.install_interface installed, List.mem_append, ← lists other protocol k]
  have vacant := lawful.install_new installed
  by_cases same : other = handle
  · subst same
    rw [if_pos rfl, vacant protocol, lookup_flashIo]
    cases protocol <;> simp [eq_comm]
  · rw [if_neg same]
    simp [same]

theorem Lists.blockIo (lawful : services.Lawful) {after : Database} {target : Option Nat}
    {first second : Nat} (lists : Lists services database current)
    (installed : services.install database target
      [(.blockIo, .pool first), (.devicePath, .pool second)] = some (after, handle))
    (vacant : services.interface database handle .blockIo = none ∧
      services.interface database handle .devicePath = none) :
    Lists services after
      ((current ++ [(handle, .blockIo, .pool first)]) ++ [(handle, .devicePath, .pool second)]) := by
  intro other protocol k
  rw [lawful.install_interface installed, List.mem_append, List.mem_append,
    ← lists other protocol k]
  by_cases same : other = handle
  · subst same
    rw [if_pos rfl, lookup_blockIo]
    cases protocol <;> simp [eq_comm, vacant]
  · rw [if_neg same]
    simp [same]

/-- The interfaces of the driver are on the handle of the card. -/
structure OnHandle (services : HandleServices Database Protocol Pointer)
    (dxe : SdMmcDxe Database) (current : List Installed) (handle : Nat) : Prop where
  ledger : Ledger dxe.log dxe.pool current
  lists : Lists services dxe.database current
  card : CardHandle services dxe current handle

/-- The handle that the block interface goes to has at most a flash interface before. -/
structure AtMostFlashIo (services : HandleServices Database Protocol Pointer)
    (dxe : SdMmcDxe Database) (current : List Installed) : Prop where
  flashIo (handle : Nat) (protocol : Protocol) (pointer : Pointer) :
    dxe.gSdMmcHandle0 = some handle →
      services.interface dxe.database handle protocol = some pointer →
      protocol = .sunxiFlashIo ∧ ∃ number, pointer = .pool number
  only : ∀ entry ∈ current, dxe.gSdMmcHandle0 = some entry.1

theorem publishBlockIo_onHandle (lawful : services.Lawful) {first second : Nat}
    (ledger : Ledger dxe.log dxe.pool current) (lists : Lists services dxe.database current)
    (atMost : AtMostFlashIo services dxe current)
    (allocated : first < dxe.pool.next ∧ second < dxe.pool.next) (different : first ≠ second)
    (fresh : ∀ entry ∈ installs dxe.log, entry.2.2 ≠ .pool first ∧ entry.2.2 ≠ .pool second)
    (published : publishBlockIo services (.pool first) (.pool second) dxe = .ok after) :
    ∃ handle current, OnHandle services after current handle := by
  unfold publishBlockIo at published
  split at published
  · cases published
  · rename_i database handle installed
    obtain rfl := Except.ok.inj published
    have before (protocol : Protocol) (pointer : Pointer)
        (old : services.interface dxe.database handle protocol = some pointer) :
        protocol = .sunxiFlashIo ∧ ∃ number, pointer = .pool number := by
      cases target : dxe.gSdMmcHandle0 with
      | none =>
        rw [target] at installed
        rw [lawful.install_new installed protocol] at old
        cases old
      | some known =>
        rw [target] at installed
        obtain rfl := lawful.install_handle installed
        exact atMost.flashIo handle protocol pointer target old
    have vacant (protocol : Protocol) (other : protocol ≠ .sunxiFlashIo) :
        services.interface dxe.database handle protocol = none := by
      cases old : services.interface dxe.database handle protocol with
      | none => rfl
      | some pointer => exact absurd (before protocol pointer old).1 other
    have now (protocol : Protocol) := lawful.install_interface installed handle protocol
    simp only [if_true, lookup_blockIo] at now
    refine ⟨handle, _, ?_,
      lists.blockIo lawful installed ⟨vacant _ (by decide), vacant _ (by decide)⟩, ?_⟩
    · refine (ledger.installed handle .blockIo allocated.1 fun entry member =>
        (fresh entry member).1).installed handle .devicePath allocated.2 ?_
      intro entry member
      rw [installs_append] at member
      rcases List.mem_append.mp member with old | new
      · exact (fresh entry old).2
      · have entryEq : entry = (handle, .blockIo, .pool first) := List.mem_singleton.mp new
        rw [entryEq]
        simpa using different
    · refine ⟨rfl, ?_, ?_, ?_, ?_⟩
      · exact congrArg Option.isSome (now .blockIo)
      · exact congrArg Option.isSome (now .devicePath)
      · intro protocol pointer held
        change services.interface database handle protocol = some pointer at held
        rw [now protocol] at held
        cases protocol with
        | blockIo => exact ⟨first, (Option.some.inj held).symm⟩
        | devicePath => exact ⟨second, (Option.some.inj held).symm⟩
        | sunxiFlashIo => exact (before _ _ held).2
      · intro entry member
        simp only [List.mem_append, List.mem_singleton] at member
        rcases member with (old | rfl) | rfl
        · have target := atMost.only entry old
          rw [target] at installed
          exact (lawful.install_handle installed).symm
        · rfl
        · rfl

theorem Ledger.old {log : List Action} {pool : Pool} (ledger : Ledger log pool current)
    (number : Nat) (new : pool.next ≤ number) :
    ∀ entry ∈ installs log, entry.2.2 ≠ .pool number := by
  intro entry member equal
  obtain ⟨old, small, oldEq⟩ := ledger.numbered entry member
  have same := Pointer.pool.inj (oldEq.symm.trans equal)
  omega

theorem installMmcFlashIoProtocol_atMost (lawful : services.Lawful)
    (ledger : Ledger dxe.log dxe.pool []) (lists : Lists services dxe.database [])
    (handle : dxe.gSdMmcHandle0 = none) :
    ∃ current, Ledger (installMmcFlashIoProtocol services dxe).log
        (installMmcFlashIoProtocol services dxe).pool current ∧
      Lists services (installMmcFlashIoProtocol services dxe).database current ∧
      AtMostFlashIo services (installMmcFlashIoProtocol services dxe) current ∧
      (installMmcFlashIoProtocol services dxe).pool.next = dxe.pool.next + 1 ∧
      ∀ entry ∈ installs (installMmcFlashIoProtocol services dxe).log,
        entry ∈ installs dxe.log ∨ entry.2.2 = .pool dxe.pool.next := by
  unfold installMmcFlashIoProtocol
  dsimp only
  split
  · refine ⟨[], ledger.allocated, lists, ⟨?_, ?_⟩, rfl, fun entry member => .inl member⟩
    · intro known protocol pointer named
      rw [handle] at named
      cases named
    · intro entry member
      cases member
  · rename_i database known installed
    rw [handle] at installed
    refine ⟨_, ledger.allocated.installed known .sunxiFlashIo (Nat.lt_succ_self _)
      (ledger.old _ (Nat.le_refl _)), lists.flashIo lawful installed, ⟨?_, ?_⟩, rfl, ?_⟩
    · intro other protocol pointer named old
      obtain rfl := Option.some.inj named
      change services.interface database known protocol = some pointer at old
      rw [lawful.install_interface installed, if_pos rfl, lawful.install_new installed,
        lookup_flashIo] at old
      cases protocol with
      | blockIo | devicePath => cases old
      | sunxiFlashIo => exact ⟨rfl, _, (Option.some.inj old).symm⟩
    · intro entry member
      rw [List.mem_singleton.mp member]
      rfl
    · intro entry member
      change entry ∈ installs (dxe.log ++ _) at member
      rw [installs_append] at member
      rcases List.mem_append.mp member with old | new
      · exact .inl old
      · rw [show entry = _ from List.mem_singleton.mp new]
        exact .inr rfl

/-- An inserted card has all interfaces of the driver on its handle. -/
theorem installCard0_onHandle (lawful : services.Lawful) (ledger : Ledger dxe.log dxe.pool [])
    (lists : Lists services dxe.database []) (handle : dxe.gSdMmcHandle0 = none)
    (installed : installCard0 services dxe = .ok after) :
    ∃ handle current, OnHandle services after current handle := by
  unfold installCard0 at installed
  dsimp only at installed
  have both := ledger.allocated.allocated
  obtain ⟨start, allocated⟩ : ∃ start : SdMmcDxe Database,
      start = { dxe with pool := dxe.pool.allocateZeroPool.2.allocateZeroPool.2 } := ⟨_, rfl⟩
  have same : start.log = dxe.log ∧ start.pool.next = dxe.pool.next + 2 := by
    rw [allocated]
    exact ⟨rfl, rfl⟩
  have startLedger : Ledger start.log start.pool [] := by
    rw [allocated]
    exact both
  have startLists : Lists services start.database [] := by
    rw [allocated]
    exact lists
  have startHandle : start.gSdMmcHandle0 = none := by
    rw [allocated]
    exact handle
  split at installed
  · rw [← allocated] at installed
    refine publishBlockIo_onHandle lawful startLedger startLists ⟨?_, ?_⟩ ⟨?_, ?_⟩
      (Nat.ne_of_lt (Nat.lt_succ_self _)) ?_ installed
    · intro known protocol pointer named
      rw [startHandle] at named
      cases named
    · intro entry member
      cases member
    · rw [same.2]
      exact Nat.lt_succ_of_lt (Nat.lt_succ_self _)
    · rw [same.2]
      exact Nat.lt_succ_self _
    · intro entry member
      rw [same.1] at member
      exact ⟨ledger.old _ (Nat.le_refl _) entry member, ledger.old _ (Nat.le_succ _) entry member⟩
  · rw [← allocated] at installed
    obtain ⟨current, flashLedger, flashLists, atMost, next, only⟩ :=
      installMmcFlashIoProtocol_atMost lawful startLedger startLists startHandle
    refine publishBlockIo_onHandle lawful flashLedger flashLists atMost ⟨?_, ?_⟩
      (Nat.ne_of_lt (Nat.lt_succ_self _)) ?_ installed
    · rw [next, same.2]
      omega
    · rw [next, same.2]
      change dxe.pool.next + 1 < _
      omega
    · intro entry member
      rcases only entry member with old | new
      · rw [same.1] at old
        exact ⟨ledger.old _ (Nat.le_refl _) entry old, ledger.old _ (Nat.le_succ _) entry old⟩
      · rw [new, same.2]
        constructor
        · intro equal
          have := Pointer.pool.inj equal
          omega
        · intro equal
          have := Pointer.pool.inj equal
          change dxe.pool.next + 2 = dxe.pool.next + 1 at this
          omega

/-- When the installation stops, at most the flash interface was installed. -/
theorem installCard0_stopped (lawful : services.Lawful) (ledger : Ledger dxe.log dxe.pool [])
    (lists : Lists services dxe.database []) (handle : dxe.gSdMmcHandle0 = none)
    (stopped : installCard0 services dxe = .error after) :
    after.gSdMmc0 = dxe.gSdMmc0 ∧
      ∃ current, Ledger after.log after.pool current ∧ Lists services after.database current := by
  have publishing {first second : Pointer} {start : SdMmcDxe Database}
      (stopped : publishBlockIo services first second start = .error after) : after = start := by
    unfold publishBlockIo at stopped
    split at stopped
    · exact (Except.error.inj stopped).symm
    · cases stopped
  unfold installCard0 at stopped
  dsimp only at stopped
  split at stopped
  · obtain rfl := publishing stopped
    exact ⟨rfl, [], ledger.allocated.allocated, lists⟩
  · obtain rfl := publishing stopped
    obtain ⟨current, flashLedger, flashLists, -⟩ :=
      @installMmcFlashIoProtocol_atMost _
        { dxe with pool := dxe.pool.allocateZeroPool.2.allocateZeroPool.2 } services lawful
        ledger.allocated.allocated lists handle
    exact ⟨(installMmcFlashIoProtocol_extends services _).media, current, flashLedger, flashLists⟩

/-! ### Removal -/

/-- The handle of the card has a flash interface, and no agent refuses to give up what is on
it. -/
def SdMmcDxe.Removable (services : HandleServices Database Protocol Pointer)
    (dxe : SdMmcDxe Database) : Prop :=
  ∃ handle, dxe.gSdMmcHandle0 = some handle ∧
    (services.interface dxe.database handle .sunxiFlashIo).isSome ∧
    ∀ protocol, services.held dxe.database handle protocol = false

instance (dxe : SdMmcDxe Database) : Decidable (dxe.Removable services) :=
  decidable_of_iff
    (∃ handle ∈ dxe.gSdMmcHandle0.toList,
      (services.interface dxe.database handle .sunxiFlashIo).isSome ∧
        services.held dxe.database handle .blockIo = false ∧
        services.held dxe.database handle .devicePath = false ∧
        services.held dxe.database handle .sunxiFlashIo = false) <| by
    constructor
    · rintro ⟨handle, named, flashIo, blockIo, devicePath, flash⟩
      refine ⟨handle, Option.mem_toList.mp named, flashIo, fun protocol => ?_⟩
      cases protocol with
      | blockIo => exact blockIo
      | devicePath => exact devicePath
      | sunxiFlashIo => exact flash
    · rintro ⟨handle, named, flashIo, free⟩
      exact ⟨handle, Option.mem_toList.mpr named, flashIo, free _, free _, free _⟩

theorem CardHandle.handleProtocol_eq (card : CardHandle services dxe current handle)
    (protocol : Protocol) :
    handleProtocol services dxe protocol =
      (services.interface dxe.database handle protocol).getD .null := by
  unfold handleProtocol
  rw [card.named]

/-- The interface that is read is the one that is installed, if there is one. -/
theorem CardHandle.installed_iff (card : CardHandle services dxe current handle)
    (protocol : Protocol) :
    services.interface dxe.database handle protocol =
        some (handleProtocol services dxe protocol) ↔
      (services.interface dxe.database handle protocol).isSome := by
  rw [card.handleProtocol_eq]
  cases services.interface dxe.database handle protocol <;> simp

theorem CardHandle.uninstall_isSome_iff (lawful : services.Lawful)
    (card : CardHandle services dxe current handle) :
    (services.uninstall dxe.database handle (card0Interfaces services dxe)).isSome ↔
      dxe.Removable services := by
  rw [lawful.uninstall_isSome]
  simp only [card0Interfaces, List.forall_mem_cons, card.installed_iff]
  constructor
  · rintro ⟨blockIo, devicePath, flashIo, -⟩
    refine ⟨handle, card.named, flashIo.1, ?_⟩
    intro protocol
    cases protocol with
    | blockIo => exact blockIo.2
    | devicePath => exact devicePath.2
    | sunxiFlashIo => exact flashIo.2
  · rintro ⟨known, named, flashIo, free⟩
    obtain rfl := Option.some.inj (card.named.symm.trans named)
    exact ⟨⟨card.blockIo, free _⟩, ⟨card.devicePath, free _⟩, ⟨flashIo, free _⟩,
      fun _ member => absurd member (by simp)⟩

theorem CardHandle.numbered (card : CardHandle services dxe current handle) {protocol : Protocol}
    (installed : (services.interface dxe.database handle protocol).isSome) :
    ∃ number, handleProtocol services dxe protocol = .pool number ∧
      services.interface dxe.database handle protocol = some (.pool number) := by
  have held := (card.installed_iff protocol).mpr installed
  obtain ⟨number, equal⟩ := card.own protocol _ held
  exact ⟨number, equal, held.trans (congrArg some equal)⟩

/-- What is installed is what a removal names. -/
theorem OnHandle.perm (onHandle : OnHandle services dxe current handle)
    (flashIo : (services.interface dxe.database handle .sunxiFlashIo).isSome) :
    current.Perm ((card0Interfaces services dxe).map fun entry => (handle, entry)) := by
  have card := onHandle.card
  have distinct := onHandle.ledger.distinct_balanced
  rw [List.map_append] at distinct
  have nodup : current.Nodup := List.Nodup.of_map _ (List.nodup_append.mp distinct).2.1
  refine (List.perm_ext_iff_of_nodup nodup ?_).mpr ?_
  · simp [card0Interfaces]
  · intro entry
    have isSome (protocol : Protocol) :
        (services.interface dxe.database handle protocol).isSome := by
      cases protocol with
      | blockIo => exact card.blockIo
      | devicePath => exact card.devicePath
      | sunxiFlashIo => exact flashIo
    have named : entry ∈ (card0Interfaces services dxe).map (fun entry => (handle, entry)) ↔
        entry.1 = handle ∧ entry.2.2 = handleProtocol services dxe entry.2.1 := by
      obtain ⟨other, protocol, pointer⟩ := entry
      cases protocol <;> simp [card0Interfaces]
    rw [named]
    constructor
    · intro member
      have same := card.only entry member
      obtain ⟨number, -, numbered⟩ := onHandle.ledger.numbered entry
        (onHandle.ledger.balanced.mem_iff.mpr (List.mem_append_right _ member))
      have installed := (onHandle.lists entry.1 entry.2.1 number).mpr (by rw [← numbered]; exact member)
      rw [same] at installed
      refine ⟨same, ?_⟩
      rw [card.handleProtocol_eq, installed, numbered]
      rfl
    · rintro ⟨same, pointer⟩
      obtain ⟨number, equal, installed⟩ := card.numbered (isSome entry.2.1)
      have member := (onHandle.lists handle entry.2.1 number).mp installed
      rw [← equal, ← pointer, ← same] at member
      exact member

/-- Nothing stops when no pointer is null. -/
theorem SdMmcDxe.freeInterfaces_isOk (dxe : SdMmcDxe Database)
    {entries : List (Protocol × Pointer)} (some : ∀ entry ∈ entries, entry.2 ≠ .null) :
    (dxe.freeInterfaces entries).isOk = true := by
  induction entries generalizing dxe with
  | nil => rfl
  | cons entry rest inductionHypothesis =>
    have first : entry.2 ≠ .null := some entry List.mem_cons_self
    unfold SdMmcDxe.freeInterfaces Pool.freePool
    rw [if_neg first]
    exact inductionHypothesis _ fun other member => some other (List.mem_cons_of_mem _ member)

theorem uninstalls_uninstalled (handle : Nat) (entries : List (Protocol × Pointer)) :
    uninstalls (entries.map fun entry => Action.uninstalled handle entry.1 entry.2) =
      entries.map fun entry => (handle, entry) := by
  induction entries with
  | nil => rfl
  | cons entry rest inductionHypothesis =>
    change (handle, entry.1, entry.2) :: uninstalls _ = _
    rw [inductionHypothesis]
    rfl

theorem installs_uninstalled (handle : Nat) (entries : List (Protocol × Pointer)) :
    installs (entries.map fun entry => Action.uninstalled handle entry.1 entry.2) = [] := by
  induction entries with
  | nil => rfl
  | cons entry rest inductionHypothesis => exact inductionHypothesis

theorem CardHandle.uninstallCard0_eq (card : CardHandle services dxe current handle)
    (uninstalled : services.uninstall dxe.database handle (card0Interfaces services dxe) =
      some database) :
    uninstallCard0 services dxe = { dxe with
      database := database
      log := dxe.log ++ (card0Interfaces services dxe).map fun entry =>
        Action.uninstalled handle entry.1 entry.2 } := by
  unfold uninstallCard0
  rw [card.named]
  dsimp only
  rw [uninstalled]

/-- Removing a removable card comes back, and leaves nothing of the driver installed. -/
theorem OnHandle.removeCard0 (lawful : services.Lawful)
    (onHandle : OnHandle services dxe current handle) (removable : dxe.Removable services) :
    ∃ after, removeCard0 services dxe = .ok after ∧ Ledger after.log after.pool [] ∧
      Lists services after.database [] := by
  have card := onHandle.card
  obtain ⟨database, uninstalled⟩ :=
    Option.isSome_iff_exists.mp ((card.uninstall_isSome_iff lawful).mpr removable)
  obtain ⟨known, named, flashIo, -⟩ := removable
  obtain rfl := Option.some.inj (card.named.symm.trans named)
  have perm := onHandle.perm flashIo
  have done := card.uninstallCard0_eq uninstalled
  have isSome (protocol : Protocol) :
      (services.interface dxe.database handle protocol).isSome := by
    cases protocol with
    | blockIo => exact card.blockIo
    | devicePath => exact card.devicePath
    | sunxiFlashIo => exact flashIo
  have some : ∀ entry ∈ card0Interfaces services dxe, entry.2 ≠ .null := by
    simp only [card0Interfaces, List.forall_mem_cons]
    have named (protocol : Protocol) : handleProtocol services dxe protocol ≠ .null := by
      obtain ⟨number, equal, -⟩ := card.numbered (isSome protocol)
      rw [equal]
      exact Pointer.noConfusion
    exact ⟨named _, named _, named _, fun _ member => absurd member (by simp)⟩
  have isOk := (uninstallCard0 services dxe).freeInterfaces_isOk some
  obtain ⟨pool, frees, ends | stops⟩ :=
    (uninstallCard0 services dxe).freeInterfaces_frees (card0Interfaces services dxe)
  · rw [done] at ends frees
    refine ⟨_, by rw [PinePhonePkg.removeCard0, done, ends], ?_, ?_⟩
    · dsimp only [SdMmcDxe.record]
      have removals : uninstalls ((dxe.log ++ (card0Interfaces services dxe).map fun entry =>
          Action.uninstalled handle entry.1 entry.2) ++ [Action.logicalExit]) =
          uninstalls dxe.log ++ (card0Interfaces services dxe).map fun entry =>
            (handle, entry) := by
        rw [uninstalls_append, uninstalls_append, uninstalls_uninstalled]
        exact List.append_nil _
      have same : installs ((dxe.log ++ (card0Interfaces services dxe).map fun entry =>
          Action.uninstalled handle entry.1 entry.2) ++ [Action.logicalExit]) =
          installs dxe.log := by
        rw [installs_append, installs_append, installs_uninstalled, List.append_nil]
        exact List.append_nil _
      constructor
      · rw [same, removals, List.append_nil]
        exact onHandle.ledger.balanced.trans (List.Perm.append_left _ perm)
      · rw [same]
        exact onHandle.ledger.distinct
      · rw [same, frees.next]
        exact onHandle.ledger.numbered
      · intro pointer member
        rw [removals, List.map_append]
        rcases List.mem_append.mp (frees.only member) with named | old
        · refine List.mem_append_right _ ?_
          rw [List.map_map]
          exact named
        · exact List.mem_append_left _ (onHandle.ledger.freed pointer old)
    · intro other protocol number
      change services.interface database other protocol = _ ↔ _
      rw [lawful.uninstall_interface uninstalled]
      have listed : protocol ∈ (card0Interfaces services dxe).map Prod.fst := by
        cases protocol <;> simp [card0Interfaces]
      by_cases isCard : other = handle
      · rw [if_pos ⟨isCard, listed⟩]
        simp
      · rw [if_neg fun both => isCard both.1, onHandle.lists]
        simp only [List.not_mem_nil, iff_false]
        exact fun member => isCard (card.only _ member)
  · rw [stops] at isOk
    cases isOk

/-- Removing a card that is not removable frees interfaces that stay installed, whether it comes
back or stops. -/
theorem CardHandle.not_safe (lawful : services.Lawful)
    (card : CardHandle services dxe current handle) (stuck : ¬ dxe.Removable services)
    (ends : (PinePhonePkg.removeCard0 services dxe).map SdMmcDxe.release = .ok after ∨
      (PinePhonePkg.removeCard0 services dxe).map SdMmcDxe.release = .error after) :
    ¬ after.Safe services := by
  intro safe
  have fails : services.uninstall dxe.database handle (card0Interfaces services dxe) = none := by
    refine Option.not_isSome_iff_eq_none.mp fun done => stuck ?_
    exact (card.uninstall_isSome_iff lawful).mp done
  have same : uninstallCard0 services dxe = dxe := by
    unfold uninstallCard0
    rw [card.named]
    dsimp only
    rw [fails]
  obtain ⟨number, equal, installed⟩ := card.numbered card.blockIo
  have first : dxe.pool.freePool (handleProtocol services dxe .blockIo) =
      some { dxe.pool with freed := .pool number :: dxe.pool.freed } := by
    rw [equal]
    rfl
  obtain ⟨pool, frees, freeing⟩ := SdMmcDxe.freeInterfaces_frees
    { dxe with pool := { dxe.pool with freed := .pool number :: dxe.pool.freed } }
    [(.devicePath, handleProtocol services dxe .devicePath),
      (.sunxiFlashIo, handleProtocol services dxe .sunxiFlashIo)]
  have all : dxe.freeInterfaces (card0Interfaces services dxe) =
      SdMmcDxe.freeInterfaces
        { dxe with pool := { dxe.pool with freed := .pool number :: dxe.pool.freed } }
        [(.devicePath, handleProtocol services dxe .devicePath),
          (.sunxiFlashIo, handleProtocol services dxe .sunxiFlashIo)] := by
    rw [card0Interfaces, SdMmcDxe.freeInterfaces, first]
  have freed : .pool number ∈ pool.freed := frees.keeps List.mem_cons_self
  rw [PinePhonePkg.removeCard0, same, all] at ends
  rcases freeing with comes | stops
  · rw [comes] at ends
    cases ends with
    | inl done =>
      obtain rfl := Except.ok.inj done
      exact safe.alive handle .blockIo (.pool number) installed freed
    | inr wrong => cases wrong
  · rw [stops] at ends
    cases ends with
    | inl wrong => cases wrong
    | inr done =>
      obtain rfl := Except.error.inj done
      exact safe.alive handle .blockIo (.pool number) installed freed

/-! ### Callbacks -/

/-- The callback handles the removal of the card. -/
structure Callback.Removes (callback : Callback Database) : Prop where
  free : callback.before.gCard0DetectLock = false
  present : callback.before.gSdMmc0.mediaPresent = true
  reads : card0Present callback.input.gpioValue = some false

instance (callback : Callback Database) : Decidable callback.Removes :=
  decidable_of_iff
    (callback.before.gCard0DetectLock = false ∧ callback.before.gSdMmc0.mediaPresent = true ∧
      card0Present callback.input.gpioValue = some false)
    ⟨fun ⟨free, present, reads⟩ => ⟨free, present, reads⟩,
      fun removes => ⟨removes.free, removes.present, removes.reads⟩⟩

/-- The two states have the same interfaces and pool, and installed and removed the same. -/
structure SameLinks (before after : SdMmcDxe Database) : Prop where
  database : after.database = before.database
  pool : after.pool = before.pool
  installed : installs after.log = installs before.log
  uninstalled : uninstalls after.log = uninstalls before.log

/-- What a callback does with the interfaces of the card, whether it comes back or stops in an
assertion. -/
inductive Links (services : HandleServices Database Protocol Pointer) (input : Card0Input)
    (dxe : SdMmcDxe Database) : Halting Database (SdMmcDxe Database) → Prop where
  | keeps {after : SdMmcDxe Database} (same : SameLinks dxe after)
      (handle : after.gSdMmcHandle0 = dxe.gSdMmcHandle0)
      (media : after.gSdMmc0.mediaPresent = dxe.gSdMmc0.mediaPresent)
      (stays : ∀ last, ¬ Callback.Removes ⟨dxe, input, last⟩) : Links services input dxe (.ok after)
  | reading {after : SdMmcDxe Database} (same : SameLinks dxe after)
      (media : after.gSdMmc0.mediaPresent = dxe.gSdMmc0.mediaPresent)
      (stays : ∀ last, ¬ Callback.Removes ⟨dxe, input, last⟩) :
      Links services input dxe (.error after)
  | removes {result : Halting Database (SdMmcDxe Database)}
      (removal : ∀ last, Callback.Removes ⟨dxe, input, last⟩)
      (done : (removeCard0 services (dxe.acquire.record (.reading false))).map SdMmcDxe.release =
        result) : Links services input dxe result
  | inserts (before middle : SdMmcDxe Database) (same : SameLinks dxe before)
      (absent : dxe.gSdMmc0.mediaPresent = false) (handle : before.gSdMmcHandle0 = none)
      (installed : installCard0 services before = .ok middle)
      (present : middle.gSdMmc0.mediaPresent = true) : Links services input dxe (.ok middle.release)
  | publishing (before : SdMmcDxe Database) {after : SdMmcDxe Database}
      (same : SameLinks dxe before) (absent : dxe.gSdMmc0.mediaPresent = false)
      (handle : before.gSdMmcHandle0 = none) (present : before.gSdMmc0.mediaPresent = true)
      (stopped : installCard0 services before = .error after) :
      Links services input dxe (.error after)

theorem sameLinks_of_log {before : SdMmcDxe Database} {readings : List Action}
    (database : after.database = before.database) (pool : after.pool = before.pool)
    (log : after.log = before.log ++ readings) (installed : installs readings = [])
    (uninstalled : uninstalls readings = []) : SameLinks before after where
  database := database
  pool := pool
  installed := by rw [log, installs_append, installed, List.append_nil]
  uninstalled := by rw [log, uninstalls_append, uninstalled, List.append_nil]

theorem Callback.stays_of_absent (media : dxe.gSdMmc0.mediaPresent = false) :
    ¬ Callback.Removes ⟨dxe, input, after⟩ :=
  fun removes => absurd (media.symm.trans removes.present) Bool.false_ne_true

/-- The readings of an insertion, and the initialisation when there is one. -/
theorem sameLinks_inserting (dxe : SdMmcDxe Database) (result : Int) (lba : Ulong) :
    SameLinks dxe (((dxe.acquire.record (.reading true)).record (.reading true)).record
      (.logicalInit result lba)) := by
  have log : (((dxe.acquire.record (.reading true)).record (.reading true)).record
      (.logicalInit result lba)).log = dxe.log ++
        [.reading true, .reading true, .logicalInit result lba] := by
    simp [SdMmcDxe.record, SdMmcDxe.acquire]
  exact sameLinks_of_log rfl rfl log rfl rfl

theorem insertCard0_links (media : dxe.gSdMmc0.mediaPresent = false) :
    Links services input dxe
      (insertCard0 services input (dxe.acquire.record (.reading true))) := by
  have stays (last : SdMmcDxe Database) : ¬ Callback.Removes ⟨dxe, input, last⟩ :=
    Callback.stays_of_absent media
  unfold insertCard0
  cases again : card0Present input.gpioValueAgain with
  | none =>
    rw [detectCard0, again]
    exact .reading (sameLinks_of_log rfl rfl rfl rfl rfl) rfl stays
  | some present =>
    cases present with
    | false =>
      rw [detectCard0, again]
      exact .keeps (sameLinks_of_log rfl rfl (List.append_assoc _ _ _) rfl rfl) rfl rfl stays
    | true =>
      have counted := detectCard0_present again (dxe.acquire.record (.reading true))
      by_cases enough : 3 ≤ dxe.detectCount + 1
      · rw [counted.trans (if_pos enough)]
        have links := sameLinks_inserting dxe (sdmmcLogicalInit input.card) input.card.lba
        by_cases init : sdmmcLogicalInit input.card = 0
        · have succeeds : ¬ sdmmcLogicalInit input.card < 0 := by rw [init]; decide
          simp only [initDetectedCard, if_neg succeeds]
          generalize isBefore : SdMmcDxe.mk _ _ _ _ _ _ _ = before
          have same : SameLinks dxe before := by
            rw [← isBefore]
            exact ⟨rfl, rfl, links.installed, links.uninstalled⟩
          have handle : before.gSdMmcHandle0 = none := by
            rw [← isBefore]
          have present : before.gSdMmc0.mediaPresent = true := by
            rw [← isBefore]
          cases installed : installCard0 services before with
          | ok middle =>
            refine .inserts before middle same media handle installed ?_
            rw [(installCard0_extends services installed).media, present]
          | error after => exact .publishing before same media handle present installed
        · have fails := (sdmmcLogicalInit_neg_iff input.card).mpr init
          simp only [initDetectedCard, if_pos fails]
          exact .keeps ⟨rfl, rfl, links.installed, links.uninstalled⟩ rfl media.symm stays
      · rw [counted.trans (if_neg enough)]
        exact .keeps (sameLinks_of_log rfl rfl (List.append_assoc _ _ _) rfl rfl) rfl rfl stays

theorem card0DetectTimerCallback_links (services : HandleServices Database Protocol Pointer)
    (input : Card0Input) (free : dxe.gCard0DetectLock = false) :
    Links services input dxe (card0DetectTimerCallback services input dxe) := by
  unfold card0DetectTimerCallback
  rw [free, if_neg Bool.false_ne_true]
  cases reads : card0Present input.gpioValue with
  | none =>
    refine .reading ⟨rfl, rfl, rfl, rfl⟩ rfl fun _ removes => ?_
    cases reads.symm.trans removes.reads
  | some present =>
    dsimp only
    change Links _ _ _ (if dxe.gSdMmc0.mediaPresent = true then _ else _)
    cases media : dxe.gSdMmc0.mediaPresent with
    | true =>
      rw [if_pos rfl]
      cases present with
      | true =>
        refine .keeps (sameLinks_of_log rfl rfl rfl rfl rfl) rfl rfl fun _ removes => ?_
        exact absurd (Option.some.inj (reads.symm.trans removes.reads)).symm Bool.false_ne_true
      | false => exact .removes (fun _ => ⟨free, media, reads⟩) rfl
    | false =>
      rw [if_neg Bool.false_ne_true]
      cases present with
      | true => exact insertCard0_links media
      | false =>
        exact .keeps (sameLinks_of_log rfl rfl rfl rfl rfl) rfl rfl fun _ =>
          Callback.stays_of_absent media

theorem SdMmcDxe.Linked.onHandle (linked : dxe.Linked services)
    (present : dxe.gSdMmc0.mediaPresent = true) :
    ∃ current handle, OnHandle services dxe current handle := by
  obtain ⟨current, ledger, lists, -, card⟩ := linked
  obtain ⟨handle, card⟩ := card present
  exact ⟨current, handle, ledger, lists, card⟩

theorem OnHandle.linked (onHandle : OnHandle services dxe current handle)
    (present : dxe.gSdMmc0.mediaPresent = true) : dxe.Linked services :=
  ⟨current, onHandle.ledger, onHandle.lists,
    fun absent => absurd (absent.symm.trans present) Bool.false_ne_true,
    fun _ => ⟨handle, onHandle.card⟩⟩

theorem OnHandle.same {before : SdMmcDxe Database}
    (onHandle : OnHandle services before current handle) (same : SameLinks before after)
    (named : after.gSdMmcHandle0 = before.gSdMmcHandle0) :
    OnHandle services after current handle where
  ledger := by
    rw [same.pool]
    exact onHandle.ledger.congr same.installed same.uninstalled
  lists := by
    rw [same.database]
    exact onHandle.lists
  card := by
    have card := onHandle.card
    exact ⟨named.trans card.named, by rw [same.database]; exact card.blockIo,
      by rw [same.database]; exact card.devicePath, by rw [same.database]; exact card.own,
      card.only⟩

theorem OnHandle.acquired (onHandle : OnHandle services dxe current handle) :
    OnHandle services (dxe.acquire.record (.reading false)) current handle :=
  onHandle.same (sameLinks_of_log rfl rfl rfl rfl rfl) rfl

/-- A callback keeps the interfaces linked, unless it removes a card that is not removable. -/
theorem Links.linked (lawful : services.Lawful) (links : Links services input dxe (.ok after))
    (removable : Callback.Removes ⟨dxe, input, after⟩ → dxe.Removable services)
    (linked : dxe.Linked services) : after.Linked services := by
  cases links with
  | keeps same handle media stays =>
    cases present : dxe.gSdMmc0.mediaPresent with
    | true =>
      obtain ⟨current, known, onHandle⟩ := linked.onHandle present
      exact (onHandle.same same handle).linked (media.trans present)
    | false =>
      obtain ⟨current, ledger, lists, absent, -⟩ := linked
      refine ⟨current, ?_, ?_, fun _ => absent present, fun now => ?_⟩
      · rw [same.pool]
        exact ledger.congr same.installed same.uninstalled
      · rw [same.database]
        exact lists
      · exact absurd (present.symm.trans (media.symm.trans now)) Bool.false_ne_true
  | removes removal done =>
    obtain ⟨current, handle, onHandle⟩ := linked.onHandle (removal dxe).present
    obtain ⟨middle, removed, rfl⟩ := map_release_eq_ok done
    obtain ⟨last, equal, ledger, lists⟩ :=
      onHandle.acquired.removeCard0 lawful (removable (removal _))
    obtain rfl := Except.ok.inj (removed.symm.trans equal)
    have gone := (removeCard0_extends services removed).1
    exact ⟨[], ledger, lists, fun _ => rfl,
      fun now => absurd (gone.symm.trans now) Bool.false_ne_true⟩
  | inserts before middle same absent handle installed present =>
    obtain ⟨current, ledger, lists, none, -⟩ := linked
    obtain rfl := none absent
    obtain ⟨known, current, onHandle⟩ := installCard0_onHandle lawful
      (by rw [same.pool]; exact ledger.congr same.installed same.uninstalled)
      (by rw [same.database]; exact lists) handle installed
    have released : OnHandle services middle.release current known :=
      onHandle.same ⟨rfl, rfl, rfl, rfl⟩ rfl
    exact released.linked present

/-- A callback that removes a card which is not removable leaves freed interfaces installed. -/
theorem Links.not_safe (lawful : services.Lawful)
    {result : Halting Database (SdMmcDxe Database)} (links : Links services input dxe result)
    (ends : result = .ok after ∨ result = .error after)
    (removal : Callback.Removes ⟨dxe, input, after⟩) (stuck : ¬ dxe.Removable services)
    (linked : dxe.Linked services) : ¬ after.Safe services := by
  cases links with
  | keeps _ _ _ stays | reading _ _ stays => exact absurd removal (stays after)
  | removes _ done =>
    obtain ⟨current, handle, onHandle⟩ := linked.onHandle removal.present
    exact onHandle.acquired.card.not_safe lawful stuck (done ▸ ends)
  | inserts _ _ _ absent | publishing _ _ absent =>
    exact absurd (absent.symm.trans removal.present) Bool.false_ne_true

/-- A callback that stops leaves the interfaces safe, unless it removes a card. -/
theorem Links.safe (lawful : services.Lawful) (links : Links services input dxe (.error after))
    (removable : Callback.Removes ⟨dxe, input, after⟩ → dxe.Removable services)
    (linked : dxe.Linked services) : after.Safe services := by
  cases links with
  | reading same media stays =>
    obtain ⟨current, ledger, lists, absent, -⟩ := linked
    have kept : Ledger after.log after.pool current := by
      rw [same.pool]
      exact ledger.congr same.installed same.uninstalled
    refine kept.safe ?_ fun gone => absent (media.symm.trans gone)
    rw [same.database]
    exact lists
  | removes removal done =>
    obtain ⟨current, handle, onHandle⟩ := linked.onHandle (removal dxe).present
    obtain ⟨last, equal, -⟩ := onHandle.acquired.removeCard0 lawful (removable (removal _))
    rw [equal] at done
    cases done
  | publishing before same absent handle present stopped =>
    obtain ⟨current, ledger, lists, none, -⟩ := linked
    obtain rfl := none absent
    obtain ⟨media, current, ledger, lists⟩ := installCard0_stopped lawful
      (by rw [same.pool]; exact ledger.congr same.installed same.uninstalled)
      (by rw [same.database]; exact lists) handle stopped
    refine ledger.safe lists fun gone => ?_
    rw [media, present] at gone
    cases gone

theorem OthersChange.linked (change : OthersChange services dxe.database database)
    (linked : dxe.Linked services) :
    { dxe with database := database }.Linked services := by
  obtain ⟨current, ledger, lists, absent, present⟩ := linked
  refine ⟨current, ledger, ?_, absent, ?_⟩
  · intro handle protocol number
    rw [← lists handle protocol number]
    constructor
    · exact change.foreign handle protocol number
    · intro installed
      rw [change.own handle ⟨protocol, number, installed⟩ protocol]
      exact installed
  · intro media
    obtain ⟨handle, card⟩ := present media
    obtain ⟨number, -, installed⟩ := card.numbered card.blockIo
    have same := change.own handle ⟨.blockIo, number, installed⟩
    exact ⟨handle, card.named, by rw [same]; exact card.blockIo,
      by rw [same]; exact card.devicePath,
      fun protocol pointer held => card.own protocol pointer ((same protocol).symm.trans held),
      card.only⟩

/-! ### Runs -/

/-- Loading the driver leaves the interfaces linked. -/
theorem Loads.linked (lawful : services.Lawful) {boot : Card0Input} {first : SdMmcDxe Database}
    (loads : Loads services boot database first) :
    first.Linked services := by
  have lists : Lists services database [] := fun handle protocol number =>
    ⟨fun installed => absurd installed (loads.clean handle protocol number),
      fun member => absurd member (by simp)⟩
  have ledger (log : List Action) (installed : installs log = [])
      (uninstalled : uninstalls log = []) : Ledger log { next := 0, freed := [] } [] := by
    refine ⟨?_, ?_, ?_, fun _ member => absurd member (by simp)⟩
    · rw [installed, uninstalled]
      rfl
    · rw [installed]
      exact List.nodup_nil
    · rw [installed]
      exact fun _ member => absurd member (by simp)
  have done := loads.done
  unfold initializeCard0 at done
  split at done
  · cases done
  · obtain rfl := Except.ok.inj done
    exact ⟨[], ledger _ rfl rfl, lists, fun _ => rfl, fun now => absurd now Bool.false_ne_true⟩
  · dsimp only at done
    split at done
    · obtain rfl := Except.ok.inj done
      exact ⟨[], ledger _ rfl rfl, lists, fun _ => rfl, fun now => absurd now Bool.false_ne_true⟩
    · obtain ⟨handle, current, onHandle⟩ :=
        installCard0_onHandle lawful (ledger _ rfl rfl) lists rfl done
      exact onHandle.linked
        (congrArg EfiBlockIoMedia.mediaPresent (installCard0_extends services done).media)

theorem Run.linked (lawful : services.Lawful) {first : SdMmcDxe Database}
    {past : List (Callback Database)} (run : Run services first past dxe)
    (watching : first.Watching) (linked : first.Linked services)
    (removable : ∀ callback ∈ past, callback.Removes → callback.before.Removable services) :
    dxe.Linked services ∧ ∀ callback ∈ past, callback.after.Linked services := by
  induction run with
  | start => exact ⟨linked, fun _ member => absurd member (by simp)⟩
  | timer input run done inductionHypothesis =>
    obtain ⟨before, members⟩ := inductionHypothesis fun callback member =>
      removable callback (List.mem_append_left _ member)
    have links := card0DetectTimerCallback_links services input (run.detects watching).1.free
    rw [done] at links
    have after := links.linked lawful (removable _ (by simp)) before
    refine ⟨after, fun callback member => ?_⟩
    rcases List.mem_append.mp member with old | new
    · exact members callback old
    · obtain rfl := List.mem_singleton.mp new
      exact after
  | others database run change inductionHypothesis =>
    obtain ⟨before, members⟩ := inductionHypothesis removable
    exact ⟨change.linked before, members⟩

/-- In a run that stays safe, every card that is removed is removable. -/
theorem Run.removable (lawful : services.Lawful) {first : SdMmcDxe Database}
    {past : List (Callback Database)} (run : Run services first past dxe)
    (watching : first.Watching) (linked : first.Linked services)
    (safe : ∀ callback ∈ past, callback.after.Safe services) :
    ∀ callback ∈ past, callback.Removes → callback.before.Removable services := by
  induction run with
  | start => exact fun _ member => absurd member (by simp)
  | timer input run done inductionHypothesis =>
    have removable := inductionHypothesis fun callback member =>
      safe callback (List.mem_append_left _ member)
    have before := (run.linked lawful watching linked removable).1
    have links := card0DetectTimerCallback_links services input (run.detects watching).1.free
    intro callback member removes
    rcases List.mem_append.mp member with old | new
    · exact removable callback old removes
    · obtain rfl := List.mem_singleton.mp new
      refine Classical.byContradiction fun stuck => ?_
      exact links.not_safe lawful (.inl done) removes stuck before (safe _ member)
  | others database run change inductionHypothesis => exact inductionHypothesis safe

/-- The callbacks of a run, with a last one that stops in an assertion or without it. -/
inductive History (services : HandleServices Database Protocol Pointer)
    (first : SdMmcDxe Database) : List (Callback Database) → Prop where
  | running {past : List (Callback Database)} {dxe : SdMmcDxe Database}
      (run : Run services first past dxe) : History services first past
  | stopped {past : List (Callback Database)} {dxe after : SdMmcDxe Database}
      (input : Card0Input) (run : Run services first past dxe)
      (stops : card0DetectTimerCallback services input dxe = .error after) :
      History services first (past ++ [⟨dxe, input, after⟩])

/-- No interface that is still installed points to freed memory, and each one that was installed
is uninstalled once, if and only if every removal finds a flash interface on the handle of the
card and no agent that refuses. -/
theorem hotRemoval_safe_iff (services : HandleServices Database Protocol Pointer)
    (lawful : services.Lawful) (boot : Card0Input) (database : Database)
    (first : SdMmcDxe Database) (past : List (Callback Database))
    (loads : Loads services boot database first) (history : History services first past) :
    (first.Safe services ∧ ∀ callback ∈ past, callback.after.Safe services) ↔
      ∀ callback ∈ past, callback.Removes → callback.before.Removable services := by
  have watching := (initializeCard0_watching loads.done).1
  have linked := loads.linked lawful
  cases history with
  | running run =>
    constructor
    · rintro ⟨-, safe⟩
      exact run.removable lawful watching linked safe
    · intro removable
      have members := (run.linked lawful watching linked removable).2
      exact ⟨linked.safe, fun callback member => (members callback member).safe⟩
  | @stopped past dxe after input run stops =>
    have halts := card0DetectTimerCallback_links services input (run.detects watching).1.free
    rw [stops] at halts
    simp only [List.forall_mem_append, List.forall_mem_singleton]
    constructor
    · rintro ⟨-, safe, last⟩
      have removable := run.removable lawful watching linked safe
      refine ⟨removable, fun removes => Classical.byContradiction fun stuck => ?_⟩
      exact halts.not_safe lawful (.inr rfl) removes stuck
        (run.linked lawful watching linked removable).1 last
    · rintro ⟨removable, last⟩
      obtain ⟨before, members⟩ := run.linked lawful watching linked removable
      exact ⟨linked.safe, fun callback member => (members callback member).safe,
        halts.safe lawful last before⟩

end Services

/-! ### A card that is plugged in and out -/

/-- Three callbacks that meet a card, and one that meets the empty slot. -/
def plugInputs : List Card0Input :=
  List.replicate 3 pluggedInput ++ [emptySlotInput]

/-- The last callback removes the card, which has all its interfaces. -/
theorem runCallbacks_plugInputs :
    (runCallbacks HandleTable.services plugInputs emptySlot).map (fun result =>
        decide (result.1.length = 4 ∧ (∃ callback ∈ result.1, callback.Removes) ∧
          ∀ callback ∈ result.1, callback.Removes →
            callback.before.Removable HandleTable.services)) =
      some true := by
  decide +kernel

theorem hotRemoval_safe_iff_plugInputs :
    ∃ past, History HandleTable.services emptySlot past ∧ past.length = 4 ∧
      (∃ callback ∈ past, callback.Removes) ∧
        ∀ callback ∈ past, callback.after.Safe HandleTable.services := by
  obtain ⟨⟨past, dxe⟩, done, facts⟩ := Option.map_eq_some_iff.mp runCallbacks_plugInputs
  obtain ⟨length, removes, removable⟩ := of_decide_eq_true facts
  have history : History HandleTable.services emptySlot past :=
    .running (run_runCallbacks .start done)
  exact ⟨past, history, length, removes, ((hotRemoval_safe_iff HandleTable.services
    HandleTable.services_lawful emptySlotInput HandleTable.empty emptySlot past loads_emptySlot
    history).mpr removable).2⟩

/-- A database with the flash interface of another driver. -/
def flashTable : HandleTable Protocol Pointer where
  next := 1
  interface handle protocol :=
    if handle = 0 ∧ protocol = .sunxiFlashIo then some (.other 0) else none
  unused handle beyond protocol := if_neg fun both => by omega

/-- The driver on that database with no card in the slot. -/
def flashEmptySlot : SdMmcDxe (HandleTable Protocol Pointer) :=
  (SdMmcDxe.unloaded flashTable).record (.reading false)

theorem loads_flashEmptySlot :
    Loads HandleTable.services emptySlotInput flashTable flashEmptySlot where
  clean handle protocol number := by
    change (if _ then _ else _) ≠ _
    split <;> simp
  done := rfl

/-- The state in which a callback comes back or stops. -/
def ended : Halting (HandleTable Protocol Pointer) (SdMmcDxe (HandleTable Protocol Pointer)) →
    Bool × SdMmcDxe (HandleTable Protocol Pointer)
  | .error dxe => (false, dxe)
  | .ok dxe => (true, dxe)

/-- When the card is plugged out again, its block interface is freed while it is installed, and
the assertion on the missing flash interface stops the callback. -/
theorem runCallbacks_flashTable :
    (runCallbacks HandleTable.services (List.replicate 3 pluggedInput) flashEmptySlot).map
        (fun result =>
          let (returns, after) :=
            ended (card0DetectTimerCallback HandleTable.services emptySlotInput result.2)
          (returns, after.database.interface 1 .blockIo, decide (.pool 0 ∈ after.pool.freed))) =
      some (false, some (.pool 0), true) := by
  decide +kernel

/-- An agent that does not give up the block interface of the first handle. -/
def holdingServices : HandleServices (HandleTable Protocol Pointer) Protocol Pointer :=
  HandleTable.servicesHolding fun handle protocol => handle = 0 ∧ protocol = .blockIo

/-- With an agent that refuses, the block interface is freed and stays installed. -/
theorem runCallbacks_holdingServices :
    ((runCallbacks holdingServices plugInputs emptySlot).bind fun result =>
        result.1.getLast?.map fun callback =>
          (callback.after.database.interface 0 .blockIo,
            decide (.pool 0 ∈ callback.after.pool.freed))) =
      some (some (.pool 0), true) := by
  decide +kernel

/-- The flash interface of another driver is found, or an agent refuses: either way what is freed
stays installed. In the second case the callback comes back. -/
theorem hotRemoval_not_safe :
    (HandleServices.Lawful (@HandleTable.services Protocol Pointer _ _) ∧
      Loads HandleTable.services emptySlotInput flashTable flashEmptySlot ∧
      ∃ past, History HandleTable.services flashEmptySlot past ∧
        ¬ ∀ callback ∈ past, callback.after.Safe HandleTable.services) ∧
    (holdingServices.Lawful ∧
      Loads holdingServices emptySlotInput HandleTable.empty emptySlot ∧
      ∃ past dxe, Run holdingServices emptySlot past dxe ∧
        ¬ ∀ callback ∈ past, callback.after.Safe holdingServices) := by
  refine ⟨⟨HandleTable.services_lawful, loads_flashEmptySlot, ?_⟩,
    HandleTable.servicesHolding_lawful _, ⟨fun _ _ _ => nofun, rfl⟩, ?_⟩
  · obtain ⟨⟨past, last⟩, done, facts⟩ := Option.map_eq_some_iff.mp runCallbacks_flashTable
    have run := run_runCallbacks .start done
    cases step : card0DetectTimerCallback HandleTable.services emptySlotInput last with
    | ok after =>
      rw [step] at facts
      cases (Prod.mk.inj facts).1
    | error after =>
      rw [step] at facts
      obtain ⟨installed, free⟩ := Prod.mk.inj (Prod.mk.inj facts).2
      refine ⟨_, .stopped emptySlotInput run step, fun safe => ?_⟩
      exact (safe ⟨last, emptySlotInput, after⟩ (by simp)).alive 1 .blockIo (.pool 0) installed
        (of_decide_eq_true free)
  · obtain ⟨⟨past, last⟩, done, facts⟩ := Option.bind_eq_some_iff.mp runCallbacks_holdingServices
    obtain ⟨callback, isLast, equal⟩ := Option.map_eq_some_iff.mp facts
    obtain ⟨installed, free⟩ := Prod.mk.inj equal
    refine ⟨past, last, run_runCallbacks .start done, fun safe => ?_⟩
    exact (safe callback (List.mem_of_getLast? isLast)).alive 0 .blockIo (.pool 0) installed
      (of_decide_eq_true free)

end PinePhonePkg
