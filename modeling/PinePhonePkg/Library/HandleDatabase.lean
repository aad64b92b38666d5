/-
This file gives a database of handles and the interfaces installed on them,
seen through the services that work on it. The laws say what each service does
to the interfaces; a database with a counter for new handles satisfies them.
-/

import Mathlib.Data.List.Basic
import Mathlib.Logic.Function.Basic
import Mathlib.Tactic.Common

namespace Library

/-- The services of a handle database. A handle that is to be made is `none`, and a service that
fails returns `none`. -/
structure HandleServices (Database Guid Pointer : Type) where
  interface : Database → Nat → Guid → Option Pointer
  /-- Some agent uses the interface and refuses to give it up. -/
  held : Database → Nat → Guid → Bool
  locate : Database → Guid → Option Pointer
  install : Database → Option Nat → List (Guid × Pointer) → Option (Database × Nat)
  uninstall : Database → Nat → List (Guid × Pointer) → Option Database

namespace HandleServices

variable {Database Guid Pointer : Type} [DecidableEq Guid]

/-- What the services do. A removal of several interfaces removes all of them or none. -/
structure Lawful (services : HandleServices Database Guid Pointer) : Prop where
  locate_none (database : Database) (guid : Guid) :
    services.locate database guid = none ↔
      ∀ handle, services.interface database handle guid = none
  install_handle {database after : Database} {handle result : Nat}
    {entries : List (Guid × Pointer)}
    (installed : services.install database (some handle) entries = some (after, result)) :
    result = handle
  install_new {database after : Database} {result : Nat} {entries : List (Guid × Pointer)}
    (installed : services.install database none entries = some (after, result)) (guid : Guid) :
    services.interface database result guid = none
  install_interface {database after : Database} {target : Option Nat} {result : Nat}
    {entries : List (Guid × Pointer)}
    (installed : services.install database target entries = some (after, result))
    (handle : Nat) (guid : Guid) :
    services.interface after handle guid =
      if handle = result then (entries.lookup guid).or (services.interface database handle guid)
      else services.interface database handle guid
  uninstall_isSome (database : Database) (handle : Nat) (entries : List (Guid × Pointer)) :
    (services.uninstall database handle entries).isSome ↔
      ∀ entry ∈ entries, services.interface database handle entry.1 = some entry.2 ∧
        services.held database handle entry.1 = false
  uninstall_interface {database after : Database} {handle : Nat}
    {entries : List (Guid × Pointer)}
    (removed : services.uninstall database handle entries = some after)
    (other : Nat) (guid : Guid) :
    services.interface after other guid =
      if other = handle ∧ guid ∈ entries.map Prod.fst then none
      else services.interface database other guid

end HandleServices

/-! ### A database with a counter -/

/-- The interfaces of each handle; handles from `next` on have none. -/
structure HandleTable (Guid Pointer : Type) where
  next : Nat
  interface : Nat → Guid → Option Pointer
  unused : ∀ handle, next ≤ handle → ∀ guid, interface handle guid = none

namespace HandleTable

variable {Guid Pointer : Type}

/-- No handle -/
def empty : HandleTable Guid Pointer where
  next := 0
  interface _ _ := none
  unused _ _ _ := rfl

/-- The interface of the first handle that has one -/
def locate (table : HandleTable Guid Pointer) (guid : Guid) : Option Pointer :=
  (List.range table.next).findSome? fun handle => table.interface handle guid

theorem locate_none (table : HandleTable Guid Pointer) (guid : Guid) :
    table.locate guid = none ↔ ∀ handle, table.interface handle guid = none := by
  unfold locate
  rw [List.findSome?_eq_none_iff]
  constructor
  · intro absent handle
    by_cases used : handle < table.next
    · exact absent handle (List.mem_range.mpr used)
    · exact table.unused handle (Nat.le_of_not_lt used) guid
  · intro absent handle _
    exact absent handle

section Services

variable [DecidableEq Guid]

/-- A new handle is the next unused one; a handle that is named has to be in use. -/
def install (table : HandleTable Guid Pointer) (target : Option Nat)
    (entries : List (Guid × Pointer)) : Option (HandleTable Guid Pointer × Nat) :=
  let result := target.getD table.next
  if result ≤ table.next then
    some ({
      next := max table.next (result + 1)
      interface := fun handle guid =>
        if handle = result then (entries.lookup guid).or (table.interface handle guid)
        else table.interface handle guid
      unused := fun handle beyond guid => by
        rw [if_neg (by omega)]
        exact table.unused handle (by omega) guid }, result)
  else none

theorem install_some {table after : HandleTable Guid Pointer} {target : Option Nat}
    {result : Nat} {entries : List (Guid × Pointer)}
    (installed : table.install target entries = some (after, result)) :
    result = target.getD table.next ∧
      ∀ handle guid, after.interface handle guid =
        if handle = result then (entries.lookup guid).or (table.interface handle guid)
        else table.interface handle guid := by
  unfold install at installed
  dsimp only at installed
  split at installed
  · obtain ⟨rfl, rfl⟩ := Prod.mk.inj (Option.some.inj installed)
    exact ⟨rfl, fun handle guid => rfl⟩
  · cases installed

variable [DecidableEq Pointer]

/-- Takes interfaces off a handle, if all of them are there. -/
def uninstall (table : HandleTable Guid Pointer) (handle : Nat)
    (entries : List (Guid × Pointer)) : Option (HandleTable Guid Pointer) :=
  if ∀ entry ∈ entries, table.interface handle entry.1 = some entry.2 then
    some {
      next := table.next
      interface := fun other guid =>
        if other = handle ∧ guid ∈ entries.map Prod.fst then none
        else table.interface other guid
      unused := fun other beyond guid => by
        split
        · rfl
        · exact table.unused other beyond guid }
  else none

/-- The services of a table in which some agents refuse to give up an interface. -/
def servicesHolding (held : Nat → Guid → Bool) :
    HandleServices (HandleTable Guid Pointer) Guid Pointer where
  interface := HandleTable.interface
  held _ := held
  locate := locate
  install := install
  uninstall table handle entries :=
    if ∀ entry ∈ entries, held handle entry.1 = false then table.uninstall handle entries
    else none

theorem uninstall_isSome (table : HandleTable Guid Pointer) (handle : Nat)
    (entries : List (Guid × Pointer)) :
    (table.uninstall handle entries).isSome ↔
      ∀ entry ∈ entries, table.interface handle entry.1 = some entry.2 := by
  unfold uninstall
  split
  · rename_i present
    exact ⟨fun _ => present, fun _ => rfl⟩
  · rename_i missing
    exact ⟨fun some => absurd some Bool.false_ne_true, fun present => absurd present missing⟩

theorem servicesHolding_lawful (held : Nat → Guid → Bool) :
    (servicesHolding held : HandleServices (HandleTable Guid Pointer) Guid Pointer).Lawful where
  locate_none := locate_none
  install_handle installed := (install_some installed).1
  install_new {table _ _ _} installed guid := by
    rw [(install_some installed).1]
    exact table.unused table.next (Nat.le_refl _) guid
  install_interface installed := (install_some installed).2
  uninstall_isSome table handle entries := by
    change Option.isSome (if _ then _ else none) = true ↔ _
    split
    · rename_i free
      rw [uninstall_isSome]
      exact ⟨fun present entry member => ⟨present entry member, free entry member⟩,
        fun present entry member => (present entry member).1⟩
    · rename_i refused
      refine ⟨fun some => absurd some Bool.false_ne_true, fun present => ?_⟩
      exact absurd (fun entry member => (present entry member).2) refused
  uninstall_interface {table _ handle entries} removed other guid := by
    change (if _ then table.uninstall handle entries else none) = some _ at removed
    split at removed
    · unfold uninstall at removed
      split at removed
      · obtain rfl := Option.some.inj removed
        rfl
      · cases removed
    · cases removed

/-- The services of a table in which nothing refuses to be removed. -/
def services : HandleServices (HandleTable Guid Pointer) Guid Pointer :=
  servicesHolding fun _ _ => false

theorem services_lawful :
    (services : HandleServices (HandleTable Guid Pointer) Guid Pointer).Lawful :=
  servicesHolding_lawful _

end Services

end HandleTable

end Library
