/-
This file embeds how the memory peim describes the system memory and takes the
firmware out of it. The descriptor that holds the firmware is cut in place, and new
ones are built for the other parts. Firmware inside of the system memory is always
carved out right: the only descriptor that can hold it is the one just built, so
its top is that of the system memory. Firmware elsewhere is left as it is.
-/

import PinePhonePkg.Library.Regions
import PinePhonePkg.Mmc.Types

namespace PinePhonePkg

open Library

/-! ### The code -/

/-- `EFI_HOB_RESOURCE_DESCRIPTOR` -/
structure ResourceDescriptor : Type where
  resourceType : U32
  resourceAttribute : U32
  physicalStart : Ulong
  resourceLength : Ulong
deriving DecidableEq

/-- A hob; of one that is no resource descriptor there is only its type. -/
inductive Hob : Type where
  | resourceDescriptor (descriptor : ResourceDescriptor)
  | other (hobType : BitVec 16)

/-- The configuration that the peim reads -/
structure MemoryPcds : Type where
  systemMemoryBase : Ulong
  systemMemorySize : Ulong
  fdBaseAddress : U32
  fdSize : U32

def efiResourceSystemMemory : U32 := 0

/-- `EFI_RESOURCE_ATTRIBUTE_PRESENT` -/
def attributePresent : U32 := 0x00000001

/-- `EFI_RESOURCE_ATTRIBUTE_INITIALIZED` -/
def attributeInitialized : U32 := 0x00000002

/-- `EFI_RESOURCE_ATTRIBUTE_TESTED` -/
def attributeTested : U32 := 0x00000004

/-- `EFI_RESOURCE_ATTRIBUTE_UNCACHEABLE` -/
def attributeUncacheable : U32 := 0x00000400

/-- `EFI_RESOURCE_ATTRIBUTE_WRITE_COMBINEABLE` -/
def attributeWriteCombineable : U32 := 0x00000800

/-- `EFI_RESOURCE_ATTRIBUTE_WRITE_THROUGH_CACHEABLE` -/
def attributeWriteThroughCacheable : U32 := 0x00001000

/-- `EFI_RESOURCE_ATTRIBUTE_WRITE_BACK_CACHEABLE` -/
def attributeWriteBackCacheable : U32 := 0x00002000

/-- The attributes of the system memory -/
def systemMemoryAttributes : U32 :=
  attributePresent ||| attributeInitialized ||| attributeUncacheable |||
    attributeWriteCombineable ||| attributeWriteThroughCacheable |||
    attributeWriteBackCacheable ||| attributeTested

namespace MemoryPcds

variable (pcds : MemoryPcds)

/-- The address of the firmware -/
def fdBase : Ulong := pcds.fdBaseAddress.setWidth 64

/-- The end of the memory -/
def systemMemoryTop : Ulong := pcds.systemMemoryBase + pcds.systemMemorySize

/-- The end of the firmware -/
def fdTop : Ulong := pcds.fdBase + pcds.fdSize.setWidth 64

/-- The descriptor of the system memory -/
def systemMemory : ResourceDescriptor where
  resourceType := efiResourceSystemMemory
  resourceAttribute := systemMemoryAttributes
  physicalStart := pcds.systemMemoryBase
  resourceLength := pcds.systemMemorySize

/-- The descriptor of the firmware, with the non-present attribute -/
def firmware (resourceAttributes : U32) : ResourceDescriptor where
  resourceType := efiResourceSystemMemory
  resourceAttribute := resourceAttributes &&& ~~~attributePresent
  physicalStart := pcds.fdBase
  resourceLength := pcds.fdSize.setWidth 64

/-- Whether the firmware is in the system memory -/
def inSystemMemory : Bool :=
  decide (pcds.fdBase ≥ pcds.systemMemoryBase) && decide (pcds.fdTop ≤ pcds.systemMemoryTop)

/-- Whether a descriptor is of system memory that contains the firmware -/
def containedIn (descriptor : ResourceDescriptor) : Bool :=
  decide (descriptor.resourceType = efiResourceSystemMemory) &&
    decide (pcds.fdBase ≥ descriptor.physicalStart) &&
    decide (pcds.fdTop ≤ descriptor.physicalStart + descriptor.resourceLength)

/-- The descriptor as it is updated, and the ones that are built -/
def split (descriptor : ResourceDescriptor) : ResourceDescriptor × List ResourceDescriptor :=
  let resourceAttributes := descriptor.resourceAttribute
  let resourceLength := descriptor.resourceLength
  let resourceTop := descriptor.physicalStart + resourceLength
  if pcds.fdBase = descriptor.physicalStart then
    if pcds.systemMemoryTop = pcds.fdTop then
      ({ descriptor with resourceAttribute := resourceAttributes &&& ~~~attributePresent }, [])
    else
      ({ descriptor with
          physicalStart := descriptor.physicalStart + pcds.fdSize.setWidth 64
          resourceLength := resourceLength - pcds.fdSize.setWidth 64 },
        [pcds.firmware resourceAttributes])
  else
    ({ descriptor with resourceLength := pcds.fdBase - descriptor.physicalStart },
      pcds.firmware resourceAttributes ::
        if pcds.fdTop < descriptor.physicalStart + resourceLength then
          [{ resourceType := efiResourceSystemMemory, resourceAttribute := resourceAttributes,
             physicalStart := pcds.fdTop, resourceLength := resourceTop - pcds.fdTop }]
        else [])

/-- `Search for System Memory Hob that contains the firmware`: the hobs with the first such one
updated, and the descriptors that are built; nothing if there is none -/
def searchHobs : List Hob → Option (List Hob × List ResourceDescriptor)
  | [] => none
  | .resourceDescriptor descriptor :: rest =>
    if pcds.containedIn descriptor then
      some (.resourceDescriptor (pcds.split descriptor).1 :: rest, (pcds.split descriptor).2)
    else (searchHobs rest).map fun found => (.resourceDescriptor descriptor :: found.1, found.2)
  | .other hobType :: rest =>
    (searchHobs rest).map fun found => (.other hobType :: found.1, found.2)

/-- `BuildResourceDescriptorHob`, which puts a hob at the end of the list -/
def buildResourceDescriptorHob (hobs : List Hob) (descriptor : ResourceDescriptor) : List Hob :=
  hobs ++ [.resourceDescriptor descriptor]

/-- The hobs when the system memory is described, before the firmware is looked for -/
def withSystemMemory (hobs : List Hob) : List Hob :=
  buildResourceDescriptorHob hobs pcds.systemMemory

/-- `MemoryPeim`: the hobs afterwards -/
def memoryPeim (hobs : List Hob) : List Hob :=
  let hobs := pcds.withSystemMemory hobs
  if pcds.inSystemMemory then
    match pcds.searchHobs hobs with
    | some (found, built) => built.foldl buildResourceDescriptorHob found
    | none => hobs
  else hobs

end MemoryPcds

/-! ### Regions of system memory -/

/-- The address space of descriptors -/
abbrev addressLimit : Nat := 2 ^ 64

/-- The resource is not marked as present. -/
def ResourceDescriptor.nonPresent (descriptor : ResourceDescriptor) : Bool :=
  decide (descriptor.resourceAttribute &&& attributePresent = 0)

/-- The addresses of a descriptor, marked if it is non-present -/
def ResourceDescriptor.region (descriptor : ResourceDescriptor) : Region :=
  ⟨descriptor.physicalStart.toNat, descriptor.resourceLength.toNat, descriptor.nonPresent⟩

/-- The region of a hob that describes system memory -/
def hobRegion : Hob → Option Region
  | .resourceDescriptor descriptor =>
    if descriptor.resourceType = efiResourceSystemMemory then some descriptor.region else none
  | .other _ => none

/-- The regions of the system memory that are described -/
def memoryRegions (hobs : List Hob) : List Region := hobs.filterMap hobRegion

/-- The firmware is taken out of the system memory. -/
def FirmwareCarved (pcds : MemoryPcds) (before after : List Hob) : Prop :=
  Region.Carved addressLimit (memoryRegions before) pcds.fdBaseAddress.toNat pcds.fdSize.toNat
    (memoryRegions after)

/-! ### The addresses of the firmware -/

section Addresses

variable (pcds : MemoryPcds)

theorem toNat_fdBase : pcds.fdBase.toNat = pcds.fdBaseAddress.toNat :=
  BitVec.toNat_setWidth_of_le (by decide)

theorem toNat_fdSize : (pcds.fdSize.setWidth 64 : Ulong).toNat = pcds.fdSize.toNat :=
  BitVec.toNat_setWidth_of_le (by decide)

theorem toNat_fdTop : pcds.fdTop.toNat = pcds.fdBaseAddress.toNat + pcds.fdSize.toNat := by
  have base := pcds.fdBaseAddress.isLt
  have size := pcds.fdSize.isLt
  rw [MemoryPcds.fdTop, BitVec.toNat_add, toNat_fdBase, toNat_fdSize]
  exact Nat.mod_eq_of_lt (by omega)

variable {pcds}

/-- A top that is not zero is the top as a number. -/
theorem toNat_top {start length : Ulong} (fits : start.toNat + length.toNat ≤ addressLimit)
    (notZero : (start + length).toNat ≠ 0) :
    (start + length).toNat = start.toNat + length.toNat := by
  rw [BitVec.toNat_add] at notZero ⊢
  unfold addressLimit at fits
  refine Nat.mod_eq_of_lt (Nat.lt_of_le_of_ne fits fun whole => notZero ?_)
  rw [whole, Nat.mod_self]

theorem inSystemMemory_iff : pcds.inSystemMemory = true ↔
    pcds.systemMemoryBase.toNat ≤ pcds.fdBaseAddress.toNat ∧
      pcds.fdTop.toNat ≤ pcds.systemMemoryTop.toNat := by
  rw [MemoryPcds.inSystemMemory, Bool.and_eq_true, decide_eq_true_eq, decide_eq_true_eq,
    ge_iff_le, BitVec.le_def, BitVec.le_def, toNat_fdBase]

theorem containedIn_iff (descriptor : ResourceDescriptor) : pcds.containedIn descriptor = true ↔
    descriptor.resourceType = efiResourceSystemMemory ∧
      descriptor.physicalStart.toNat ≤ pcds.fdBaseAddress.toNat ∧
      pcds.fdTop.toNat ≤ (descriptor.physicalStart + descriptor.resourceLength).toNat := by
  rw [MemoryPcds.containedIn, Bool.and_eq_true, Bool.and_eq_true, decide_eq_true_eq,
    decide_eq_true_eq, decide_eq_true_eq, ge_iff_le, BitVec.le_def, BitVec.le_def, toNat_fdBase,
    and_assoc]

end Addresses

/-! ### The descriptor that is split -/

theorem nonPresent_cleared (attributes : U32) :
    decide ((attributes &&& ~~~attributePresent) &&& attributePresent = 0) = true := by
  refine decide_eq_true ?_
  rw [BitVec.and_assoc, BitVec.and_comm (~~~attributePresent), BitVec.and_not_self]
  exact BitVec.and_zero

section Split

variable (pcds : MemoryPcds) (descriptor : ResourceDescriptor)

theorem split_resourceType (isSystem : descriptor.resourceType = efiResourceSystemMemory) :
    ∀ part ∈ (pcds.split descriptor).1 :: (pcds.split descriptor).2,
      part.resourceType = efiResourceSystemMemory := by
  intro part member
  unfold MemoryPcds.split at member
  dsimp only at member
  split at member
  · split at member
    · obtain rfl := List.mem_singleton.mp member
      exact isSystem
    · obtain rfl | later := List.mem_cons.mp member
      · exact isSystem
      · obtain rfl := List.mem_singleton.mp later
        rfl
  · obtain rfl | later := List.mem_cons.mp member
    · exact isSystem
    · obtain rfl | last := List.mem_cons.mp later
      · rfl
      · split at last
        · obtain rfl := List.mem_singleton.mp last
          rfl
        · exact absurd last List.not_mem_nil

/-- The region of the firmware, where it is split off -/
theorem firmware_region (attributes : U32) : (pcds.firmware attributes).region =
    ⟨pcds.fdBaseAddress.toNat, pcds.fdSize.toNat, true⟩ := by
  rw [ResourceDescriptor.region, ResourceDescriptor.nonPresent, MemoryPcds.firmware]
  dsimp only
  rw [nonPresent_cleared, toNat_fdBase, toNat_fdSize]

variable {pcds descriptor} (nonEmpty : 0 < pcds.fdSize.toNat)
  (start : descriptor.physicalStart.toNat ≤ pcds.fdBaseAddress.toNat)
  (top : (descriptor.physicalStart + descriptor.resourceLength).toNat =
    descriptor.physicalStart.toNat + descriptor.resourceLength.toNat)
  (below : pcds.fdTop.toNat ≤ (descriptor.physicalStart + descriptor.resourceLength).toNat)
include nonEmpty start top below

/-- Where the descriptor ends with the system memory, its parts are those of the cut. -/
theorem split_regions
    (ends : pcds.systemMemoryTop = descriptor.physicalStart + descriptor.resourceLength) :
    (((pcds.split descriptor).1 :: (pcds.split descriptor).2).map ResourceDescriptor.region).Perm
      (descriptor.region.cut pcds.fdBaseAddress.toNat pcds.fdSize.toNat) := by
  have fdTop := toNat_fdTop pcds
  have fdBase := toNat_fdBase pcds
  have fdSize := toNat_fdSize pcds
  have limit := descriptor.resourceLength.isLt
  unfold MemoryPcds.split Region.cut
  dsimp only
  by_cases atStart : pcds.fdBase = descriptor.physicalStart
  · have same : descriptor.physicalStart.toNat = pcds.fdBaseAddress.toNat := by
      rw [← atStart, fdBase]
    rw [if_pos atStart]
    by_cases atTop : pcds.systemMemoryTop = pcds.fdTop
    · have whole : descriptor.resourceLength.toNat = pcds.fdSize.toNat := by
        rw [ends] at atTop
        rw [atTop] at top
        omega
      rw [if_pos atTop, List.map_singleton]
      simp only [ResourceDescriptor.region, ResourceDescriptor.nonPresent, nonPresent_cleared, same,
        whole, Nat.sub_self, List.filter_cons, Nat.lt_irrefl, decide_false, decide_true, nonEmpty,
        List.filter_nil, Bool.false_eq_true, if_false, if_true]
      exact List.Perm.refl _
    · have more : pcds.fdSize.toNat < descriptor.resourceLength.toNat := by
        rw [ends] at atTop
        have differs : (descriptor.physicalStart + descriptor.resourceLength).toNat ≠
            pcds.fdTop.toNat := fun equal => atTop (BitVec.eq_of_toNat_eq equal)
        omega
      have next : (descriptor.physicalStart + pcds.fdSize.setWidth 64).toNat =
          pcds.fdBaseAddress.toNat + pcds.fdSize.toNat := by
        rw [← atStart]
        exact fdTop
      have left : (descriptor.resourceLength - pcds.fdSize.setWidth 64).toNat =
          descriptor.resourceLength.toNat - pcds.fdSize.toNat := by
        rw [BitVec.toNat_sub_of_le (by rw [BitVec.le_def, fdSize]; omega), fdSize]
      have rest : pcds.fdBaseAddress.toNat + descriptor.resourceLength.toNat -
          (pcds.fdBaseAddress.toNat + pcds.fdSize.toNat) =
          descriptor.resourceLength.toNat - pcds.fdSize.toNat := by omega
      rw [if_neg atTop, List.map_cons, List.map_singleton, firmware_region]
      simp only [ResourceDescriptor.region, next, left, same, Nat.sub_self, List.filter_cons,
        Nat.lt_irrefl, decide_false, decide_true, nonEmpty, rest, Nat.sub_pos_of_lt more,
        List.filter_nil, Bool.false_eq_true, if_false, if_true]
      exact List.Perm.swap _ _ _
  · have later : descriptor.physicalStart.toNat < pcds.fdBaseAddress.toNat := by
      have differs : pcds.fdBase.toNat ≠ descriptor.physicalStart.toNat :=
        fun equal => atStart (BitVec.eq_of_toNat_eq equal)
      omega
    have front : (pcds.fdBase - descriptor.physicalStart).toNat =
        pcds.fdBaseAddress.toNat - descriptor.physicalStart.toNat := by
      rw [BitVec.toNat_sub_of_le (by rw [BitVec.le_def, fdBase]; exact start), fdBase]
    rw [if_neg atStart, List.map_cons, List.map_cons, firmware_region]
    by_cases tail : pcds.fdTop < descriptor.physicalStart + descriptor.resourceLength
    · have behind := BitVec.lt_def.mp tail
      have left : (descriptor.physicalStart + descriptor.resourceLength - pcds.fdTop).toNat =
          descriptor.physicalStart.toNat + descriptor.resourceLength.toNat -
            (pcds.fdBaseAddress.toNat + pcds.fdSize.toNat) := by
        rw [BitVec.toNat_sub_of_le (BitVec.le_of_lt tail), top, fdTop]
      have isTail : 0 < descriptor.physicalStart.toNat + descriptor.resourceLength.toNat -
          (pcds.fdBaseAddress.toNat + pcds.fdSize.toNat) := by omega
      rw [if_pos tail, List.map_singleton]
      simp only [ResourceDescriptor.region, front, left, fdTop, List.filter_cons,
        Nat.sub_pos_of_lt later, decide_true, nonEmpty, isTail, List.filter_nil, if_true]
      exact List.Perm.refl _
    · have noTail : descriptor.physicalStart.toNat + descriptor.resourceLength.toNat -
          (pcds.fdBaseAddress.toNat + pcds.fdSize.toNat) = 0 := by
        have reached := mt BitVec.lt_def.mpr tail
        omega
      rw [if_neg tail, List.map_nil]
      simp only [ResourceDescriptor.region, front, noTail, List.filter_cons,
        Nat.sub_pos_of_lt later, decide_true, nonEmpty, Nat.lt_irrefl, decide_false,
        List.filter_nil, Bool.false_eq_true, if_false, if_true]
      exact List.Perm.refl _

end Split

/-! ### The search -/

section Search

variable (pcds : MemoryPcds)

/-- Where the firmware is in the last descriptor only, that one is split. -/
theorem searchHobs_last {hobs : List Hob} {descriptor : ResourceDescriptor}
    (others : ∀ other, .resourceDescriptor other ∈ hobs → pcds.containedIn other = false)
    (found : pcds.containedIn descriptor = true) :
    pcds.searchHobs (hobs ++ [.resourceDescriptor descriptor]) =
      some (hobs ++ [.resourceDescriptor (pcds.split descriptor).1],
        (pcds.split descriptor).2) := by
  induction hobs with
  | nil => exact if_pos found
  | cons hob rest inductionHypothesis =>
    have later := inductionHypothesis
      fun other member => others other (List.mem_cons_of_mem _ member)
    cases hob with
    | resourceDescriptor first =>
      have passed := others first List.mem_cons_self
      rw [List.cons_append, MemoryPcds.searchHobs, passed, if_neg Bool.false_ne_true, later]
      rfl
    | other hobType =>
      rw [List.cons_append, MemoryPcds.searchHobs, later]
      rfl

theorem foldl_build (hobs : List Hob) (built : List ResourceDescriptor) :
    built.foldl MemoryPcds.buildResourceDescriptorHob hobs =
      hobs ++ built.map .resourceDescriptor := by
  induction built generalizing hobs with
  | nil => exact (List.append_nil hobs).symm
  | cons descriptor rest inductionHypothesis =>
    rw [List.foldl_cons, inductionHypothesis, MemoryPcds.buildResourceDescriptorHob,
      List.append_assoc]
    rfl

theorem memoryRegions_append (first second : List Hob) :
    memoryRegions (first ++ second) = memoryRegions first ++ memoryRegions second :=
  List.filterMap_append

/-- Descriptors of system memory are regions one by one. -/
theorem memoryRegions_map {descriptors : List ResourceDescriptor}
    (isSystem : ∀ descriptor ∈ descriptors, descriptor.resourceType = efiResourceSystemMemory) :
    memoryRegions (descriptors.map .resourceDescriptor) =
      descriptors.map ResourceDescriptor.region := by
  induction descriptors with
  | nil => rfl
  | cons descriptor rest inductionHypothesis =>
    have later := inductionHypothesis
      fun other member => isSystem other (List.mem_cons_of_mem _ member)
    rw [List.map_cons, List.map_cons, ← later]
    exact List.filterMap_cons_some (if_pos (isSystem descriptor List.mem_cons_self))

theorem mem_memoryRegions {hobs : List Hob} {descriptor : ResourceDescriptor}
    (member : .resourceDescriptor descriptor ∈ hobs)
    (isSystem : descriptor.resourceType = efiResourceSystemMemory) :
    descriptor.region ∈ memoryRegions hobs :=
  List.mem_filterMap.mpr ⟨_, member, if_pos isSystem⟩

end Search

/-! ### The firmware is carved out -/

section Carve

variable {pcds : MemoryPcds} {hobs : List Hob}
  (tidy : Region.Tidy addressLimit (memoryRegions (pcds.withSystemMemory hobs)))
  (nonEmpty : 0 < pcds.fdSize.toNat)

theorem regions_withSystemMemory : memoryRegions (pcds.withSystemMemory hobs) =
    memoryRegions hobs ++ [pcds.systemMemory.region] := memoryRegions_append _ _

include tidy nonEmpty

/-- No other descriptor contains firmware that is in the system memory: it would not be apart from
that of the system memory. -/
theorem containedIn_others (start : pcds.systemMemoryBase.toNat ≤ pcds.fdBaseAddress.toNat)
    (below : pcds.fdTop.toNat ≤ pcds.systemMemoryBase.toNat + pcds.systemMemorySize.toNat)
    (other : ResourceDescriptor) (member : .resourceDescriptor other ∈ hobs) :
    pcds.containedIn other = false := by
  by_contra contained
  obtain ⟨isSystem, otherStart, otherBelow⟩ :=
    (containedIn_iff other).mp (eq_true_of_ne_false contained)
  rw [regions_withSystemMemory] at tidy
  obtain ⟨-, -, apart⟩ := List.pairwise_append.mp tidy.apart
  have isRegion := mem_memoryRegions member isSystem
  have fdTop := toNat_fdTop pcds
  have top := toNat_top (tidy.fits _ (List.mem_append_left _ isRegion)) (by omega)
  refine apart _ isRegion _ (List.mem_singleton.mpr rfl) pcds.fdBaseAddress.toNat ?_ ?_
  · show other.physicalStart.toNat ≤ _ ∧ _ < other.physicalStart.toNat + other.resourceLength.toNat
    omega
  · show pcds.systemMemoryBase.toNat ≤ _ ∧
      _ < pcds.systemMemoryBase.toNat + pcds.systemMemorySize.toNat
    omega

/-- The regions afterwards are those of the cut, and the others. -/
theorem memoryPeim_regions (inside : pcds.inSystemMemory = true) :
    (memoryRegions (pcds.memoryPeim hobs)).Perm
      (pcds.systemMemory.region.cut pcds.fdBaseAddress.toNat pcds.fdSize.toNat ++
        memoryRegions hobs) ∧
      pcds.systemMemoryBase.toNat ≤ pcds.fdBaseAddress.toNat ∧
      pcds.fdTop.toNat ≤ pcds.systemMemoryBase.toNat + pcds.systemMemorySize.toNat := by
  obtain ⟨start, below⟩ := inSystemMemory_iff.mp inside
  have fdTop := toNat_fdTop pcds
  have isRegion : pcds.systemMemory.region ∈ memoryRegions (pcds.withSystemMemory hobs) := by
    rw [regions_withSystemMemory]
    exact List.mem_append_right _ List.mem_cons_self
  have top : (pcds.systemMemoryBase + pcds.systemMemorySize).toNat =
      pcds.systemMemoryBase.toNat + pcds.systemMemorySize.toNat :=
    toNat_top (tidy.fits _ isRegion) (Nat.ne_of_gt (Nat.lt_of_lt_of_le (by omega) below))
  have reaches : pcds.fdTop.toNat ≤
      pcds.systemMemoryBase.toNat + pcds.systemMemorySize.toNat := top ▸ below
  have contained : pcds.containedIn pcds.systemMemory = true :=
    (containedIn_iff _).mpr ⟨rfl, start, below⟩
  have search := searchHobs_last pcds
    (containedIn_others tidy nonEmpty start reaches) contained
  have parts := split_regions nonEmpty
    (show pcds.systemMemory.physicalStart.toNat ≤ pcds.fdBaseAddress.toNat from start) top below rfl
  refine ⟨?_, start, reaches⟩
  unfold MemoryPcds.memoryPeim
  dsimp only
  rw [inside, if_pos rfl, MemoryPcds.withSystemMemory, MemoryPcds.buildResourceDescriptorHob, search]
  dsimp only
  rw [foldl_build, List.append_assoc, memoryRegions_append]
  refine List.perm_append_comm.trans (List.Perm.append_right _ ?_)
  have both := memoryRegions_map (split_resourceType pcds pcds.systemMemory rfl)
  rw [List.map_cons] at both
  rw [List.singleton_append, both]
  exact parts

end Carve

/-- Firmware in the system memory is carved out of it, and other firmware is left alone, whatever
tidy list of hobs the system memory is added to. -/
theorem memoryPeim_carves (pcds : MemoryPcds) (hobs : List Hob)
    (tidy : Region.Tidy addressLimit (memoryRegions (pcds.withSystemMemory hobs)))
    (nonEmpty : 0 < pcds.fdSize.toNat) :
    (pcds.inSystemMemory = true →
      FirmwareCarved pcds (pcds.withSystemMemory hobs) (pcds.memoryPeim hobs)) ∧
    (pcds.inSystemMemory = false → pcds.memoryPeim hobs = pcds.withSystemMemory hobs) := by
  constructor
  · intro inside
    obtain ⟨after, start, below⟩ := memoryPeim_regions tidy nonEmpty inside
    rw [toNat_fdTop] at below
    refine Region.carved_of_cut tidy nonEmpty ⟨start, below⟩ ?_ after
    rw [regions_withSystemMemory]
    exact List.perm_append_comm
  · intro outside
    unfold MemoryPcds.memoryPeim
    dsimp only
    rw [outside, if_neg Bool.false_ne_true]

/-- 1 GiB of system memory, and firmware of 1 MiB at an address -/
def memoryPcds (fdBaseAddress : U32) : MemoryPcds where
  systemMemoryBase := 0x41000000
  systemMemorySize := 0x40000000
  fdBaseAddress := fdBaseAddress
  fdSize := 0x100000

theorem memoryPeim_carves_middle :
    FirmwareCarved (memoryPcds 0x4a000000) ((memoryPcds 0x4a000000).withSystemMemory [])
      ((memoryPcds 0x4a000000).memoryPeim []) :=
  (memoryPeim_carves (memoryPcds 0x4a000000) []
    ⟨by decide, by decide, List.pairwise_singleton _ _⟩ (by decide)).1 (by decide)

/-- Another memory than the configured one, which is described before -/
def otherMemory : Hob :=
  .resourceDescriptor ⟨efiResourceSystemMemory, systemMemoryAttributes, 0x20000000, 0x1000000⟩

/-- Firmware in a descriptor of other memory is not marked. -/
theorem memoryPeim_not_carves :
    ¬ ∀ (pcds : MemoryPcds) (hobs : List Hob),
      Region.Tidy addressLimit (memoryRegions (pcds.withSystemMemory hobs)) →
      0 < pcds.fdSize.toNat →
      (∃ region ∈ memoryRegions (pcds.withSystemMemory hobs),
        region.start ≤ pcds.fdBaseAddress.toNat ∧
          pcds.fdBaseAddress.toNat + pcds.fdSize.toNat ≤ region.start + region.length) →
      FirmwareCarved pcds (pcds.withSystemMemory hobs) (pcds.memoryPeim hobs) := by
  intro claim
  have regions : memoryRegions ((memoryPcds 0x20000000).withSystemMemory [otherMemory]) =
      [⟨0x20000000, 0x1000000, false⟩, ⟨0x41000000, 0x40000000, false⟩] := by decide
  have after : memoryRegions ((memoryPcds 0x20000000).memoryPeim [otherMemory]) =
      [⟨0x20000000, 0x1000000, false⟩, ⟨0x41000000, 0x40000000, false⟩] := by decide
  have carved := claim (memoryPcds 0x20000000) [otherMemory]
    (by
      rw [regions]
      refine ⟨by decide, by decide, List.pairwise_pair.mpr fun address first second => ?_⟩
      unfold Region.Covers at first second
      dsimp only at first second
      omega)
    (by decide) ⟨_, by rw [regions]; exact List.mem_cons_self, by decide⟩
  unfold FirmwareCarved at carved
  rw [after] at carved
  obtain ⟨region, member, -, marked⟩ := (carved.marks 0x20000000).mpr (.inr (by decide))
  simp only [List.mem_cons, List.not_mem_nil, or_false] at member
  rcases member with rfl | rfl <;> exact absurd marked Bool.false_ne_true

end PinePhonePkg
