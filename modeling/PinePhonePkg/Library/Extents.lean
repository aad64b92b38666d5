/-
This file writes extents, runs of bytes at an address, to a memory one after the
other. Where the extents do not overlap, each of them is found in the end.
-/

import PinePhonePkg.Library.Memory

namespace Library

/-- A run of bytes and where it goes. -/
structure Extent (Byte : Type) : Type where
  start : Nat
  length : Nat
  data : Memory Byte

namespace Extent

variable {Byte : Type}

/-- The bytes of an extent are written. -/
def write (memory : Memory Byte) (extent : Extent Byte) : Memory Byte :=
  memory.overwrite extent.start extent.length extent.data

/-- The extents have no byte in common. -/
def Disjoint (first second : Extent Byte) : Prop :=
  first.start + first.length ≤ second.start ∨ second.start + second.length ≤ first.start

/-- The extents are written in turn. -/
def writeAll (memory : Memory Byte) (extents : List (Extent Byte)) : Memory Byte :=
  extents.foldl write memory

theorem writeAll_cons (memory : Memory Byte) (extent : Extent Byte)
    (extents : List (Extent Byte)) :
    writeAll memory (extent :: extents) = writeAll (extent.write memory) extents :=
  rfl

/-- What lies outside all extents stays. -/
theorem writeAll_outside (memory : Memory Byte) (extents : List (Extent Byte)) (address : Nat)
    (outside : ∀ extent ∈ extents,
      address < extent.start ∨ extent.start + extent.length ≤ address) :
    writeAll memory extents address = memory address := by
  induction extents generalizing memory with
  | nil => rfl
  | cons extent extents inductionHypothesis =>
    rw [writeAll_cons, inductionHypothesis _ fun other member =>
      outside other (List.mem_cons_of_mem _ member)]
    exact Memory.overwrite_outside memory _ _ _ address (outside extent List.mem_cons_self)

/-- Where all extents hold one byte only, a part that was covered once stays so. -/
theorem writeAll_of_eq (memory : Memory Byte) {extents : List (Extent Byte)} {byte : Byte}
    (uniform : ∀ extent ∈ extents, ∀ address, extent.data address = byte) {address : Nat}
    (already : memory address = byte) : writeAll memory extents address = byte := by
  induction extents generalizing memory with
  | nil => exact already
  | cons extent extents inductionHypothesis =>
    rw [writeAll_cons]
    refine inductionHypothesis _
      (fun other member => uniform other (List.mem_cons_of_mem _ member)) ?_
    unfold write Memory.overwrite
    split
    · exact uniform extent List.mem_cons_self _
    · exact already

theorem writeAll_of_covered (memory : Memory Byte) {extents : List (Extent Byte)} {byte : Byte}
    (uniform : ∀ extent ∈ extents, ∀ address, extent.data address = byte) {address : Nat}
    (covered : ∃ extent ∈ extents,
      extent.start ≤ address ∧ address < extent.start + extent.length) :
    writeAll memory extents address = byte := by
  obtain ⟨extent, member, inside⟩ := covered
  obtain ⟨before, after, rfl⟩ := List.append_of_mem member
  unfold writeAll
  rw [List.foldl_append, List.foldl_cons]
  refine writeAll_of_eq _ (fun other among => uniform other
    (List.mem_append_right _ (List.mem_cons_of_mem _ among))) ?_
  unfold write Memory.overwrite
  rw [if_pos inside]
  exact uniform extent member _

/-- Extents that do not overlap are all found afterwards. -/
theorem writeAll_holds (memory : Memory Byte) {extents : List (Extent Byte)}
    (apart : extents.Pairwise Disjoint) {extent : Extent Byte} (member : extent ∈ extents) :
    Memory.Agree extent.length (Memory.drop (writeAll memory extents) extent.start)
      extent.data := by
  induction extents generalizing memory with
  | nil => cases member
  | cons first extents inductionHypothesis =>
    obtain ⟨firstApart, restApart⟩ := List.pairwise_cons.mp apart
    rw [writeAll_cons]
    rcases List.mem_cons.mp member with rfl | later
    · intro address inside
      have kept : writeAll (extent.write memory) extents (extent.start + address) =
          extent.write memory (extent.start + address) := by
        refine writeAll_outside _ _ _ fun other among => ?_
        rcases firstApart other among with before | after
        · left
          omega
        · right
          omega
      exact kept.trans (Memory.overwrite_inside memory _ _ _ address inside)
    · exact inductionHypothesis _ restApart later

end Extent

end Library
