/-
This file gives lists of regions, runs of addresses that may be marked, and cuts a
range out of one of them. The cut leaves the parts before and behind the range as
they are, without empty ones, and marks the range. In a list whose regions are
apart, the regions stay apart, the same addresses are covered, and those of the
range are marked in addition.
-/

import Mathlib.Data.List.Basic
import Mathlib.Tactic.Common

namespace Library

/-- A run of addresses, marked or not -/
structure Region : Type where
  start : Nat
  length : Nat
  marked : Bool
deriving DecidableEq

namespace Region

/-- The address is in the region. -/
def Covers (region : Region) (address : Nat) : Prop :=
  region.start ≤ address ∧ address < region.start + region.length

/-- The regions have no address in common. -/
def Apart (first second : Region) : Prop := ∀ address, first.Covers address → ¬ second.Covers address

theorem Apart.symm {first second : Region} (apart : Apart first second) : Apart second first :=
  fun address inSecond inFirst => apart address inFirst inSecond

/-- The parts of a region before, in and behind a range, without empty ones; the range is marked. -/
def cut (region : Region) (start length : Nat) : List Region :=
  [⟨region.start, start - region.start, region.marked⟩, ⟨start, length, true⟩,
    ⟨start + length, region.start + region.length - (start + length), region.marked⟩].filter
      fun part => decide (0 < part.length)

/-- No region is empty, none is behind the addresses there are, and no two have one in common. -/
structure Tidy (limit : Nat) (regions : List Region) : Prop where
  nonEmpty : ∀ region ∈ regions, 0 < region.length
  fits : ∀ region ∈ regions, region.start + region.length ≤ limit
  apart : regions.Pairwise Apart

/-- What a cut of a range out of the regions should come to. -/
structure Carved (limit : Nat) (before : List Region) (start length : Nat)
    (after : List Region) : Prop where
  tidy : Tidy limit after
  covers : ∀ address, (∃ region ∈ after, region.Covers address) ↔
    ∃ region ∈ before, region.Covers address
  marks : ∀ address, (∃ region ∈ after, region.Covers address ∧ region.marked) ↔
    (∃ region ∈ before, region.Covers address ∧ region.marked) ∨
      start ≤ address ∧ address < start + length

theorem Tidy.perm {limit : Nat} {first second : List Region} (tidy : Tidy limit first)
    (same : first.Perm second) : Tidy limit second where
  nonEmpty region member := tidy.nonEmpty region (same.mem_iff.mpr member)
  fits region member := tidy.fits region (same.mem_iff.mpr member)
  apart := (same.pairwise_iff Apart.symm).mp tidy.apart

/-! ### The parts of one region -/

section Cut

variable {region : Region} {start length : Nat} (nonEmpty : 0 < length)
  (inside : region.start ≤ start ∧ start + length ≤ region.start + region.length)

theorem mem_cut {part : Region} : part ∈ region.cut start length ↔
    0 < part.length ∧ (part = ⟨region.start, start - region.start, region.marked⟩ ∨
      part = ⟨start, length, true⟩ ∨
      part = ⟨start + length, region.start + region.length - (start + length), region.marked⟩) := by
  unfold cut
  rw [List.mem_filter, decide_eq_true_eq, and_comm]
  simp only [List.mem_cons, List.not_mem_nil, or_false]

include inside in
/-- A part is inside of the region. -/
theorem covers_of_mem_cut {part : Region} (member : part ∈ region.cut start length) {address : Nat}
    (covers : part.Covers address) : region.Covers address := by
  obtain ⟨-, rfl | rfl | rfl⟩ := mem_cut.mp member
  all_goals
    unfold Covers at covers ⊢
    dsimp only at covers
    omega

include nonEmpty inside in
/-- Each address of the region is in a part, which is marked for those of the range. -/
theorem exists_mem_cut {address : Nat} (covers : region.Covers address) :
    ∃ part ∈ region.cut start length, part.Covers address ∧
      (part.marked ↔ region.marked ∨ start ≤ address ∧ address < start + length) := by
  unfold Covers at covers
  by_cases before : address < start
  · refine ⟨_, mem_cut.mpr ⟨?_, .inl rfl⟩, ?_, ?_⟩
    · show 0 < start - region.start
      omega
    · show region.start ≤ address ∧ address < region.start + (start - region.start)
      omega
    · show region.marked = true ↔ _
      exact ⟨.inl, fun either => either.resolve_right (by omega)⟩
  · by_cases behind : start + length ≤ address
    · refine ⟨_, mem_cut.mpr ⟨?_, .inr (.inr rfl)⟩, ?_, ?_⟩
      · show 0 < region.start + region.length - (start + length)
        omega
      · show start + length ≤ address ∧
          address < start + length + (region.start + region.length - (start + length))
        omega
      · show region.marked = true ↔ _
        exact ⟨.inl, fun either => either.resolve_right (by omega)⟩
    · refine ⟨_, mem_cut.mpr ⟨nonEmpty, .inr (.inl rfl)⟩, ?_, ?_⟩
      · show start ≤ address ∧ address < start + length
        omega
      · exact iff_of_true rfl (.inr (by omega))

/-- A part is marked with the region, or is the range. -/
theorem marked_of_mem_cut {part : Region} (member : part ∈ region.cut start length)
    (marked : part.marked) : region.marked ∨ ∀ address, part.Covers address →
      start ≤ address ∧ address < start + length := by
  obtain ⟨-, rfl | rfl | rfl⟩ := mem_cut.mp member
  · exact .inl marked
  · exact .inr fun _ covers => covers
  · exact .inl marked

include inside in
theorem tidy_cut {limit : Nat} (fits : region.start + region.length ≤ limit) :
    Tidy limit (region.cut start length) where
  nonEmpty part member := (mem_cut.mp member).1
  fits part member := by
    obtain ⟨_, rfl | rfl | rfl⟩ := mem_cut.mp member
    all_goals
      dsimp only at *
      omega
  apart := by
    unfold cut
    refine List.Pairwise.filter _ (List.pairwise_cons.mpr ⟨?_, List.pairwise_pair.mpr ?_⟩)
    · intro part member address inFirst inOther
      rcases List.mem_cons.mp member with rfl | later
      · unfold Covers at inFirst inOther
        dsimp only at inFirst inOther
        omega
      · obtain rfl := List.mem_singleton.mp later
        unfold Covers at inFirst inOther
        dsimp only at inFirst inOther
        omega
    · intro address inFirst inOther
      unfold Covers at inFirst inOther
      dsimp only at inFirst inOther
      omega

end Cut

/-! ### A cut in a list -/

/-- Where a region is replaced by its parts, the range is carved out of the regions. -/
theorem carved_of_cut {limit : Nat} {before after others : List Region} {region : Region}
    {start length : Nat} (tidy : Tidy limit before) (nonEmpty : 0 < length)
    (inside : region.start ≤ start ∧ start + length ≤ region.start + region.length)
    (isBefore : before.Perm (region :: others))
    (isAfter : after.Perm (region.cut start length ++ others)) :
    Carved limit before start length after := by
  have split := tidy.perm isBefore
  obtain ⟨away, othersApart⟩ := List.pairwise_cons.mp split.apart
  have parts := tidy_cut inside (split.fits region List.mem_cons_self)
  refine ⟨Tidy.perm ?_ isAfter.symm, fun address => ?_, fun address => ?_⟩
  · refine ⟨fun part member => ?_, fun part member => ?_, ?_⟩
    · exact (List.mem_append.mp member).elim (parts.nonEmpty part)
        fun other => split.nonEmpty part (List.mem_cons_of_mem _ other)
    · exact (List.mem_append.mp member).elim (parts.fits part)
        fun other => split.fits part (List.mem_cons_of_mem _ other)
    · refine List.pairwise_append.mpr ⟨parts.apart, othersApart, fun part isPart other isOther => ?_⟩
      exact fun address covers =>
        away other isOther address (covers_of_mem_cut inside isPart covers)
  · constructor
    · rintro ⟨part, member, covers⟩
      rcases List.mem_append.mp (isAfter.mem_iff.mp member) with isPart | isOther
      · exact ⟨region, isBefore.mem_iff.mpr List.mem_cons_self,
          covers_of_mem_cut inside isPart covers⟩
      · exact ⟨part, isBefore.mem_iff.mpr (List.mem_cons_of_mem _ isOther), covers⟩
    · rintro ⟨other, member, covers⟩
      rcases List.mem_cons.mp (isBefore.mem_iff.mp member) with rfl | isOther
      · obtain ⟨part, isPart, partCovers, -⟩ := exists_mem_cut nonEmpty inside covers
        exact ⟨part, isAfter.mem_iff.mpr (List.mem_append_left _ isPart), partCovers⟩
      · exact ⟨other, isAfter.mem_iff.mpr (List.mem_append_right _ isOther), covers⟩
  · constructor
    · rintro ⟨part, member, covers, marked⟩
      rcases List.mem_append.mp (isAfter.mem_iff.mp member) with isPart | isOther
      · refine (marked_of_mem_cut isPart marked).imp (fun regionMarked => ?_) fun inRange => ?_
        · exact ⟨region, isBefore.mem_iff.mpr List.mem_cons_self,
            covers_of_mem_cut inside isPart covers, regionMarked⟩
        · exact inRange address covers
      · exact .inl ⟨part, isBefore.mem_iff.mpr (List.mem_cons_of_mem _ isOther), covers, marked⟩
    · have found (covers : region.Covers address)
          (either : region.marked ∨ start ≤ address ∧ address < start + length) :
          ∃ part ∈ after, part.Covers address ∧ part.marked := by
        obtain ⟨part, isPart, partCovers, partMarked⟩ := exists_mem_cut nonEmpty inside covers
        exact ⟨part, isAfter.mem_iff.mpr (List.mem_append_left _ isPart), partCovers,
          partMarked.mpr either⟩
      rintro (⟨other, member, covers, marked⟩ | inRange)
      · rcases List.mem_cons.mp (isBefore.mem_iff.mp member) with rfl | isOther
        · exact found covers (.inl marked)
        · exact ⟨other, isAfter.mem_iff.mpr (List.mem_append_right _ isOther), covers, marked⟩
      · exact found (by unfold Covers; omega) (.inr inRange)

end Region

end Library
