/-
This file follows the reader of the GUID partition table through sequences of
calls. A header is accepted for what it says and what the disk holds; it stays
as it was in the caller's buffer when its checksum is the one that is computed;
and the accessors answer from the last table, as long as it was accepted.
-/

import PinePhonePkg.Partition.GptReader
import Mathlib.Data.List.Find
import Mathlib.Data.List.Induction

namespace PinePhonePkg

open Library

/-! ### The caller's header -/

theorem gptHeaderAfter_eq (header : Buffer) :
    gptHeaderAfter header = setGptHeaderCrc32 header (gptHeaderCheck header) :=
  Memory.setWord_setWord header 16 4 _ _

/-- The header is left as it was when its checksum is right. -/
theorem gptHeaderAfter_same_iff (header : Buffer) :
    gptHeaderAfter header = header ↔ gptHeaderCrc32 header = gptHeaderCheck header := by
  rw [gptHeaderAfter_eq]
  constructor
  · intro same
    have stored : gptHeaderCrc32 (setGptHeaderCrc32 header (gptHeaderCheck header)) =
        gptHeaderCheck header := Memory.word_setWord_toNat header 16 _ rfl
    rwa [same] at stored
  · intro stored
    have bound : Memory.word header 16 4 < 256 ^ 4 := Memory.word_lt header 16 4
    have value : (gptHeaderCheck header).toNat = Memory.word header 16 4 := by
      rw [← stored]
      unfold gptHeaderCrc32
      rw [BitVec.toNat_ofNat, Nat.mod_eq_of_lt (by omega)]
    unfold setGptHeaderCrc32
    rw [value, Memory.setWord_word]

/-- What a header says about sizes is not touched by its checksum. -/
theorem setGptHeaderCrc32_sizes (header : Buffer) (crc : U32) :
    gptHeaderSize (setGptHeaderCrc32 header crc) = gptHeaderSize header ∧
      gptNumberOfPartitionEntries (setGptHeaderCrc32 header crc) =
        gptNumberOfPartitionEntries header ∧
      gptSizeOfPartitionEntry (setGptHeaderCrc32 header crc) = gptSizeOfPartitionEntry header := by
  have word (address : Nat) (disjoint : address + 4 ≤ 16 ∨ 16 + 4 ≤ address) :
      Memory.word (setGptHeaderCrc32 header crc) address 4 = Memory.word header address 4 :=
    Memory.word_setWord_of_disjoint header disjoint
  refine ⟨?_, ?_, ?_⟩
  · exact congrArg (BitVec.ofNat 32) (word 12 (.inl (by decide)))
  · exact congrArg (BitVec.ofNat 32) (word 80 (.inr (by decide)))
  · exact congrArg (BitVec.ofNat 32) (word 84 (.inr (by decide)))

/-- The sizes in a header are within the buffers. -/
structure GptSizesFit (header : Buffer) (gptLen : U32) : Prop where
  inBuffer : gptHeaderSize header ≤ gptLen
  entries : (gptNumberOfPartitionEntries header).toNat *
    (gptSizeOfPartitionEntry header).toNat ≤ sunxiGptSize

theorem GptSizesFit.after {header : Buffer} {gptLen : U32} (fits : GptSizesFit header gptLen) :
    GptSizesFit (gptHeaderAfter header) gptLen := by
  obtain ⟨size, number, entry⟩ := setGptHeaderCrc32_sizes header (gptHeaderCheck header)
  rw [← gptHeaderAfter_eq] at size number entry
  exact ⟨size ▸ fits.inBuffer, by rw [number, entry]; exact fits.entries⟩

/-! ### One call -/

/-- What makes a header acceptable together with the contents of the disk. -/
structure GptAccepts (disk : GptDisk) (header : Buffer) : Prop where
  signature : gptSignature header = efiPtabHeaderId
  crc : gptHeaderCrc32 header = gptHeaderCheck header
  entrySize : 128 ≤ (gptSizeOfPartitionEntry header).toNat
  entries : GptEntriesPass disk header

/-- The table that a header and the disk give. -/
def gptTableOf (disk : GptDisk) (header : Buffer) : GptTable where
  num := gptNumberOfPartitionEntries header
  size := gptSizeOfPartitionEntry header
  entries := (disk (gptPartitionEntryLba header) (gptEntryBytes header)).2

/-- The tables have the same entries. -/
structure GptTable.Agrees (first second : GptTable) : Prop where
  num : first.num = second.num
  size : first.size = second.size
  entries : Memory.Agree (first.num.toNat * first.size.toNat) first.entries second.entries

/-- A call in which the sizes fit returns, accepts what is acceptable, and keeps the table. -/
theorem sunxiGptPartitionInitialize_spec (state : GptState) (disk : GptDisk) {header : Buffer}
    {gptLen : U32} (fits : GptSizesFit header gptLen) :
    ∃ status next,
      sunxiGptPartitionInitialize state disk header gptLen =
        some (status, next, gptHeaderAfter header) ∧
      (status = .success ↔ GptAccepts disk header) ∧
      (status = .success → next.gptStatus = true ∧ next.table.Fits ∧
        next.table.Agrees (gptTableOf disk header)) ∧
      (status ≠ .success → next.gptStatus = false) := by
  have whole : sunxiGptSize = 16384 := rfl
  have narrow := fits.entries
  have product : (gptEntryBytes header).toNat = (gptNumberOfPartitionEntries header).toNat *
      (gptSizeOfPartitionEntry header).toNat := by
    unfold gptEntryBytes
    rw [BitVec.toNat_mul, Nat.mod_eq_of_lt (by omega)]
  unfold sunxiGptPartitionInitialize
  rw [if_neg (BitVec.not_lt.mpr fits.inBuffer)]
  cases passes : gptHeaderPasses header with
  | false =>
    refine ⟨.invalidParameter, _, rfl, ⟨nofun, fun accepts => ?_⟩, nofun, fun _ => rfl⟩
    have pass := (gptHeaderPasses_iff header).mpr
      ⟨accepts.signature, accepts.crc, accepts.entrySize⟩
    rw [passes] at pass
    cases pass
  | true =>
    obtain ⟨signature, crc, entrySize⟩ := (gptHeaderPasses_iff header).mp passes
    rw [if_neg (by decide), if_neg (by omega)]
    refine ⟨_, _, rfl, ?_, fun success => ?_, fun fails => ?_⟩
    · rw [gptReadEntries_success_iff]
      exact ⟨fun entries => ⟨signature, crc, entrySize, entries⟩, GptAccepts.entries⟩
    · rw [gptReadEntries_state success]
      refine ⟨rfl, ⟨entrySize, fits.entries⟩, rfl, rfl, ?_⟩
      have agree := Memory.agree_drop_overwrite state.gptBuf 0 (gptEntryBytes header).toNat
        (disk (gptPartitionEntryLba header) (gptEntryBytes header)).2
      rw [Memory.drop_zero] at agree
      exact product ▸ agree
    · unfold gptReadEntries at fails ⊢
      dsimp only at fails ⊢
      split
      · rfl
      · rename_i read
        rw [if_neg read] at fails
        split
        · rfl
        · rename_i same
          rw [if_neg same] at fails
          exact absurd rfl fails

/-! ### What the accessors answer -/

section Lookup

variable {first second : GptTable}

theorem GptTable.Agrees.word (agrees : first.Agrees second) (fits : first.Fits) {index : Nat}
    (counted : index < first.num.toNat) {place count : Nat} (inside : place + count ≤ 128) :
    Memory.word first.entries (index * first.size.toNat + place) count =
      Memory.word second.entries (index * second.size.toNat + place) count := by
  rw [← agrees.size]
  refine Memory.word_congr fun position small => agrees.entries _ ?_
  have next : (index + 1) * first.size.toNat ≤ first.num.toNat * first.size.toNat :=
    Nat.mul_le_mul_right _ counted
  rw [Nat.add_mul, Nat.one_mul] at next
  have entry := fits.entry
  omega

theorem GptTable.Agrees.offset (agrees : first.Agrees second) (fits : first.Fits) {index : Nat}
    (counted : index < first.num.toNat) : first.offset index = second.offset index := by
  unfold GptTable.offset GptTable.starting
  rw [agrees.word fits counted (by decide)]

theorem GptTable.Agrees.sectors (agrees : first.Agrees second) (fits : first.Fits) {index : Nat}
    (counted : index < first.num.toNat) : first.sectors index = second.sectors index := by
  unfold GptTable.sectors GptTable.starting GptTable.ending
  rw [agrees.word fits counted (by decide), agrees.word fits counted (by decide)]

theorem GptTable.Agrees.name (agrees : first.Agrees second) (fits : first.Fits) {index : Nat}
    (counted : index < first.num.toNat) (stack : Buffer) :
    first.name stack index = second.name stack index := by
  funext position
  unfold GptTable.name
  split
  · rename_i small
    rw [← agrees.size]
    refine agrees.entries _ ?_
    have next : (index + 1) * first.size.toNat ≤ first.num.toNat * first.size.toNat :=
      Nat.mul_le_mul_right _ counted
    rw [Nat.add_mul, Nat.one_mul] at next
    have entry := fits.entry
    omega
  · rfl

theorem GptTable.asciiStrn_congr {left address other : Nat}
    (same : ∀ position < left, Memory.word first.entries (address + position) 1 =
      Memory.word second.entries (other + position) 1) :
    first.asciiStrn left address = second.asciiStrn left other := by
  induction left generalizing address other with
  | zero => rfl
  | succ left inductionHypothesis =>
    have here := same 0 (Nat.succ_pos _)
    rw [Nat.add_zero, Nat.add_zero] at here
    have rest : first.asciiStrn left (address + 1) = second.asciiStrn left (other + 1) := by
      refine inductionHypothesis fun position small => ?_
      have next := same (position + 1) (Nat.succ_lt_succ small)
      rwa [Nat.add_comm position 1, ← Nat.add_assoc, ← Nat.add_assoc] at next
    unfold GptTable.asciiStrn
    rw [here, rest]

theorem GptTable.Agrees.copiedName (agrees : first.Agrees second) (fits : first.Fits)
    {index : Nat} (counted : index < first.num.toNat) :
    first.copiedName index = second.copiedName index := by
  have same : first.asciiStrn 8 (index * first.size.toNat + 56) =
      second.asciiStrn 8 (index * second.size.toNat + 56) := by
    refine GptTable.asciiStrn_congr fun position small => ?_
    have word := agrees.word fits counted (show (56 + position) + 1 ≤ 128 by omega)
    rwa [← Nat.add_assoc, ← Nat.add_assoc] at word
  unfold GptTable.copiedName
  rw [same]

theorem GptTable.Agrees.find (agrees : first.Agrees second) (fits : first.Fits)
    (partName : List U8) (stack : Buffer) :
    first.find partName stack = second.find partName stack := by
  unfold GptTable.find
  rw [← agrees.num]
  refine List.find?_congr fun index member => ?_
  rw [agrees.name fits (List.mem_range.mp member)]

end Lookup

/-- The accessors answer from a table, or with an error when there is none. -/
structure GptState.AnswersFrom (state : GptState) (accepted : Option GptTable) : Prop where
  total : state.sunxiGptPartitionGetTotalNumber = accepted.map GptTable.num
  offset (index : U32) : state.sunxiGptPartitionGetOffset index =
    some (accepted.bind fun table =>
      if index < table.num then some (table.offset index.toNat) else none)
  size (index : U32) : state.sunxiGptPartitionGetSize index =
    some (accepted.bind fun table =>
      if index < table.num then some (table.sectors index.toNat) else none)
  name (index : U32) : state.sunxiGptPartitionGetName index =
    some (accepted.bind fun table =>
      if index < table.num then some (table.copiedName index.toNat) else none)
  offsetByName (partName : List U8) (stack : Buffer) :
    state.sunxiGptPartitionGetOffsetByName partName stack =
      some (accepted.bind fun table => (table.find partName stack).map table.offset)
  sizeByName (partName : List U8) (stack : Buffer) :
    state.sunxiGptPartitionGetSizeByName partName stack =
      some (accepted.bind fun table => (table.find partName stack).map table.sectors)
  infoByName (partName : List U8) (stack : Buffer) :
    state.sunxiGptPartitionGetInfoByName partName stack =
      some (accepted.bind fun table =>
        (table.find partName stack).map fun index => (table.offset index, table.sectors index))

theorem GptState.answersFrom_none {state : GptState} (status : state.gptStatus = false) :
    state.AnswersFrom none := by
  have byIndex {Result : Type} (read : Int → Option Result) (index : U32) :
      state.byIndex read index = some none := by
    unfold GptState.byIndex
    rw [if_pos (.inl (by rw [status]; rfl))]
  have byName {Result : Type} (read : Int → Option Result) (partName : List U8)
      (stack : Buffer) : state.byName read partName stack = some none := by
    unfold GptState.byName
    rw [if_pos (by rw [status]; rfl)]
  refine ⟨?_, byIndex _, byIndex _, byIndex _, byName _, byName _, byName _⟩
  unfold GptState.sunxiGptPartitionGetTotalNumber
  rw [if_pos (by rw [status]; rfl)]
  rfl

/-- An index in the table gives the same in both tables. -/
theorem GptTable.Agrees.lookup {first second : GptTable} {Result : Type}
    {lookup other : Nat → Result} (agrees : first.Agrees second)
    (same : ∀ index, index < first.num.toNat → lookup index = other index) (index : U32) :
    (if index < first.num then some (lookup index.toNat) else none) =
      if index < second.num then some (other index.toNat) else none := by
  rw [← agrees.num]
  split
  · rename_i counted
    rw [same index.toNat counted]
  · rfl

theorem GptTable.Agrees.lookupName {first second : GptTable} {Result : Type}
    {lookup other : Nat → Result} (agrees : first.Agrees second) (fits : first.Fits)
    (same : ∀ index, index < first.num.toNat → lookup index = other index)
    (partName : List U8) (stack : Buffer) :
    (first.find partName stack).map lookup = (second.find partName stack).map other := by
  rw [← agrees.find fits]
  cases position : first.find partName stack with
  | none => rfl
  | some index =>
    have counted := List.mem_range.mp (List.mem_of_find?_eq_some position)
    exact congrArg some (same index counted)

theorem GptState.answersFrom_some {state : GptState} {table : GptTable}
    (status : state.gptStatus = true) (fits : state.table.Fits)
    (agrees : state.table.Agrees table) : state.AnswersFrom (some table) where
  total := by
    unfold GptState.sunxiGptPartitionGetTotalNumber
    rw [if_neg (by rw [status]; decide)]
    exact congrArg some agrees.num
  offset index := by
    rw [GptState.sunxiGptPartitionGetOffset_eq status fits]
    exact congrArg some (agrees.lookup (fun _ => agrees.offset fits) index)
  size index := by
    rw [GptState.sunxiGptPartitionGetSize_eq status fits]
    exact congrArg some (agrees.lookup (fun _ => agrees.sectors fits) index)
  name index := by
    rw [GptState.sunxiGptPartitionGetName_eq status fits]
    exact congrArg some (agrees.lookup (fun _ => agrees.copiedName fits) index)
  offsetByName partName stack := by
    rw [GptState.sunxiGptPartitionGetOffsetByName_eq status fits]
    exact congrArg some (agrees.lookupName fits (fun _ => agrees.offset fits) partName stack)
  sizeByName partName stack := by
    rw [GptState.sunxiGptPartitionGetSizeByName_eq status fits]
    exact congrArg some (agrees.lookupName fits (fun _ => agrees.sectors fits) partName stack)
  infoByName partName stack := by
    have same (index : Nat) (counted : index < state.table.num.toNat) :
        (state.table.offset index, state.table.sectors index) =
          (table.offset index, table.sectors index) := by
      rw [agrees.offset fits counted, agrees.sectors fits counted]
    rw [GptState.sunxiGptPartitionGetInfoByName_eq status fits]
    exact congrArg some (agrees.lookupName fits same partName stack)

/-! ### Sequences of calls -/

/-- A call that presents one of the caller's buffers, with what the disk answers during it. -/
structure GptCall : Type where
  buffer : Nat
  disk : GptDisk

/-- The reader, the caller's buffers, and the table of the last call if it was accepted. -/
structure GptRun : Type where
  gpt : GptState
  buffers : Nat → Buffer
  accepted : Option GptTable

section Runs

variable (gptLen : Nat → U32)

/-- The reader is given a disk and one of the buffers. -/
def GptCall.apply (run : GptRun) (call : GptCall) : GptRun :=
  match sunxiGptPartitionInitialize run.gpt call.disk (run.buffers call.buffer)
      (gptLen call.buffer) with
  | none => run
  | some (status, next, after) =>
    { gpt := next
      buffers := Function.update run.buffers call.buffer after
      accepted := if status = .success then
        some (gptTableOf call.disk (run.buffers call.buffer)) else none }

/-- The calls one after the other, on a reader that was not used before. -/
def gptRun (buffers : Nat → Buffer) (calls : List GptCall) : GptRun :=
  calls.foldl (GptCall.apply gptLen)
    { gpt := { gptBuf := fun _ => 0, gptStatus := false, gptPartSize := 0, gptPartNum := 0 }
      buffers := buffers
      accepted := none }

theorem gptRun_concat (buffers : Nat → Buffer) (calls : List GptCall) (call : GptCall) :
    gptRun gptLen buffers (calls ++ [call]) = call.apply gptLen (gptRun gptLen buffers calls) := by
  simp [gptRun]

/-- The call succeeds exactly when the header it presents is acceptable. -/
def GptCall.Exact (run : GptRun) (call : GptCall) : Prop :=
  ∃ status next after,
    sunxiGptPartitionInitialize run.gpt call.disk (run.buffers call.buffer)
        (gptLen call.buffer) = some (status, next, after) ∧
      (status = .success ↔ GptAccepts call.disk (run.buffers call.buffer))

/-- What is promised of a sequence of calls: each accepts exactly what is acceptable, the
accessors answer from the last table, and the headers stay as they were. -/
structure GptStable (buffers : Nat → Buffer) (calls : List GptCall) : Prop where
  exact : ∀ before call, before ++ [call] <+: calls →
    call.Exact gptLen (gptRun gptLen buffers before)
  answers : ∀ before, before <+: calls →
    (gptRun gptLen buffers before).gpt.AnswersFrom (gptRun gptLen buffers before).accepted
  kept : ∀ before, before <+: calls → (gptRun gptLen buffers before).buffers = buffers

variable {gptLen}

/-- The sizes in all headers that are presented fit. -/
def GptCallsFit (gptLen : Nat → U32) (buffers : Nat → Buffer) (calls : List GptCall) : Prop :=
  ∀ call ∈ calls, GptSizesFit (buffers call.buffer) (gptLen call.buffer)

/-- A call whose sizes fit, as a step of a run. -/
theorem GptCall.apply_eq (run : GptRun) (call : GptCall)
    (fits : GptSizesFit (run.buffers call.buffer) (gptLen call.buffer)) :
    call.Exact gptLen run ∧
      (call.apply gptLen run).buffers = Function.update run.buffers call.buffer
        (gptHeaderAfter (run.buffers call.buffer)) ∧
      (call.apply gptLen run).gpt.AnswersFrom (call.apply gptLen run).accepted := by
  obtain ⟨status, next, done, accepts, success, fails⟩ :=
    sunxiGptPartitionInitialize_spec run.gpt call.disk fits
  refine ⟨⟨status, next, _, done, accepts⟩, ?_, ?_⟩
  · unfold GptCall.apply
    rw [done]
  · unfold GptCall.apply
    rw [done]
    dsimp only
    by_cases accepted : status = .success
    · obtain ⟨valid, tableFits, agrees⟩ := success accepted
      rw [if_pos accepted]
      exact GptState.answersFrom_some valid tableFits agrees
    · rw [if_neg accepted]
      exact GptState.answersFrom_none (fails accepted)

/-- The sizes that fit go on to fit, since a call changes no size. -/
theorem gptRun_fits {buffers : Nat → Buffer} {calls : List GptCall} {buffer : Nat}
    (allFit : GptCallsFit gptLen buffers calls)
    (fits : GptSizesFit (buffers buffer) (gptLen buffer)) :
    GptSizesFit ((gptRun gptLen buffers calls).buffers buffer) (gptLen buffer) := by
  induction calls using List.reverseRecOn generalizing buffer with
  | nil => exact fits
  | append_singleton calls call inductionHypothesis =>
    have before : GptCallsFit gptLen buffers calls := fun other member =>
      allFit other (List.mem_append_left _ member)
    have presented := inductionHypothesis before (allFit call (by simp))
    rw [gptRun_concat, (GptCall.apply_eq _ call presented).2.1]
    by_cases same : buffer = call.buffer
    · subst same
      rw [Function.update_self]
      exact presented.after
    · rw [Function.update_of_ne same]
      exact inductionHypothesis before fits

theorem gptRun_kept {buffers : Nat → Buffer} {calls : List GptCall}
    (allFit : GptCallsFit gptLen buffers calls)
    (crc : ∀ call ∈ calls, gptHeaderCrc32 (buffers call.buffer) =
      gptHeaderCheck (buffers call.buffer)) :
    (gptRun gptLen buffers calls).buffers = buffers := by
  induction calls using List.reverseRecOn with
  | nil => rfl
  | append_singleton calls call inductionHypothesis =>
    have before : GptCallsFit gptLen buffers calls := fun other member =>
      allFit other (List.mem_append_left _ member)
    have kept := inductionHypothesis before fun other member =>
      crc other (List.mem_append_left _ member)
    have presented := gptRun_fits before (allFit call (by simp))
    rw [gptRun_concat, (GptCall.apply_eq _ call presented).2.1, kept,
      (gptHeaderAfter_same_iff _).mpr (crc call (by simp)), Function.update_eq_self]

/-- Whatever is presented, each call accepts exactly what is acceptable and the accessors answer
from the last table; the headers stay as they were if and only if the checksum in each header
that is presented is right. -/
theorem gptReader_stable_iff (gptLen : Nat → U32) (buffers : Nat → Buffer)
    (calls : List GptCall) (allFit : GptCallsFit gptLen buffers calls) :
    (∀ before call, before ++ [call] <+: calls →
        call.Exact gptLen (gptRun gptLen buffers before)) ∧
      (∀ before, before <+: calls →
        (gptRun gptLen buffers before).gpt.AnswersFrom (gptRun gptLen buffers before).accepted) ∧
      (GptStable gptLen buffers calls ↔ ∀ call ∈ calls,
        gptHeaderCrc32 (buffers call.buffer) = gptHeaderCheck (buffers call.buffer)) := by
  have fitBefore (before : List GptCall) (isPrefix : before <+: calls) :
      GptCallsFit gptLen buffers before := fun call member =>
    allFit call (isPrefix.subset member)
  have presented (before : List GptCall) (call : GptCall) (isPrefix : before ++ [call] <+: calls) :
      GptSizesFit ((gptRun gptLen buffers before).buffers call.buffer) (gptLen call.buffer) :=
    gptRun_fits (fitBefore before ((List.prefix_append _ _).trans isPrefix))
      (allFit call (isPrefix.subset (by simp)))
  have exact (before : List GptCall) (call : GptCall) (isPrefix : before ++ [call] <+: calls) :=
    (GptCall.apply_eq _ call (presented before call isPrefix)).1
  have answers (before : List GptCall) (isPrefix : before <+: calls) :
      (gptRun gptLen buffers before).gpt.AnswersFrom (gptRun gptLen buffers before).accepted := by
    rcases List.eq_nil_or_concat before with rfl | ⟨earlier, call, rfl⟩
    · exact GptState.answersFrom_none rfl
    · rw [List.concat_eq_append] at isPrefix ⊢
      rw [gptRun_concat]
      exact (GptCall.apply_eq _ call (presented earlier call isPrefix)).2.2
  refine ⟨exact, answers, fun stable call member => ?_, fun crc => ⟨exact, answers, ?_⟩⟩
  · obtain ⟨earlier, later, split⟩ := List.append_of_mem member
    have isPrefix : earlier ++ [call] <+: calls := ⟨later, by rw [split]; simp⟩
    have start := stable.kept earlier ((List.prefix_append _ _).trans isPrefix)
    have after := stable.kept _ isPrefix
    rw [gptRun_concat, (GptCall.apply_eq _ call (presented earlier call isPrefix)).2.1, start]
      at after
    have same := congrFun after call.buffer
    rw [Function.update_self] at same
    exact (gptHeaderAfter_same_iff _).mp same
  · intro before isPrefix
    exact gptRun_kept (fitBefore before isPrefix) fun call member => crc call (isPrefix.subset member)

end Runs

/-! ### A header that is presented twice -/

/-- A header of an empty table, without a checksum. -/
def emptyGptBytes : Buffer :=
  Memory.setWord (Memory.setWord (fun _ => 0) 0 8 efiPtabHeaderId.toNat) 84 4 128

/-- The header with a checksum that is one too large. -/
def damagedHeader : Buffer :=
  setGptHeaderCrc32 emptyGptBytes (gptHeaderCheck emptyGptBytes + 1)

/-- A disk that answers every read. -/
def zeroDisk : GptDisk := fun _ _ => (true, fun _ => 0)

theorem gptHeaderCheck_setCrc (header : Buffer) (crc : U32) :
    gptHeaderCheck (setGptHeaderCrc32 header crc) = gptHeaderCheck header := by
  unfold gptHeaderCheck
  rw [(setGptHeaderCrc32_sizes header crc).1]
  exact congrArg (fun bytes => sunxiCrc32 bytes _) (Memory.setWord_setWord header 16 4 _ _)

theorem damagedHeader_crc : gptHeaderCrc32 damagedHeader ≠ gptHeaderCheck damagedHeader := by
  have stored : gptHeaderCrc32 damagedHeader = gptHeaderCheck emptyGptBytes + 1 :=
    Memory.word_setWord_toNat emptyGptBytes 16 _ rfl
  have check : gptHeaderCheck damagedHeader = gptHeaderCheck emptyGptBytes :=
    gptHeaderCheck_setCrc _ _
  rw [stored, check]
  intro same
  bv_omega

theorem damagedHeader_fits : GptSizesFit damagedHeader 512 := by
  obtain ⟨size, number, entry⟩ :=
    setGptHeaderCrc32_sizes emptyGptBytes (gptHeaderCheck emptyGptBytes + 1)
  constructor
  · unfold damagedHeader
    rw [size]
    decide
  · unfold damagedHeader
    rw [number, entry]
    decide

/-- A header with a right checksum, presented once. -/
theorem gptReader_stable_iff_repaired :
    GptStable (fun _ => 512) (fun _ => gptHeaderAfter damagedHeader) [⟨0, zeroDisk⟩] := by
  refine (gptReader_stable_iff (fun _ => 512) (fun _ => gptHeaderAfter damagedHeader)
    [⟨0, zeroDisk⟩] fun call _ => damagedHeader_fits.after).2.2.mpr fun call _ => ?_
  rw [gptHeaderAfter_eq, gptHeaderCheck_setCrc]
  exact Memory.word_setWord_toNat _ 16 _ rfl

/-- A damaged header is rejected and then left with the checksum that it should have had. -/
theorem gptReader_not_stable :
    ¬ ∀ gptLen buffers calls, GptCallsFit gptLen buffers calls →
      GptStable gptLen buffers calls := by
  intro claim
  have fits : GptCallsFit (fun _ => 512) (fun _ => damagedHeader) [⟨0, zeroDisk⟩] :=
    fun call _ => damagedHeader_fits
  have kept := (claim _ _ _ fits).kept _ (List.prefix_refl _)
  have after : (gptRun (fun _ => 512) (fun _ => damagedHeader) [⟨0, zeroDisk⟩]).buffers 0 =
      gptHeaderAfter damagedHeader := by
    have step : (GptCall.apply (fun _ => 512) (gptRun (fun _ => 512) (fun _ => damagedHeader) [])
        ⟨0, zeroDisk⟩).buffers = Function.update (fun _ => damagedHeader) 0
          (gptHeaderAfter damagedHeader) :=
      (GptCall.apply_eq _ ⟨0, zeroDisk⟩ damagedHeader_fits).2.1
    rw [← gptRun_concat] at step
    exact (congrFun step 0).trans (Function.update_self _ _ _)
  rw [kept] at after
  exact damagedHeader_crc ((gptHeaderAfter_same_iff _).mp after.symm)

end PinePhonePkg
