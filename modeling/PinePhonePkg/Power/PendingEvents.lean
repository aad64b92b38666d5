/-
This file follows the events that the power chip notes in its status registers, of
which every bit that is written as one is cleared. The driver reads five registers
and then clears all of them, while events go on: what came between the read of a
byte and its clear is lost, and so is what stands behind another event of its byte.
-/

import PinePhonePkg.Library.Runs
import PinePhonePkg.Power.Interrupts
import Mathlib.Logic.Function.Iterate

namespace PinePhonePkg

open Library Program

/-! ### The chip and its events -/

/-- What has happened: an event, or a call with the events it cleared and the mask it reported -/
inductive Observed : Type where
  | occurred (kind : AxpInt)
  | probed (cleared : IntSet) (intMask : Ulong)

/-- The event has occurred, and no call has reported it since. The latest comes first. -/
def unreported (kind : AxpInt) : List Observed → Bool
  | [] => false
  | .occurred other :: earlier => decide (kind = other) || unreported kind earlier
  | .probed _ intMask :: earlier => !kind.In intMask && unreported kind earlier

/-- The power chip, the events before each of the next accesses, the events that the current call
has cleared, and what has happened -/
structure StatusChip : Type where
  registers : Registers
  arriving : List (List AxpInt)
  cleared : IntSet
  history : List Observed

/-- The register with the pending bit of a kind -/
def AxpInt.register (kind : AxpInt) : U8 := intsts1 + BitVec.ofNat 8 kind.index

namespace StatusChip

variable (chip : StatusChip)

/-- An interrupt of the kind is pending. -/
def pending (kind : AxpInt) : Bool := (chip.registers kind.register).getLsbD kind.place

/-- An event sets its bit. -/
def occurs (kind : AxpInt) : StatusChip :=
  { chip with
    registers := Function.update chip.registers kind.register
      (chip.registers kind.register ||| BitVec.twoPow 8 kind.place)
    history := .occurred kind :: chip.history }

/-- The events before an access -/
def settle : StatusChip :=
  match chip.arriving with
  | [] => chip
  | kinds :: rest => kinds.foldl occurs { chip with arriving := rest }

/-- The status registers are from INTSTS1 to INTSTS5; a bit that is written as one is cleared. -/
def write (addr value : U8) : StatusChip :=
  if 0x48 ≤ addr ∧ addr ≤ 0x4c then
    { chip with
      registers := Function.update chip.registers addr (chip.registers addr &&& ~~~value)
      cleared := fun kind => chip.cleared kind ||
        (decide (addr = kind.register) && chip.pending kind && value.getLsbD kind.place) }
  else { chip with registers := Function.update chip.registers addr value }

end StatusChip

/-- The secure monitor carries out every access, after the events before it. -/
def serveStatus : (request : PmuRequest) → StatusChip → U32 × StatusChip
  | .readPmu addr, chip =>
    (((chip.settle).registers (addr.setWidth 8)).setWidth 32, chip.settle)
  | .writePmu addr value, chip => (0, chip.settle.write (addr.setWidth 8) (value.setWidth 8))

/-- An event, or a call with the events before each of its accesses and before its return. -/
inductive StatusInput : Type where
  | occurs (kind : AxpInt)
  | probeIntPending (arriving : List (List AxpInt))

namespace StatusChip

/-- The events of all the rest -/
def settleAll (chip : StatusChip) : StatusChip :=
  chip.arriving.flatten.foldl occurs { chip with arriving := [] }

/-- The chip at the first access of a call -/
def called (chip : StatusChip) (arriving : List (List AxpInt)) : StatusChip :=
  { chip with arriving := arriving, cleared := fun _ => false }

/-- The chip after an event, or after a call in which others arrive -/
def after (chip : StatusChip) : StatusInput → StatusChip
  | .occurs kind => chip.occurs kind
  | .probeIntPending arriving =>
    let ((_, intMask), next) := exec serveStatus axp81XProbeIntPending (chip.called arriving)
    let next := next.settleAll
    { next with history := .probed next.cleared intMask :: next.history }

/-- No event is lost: each is pending unless it has been reported since, and a call has cleared
only what it reported. -/
structure NoneLost (chip : StatusChip) : Prop where
  pending : ∀ kind, unreported kind chip.history = true → chip.pending kind = true
  reported : ∀ cleared intMask, .probed cleared intMask ∈ chip.history →
    ∀ kind, cleared kind = true → kind.In intMask = true

/-- The event is among these. -/
def arrives (arriving : List (List AxpInt)) (kind : AxpInt) : Bool :=
  arriving.any fun kinds => decide (kind ∈ kinds)

/-- The event is pending at an access, the first of which is the zeroth. -/
def pendingAt (chip : StatusChip) (arriving : List (List AxpInt)) (access : Nat)
    (kind : AxpInt) : Bool :=
  chip.pending kind || arrives (arriving.take (access + 1)) kind

/-- Whatever is pending when its byte is cleared, which are the accesses from the fifth, is tested
before the others of its byte and was pending when the byte was read. -/
def Clean (chip : StatusChip) : StatusInput → Prop
  | .occurs _ => True
  | .probeIntPending arriving => ∀ kind : AxpInt,
      chip.pendingAt arriving (kind.index + 5) kind = true →
        kind.Visible = true ∧ chip.pendingAt arriving kind.index kind = true

/-- The chip at the start, where what is pending has occurred. -/
def initially (registers : Registers) : StatusChip :=
  let chip : StatusChip := ⟨registers, [], fun _ => false, []⟩
  { chip with history := (AxpInt.all.filter chip.pending).map .occurred }

/-! ### One event -/

/-- Two events have different bits. -/
theorem register_eq_iff {kind other : AxpInt} :
    kind.register = other.register ↔ kind.index = other.index := by
  cases kind <;> cases other <;> decide

theorem pending_update (chip : StatusChip) (kind : AxpInt) (addr value : U8) :
    (Function.update chip.registers addr value kind.register).getLsbD kind.place =
      if kind.register = addr then value.getLsbD kind.place else chip.pending kind := by
  by_cases same : kind.register = addr
  · rw [if_pos same, ← same, Function.update_self]
  · rw [if_neg same, Function.update_of_ne same]
    rfl

@[simp]
theorem pending_occurs (chip : StatusChip) (kind other : AxpInt) :
    (chip.occurs other).pending kind = (chip.pending kind || decide (kind = other)) := by
  refine (chip.pending_update kind _ _).trans ?_
  by_cases same : kind.register = other.register
  · rw [if_pos same, getLsbD_or_twoPow _ other.place_lt, ← same]
    refine congrArg (chip.pending kind || ·) (decide_eq_decide.mpr ⟨fun place => ?_, ?_⟩)
    · exact AxpInt.bit_inj ⟨register_eq_iff.mp same, place⟩
    · exact congrArg AxpInt.place
  · rw [if_neg same]
    have distinct : kind ≠ other := fun is => same (congrArg AxpInt.register is)
    rw [decide_eq_false distinct, Bool.or_false]

@[simp]
theorem unreported_occurs (chip : StatusChip) (kind other : AxpInt) :
    unreported kind (chip.occurs other).history =
      (unreported kind chip.history || decide (kind = other)) :=
  Bool.or_comm _ _

/-! ### One event over some accesses -/

/-- An event from one state of the chip to a later one, when its byte is not cleared between. -/
structure Noted (kind : AxpInt) (chip next : StatusChip) (accesses : Nat) : Prop where
  arriving : next.arriving = chip.arriving.drop accesses
  pending : next.pending kind = (chip.pending kind || arrives (chip.arriving.take accesses) kind)
  cleared : next.cleared kind = chip.cleared kind
  unreported : unreported kind next.history =
    (unreported kind chip.history || arrives (chip.arriving.take accesses) kind)
  probed : ∀ cleared intMask,
    .probed cleared intMask ∈ next.history ↔ .probed cleared intMask ∈ chip.history

theorem arrives_append (first rest : List (List AxpInt)) (kind : AxpInt) :
    arrives (first ++ rest) kind = (arrives first kind || arrives rest kind) :=
  List.any_append

theorem arrives_take_or_drop (arriving : List (List AxpInt)) (accesses : Nat) (kind : AxpInt) :
    (arrives (arriving.take accesses) kind || arrives (arriving.drop accesses) kind) =
      arrives arriving kind := by
  rw [← arrives_append, List.take_append_drop]

theorem Noted.refl (kind : AxpInt) (chip : StatusChip) : Noted kind chip chip 0 where
  arriving := rfl
  pending := (Bool.or_false _).symm
  cleared := rfl
  unreported := (Bool.or_false _).symm
  probed _ _ := Iff.rfl

theorem Noted.trans {kind : AxpInt} {chip middle next : StatusChip} {first rest : Nat}
    (before : Noted kind chip middle first) (behind : Noted kind middle next rest) :
    Noted kind chip next (first + rest) := by
  have both : arrives (chip.arriving.take (first + rest)) kind =
      (arrives (chip.arriving.take first) kind || arrives (middle.arriving.take rest) kind) := by
    rw [before.arriving, ← arrives_append, List.take_add]
  refine ⟨?_, ?_, behind.cleared.trans before.cleared, ?_, fun cleared intMask => ?_⟩
  · rw [behind.arriving, before.arriving, List.drop_drop]
  · rw [behind.pending, before.pending, both, Bool.or_assoc]
  · rw [behind.unreported, before.unreported, both, Bool.or_assoc]
  · exact (behind.probed cleared intMask).trans (before.probed cleared intMask)

theorem arriving_foldl_occurs (kinds : List AxpInt) (chip : StatusChip) :
    (kinds.foldl occurs chip).arriving = chip.arriving := by
  induction kinds generalizing chip with
  | nil => rfl
  | cons kind rest inductionHypothesis => exact inductionHypothesis (chip.occurs kind)

/-- The events of some accesses occur, and those accesses are over. -/
theorem noted_foldl_occurs (kind : AxpInt) (kinds : List AxpInt) (chip : StatusChip)
    {accesses : Nat} (all : arrives (chip.arriving.take accesses) kind = decide (kind ∈ kinds)) :
    Noted kind chip
      (kinds.foldl occurs { chip with arriving := chip.arriving.drop accesses }) accesses := by
  have whole : ∀ chip : StatusChip,
      (kinds.foldl occurs chip).pending kind = (chip.pending kind || decide (kind ∈ kinds)) ∧
      (kinds.foldl occurs chip).cleared = chip.cleared ∧
      unreported kind (kinds.foldl occurs chip).history =
        (unreported kind chip.history || decide (kind ∈ kinds)) ∧
      ∀ cleared intMask, .probed cleared intMask ∈ (kinds.foldl occurs chip).history ↔
        .probed cleared intMask ∈ chip.history := by
    clear all
    induction kinds with
    | nil => simp
    | cons other rest inductionHypothesis =>
      intro chip
      obtain ⟨pending, cleared, unreported, probed⟩ := inductionHypothesis (chip.occurs other)
      rw [List.foldl_cons, pending, cleared, unreported, pending_occurs, unreported_occurs]
      refine ⟨by simp [Bool.or_assoc], rfl, by simp [Bool.or_assoc], fun cleared intMask => ?_⟩
      refine (probed cleared intMask).trans (List.mem_cons.trans (or_iff_right ?_))
      exact Observed.noConfusion
  obtain ⟨pending, cleared, unreported, probed⟩ :=
    whole { chip with arriving := chip.arriving.drop accesses }
  refine ⟨arriving_foldl_occurs _ _, ?_, congrFun cleared kind, ?_, probed⟩
  · rw [all, pending]
    rfl
  · rw [all, unreported]

theorem noted_settle (kind : AxpInt) (chip : StatusChip) : Noted kind chip chip.settle 1 := by
  have next : chip.settle = (chip.arriving.headD []).foldl occurs
      { chip with arriving := chip.arriving.drop 1 } := by
    unfold settle
    obtain ⟨registers, arriving, cleared, history⟩ := chip
    cases arriving <;> rfl
  rw [next]
  refine noted_foldl_occurs kind _ chip ?_
  cases chip.arriving with
  | nil | cons => simp [arrives]

theorem noted_settleAll (kind : AxpInt) (chip : StatusChip) :
    Noted kind chip chip.settleAll chip.arriving.length := by
  have next : chip.settleAll = chip.arriving.flatten.foldl occurs
      { chip with arriving := chip.arriving.drop chip.arriving.length } := by
    rw [List.drop_length]
    rfl
  rw [next]
  refine noted_foldl_occurs kind _ chip ?_
  rw [List.take_length, Bool.eq_iff_iff]
  simp [arrives]

theorem noted_iterate_settle (kind : AxpInt) (accesses : Nat) (chip : StatusChip) :
    Noted kind chip (settle^[accesses] chip) accesses := by
  induction accesses generalizing chip with
  | zero => exact .refl kind chip
  | succ accesses inductionHypothesis =>
    have both := (noted_settle kind chip).trans (inductionHypothesis chip.settle)
    rwa [Nat.add_comm] at both

/-! ### The clear of a byte -/

/-- An access that clears the byte -/
def clearNext (chip : StatusChip) (index : Nat) : StatusChip :=
  chip.settle.write (intsts1 + BitVec.ofNat 8 index) 0xff

theorem register_iff {index : Nat} (inside : index < 5) (kind : AxpInt) :
    intsts1 + BitVec.ofNat 8 index = kind.register ↔ index = kind.index := by
  revert index
  cases kind <;> decide

/-- The clear of a byte: what was pending of it has been cleared. -/
theorem write_ones {index : Nat} (inside : index < 5) (chip : StatusChip) :
    ∃ registers, chip.write (intsts1 + BitVec.ofNat 8 index) 0xff =
        { chip with
          registers := registers
          cleared := fun kind =>
            chip.cleared kind || (decide (index = kind.index) && chip.pending kind) } ∧
      ∀ kind : AxpInt, (registers kind.register).getLsbD kind.place =
        (chip.pending kind && !decide (index = kind.index)) := by
  have status : ∀ index < 5, (0x48 : U8) ≤ intsts1 + BitVec.ofNat 8 index ∧
      intsts1 + BitVec.ofNat 8 index ≤ 0x4c := by decide
  have ones : ∀ kind : AxpInt, (0xff : U8).getLsbD kind.place = true := by
    intro kind
    cases kind <;> decide
  unfold write
  rw [if_pos (status index inside)]
  refine ⟨Function.update chip.registers (intsts1 + BitVec.ofNat 8 index)
    (chip.registers (intsts1 + BitVec.ofNat 8 index) &&& ~~~0xff), ?_, fun kind => ?_⟩
  · simp only [ones, Bool.and_true, decide_eq_decide.mpr (register_iff inside _)]
  · rw [pending_update]
    by_cases same : index = kind.index
    · rw [if_pos ((register_iff inside kind).mpr same).symm, decide_eq_true same]
      simp
    · have apart : kind.register ≠ intsts1 + BitVec.ofNat 8 index :=
        fun is => same ((register_iff inside kind).mp is.symm)
      rw [if_neg apart, decide_eq_false same, Bool.not_false, Bool.and_true]

theorem noted_clearNext {kind : AxpInt} {index : Nat} (inside : index < 5)
    (other : index ≠ kind.index) (chip : StatusChip) :
    Noted kind chip (chip.clearNext index) 1 := by
  obtain ⟨registers, next, pending⟩ := write_ones inside chip.settle
  have noted := noted_settle kind chip
  unfold clearNext
  rw [next]
  refine ⟨noted.arriving, ?_, ?_, noted.unreported, noted.probed⟩
  · rw [← noted.pending]
    exact (pending kind).trans (by simp [other])
  · rw [← noted.cleared]
    simp [other]

theorem noted_foldl_clearNext {kind : AxpInt} {indexes : List Nat}
    (others : ∀ index ∈ indexes, index < 5 ∧ index ≠ kind.index) (chip : StatusChip) :
    Noted kind chip (indexes.foldl clearNext chip) indexes.length := by
  induction indexes generalizing chip with
  | nil => exact .refl kind chip
  | cons index rest inductionHypothesis =>
    obtain ⟨⟨inside, other⟩, others⟩ := List.forall_mem_cons.mp others
    rw [List.length_cons, Nat.add_comm]
    exact (noted_clearNext inside other chip).trans (inductionHypothesis others _)

/-! ### The call -/

theorem exec_readStatus (chip : StatusChip) (first count : Nat) :
    exec serveStatus (readEach (intsts1 + BitVec.ofNat 8 first) count) chip =
      ((efiSuccess, (List.range count).map fun place =>
          (settle^[place + 1] chip).registers (intsts1 + BitVec.ofNat 8 (first + place))),
        settle^[count] chip) := by
  induction count generalizing chip first with
  | zero => rfl
  | succ count inductionHypothesis =>
    have next : intsts1 + BitVec.ofNat 8 first + 1 = intsts1 + BitVec.ofNat 8 (first + 1) := by
      rw [BitVec.add_assoc, BitVec.ofNat_add]
      rfl
    unfold readEach
    rw [readOr_eq]
    simp only [exec, serveStatus, byte_back, exec_bind, exec_pure, next,
      inductionHypothesis, List.range_succ_eq_map, List.map_cons, List.map_map]
    simp [Function.comp_def, Nat.add_comm, Nat.add_left_comm]

theorem exec_clearStatus (chip : StatusChip) (first count : Nat) :
    exec serveStatus
        (writeEach (intsts1 + BitVec.ofNat 8 first) (List.replicate count 0xff)) chip =
      (efiSuccess, (List.range' first count).foldl clearNext chip) := by
  induction count generalizing chip first with
  | zero => rfl
  | succ count inductionHypothesis =>
    have next : intsts1 + BitVec.ofNat 8 first + 1 = intsts1 + BitVec.ofNat 8 (first + 1) := by
      rw [BitVec.add_assoc, BitVec.ofNat_add]
      rfl
    rw [List.replicate_succ, List.range'_succ, List.foldl_cons]
    unfold writeEach
    rw [writeOr_eq]
    simp only [exec, serveStatus, byte_back, next, ne_eq, not_true, if_false]
    exact inductionHypothesis _ _

/-- What an event comes to in a call: it is pending again if it comes after the clear of its byte,
and has been cleared if it was pending then. -/
structure Called (chip : StatusChip) (arriving : List (List AxpInt)) (final : StatusChip)
    (kind : AxpInt) : Prop where
  pending : final.pending kind = arrives (arriving.drop (kind.index + 6)) kind
  cleared : final.cleared kind = chip.pendingAt arriving (kind.index + 5) kind
  unreported : unreported kind final.history =
    (unreported kind chip.history || arrives arriving kind)
  probed : ∀ cleared intMask,
    .probed cleared intMask ∈ final.history ↔ .probed cleared intMask ∈ chip.history

/-- The reads, and the clears of the bytes before that of the event -/
theorem noted_before_clear (kind : AxpInt) (chip : StatusChip) :
    Noted kind chip
      ((List.range' 0 kind.index).foldl clearNext (settle^[5] chip)).settle (kind.index + 6) := by
  have others : ∀ index ∈ List.range' 0 kind.index, index < 5 ∧ index ≠ kind.index := by
    intro index member
    have inside := kind.index_lt
    rw [List.mem_range'_1] at member
    omega
  have before := (noted_iterate_settle kind 5 chip).trans (noted_foldl_clearNext others _)
  have settled := before.trans (noted_settle kind _)
  rwa [List.length_range', show 5 + kind.index + 1 = kind.index + 6 by omega] at settled

/-- The clears of the bytes behind that of the event, and the events before the return -/
theorem noted_after_clear (kind : AxpInt) (chip : StatusChip) :
    ∃ accesses, chip.arriving.length ≤ accesses ∧
      Noted kind chip
        ((List.range' (kind.index + 1) (4 - kind.index)).foldl clearNext chip).settleAll
        accesses := by
  have others : ∀ index ∈ List.range' (kind.index + 1) (4 - kind.index),
      index < 5 ∧ index ≠ kind.index := by
    intro index member
    rw [List.mem_range'_1] at member
    omega
  have behind := noted_foldl_clearNext others chip
  refine ⟨_, ?_, behind.trans (noted_settleAll kind _)⟩
  rw [behind.arriving, List.length_drop]
  omega

/-- The clear of the byte of the event -/
theorem own_clear (kind : AxpInt) (chip : StatusChip) :
    (chip.clearNext kind.index).arriving = chip.settle.arriving ∧
      (chip.clearNext kind.index).pending kind = false ∧
      (chip.clearNext kind.index).cleared kind =
        (chip.settle.cleared kind || chip.settle.pending kind) ∧
      (chip.clearNext kind.index).history = chip.settle.history := by
  obtain ⟨registers, next, pending⟩ := write_ones kind.index_lt chip.settle
  unfold clearNext
  rw [next]
  refine ⟨rfl, (pending kind).trans ?_, ?_, rfl⟩
  · simp
  · simp

/-- The event in a call, by the clear of its byte -/
theorem called_final (chip : StatusChip) (arriving : List (List AxpInt)) (kind : AxpInt) :
    Called chip arriving
      ((List.range' 0 5).foldl clearNext (settle^[5] (chip.called arriving))).settleAll kind := by
  have split : List.range' 0 5 =
      List.range' 0 kind.index ++
        kind.index :: List.range' (kind.index + 1) (4 - kind.index) := by
    cases kind <;> rfl
  rw [split, List.foldl_append, List.foldl_cons]
  have before := noted_before_clear kind (chip.called arriving)
  generalize (List.range' 0 kind.index).foldl clearNext _ = found at before ⊢
  obtain ⟨place, pending, cleared, history⟩ := own_clear kind found
  obtain ⟨accesses, whole, behind⟩ := noted_after_clear kind (found.clearNext kind.index)
  have left : arrives ((found.clearNext kind.index).arriving.take accesses) kind =
      arrives (arriving.drop (kind.index + 6)) kind := by
    rw [List.take_of_length_le whole, place, before.arriving]
    rfl
  refine ⟨?_, ?_, ?_, fun events intMask => ?_⟩
  · rw [behind.pending, pending, left, Bool.false_or]
  · rw [behind.cleared, cleared, before.cleared, before.pending]
    rfl
  · rw [behind.unreported, history, before.unreported, left, Bool.or_assoc]
    exact congrArg (unreported kind chip.history || ·) (arrives_take_or_drop arriving _ kind)
  · refine (behind.probed events intMask).trans ?_
    rw [history]
    exact before.probed events intMask

theorem exec_probeIntPending (chip : StatusChip) :
    exec serveStatus axp81XProbeIntPending chip =
      ((efiSuccess, IntSet.mask fun kind =>
          kind.Visible && (settle^[kind.index + 1] chip).pending kind),
        (List.range' 0 5).foldl clearNext (settle^[5] chip)) := by
  have read := exec_readStatus chip 0 5
  have clear := exec_clearStatus (settle^[5] chip) 0 5
  have first : intsts1 + BitVec.ofNat 8 0 = intsts1 := rfl
  rw [first] at read clear
  have raw : exec serveStatus rawAxp81XProbeIntPending chip =
      ((efiSuccess, (List.range 5).map fun place =>
          (settle^[place + 1] chip).registers (intsts1 + BitVec.ofNat 8 (0 + place))),
        (List.range' 0 5).foldl clearNext (settle^[5] chip)) := by
    unfold rawAxp81XProbeIntPending
    rw [exec_bind, read]
    refine (exec_bind _ _ _ _).trans ?_
    rw [show ([0xff, 0xff, 0xff, 0xff, 0xff] : List U8) = List.replicate 5 0xff from rfl, clear]
    rfl
  unfold axp81XProbeIntPending
  rw [exec_bind, raw]
  refine Prod.ext (Prod.ext rfl ?_) rfl
  refine (reportInts_eq _ _ _ _ _ 0).trans (BitVec.zero_or.trans ?_)
  refine congrArg IntSet.mask (funext fun kind => ?_ :
    (fun kind => _) = fun kind => kind.Visible && (settle^[kind.index + 1] chip).pending kind)
  cases kind <;> rfl

/-- The call reports what is tested first and was pending at the read of its byte. -/
theorem after_probeIntPending (chip : StatusChip) (arriving : List (List AxpInt)) :
    ∃ final, chip.after (.probeIntPending arriving) =
        { final with
          history := .probed final.cleared
            (IntSet.mask fun kind => kind.Visible && chip.pendingAt arriving kind.index kind) ::
              final.history } ∧
      ∀ kind, Called chip arriving final kind := by
  refine ⟨_, ?_, chip.called_final arriving⟩
  have reported : ∀ kind : AxpInt, (settle^[kind.index + 1] (chip.called arriving)).pending kind =
      chip.pendingAt arriving kind.index kind :=
    fun kind => (noted_iterate_settle kind _ _).pending
  simp only [← reported]
  simp only [after, exec_probeIntPending]

/-! ### Every run of events and calls -/

theorem unreported_probed (kind : AxpInt) (cleared shown : IntSet) (earlier : List Observed) :
    unreported kind (.probed cleared shown.mask :: earlier) =
      (!shown kind && unreported kind earlier) :=
  congrArg (fun inMask => !inMask && unreported kind earlier) (shown.in_mask kind)

theorem noneLost_occurs {chip : StatusChip} (noneLost : chip.NoneLost) (kind : AxpInt) :
    (chip.occurs kind).NoneLost := by
  refine ⟨fun other since => ?_, fun cleared intMask member => ?_⟩
  · rw [unreported_occurs, Bool.or_eq_true] at since
    rw [pending_occurs, Bool.or_eq_true]
    exact since.imp_left (noneLost.pending other)
  · refine noneLost.reported cleared intMask ((List.mem_cons.mp member).resolve_left ?_)
    exact Observed.noConfusion

/-- A call loses nothing exactly if what it clears is tested first and was pending at the read. -/
theorem noneLost_probeIntPending_iff {chip : StatusChip} (noneLost : chip.NoneLost)
    (arriving : List (List AxpInt)) :
    (chip.after (.probeIntPending arriving)).NoneLost ↔
      chip.Clean (.probeIntPending arriving) := by
  obtain ⟨final, next, calls⟩ := chip.after_probeIntPending arriving
  rw [next]
  constructor
  · intro after kind pending
    have told := after.reported _ _ List.mem_cons_self kind ((calls kind).cleared.trans pending)
    rw [IntSet.in_mask] at told
    exact Bool.and_eq_true_iff.mp told
  · intro clean
    refine ⟨fun kind since => ?_, fun cleared intMask member kind was => ?_⟩
    · have call := calls kind
      refine call.pending.trans ?_
      rw [unreported_probed, call.unreported, Bool.and_eq_true, Bool.not_eq_true'] at since
      by_cases found : chip.pendingAt arriving (kind.index + 5) kind = true
      · obtain ⟨visible, read⟩ := clean kind found
        rw [visible, read] at since
        exact absurd since.1 (by decide)
      · obtain ⟨notPending, none⟩ := Bool.or_eq_false_iff.mp (Bool.eq_false_iff.mpr found)
        have reported : unreported kind chip.history = false :=
          Bool.eq_false_iff.mpr fun since =>
            Bool.eq_false_iff.mp notPending (noneLost.pending kind since)
        have arrived := since.2
        rw [reported, Bool.false_or, ← arrives_take_or_drop arriving (kind.index + 6), none,
          Bool.false_or] at arrived
        exact arrived
    · rcases List.mem_cons.mp member with same | earlier
      · obtain ⟨rfl, rfl⟩ := Observed.probed.inj same
        rw [IntSet.in_mask, Bool.and_eq_true]
        exact clean kind ((calls kind).cleared.symm.trans was)
      · exact noneLost.reported cleared intMask
          (((calls kind).probed cleared intMask).mp earlier) kind was

/-- What a step makes of the chip loses nothing exactly if it is clean. -/
theorem noneLost_after_iff {chip : StatusChip} (noneLost : chip.NoneLost) (input : StatusInput) :
    (chip.after input).NoneLost ↔ chip.Clean input := by
  cases input with
  | occurs kind => exact iff_of_true (noneLost_occurs noneLost kind) trivial
  | probeIntPending arriving => exact noneLost_probeIntPending_iff noneLost arriving

theorem noneLost_initially (registers : Registers) : (initially registers).NoneLost := by
  have occurred : ∀ (kind : AxpInt) (kinds : List AxpInt),
      unreported kind (kinds.map .occurred) = decide (kind ∈ kinds) := by
    intro kind kinds
    induction kinds with
    | nil => rfl
    | cons other rest inductionHypothesis =>
      rw [List.map_cons]
      refine (congrArg (decide (kind = other) || ·) inductionHypothesis).trans ?_
      simp
  refine ⟨fun kind since => ?_, fun cleared intMask member => ?_⟩
  · exact (List.mem_filter.mp (of_decide_eq_true ((occurred kind _).symm.trans since))).2
  · obtain ⟨kind, -, same⟩ := List.mem_map.mp member
    exact Observed.noConfusion same

/-- No event is lost in a run exactly if every call of it is clean. -/
theorem no_event_lost_iff (registers : Registers) (inputs : List StatusInput) :
    (∀ seen, seen <+: inputs → (run after (initially registers) seen).NoneLost) ↔
      Along after Clean (initially registers) inputs :=
  throughout_iff NoneLost (fun _ input noneLost => noneLost_after_iff noneLost input)
    (noneLost_initially registers) inputs

/-- The charger is taken away and the bus is found, and then both are cleared by one call. -/
def lostInputs : List StatusInput := [.occurs .acRemove, .occurs .vbusInsert, .probeIntPending []]

/-- The bus is neither pending nor reported. -/
theorem event_lost :
    ¬∀ registers inputs seen, seen <+: inputs →
      (run after (initially registers) seen).NoneLost := by
  intro noneLost
  have pending := (noneLost (fun _ => 0) lostInputs lostInputs List.prefix_rfl).pending .vbusInsert
  exact absurd (pending (by decide)) (by decide)

end StatusChip

end PinePhonePkg
