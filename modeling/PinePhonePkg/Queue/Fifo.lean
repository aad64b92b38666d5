/-
This file shows that a queue is a bounded queue exactly when the sizes of its
pools can be computed. Then the slots stand one behind the other in their pool,
and each call does to the list in the ring what the abstract call does. When a
product wraps, a pool is too small: the pointers do not fit, or the slots do not,
and going around the ring once reaches a slot outside the pool.
-/

import PinePhonePkg.Library.Words
import PinePhonePkg.Queue.Operations

namespace PinePhonePkg

open Library

/-! ### The start -/

/-- The pointers fit exactly if the last one does. -/
theorem fillPointers_isSome (pointersBytes : Nat) (itemSize : Ulong) (index left : Nat)
    (buffer : Nat → Ulong) :
    (fillPointers pointersBytes itemSize index left buffer).isSome ↔
      left = 0 ∨ 8 * (index + left) ≤ pointersBytes := by
  induction left generalizing index buffer with
  | zero => simp [fillPointers]
  | succ left inductionHypothesis =>
    unfold fillPointers
    split
    · rw [inductionHypothesis]
      omega
    · simp
      omega

/-- Each pointer that is set is one item behind the pointer before it. -/
theorem fillPointers_get {pointersBytes : Nat} {itemSize : Ulong} {index left : Nat}
    {buffer result : Nat → Ulong} (positive : 0 < index)
    (filled : fillPointers pointersBytes itemSize index left buffer = some result) :
    (∀ slot < index, result slot = buffer slot) ∧
      ∀ slot, index ≤ slot → slot < index + left → result slot = result (slot - 1) + itemSize := by
  induction left generalizing index buffer with
  | zero =>
    obtain rfl : buffer = result := by simpa [fillPointers] using filled
    exact ⟨fun _ _ => rfl, fun slot after before => absurd before (Nat.not_lt_of_ge after)⟩
  | succ left inductionHypothesis =>
    unfold fillPointers at filled
    split at filled
    · obtain ⟨kept, set⟩ := inductionHypothesis (Nat.succ_pos index) filled
      refine ⟨fun slot before => ?_, fun slot after before => ?_⟩
      · rw [kept slot (Nat.lt_succ_of_lt before), Function.update_of_ne (Nat.ne_of_lt before)]
      · rcases Nat.eq_or_lt_of_le after with rfl | later
        · rw [kept index (Nat.lt_succ_self index), kept (index - 1) (by omega),
            Function.update_self, Function.update_of_ne (by omega)]
        · exact set slot later (by omega)
    · cases filled

theorem toNat_add_one (word : Ulong) : (word + 1).toNat = (word.toNat + 1) % 2 ^ 64 :=
  BitVec.toNat_add word 1

/-- The next place of a cursor -/
theorem toNat_next_cursor {maxItermCount cursor : Ulong}
    (fits : (maxItermCount.toNat + 1) * 8 < 2 ^ 64)
    (inside : cursor.toNat < maxItermCount.toNat + 1) :
    ((cursor + 1) % (maxItermCount + 1)).toNat =
      Ring.place (maxItermCount.toNat + 1) cursor.toNat 1 := by
  have slots : (maxItermCount + 1).toNat = maxItermCount.toNat + 1 := by
    rw [toNat_add_one]
    omega
  have more : (cursor + 1).toNat = cursor.toNat + 1 := by
    rw [toNat_add_one]
    omega
  rw [BitVec.toNat_umod, slots, more, Ring.place_one_eq_mod inside]

theorem add_one_ne_zero {maxItermCount : Ulong} (fits : (maxItermCount.toNat + 1) * 8 < 2 ^ 64) :
    maxItermCount + 1 ≠ 0 := by
  intro zero
  have slots := toNat_add_one maxItermCount
  rw [zero] at slots
  simp at slots
  omega

/-- A queue as it was made: its pointers fit, and point to one slot after the other. -/
structure Made (maxItermCount itemSize items : Ulong) (memory : Buffer) (state : QueueState) :
    Prop where
  fits : (maxItermCount.toNat + 1) * 8 < 2 ^ 64
  first : state.queue.buffer 0 = items
  next : ∀ slot < maxItermCount.toNat,
    state.queue.buffer (slot + 1) = state.queue.buffer slot + itemSize
  rest : state = {
    queue := {
      buffer := state.queue.buffer
      head := 0
      tail := 0
      maxItermCount := maxItermCount
      itemSize := itemSize }
    pointersBytes := (maxItermCount.toNat + 1) * 8
    items := items
    itemsBytes := (maxItermCount.toNat + 1) * itemSize.toNat % 2 ^ 64
    memory := memory }

section Start

variable {maxItermCount itemSize items : Ulong} {pointers : Nat → Ulong} {memory : Buffer}

theorem initQueue_made {state : QueueState}
    (started : initQueue maxItermCount itemSize items pointers memory = some state) :
    Made maxItermCount itemSize items memory state := by
  unfold initQueue at started
  simp only at started
  split at started
  case isFalse => cases started
  case isTrue some =>
    obtain ⟨buffer, filled, rfl⟩ := Option.map_eq_some_iff.mp started
    have slots : (maxItermCount + 1).toNat = (maxItermCount.toNat + 1) % 2 ^ 64 :=
      toNat_add_one maxItermCount
    have bytes : ((maxItermCount + 1) * 8).toNat = (maxItermCount + 1).toNat * 8 % 2 ^ 64 :=
      BitVec.toNat_mul _ _
    have bound := maxItermCount.isLt
    have last := (fillPointers_isSome _ _ _ _ _).mp (Option.isSome_of_eq_some filled)
    have fits : (maxItermCount.toNat + 1) * 8 < 2 ^ 64 := by omega
    obtain ⟨kept, set⟩ := fillPointers_get Nat.one_pos filled
    refine ⟨fits, ?_, fun slot before => ?_, ?_⟩
    · exact kept 0 Nat.one_pos
    · exact set (slot + 1) (Nat.succ_pos slot) (by omega)
    · congr 1
      · omega
      · rw [BitVec.toNat_mul, slots, Nat.mod_mul_mod]

/-- A queue whose pointers fit is made. -/
theorem initQueue_isSome (fits : (maxItermCount.toNat + 1) * 8 < 2 ^ 64) :
    (initQueue maxItermCount itemSize items pointers memory).isSome := by
  have slots : (maxItermCount + 1).toNat = maxItermCount.toNat + 1 := by
    rw [toNat_add_one]
    omega
  have bytes : ((maxItermCount + 1) * 8).toNat = (maxItermCount.toNat + 1) * 8 := by
    rw [BitVec.toNat_mul, slots]
    exact Nat.mod_eq_of_lt fits
  unfold initQueue
  simp only
  rw [if_pos (by omega), Option.isSome_map, fillPointers_isSome]
  omega

end Start

/-! ### One call -/

/-- The slots of the queue stand one behind the other in their pool, and the cursors are in it. -/
structure Placed (maxItermCount itemSize items : Ulong) (state : QueueState) : Prop where
  count : state.queue.maxItermCount = maxItermCount
  size : state.queue.itemSize = itemSize
  base : state.items = items
  pointers : state.pointersBytes = (maxItermCount.toNat + 1) * 8
  bytes : state.itemsBytes = (maxItermCount.toNat + 1) * itemSize.toNat
  fits : (maxItermCount.toNat + 1) * 8 < 2 ^ 64
  room : items.toNat + (maxItermCount.toNat + 1) * itemSize.toNat ≤ 2 ^ 64
  address : ∀ slot < maxItermCount.toNat + 1,
    (state.queue.buffer slot).toNat = items.toNat + slot * itemSize.toNat
  head : state.queue.head.toNat < maxItermCount.toNat + 1
  tail : state.queue.tail.toNat < maxItermCount.toNat + 1

section Places

variable {maxItermCount itemSize items : Ulong} {memory : Buffer} {state : QueueState}

theorem Made.placed (made : Made maxItermCount itemSize items memory state)
    (small : (maxItermCount.toNat + 1) * itemSize.toNat < 2 ^ 64)
    (room : items.toNat + (maxItermCount.toNat + 1) * itemSize.toNat ≤ 2 ^ 64) :
    Placed maxItermCount itemSize items state := by
  have address : ∀ slot < maxItermCount.toNat + 1,
      (state.queue.buffer slot).toNat = items.toNat + slot * itemSize.toNat := by
    intro slot before
    induction slot with
    | zero => rw [made.first, Nat.zero_mul, Nat.add_zero]
    | succ slot inductionHypothesis =>
      have inside : items.toNat + (slot + 1) * itemSize.toNat < 2 ^ 64 := by
        rcases Nat.eq_zero_or_pos itemSize.toNat with none | positive
        · rw [none, Nat.mul_zero]
          exact items.isLt
        · have less := Nat.mul_lt_mul_of_pos_right before positive
          omega
      rw [made.next slot (Nat.lt_of_succ_lt_succ before), BitVec.toNat_add,
        inductionHypothesis (Nat.lt_of_succ_lt before), Nat.add_assoc, ← Nat.succ_mul,
        Nat.mod_eq_of_lt inside]
  have bytes : state.itemsBytes = (maxItermCount.toNat + 1) * itemSize.toNat := by
    rw [made.rest]
    exact Nat.mod_eq_of_lt small
  have cursors : state.queue.head = 0 ∧ state.queue.tail = 0 := by
    rw [made.rest]
    exact ⟨rfl, rfl⟩
  exact {
    count := by rw [made.rest]
    size := by rw [made.rest]
    base := by rw [made.rest]
    pointers := by rw [made.rest]
    bytes := bytes
    fits := made.fits
    room := room
    address := address
    head := by rw [cursors.1]; exact Nat.succ_pos _
    tail := by rw [cursors.2]; exact Nat.succ_pos _ }

namespace Placed

variable (placed : Placed maxItermCount itemSize items state)
include placed

theorem slot_eq {index : Ulong} (inside : index.toNat < maxItermCount.toNat + 1) :
    state.slot index = some (items.toNat + index.toNat * itemSize.toNat) := by
  have address := placed.address index.toNat inside
  have upper : index.toNat * itemSize.toNat + itemSize.toNat ≤
      (maxItermCount.toNat + 1) * itemSize.toNat := by
    rw [← Nat.succ_mul]
    exact Nat.mul_le_mul_right _ inside
  have within : 8 * index.toNat + 8 ≤ state.pointersBytes ∧
      state.items ≤ state.queue.buffer index.toNat ∧
      (state.queue.buffer index.toNat).toNat + state.queue.itemSize.toNat ≤
        state.items.toNat + state.itemsBytes := by
    rw [placed.pointers, placed.base, placed.bytes, placed.size, BitVec.le_def, address]
    omega
  unfold QueueState.slot
  simp only
  rw [if_pos within, address]

theorem contents_eq :
    state.contents = Ring.contents (maxItermCount.toNat + 1)
      (fun slot => itemBytes itemSize
        (Memory.drop state.memory (items.toNat + slot * itemSize.toNat)))
      state.queue.head.toNat state.queue.tail.toNat := by
  unfold QueueState.contents
  rw [placed.count, placed.size]
  refine Ring.contents_congr placed.head placed.tail fun slot inside => ?_
  rw [placed.address slot inside]

theorem length_contents :
    state.contents.length =
      Ring.held (maxItermCount.toNat + 1) state.queue.head.toNat state.queue.tail.toNat := by
  rw [placed.contents_eq, Ring.length_contents]

theorem isQueueEmpty_eq : state.queue.isQueueEmpty = state.contents.isEmpty := by
  have same := Ring.contents_eq_nil_iff placed.head state.queue.tail.toNat
    fun slot => itemBytes itemSize
      (Memory.drop state.memory (items.toNat + slot * itemSize.toNat))
  rw [← placed.contents_eq] at same
  rw [Bool.eq_iff_iff, List.isEmpty_iff, same, Queue.isQueueEmpty, beq_iff_eq, BitVec.toNat_inj]

theorem isQueueFull_eq :
    state.queue.isQueueFull = some (state.contents.length == maxItermCount.toNat) := by
  have full := Ring.held_eq_iff placed.head placed.tail
  unfold Queue.isQueueFull
  rw [placed.count, if_neg (add_one_ne_zero placed.fits), placed.length_contents]
  congr 1
  rw [Bool.eq_iff_iff, beq_iff_eq, beq_iff_eq, ← BitVec.toNat_inj,
    toNat_next_cursor placed.fits placed.tail]
  exact full.symm

/-! ### What each call does to the list -/

theorem pushed (item : Buffer) (address : Nat) :
    Placed maxItermCount itemSize items (state.pushed address item itemSize) where
  count := placed.count
  size := placed.size
  base := placed.base
  pointers := placed.pointers
  bytes := placed.bytes
  fits := placed.fits
  room := placed.room
  address := placed.address
  head := placed.head
  tail := by
    rw [QueueState.pushed, placed.count, toNat_next_cursor placed.fits placed.tail]
    exact Ring.place_one_lt placed.tail

theorem popped : Placed maxItermCount itemSize items state.popped where
  count := placed.count
  size := placed.size
  base := placed.base
  pointers := placed.pointers
  bytes := placed.bytes
  fits := placed.fits
  room := placed.room
  address := placed.address
  head := by
    rw [QueueState.popped, placed.count, toNat_next_cursor placed.fits placed.head]
    exact Ring.place_one_lt placed.head
  tail := placed.tail

omit placed in
/-- A slot is written, and the others stay as they are. -/
theorem itemBytes_overwrite (base : Nat) (memory item : Buffer) (slot written : Nat) :
    itemBytes itemSize (Memory.drop
        (Memory.overwrite memory (base + written * itemSize.toNat) itemSize.toNat item)
        (base + slot * itemSize.toNat)) =
      Function.update (fun slot => itemBytes itemSize
        (Memory.drop memory (base + slot * itemSize.toNat))) written
        (itemBytes itemSize item) slot := by
  by_cases same : slot = written
  · subst same
    rw [Function.update_self]
    refine List.map_congr_left fun index member => ?_
    exact Memory.overwrite_inside _ _ _ _ index (List.mem_range.mp member)
  · rw [Function.update_of_ne same]
    refine List.map_congr_left fun index member => ?_
    have inside := List.mem_range.mp member
    refine Memory.overwrite_outside _ _ _ _ _ ?_
    rcases Nat.lt_or_gt_of_ne same with below | above
    · have upper := Nat.mul_le_mul_right itemSize.toNat (Nat.succ_le_of_lt below)
      rw [Nat.succ_mul] at upper
      omega
    · have lower := Nat.mul_le_mul_right itemSize.toNat (Nat.succ_le_of_lt above)
      rw [Nat.succ_mul] at lower
      omega

/-- An item that is put into its slot comes behind the others. -/
theorem contents_pushed (item : Buffer) (room : state.contents.length ≠ maxItermCount.toNat) :
    (state.pushed (items.toNat + state.queue.tail.toNat * itemSize.toNat) item
        itemSize).contents = state.contents ++ [itemBytes itemSize item] := by
  have free : Ring.place (maxItermCount.toNat + 1) state.queue.tail.toNat 1 ≠
      state.queue.head.toNat := by
    rw [placed.length_contents] at room
    exact fun full => room ((Ring.held_eq_iff placed.head placed.tail).mpr full)
  have tail : (state.pushed (items.toNat + state.queue.tail.toNat * itemSize.toNat) item
      itemSize).queue.tail.toNat =
      Ring.place (maxItermCount.toNat + 1) state.queue.tail.toNat 1 := by
    rw [QueueState.pushed, placed.count, toNat_next_cursor placed.fits placed.tail]
  rw [(placed.pushed item _).contents_eq, tail, placed.contents_eq,
    ← Ring.contents_push placed.head placed.tail _ _ free]
  refine congrArg (fun slots => Ring.contents _ slots _ _) (funext fun slot => ?_)
  exact itemBytes_overwrite items.toNat state.memory item slot state.queue.tail.toNat

/-- The item of the first slot is the oldest. -/
theorem contents_popped (some : state.queue.head ≠ state.queue.tail) :
    state.contents = itemBytes itemSize (Memory.drop state.memory
        (items.toNat + state.queue.head.toNat * itemSize.toNat)) :: state.popped.contents := by
  have apart : state.queue.head.toNat ≠ state.queue.tail.toNat :=
    fun same => some (BitVec.eq_of_toNat_eq same)
  have head : state.popped.queue.head.toNat =
      Ring.place (maxItermCount.toNat + 1) state.queue.head.toNat 1 := by
    rw [QueueState.popped, placed.count, toNat_next_cursor placed.fits placed.head]
  rw [placed.popped.contents_eq, head, placed.contents_eq,
    Ring.contents_pop placed.head placed.tail _ apart]
  rfl

theorem enqueue_eq (item : Buffer) :
    state.enqueue item itemSize =
      if state.contents.length = maxItermCount.toNat then some (false, state)
      else some (true, state.pushed
        (items.toNat + state.queue.tail.toNat * itemSize.toNat) item itemSize) := by
  unfold QueueState.enqueue
  rw [placed.size, if_neg (not_not.mpr rfl), placed.isQueueFull_eq]
  by_cases full : state.contents.length = maxItermCount.toNat
  · simp [full]
  · simp [full, placed.slot_eq placed.tail]

theorem dequeue_eq :
    state.dequeue itemSize =
      if state.queue.head = state.queue.tail then some (none, state)
      else some (some (Memory.drop state.memory
        (items.toNat + state.queue.head.toNat * itemSize.toNat)), state.popped) := by
  unfold QueueState.dequeue
  rw [placed.size, if_neg (not_not.mpr rfl), Queue.isQueueEmpty]
  by_cases none : state.queue.head = state.queue.tail
  · simp [none]
  · simp [none, placed.slot_eq placed.head]

/-- A call replies as the abstract call does, and does the same to the list. -/
theorem call_eq (call : Fifo.Call Buffer) :
    ∃ next, state.call call = some ((Fifo.step maxItermCount.toNat state.contents
        (call.map (itemBytes itemSize))).1, next) ∧
      next.contents = (Fifo.step maxItermCount.toNat state.contents
        (call.map (itemBytes itemSize))).2 ∧
      Placed maxItermCount itemSize items next ∧
      ((Fifo.step maxItermCount.toNat state.contents
        (call.map (itemBytes itemSize))).1 = .refused → next = state) := by
  cases call with
  | enqueue item =>
    simp only [QueueState.call, placed.size, placed.enqueue_eq item, Fifo.Call.map, Fifo.step]
    by_cases full : state.contents.length = maxItermCount.toNat
    · refine ⟨state, ?_⟩
      simp [full, placed]
    · refine ⟨_, by simp only [full, if_false]; rfl, ?_⟩
      simp [full, placed.contents_pushed item full, placed.pushed item]
  | dequeue =>
    simp only [QueueState.call, placed.size, placed.dequeue_eq, Fifo.Call.map, Fifo.step]
    by_cases none : state.queue.head = state.queue.tail
    · have empty : state.contents = [] := by
        rw [← List.isEmpty_iff, ← placed.isQueueEmpty_eq, Queue.isQueueEmpty, none,
          beq_self_eq_true]
      refine ⟨state, ?_⟩
      simp [none, empty, placed]
    · refine ⟨_, by rw [if_neg none, placed.contents_popped none]; rfl, ?_⟩
      rw [placed.contents_popped none]
      simp [placed.popped]
  | isEmpty =>
    refine ⟨state, ?_⟩
    simp [QueueState.call, Fifo.Call.map, Fifo.step, placed.isQueueEmpty_eq, placed]
  | isFull =>
    refine ⟨state, ?_⟩
    simp [QueueState.call, Fifo.Call.map, Fifo.step, placed.isQueueFull_eq, placed]

/-- The replies along a run are those of the bounded queue. -/
theorem calls_eq (calls : List (Fifo.Call Buffer)) :
    ∃ last, state.calls calls = some ((Fifo.run maxItermCount.toNat state.contents
        (calls.map fun call => call.map (itemBytes itemSize))).1, last) ∧
      last.contents = (Fifo.run maxItermCount.toNat state.contents
        (calls.map fun call => call.map (itemBytes itemSize))).2 ∧
      Placed maxItermCount itemSize items last := by
  induction calls generalizing state with
  | nil => exact ⟨state, rfl, rfl, placed⟩
  | cons call rest inductionHypothesis =>
    obtain ⟨next, replied, content, nextPlaced, -⟩ := placed.call_eq call
    obtain ⟨last, replies, lastContent, lastPlaced⟩ := inductionHypothesis nextPlaced
    rw [content] at replies lastContent
    refine ⟨last, ?_, lastContent, lastPlaced⟩
    simp [QueueState.calls, replied, replies, Fifo.run]

end Placed

end Places

/-! ### Around the ring -/

/-- An item is put into the queue and taken out again. -/
def through : List (Fifo.Call Buffer) :=
  [.enqueue fun _ => 0, .dequeue]

/-- One item after the other goes through the queue. -/
def laps : Nat → List (Fifo.Call Buffer)
  | 0 => []
  | count + 1 => laps count ++ through

theorem calls_append (first second : List (Fifo.Call Buffer)) (state : QueueState) :
    state.calls (first ++ second) = (state.calls first).bind fun (replies, next) =>
      (next.calls second).map fun (more, last) => (replies ++ more, last) := by
  induction first generalizing state with
  | nil => simp [QueueState.calls]
  | cons call rest inductionHypothesis =>
    simp only [List.cons_append, QueueState.calls, inductionHypothesis]
    cases state.call call with
    | none => rfl
    | some result =>
      cases earlier : result.2.calls rest with
      | none => simp [earlier]
      | some middle => cases later : middle.2.calls second <;> simp [earlier, later]

/-- The queue with both cursors at one slot -/
def QueueState.turned (start : QueueState) (cursor : Ulong) (memory : Buffer) : QueueState :=
  { start with queue := { start.queue with head := cursor, tail := cursor }, memory := memory }

section Laps

variable {maxItermCount itemSize items : Ulong} {memory : Buffer} {start : QueueState}
  (made : Made maxItermCount itemSize items memory start)
include made

/-- When one item goes through the queue, its slot is in the pool. -/
theorem Made.lap (several : 0 < maxItermCount.toNat) {cursor : Ulong}
    (inside : cursor.toNat < maxItermCount.toNat + 1) (before : Buffer)
    (served : ((start.turned cursor before).calls through).isSome) :
    (start.slot cursor).isSome ∧ ∃ replies after,
      (start.turned cursor before).calls through =
        some (replies, start.turned ((cursor + 1) % (maxItermCount + 1)) after) := by
  have count : start.queue.maxItermCount = maxItermCount := by rw [made.rest]
  have moved : (cursor + 1) % (maxItermCount + 1) ≠ cursor := by
    intro same
    have place := toNat_next_cursor made.fits inside
    rw [same, Ring.place] at place
    split at place <;> omega
  have room : (start.turned cursor before).queue.isQueueFull = some false := by
    unfold Queue.isQueueFull QueueState.turned
    simp only [count, if_neg (add_one_ne_zero made.fits)]
    rw [beq_eq_false_iff_ne.mpr moved]
  cases slot : start.slot cursor with
  | none =>
    have stuck : (start.turned cursor before).slot (start.turned cursor before).queue.tail =
        none := slot
    simp [through, QueueState.calls, QueueState.call, QueueState.enqueue, room, stuck] at served
  | some address =>
    have place : (start.turned cursor before).slot (start.turned cursor before).queue.tail =
        some address := slot
    have taken : (start.turned cursor before).enqueue (fun _ => 0) start.queue.itemSize =
        some (true, (start.turned cursor before).pushed address (fun _ => 0)
          start.queue.itemSize) := by
      unfold QueueState.enqueue
      rw [if_neg (by exact not_not.mpr rfl), room, place]
      rfl
    obtain ⟨one, isOne⟩ : ∃ one, one = (start.turned cursor before).pushed address (fun _ => 0)
        start.queue.itemSize := ⟨_, rfl⟩
    have moves : one.queue.head = cursor ∧
        one.queue.tail = (cursor + 1) % (maxItermCount + 1) := by
      rw [isOne, ← count]
      exact ⟨rfl, rfl⟩
    have back : one.slot one.queue.head = some address := by
      rw [isOne]
      exact slot
    have given : one.dequeue start.queue.itemSize =
        some (some (Memory.drop one.memory address), one.popped) := by
      have size : one.queue.itemSize = start.queue.itemSize := by rw [isOne]; rfl
      have holds : one.queue.isQueueEmpty = false := by
        rw [Queue.isQueueEmpty, moves.1, moves.2, beq_eq_false_iff_ne]
        exact Ne.symm moved
      unfold QueueState.dequeue
      rw [size, if_neg (not_not.mpr rfl), holds, back]
      rfl
    have popped : one.popped = start.turned ((cursor + 1) % (maxItermCount + 1)) one.memory := by
      rw [QueueState.popped, moves.1, isOne, ← count]
      rfl
    have first : (start.turned cursor before).call (.enqueue fun _ => 0) = some (.done, one) := by
      rw [isOne]
      exact congrArg (Option.map _) taken
    have second : one.call .dequeue = some (.item (itemBytes start.queue.itemSize
        (Memory.drop one.memory address)), one.popped) := by
      have size : one.queue.itemSize = start.queue.itemSize := by rw [isOne]; rfl
      rw [QueueState.call, size, given]
      rfl
    refine ⟨rfl, [.done, .item (itemBytes start.queue.itemSize
      (Memory.drop one.memory address))], one.memory, ?_⟩
    rw [← popped]
    simp only [through, QueueState.calls, first, second, Option.bind_eq_bind, Option.bind_some]
    rfl

section Served

variable (several : 0 < maxItermCount.toNat) (served : ∀ calls, (start.calls calls).isSome)
include several served

/-- When every sequence of calls is replied to, the ring can be gone around once. -/
theorem Made.around {slot : Nat} (inside : slot ≤ maxItermCount.toNat) :
    ∃ replies after, start.calls (laps slot) =
        some (replies, start.turned (BitVec.ofNat 64 slot) after) ∧
      ((start.turned (BitVec.ofNat 64 slot) after).calls through).isSome := by
  induction slot with
  | zero =>
    have still : start.turned 0 start.memory = start := by
      rw [QueueState.turned, made.rest]
    refine ⟨[], start.memory, ?_, ?_⟩
    · exact congrArg (fun state => some ([], state)) still.symm
    · have same : start.turned (BitVec.ofNat 64 0) start.memory = start := still
      rw [same]
      exact served _
  | succ slot inductionHypothesis =>
    obtain ⟨replies, after, turned, lap⟩ := inductionHypothesis (Nat.le_of_succ_le inside)
    have bound := maxItermCount.isLt
    have value : (BitVec.ofNat 64 slot).toNat = slot := by
      rw [BitVec.toNat_ofNat]
      omega
    have before : (BitVec.ofNat 64 slot).toNat < maxItermCount.toNat + 1 := by omega
    have moved : (BitVec.ofNat 64 slot + 1) % (maxItermCount + 1) =
        BitVec.ofNat 64 (slot + 1) := by
      refine BitVec.eq_of_toNat_eq ?_
      rw [toNat_next_cursor made.fits before, value, Ring.place, if_pos (by omega),
        BitVec.toNat_ofNat]
      omega
    obtain ⟨-, more, last, lapped⟩ := made.lap several before after lap
    rw [moved] at lapped
    refine ⟨replies ++ more, last, ?_, ?_⟩
    · rw [laps, calls_append, turned]
      simp [lapped]
    · have twice := served ((laps slot ++ through) ++ through)
      rw [calls_append, calls_append, turned] at twice
      simpa [lapped] using twice

theorem Made.slot_inside {slot : Nat} (inside : slot ≤ maxItermCount.toNat) :
    items.toNat ≤ (start.queue.buffer slot).toNat ∧
      (start.queue.buffer slot).toNat + itemSize.toNat ≤
        items.toNat + (maxItermCount.toNat + 1) * itemSize.toNat % 2 ^ 64 := by
  obtain ⟨replies, after, -, lap⟩ := made.around several served inside
  have bound := maxItermCount.isLt
  have value : (BitVec.ofNat 64 slot).toNat = slot := by
    rw [BitVec.toNat_ofNat]
    omega
  obtain ⟨found, -⟩ := made.lap several (by omega) after lap
  rw [QueueState.slot, value, made.rest] at found
  simp only at found
  split at found
  case isFalse => cases found
  case isTrue within => exact ⟨BitVec.le_def.mp within.2.1, within.2.2⟩

/-- No slot is beyond the largest address, so the size of the pool was computed without a wrap. -/
theorem Made.slots_fit (positive : 0 < items.toNat) :
    (maxItermCount.toNat + 1) * itemSize.toNat < 2 ^ 64 := by
  have address : ∀ slot ≤ maxItermCount.toNat,
      (start.queue.buffer slot).toNat = items.toNat + slot * itemSize.toNat := by
    intro slot inside
    induction slot with
    | zero => rw [made.first, Nat.zero_mul, Nat.add_zero]
    | succ slot inductionHypothesis =>
      have here := inductionHypothesis (Nat.le_of_succ_le inside)
      have this := made.slot_inside several served (Nat.le_of_succ_le inside)
      have next := made.slot_inside several served inside
      rw [made.next slot inside, BitVec.toNat_add] at next ⊢
      rw [Nat.succ_mul]
      omega
  have last := made.slot_inside several served (Nat.le_refl maxItermCount.toNat)
  rw [address _ (Nat.le_refl _), Nat.add_assoc, ← Nat.succ_mul] at last
  exact Nat.lt_of_le_of_lt (Nat.le_of_add_le_add_left last.2)
    (Nat.mod_lt _ (Nat.two_pow_pos 64))

end Served

end Laps

/-! ### When it is a bounded queue -/

/-- From its start on, the calls of a queue with its slots at an address do what those of a bounded
queue do. -/
def QueueRefines (maxItermCount itemSize items : Ulong) : Prop :=
  ∀ pointers memory, ∃ start,
    initQueue maxItermCount itemSize items pointers memory = some start ∧
      ∀ calls : List (Fifo.Call Buffer), ∃ last,
        start.calls calls = some ((Fifo.run maxItermCount.toNat []
          (calls.map fun call => call.map (itemBytes itemSize))).1, last) ∧
        last.contents = (Fifo.run maxItermCount.toNat []
          (calls.map fun call => call.map (itemBytes itemSize))).2 ∧
        last.contents.length ≤ maxItermCount.toNat ∧
        ∀ call, ∃ reply next, last.call call = some (reply, next) ∧
          (reply = .refused → next = last)

section Pools

variable {maxItermCount itemSize items : Ulong}

theorem QueueRefines.fits (refines : QueueRefines maxItermCount itemSize items)
    (nonNull : items ≠ 0) :
    (maxItermCount.toNat + 1) * 8 < 2 ^ 64 ∧
      (maxItermCount.toNat + 1) * itemSize.toNat < 2 ^ 64 := by
  obtain ⟨start, started, replied⟩ := refines (fun _ => 0) (fun _ => 0)
  have made := initQueue_made started
  refine ⟨made.fits, ?_⟩
  rcases Nat.eq_zero_or_pos maxItermCount.toNat with single | several
  · rw [single, Nat.zero_add, Nat.one_mul]
    exact itemSize.isLt
  · have positive : 0 < items.toNat :=
      Nat.pos_of_ne_zero fun zero => nonNull (BitVec.eq_of_toNat_eq zero)
    refine made.slots_fit several (fun calls => ?_) positive
    obtain ⟨last, same, -⟩ := replied calls
    rw [same]
    rfl

theorem queueRefines_of_fits (fits : (maxItermCount.toNat + 1) * 8 < 2 ^ 64)
    (small : (maxItermCount.toNat + 1) * itemSize.toNat < 2 ^ 64)
    (room : items.toNat + ((maxItermCount + 1) * itemSize).toNat ≤ 2 ^ 64) :
    QueueRefines maxItermCount itemSize items := by
  intro pointers memory
  have starts : (initQueue maxItermCount itemSize items pointers memory).isSome :=
    initQueue_isSome fits
  obtain ⟨start, started⟩ := Option.isSome_iff_exists.mp starts
  have made := initQueue_made started
  have bytes : ((maxItermCount + 1) * itemSize).toNat =
      (maxItermCount.toNat + 1) * itemSize.toNat := by
    rw [BitVec.toNat_mul, toNat_add_one, Nat.mod_mul_mod, Nat.mod_eq_of_lt small]
  rw [bytes] at room
  have placed := made.placed small room
  have empty : start.contents = [] := by
    rw [placed.contents_eq, Ring.contents_eq_nil_iff placed.head, made.rest]
  refine ⟨start, started, fun calls => ?_⟩
  obtain ⟨last, replied, content, lastPlaced⟩ := placed.calls_eq calls
  rw [empty] at replied content
  refine ⟨last, replied, content, ?_, fun call => ?_⟩
  · rw [content]
    exact Fifo.run_length_le _ (Nat.zero_le _) _
  · obtain ⟨next, reply, -, -, kept⟩ := lastPlaced.call_eq call
    exact ⟨_, next, reply, kept⟩

/-- Wherever a pool of the computed size is, a queue in it is a bounded queue exactly if neither
size was too large for a machine word. -/
theorem queueRefines_iff (nonNull : items ≠ 0)
    (room : items.toNat + ((maxItermCount + 1) * itemSize).toNat ≤ 2 ^ 64) :
    QueueRefines maxItermCount itemSize items ↔
      (maxItermCount.toNat + 1) * 8 < 2 ^ 64 ∧
        (maxItermCount.toNat + 1) * itemSize.toNat < 2 ^ 64 :=
  ⟨fun refines => refines.fits nonNull, fun ⟨fits, small⟩ => queueRefines_of_fits fits small room⟩

end Pools

/-- The queue of ten numbers that the driver tests itself with -/
theorem queueRefines_ten :
    QueueRefines 10 4 0x40000000 ↔ (10 + 1) * 8 < 2 ^ 64 ∧ (10 + 1) * 4 < 2 ^ 64 :=
  queueRefines_iff (by decide) (by decide)

/-- With the largest count there is not even a first pointer. -/
theorem not_queueRefines_largest : ¬QueueRefines (BitVec.allOnes 64) 4 0x40000000 := by
  intro refines
  exact absurd (refines.fits (by decide)).1 (by decide)

end PinePhonePkg
