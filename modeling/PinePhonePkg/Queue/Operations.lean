/-
This file models the queue library. A queue has two pools: one of pointers to
its slots and one of the slots themselves. The sizes of the pools are products
of machine words, and an access outside them has no result. Neither has a call
that an assertion stops, nor a division by zero.
-/

import PinePhonePkg.Library.Fifo
import PinePhonePkg.Mmc.Types

namespace PinePhonePkg

open Library

/-- `QUEUE` -/
structure Queue : Type where
  buffer : Nat → Ulong
  head : Ulong
  tail : Ulong
  maxItermCount : Ulong
  itemSize : Ulong

/-- A queue with the size of the pool of its pointers, the pool of its slots and the memory -/
structure QueueState : Type where
  queue : Queue
  pointersBytes : Nat
  items : Ulong
  itemsBytes : Nat
  memory : Buffer

/-! ### The start -/

/-- The loop that sets the pointers from `index` on, `left` of them. -/
def fillPointers (pointersBytes : Nat) (itemSize : Ulong) :
    Nat → Nat → (Nat → Ulong) → Option (Nat → Ulong)
  | _, 0, buffer => some buffer
  | index, left + 1, buffer =>
    if 8 * index + 8 ≤ pointersBytes then
      fillPointers pointersBytes itemSize (index + 1) left
        (Function.update buffer index (buffer (index - 1) + itemSize))
    else none

/-- The pools are as large as what is asked for, and `items` is where the second one is. The first
pool holds anything at first. -/
def initQueue (maxItermCount itemSize items : Ulong) (pointers : Nat → Ulong) (memory : Buffer) :
    Option QueueState :=
  let pointersBytes := ((maxItermCount + 1) * 8).toNat
  if 8 ≤ pointersBytes then
    (fillPointers pointersBytes itemSize 1 ((maxItermCount + 1).toNat - 1)
      (Function.update pointers 0 items)).map fun buffer => {
        queue := {
          buffer := buffer
          head := 0
          tail := 0
          maxItermCount := maxItermCount
          itemSize := itemSize }
        pointersBytes := pointersBytes
        items := items
        itemsBytes := ((maxItermCount + 1) * itemSize).toNat
        memory := memory }
  else none

/-! ### The calls -/

namespace Queue

variable (queue : Queue)

/-- There is no item in the queue. -/
def isQueueEmpty : Bool := queue.head == queue.tail

/-- There is no room in the queue; a queue whose count overflows divides by zero. -/
def isQueueFull : Option Bool :=
  if queue.maxItermCount + 1 = 0 then none
  else some ((queue.tail + 1) % (queue.maxItermCount + 1) == queue.head)

end Queue

namespace QueueState

variable (state : QueueState)

/-- The place of an item, read through its pointer -/
def slot (index : Ulong) : Option Nat :=
  let address := state.queue.buffer index.toNat
  if 8 * index.toNat + 8 ≤ state.pointersBytes ∧ state.items ≤ address ∧
      address.toNat + state.queue.itemSize.toNat ≤ state.items.toNat + state.itemsBytes then
    some address.toNat
  else none

/-- The item is copied to a slot, and the second cursor moves on. -/
def pushed (address : Nat) (item : Buffer) (itemSize : Ulong) : QueueState := { state with
  memory := Memory.overwrite state.memory address itemSize.toNat item
  queue := { state.queue with
    tail := (state.queue.tail + 1) % (state.queue.maxItermCount + 1) } }

/-- The first cursor moves on. -/
def popped : QueueState := { state with
  queue := { state.queue with
    head := (state.queue.head + 1) % (state.queue.maxItermCount + 1) } }

/-- Whether the item was taken, and the state after. -/
def enqueue (item : Buffer) (itemSize : Ulong) : Option (Bool × QueueState) :=
  if itemSize ≠ state.queue.itemSize then none
  else do
    if ← state.queue.isQueueFull then return (false, state)
    let address ← state.slot state.queue.tail
    return (true, state.pushed address item itemSize)

/-- The item, if there is one, and the state after. -/
def dequeue (itemSize : Ulong) : Option (Option Buffer × QueueState) :=
  if state.queue.itemSize ≠ itemSize then none
  else if state.queue.isQueueEmpty then some (none, state)
  else do
    let address ← state.slot state.queue.head
    return (some (Memory.drop state.memory address), state.popped)

end QueueState

/-! ### Sequences of calls -/

/-- The bytes of an item -/
def itemBytes (itemSize : Ulong) (item : Buffer) : List U8 :=
  (List.range itemSize.toNat).map item

namespace QueueState

variable (state : QueueState)

/-- A call with items of the size that the queue was made for. -/
def call : Fifo.Call Buffer → Option (Fifo.Reply (List U8) × QueueState)
  | .enqueue item =>
    (state.enqueue item state.queue.itemSize).map fun (taken, next) =>
      (if taken then .done else .refused, next)
  | .dequeue =>
    (state.dequeue state.queue.itemSize).map fun (item, next) =>
      (match item with
        | some item => .item (itemBytes state.queue.itemSize item)
        | none => .refused, next)
  | .isEmpty => some (.truth state.queue.isQueueEmpty, state)
  | .isFull => state.queue.isQueueFull.map fun full => (.truth full, state)

/-- The replies to some calls, and the state after them. -/
def calls : List (Fifo.Call Buffer) → QueueState →
    Option (List (Fifo.Reply (List U8)) × QueueState)
  | [], state => some ([], state)
  | call :: rest, state => do
    let (reply, next) ← state.call call
    let (replies, last) ← calls rest next
    return (reply :: replies, last)

/-- The items in the slots, from the one of `Head` to the one of `Tail` -/
def contents : List (List U8) :=
  Ring.contents (state.queue.maxItermCount.toNat + 1)
    (fun index => itemBytes state.queue.itemSize
      (Memory.drop state.memory (state.queue.buffer index).toNat))
    state.queue.head.toNat state.queue.tail.toNat

end QueueState

end PinePhonePkg
