/-
This file models the transfer buffers of the USB function driver. They are whole pages, and
a list has the number of pages of each, as a buffer is given back without its size. As long
as the page allocator hands out no buffer twice at a time, each buffer goes back to it with
the pages it came with, and goes back once.
-/

import PinePhonePkg.Dma.BounceBuffer
import PinePhonePkg.Library.Sessions

namespace PinePhonePkg

open Library

/-! ### The list of the buffers -/

/-- `FREE_PAGE_NODE` -/
structure FreePageNode : Type where
  allocation : Ulong
  pages : Ulong
deriving DecidableEq

/-- `AddUsbBufferPagesToList`; without memory for the node an assertion stops the driver. -/
def addUsbBufferPagesToList (newNode : Bool) (allocation pages : Ulong)
    (mPageList : List FreePageNode) : Option (List FreePageNode) :=
  if newNode then some (mPageList ++ [⟨allocation, pages⟩]) else none

/-- `RemoveUsbBufferPagesFromList`: the first node of the buffer leaves the list. -/
def removeUsbBufferPagesFromList (allocation : Ulong) :
    List FreePageNode → Ulong × List FreePageNode
  | [] => (0, [])
  | node :: rest =>
    if node.allocation = allocation then (node.pages, rest)
    else
      let (pages, left) := removeUsbBufferPagesFromList allocation rest
      (pages, node :: left)

/-! ### The calls -/

/-- A call of an application; `given` is what the page allocator gives for the pages, if they are
asked for, and `newNode` says whether there is memory for a node. -/
inductive BufferCall : Type where
  | allocate (size given : Ulong) (newNode : Bool)
  | free (buffer : Ulong)
deriving DecidableEq

/-- The status of a call, and the pages that were asked of the page allocator or went back to it; or
the call does not come back. -/
inductive BufferReply : Type where
  | invalid
  | asserted (pages : Ulong)
  | allocated (status pages : Ulong)
  | freed (pages : Ulong)
deriving DecidableEq

/-- `AllocateTransferBuffer`: a node is added even if there were no pages. -/
def allocateTransferBuffer (size given : Ulong) (newNode : Bool) (mPageList : List FreePageNode) :
    BufferReply × List FreePageNode :=
  if size = 0 then (.invalid, mPageList)
  else
    match addUsbBufferPagesToList newNode given (efiSizeToPages size) mPageList with
    | none => (.asserted (efiSizeToPages size), mPageList)
    | some mPageList =>
      (.allocated (if given = 0 then efiOutOfResources else efiSuccess) (efiSizeToPages size),
        mPageList)

/-- `FreeTransferBuffer` -/
def freeTransferBuffer (buffer : Ulong) (mPageList : List FreePageNode) :
    BufferReply × List FreePageNode :=
  if buffer = 0 then (.invalid, mPageList)
  else
    let (pages, left) := removeUsbBufferPagesFromList buffer mPageList
    (.freed pages, left)

/-- A call with its reply and the list it leaves -/
def bufferStep (mPageList : List FreePageNode) : BufferCall → BufferReply × List FreePageNode
  | .allocate size given newNode => allocateTransferBuffer size given newNode mPageList
  | .free buffer => freeTransferBuffer buffer mPageList

/-! ### The buffers that are out -/

/-- The pages of each buffer that is out, no more than it takes (`efiSizeToPages_covers`) -/
abbrev Held : Type := Ulong → Option Ulong

/-- A buffer is out from when it was allocated until it is given back. -/
def heldStep (held : Held) : BufferCall → BufferReply × Held
  | .allocate size given newNode =>
    if size = 0 then (.invalid, held)
    else if newNode = false then (.asserted (efiSizeToPages size), held)
    else if given = 0 then (.allocated efiOutOfResources (efiSizeToPages size), held)
    else (.allocated efiSuccess (efiSizeToPages size),
      Function.update held given (some (efiSizeToPages size)))
  | .free buffer =>
    if buffer = 0 then (.invalid, held)
    else (.freed ((held buffer).getD 0), Function.update held buffer none)

/-- The page allocator hands out no buffer that is out. -/
def Fresh (held : Held) : BufferCall → Prop
  | .allocate size given _ => size ≠ 0 → given ≠ 0 → held given = none
  | .free _ => True

/-- The pages of a buffer in the list -/
def listed (mPageList : List FreePageNode) (buffer : Ulong) : List Ulong :=
  (mPageList.filter fun node => node.allocation == buffer).map FreePageNode.pages

/-- The list has a node for each buffer that is out, and no second one. -/
def ListsHeld (mPageList : List FreePageNode) (held : Held) : Prop :=
  ∀ buffer, buffer ≠ 0 → listed mPageList buffer = (held buffer).toList

section List

variable {mPageList : List FreePageNode}

theorem listed_append (mPageList : List FreePageNode) (allocation pages buffer : Ulong) :
    listed (mPageList ++ [⟨allocation, pages⟩]) buffer =
      listed mPageList buffer ++ if allocation = buffer then [pages] else [] := by
  unfold listed
  by_cases same : allocation = buffer <;> simp [same]

/-- The node of a buffer is found and leaves the list; the nodes of the others stay. -/
theorem remove_eq (mPageList : List FreePageNode) (allocation : Ulong) :
    (removeUsbBufferPagesFromList allocation mPageList).1 =
        (listed mPageList allocation).headD 0 ∧
      ∀ buffer, listed (removeUsbBufferPagesFromList allocation mPageList).2 buffer =
        if buffer = allocation then (listed mPageList buffer).tail
        else listed mPageList buffer := by
  induction mPageList with
  | nil => simp [removeUsbBufferPagesFromList, listed]
  | cons node rest inductionHypothesis =>
    obtain ⟨found, others⟩ := inductionHypothesis
    by_cases here : node.allocation = allocation
    · refine ⟨by simp [removeUsbBufferPagesFromList, listed, here], fun buffer => ?_⟩
      by_cases same : buffer = allocation
      · simp [removeUsbBufferPagesFromList, listed, here, same]
      · have apart : allocation ≠ buffer := Ne.symm same
        simp [removeUsbBufferPagesFromList, listed, here, same, apart]
    · refine ⟨?_, fun buffer => ?_⟩
      · simpa [removeUsbBufferPagesFromList, listed, here] using found
      · have later := others buffer
        by_cases same : buffer = allocation
        · subst same
          simpa [removeUsbBufferPagesFromList, listed, here] using later
        · by_cases its : node.allocation = buffer
          · simpa [removeUsbBufferPagesFromList, listed, here, same, its] using later
          · simpa [removeUsbBufferPagesFromList, listed, here, same, its] using later

variable {held : Held} (lists : ListsHeld mPageList held)
include lists

theorem ListsHeld.allocate {size given : Ulong} {newNode : Bool}
    (fresh : Fresh held (.allocate size given newNode)) :
    (allocateTransferBuffer size given newNode mPageList).1 =
        (heldStep held (.allocate size given newNode)).1 ∧
      ListsHeld (allocateTransferBuffer size given newNode mPageList).2
        (heldStep held (.allocate size given newNode)).2 := by
  unfold allocateTransferBuffer heldStep addUsbBufferPagesToList
  by_cases empty : size = 0
  · simpa [empty] using lists
  simp only [if_neg empty]
  cases newNode with
  | false => exact ⟨rfl, lists⟩
  | true =>
    simp only [↓reduceIte, Bool.true_eq_false]
    by_cases null : given = 0
    · simp only [if_pos null, true_and]
      intro buffer nonNull
      rw [listed_append, if_neg (by rw [null]; exact Ne.symm nonNull), List.append_nil]
      exact lists buffer nonNull
    · simp only [if_neg null, true_and]
      intro buffer nonNull
      rw [listed_append, lists buffer nonNull]
      by_cases same : given = buffer
      · subst same
        rw [fresh empty null, Function.update_self, if_pos rfl]
        rfl
      · rw [if_neg same, Function.update_of_ne (Ne.symm same), List.append_nil]

theorem ListsHeld.free (buffer : Ulong) :
    (freeTransferBuffer buffer mPageList).1 = (heldStep held (.free buffer)).1 ∧
      ListsHeld (freeTransferBuffer buffer mPageList).2 (heldStep held (.free buffer)).2 := by
  unfold freeTransferBuffer heldStep
  by_cases null : buffer = 0
  · simpa [null] using lists
  · obtain ⟨found, others⟩ := remove_eq mPageList buffer
    simp only [if_neg null]
    refine ⟨?_, fun other nonNull => ?_⟩
    · rw [found, lists buffer null]
      cases held buffer <;> rfl
    · rw [others other]
      by_cases same : other = buffer
      · subst same
        rw [if_pos rfl, lists other nonNull, Function.update_self]
        cases held other <;> rfl
      · rw [if_neg same, Function.update_of_ne same]
        exact lists other nonNull

theorem ListsHeld.step (call : BufferCall) (fresh : Fresh held call) :
    (bufferStep mPageList call).1 = (heldStep held call).1 ∧
      ListsHeld (bufferStep mPageList call).2 (heldStep held call).2 := by
  cases call with
  | allocate size given newNode => exact lists.allocate fresh
  | free buffer => exact lists.free buffer

end List

/-- The pages of a buffer hold what was asked for, and less than a page more. -/
theorem efiSizeToPages_covers (size : Ulong) :
    size.toNat ≤ (efiSizeToPages size).toNat * 4096 ∧
      (efiSizeToPages size).toNat * 4096 < size.toNat + 4096 := by
  rw [toNat_efiSizeToPages]
  omega

/-- In every session, as long as the page allocator hands out no buffer that is out, each buffer that
is given back takes back the pages that were asked for it, and a buffer that is not out takes none. -/
theorem session_bufferStep {calls : List BufferCall}
    (fresh : Along (fun held call => (heldStep held call).2) Fresh (fun _ => none) calls) :
    (session bufferStep [] calls).1 = (session heldStep (fun _ => none) calls).1 ∧
      ListsHeld (session bufferStep [] calls).2 (session heldStep (fun _ => none) calls).2 := by
  have start : ListsHeld [] fun _ => none := fun _ _ => rfl
  have refines : ∀ mPageList held call, ListsHeld mPageList held → Fresh held call →
      (bufferStep mPageList call).1 = (heldStep held call).1 ∧
        ListsHeld (bufferStep mPageList call).2 (heldStep held call).2 :=
    fun _ _ call lists allowed => lists.step call allowed
  exact session_refines_along refines start fresh

/-- A buffer that is out goes back with its pages, and the second time with none; a buffer that could
not be had leaves its node in the list for good, and the last call does not come back. -/
theorem session_bufferStep_twice :
    (session bufferStep [] [.allocate 0x1001 0x8000 true, .allocate 5 0 true, .free 0x8000,
        .free 0x8000, .allocate 1 0x8000 false]).1 =
      (session heldStep (fun _ => none) [.allocate 0x1001 0x8000 true, .allocate 5 0 true,
        .free 0x8000, .free 0x8000, .allocate 1 0x8000 false]).1 ∧
    session bufferStep [] [.allocate 0x1001 0x8000 true, .allocate 5 0 true, .free 0x8000,
        .free 0x8000, .allocate 1 0x8000 false] =
      ([.allocated efiSuccess 2, .allocated efiOutOfResources 1, .freed 2, .freed 0, .asserted 1],
        [⟨0, 1⟩]) := by
  have fresh : Along (fun held call => (heldStep held call).2) Fresh (fun _ => none)
      [.allocate 0x1001 0x8000 true, .allocate 5 0 true, .free 0x8000, .free 0x8000,
        .allocate 1 0x8000 false] :=
    ⟨fun _ _ => rfl, fun _ null => absurd rfl null, trivial, trivial, fun _ _ => rfl, trivial⟩
  exact ⟨(session_bufferStep fresh).1, by decide⟩

end PinePhonePkg
