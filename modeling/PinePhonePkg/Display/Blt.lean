/-
This file models the block transfers of the frame buffer and shows what they do
to the pixels. A fill takes its colour from the first pixel of the screen, and a
transfer within the screen copies its rows from the first to the last.
-/

import PinePhonePkg.Library.Frames
import PinePhonePkg.Library.Words
import PinePhonePkg.Dxe.Status

namespace PinePhonePkg

open Library

/-! ### The transfers -/

/-- The mode of the display, with a frame buffer that ends within the addresses there are. -/
structure DisplayMode : Type where
  frameBufferBase : Ulong
  horizontalResolution : U32
  verticalResolution : U32
  pixelsPerScanLine : U32
  wide : horizontalResolution.toNat ≤ pixelsPerScanLine.toNat
  fits : frameBufferBase.toNat +
    4 * (pixelsPerScanLine.toNat * verticalResolution.toNat) ≤ 2 ^ 64

/-- The operations there are, and any other number -/
inductive BltOperation : Type where
  | efiBltVideoFill
  | efiBltVideoToBltBuffer
  | efiBltBufferToVideo
  | efiBltVideoToVideo
  | other
deriving DecidableEq

/-- The memory -/
abbrev Bytes : Type := Memory U8

def fbBytesPerPixel : Ulong := 4

/-- `*(UINT32 *)` at an address -/
def pixelWord (memory : Bytes) (address : Nat) : U32 := BitVec.ofNat 32 (Memory.word memory address 4)

/-- Fills memory with a word. -/
def setMem32 (memory : Bytes) (buffer length : Ulong) (value : U32) : Bytes :=
  memory.overwrite buffer.toNat length.toNat fun index =>
    BitVec.ofNat 8 (value.toNat / 256 ^ (index % 4))

/-- The rows of a transfer, the loop over `i` -/
def bltRows (row : Ulong → Bytes → Bytes) : Nat → Bytes → Bytes
  | 0, memory => memory
  | height + 1, memory => row (BitVec.ofNat 64 height) (bltRows row height memory)

namespace DisplayMode

variable (mode : DisplayMode)

/-- POS_TO_FB -/
def posToFb (posX posY : Ulong) : Ulong :=
  mode.frameBufferBase + posY * mode.pixelsPerScanLine.setWidth 64 * fbBytesPerPixel +
    posX * fbBytesPerPixel

/-- The transfer: row by row, without a check of the rectangle -/
def displayBlt (bltBuffer : Ulong) (operation : BltOperation)
    (sourceX sourceY destinationX destinationY width height delta : Ulong) (memory : Bytes) :
    Ulong × Bytes :=
  match operation with
  | .efiBltVideoFill =>
    (efiSuccess, bltRows (fun i memory =>
      setMem32 memory (mode.posToFb destinationX (destinationY + i)) (width * fbBytesPerPixel)
        (pixelWord memory mode.frameBufferBase.toNat)) height.toNat memory)
  | .efiBltVideoToBltBuffer =>
    let delta := if delta = 0 then width * fbBytesPerPixel else delta
    (efiSuccess, bltRows (fun i memory =>
      copyMem memory
        (bltBuffer + (destinationY + i) * delta + destinationX * fbBytesPerPixel)
        (mode.posToFb sourceX (sourceY + i)) (fbBytesPerPixel * width)) height.toNat memory)
  | .efiBltBufferToVideo =>
    let delta := if delta = 0 then width * fbBytesPerPixel else delta
    (efiSuccess, bltRows (fun i memory =>
      copyMem memory (mode.posToFb destinationX (destinationY + i))
        (bltBuffer + (sourceY + i) * delta + sourceX * fbBytesPerPixel)
        (width * fbBytesPerPixel)) height.toNat memory)
  | .efiBltVideoToVideo =>
    (efiSuccess, bltRows (fun i memory =>
      copyMem memory (mode.posToFb destinationX (destinationY + i))
        (mode.posToFb sourceX (sourceY + i)) (width * fbBytesPerPixel)) height.toNat memory)
  | .other => (efiSuccess, memory)

/-! ### The pixels of the screen -/

/-- The place of a pixel in the frame buffer. -/
def pixelAt (x y : Nat) : Nat :=
  mode.frameBufferBase.toNat + 4 * (mode.pixelsPerScanLine.toNat * y + x)

/-- The frame that the memory holds. -/
def frame (memory : Bytes) : Frame U32 := fun x y => pixelWord memory (mode.pixelAt x y)

/-- The memory holds the frame on the lines of the frame buffer. -/
def Shows (memory : Bytes) (frame : Frame U32) : Prop :=
  ∀ x y, x < mode.pixelsPerScanLine.toNat → y < mode.verticalResolution.toNat →
    mode.frame memory x y = frame x y

/-- A rectangle on the screen -/
structure OnScreen (left top width height : Ulong) : Prop where
  columns : left.toNat + width.toNat ≤ mode.horizontalResolution.toNat
  rows : top.toNat + height.toNat ≤ mode.verticalResolution.toNat

section Places

variable {mode}

/-- The pixels of a line lie one after the other, and those of other lines apart from them. -/
theorem pixelAt_inside_iff {left width x : Nat} (row y : Nat)
    (fits : left + width ≤ mode.pixelsPerScanLine.toNat) (onLine : x < mode.pixelsPerScanLine.toNat) :
    (mode.pixelAt left row ≤ mode.pixelAt x y ∧
      mode.pixelAt x y < mode.pixelAt left row + 4 * width) ↔
        Frame.Inside left row width 1 x y := by
  unfold pixelAt
  constructor
  · rintro ⟨reached, beforeEnd⟩
    rcases Nat.lt_trichotomy y row with above | same | below
    · have line := Nat.mul_le_mul_left mode.pixelsPerScanLine.toNat (show y + 1 ≤ row from above)
      rw [Nat.mul_succ] at line
      omega
    · subst same
      omega
    · have line := Nat.mul_le_mul_left mode.pixelsPerScanLine.toNat (show row + 1 ≤ y from below)
      rw [Nat.mul_succ] at line
      omega
  · rintro ⟨right, beforeEnd, below, above⟩
    obtain rfl : y = row := by omega
    omega

theorem pixelAt_line (left row index : Nat) :
    mode.pixelAt (left + index) row = mode.pixelAt left row + 4 * index := by
  unfold pixelAt
  omega

/-- A pixel on the screen lies at the address that the driver computes. -/
theorem posToFb_toNat {posX posY : Ulong} {i : Nat}
    (onLine : posX.toNat < mode.pixelsPerScanLine.toNat)
    (row : posY.toNat + i < mode.verticalResolution.toNat) :
    (mode.posToFb posX (posY + BitVec.ofNat 64 i)).toNat =
      mode.pixelAt posX.toNat (posY.toNat + i) := by
  have lines := mode.verticalResolution.isLt
  have below := Nat.mul_le_mul_left mode.pixelsPerScanLine.toNat
    (show posY.toNat + i + 1 ≤ mode.verticalResolution.toNat from row)
  have fits := mode.fits
  rw [Nat.mul_succ] at below
  have line : (posY + BitVec.ofNat 64 i).toNat = posY.toNat + i := by
    rw [BitVec.toNat_add, BitVec.toNat_ofNat, Nat.mod_eq_of_lt (show i < 2 ^ 64 by omega),
      Nat.mod_eq_of_lt (by omega)]
  have stride : (mode.pixelsPerScanLine.setWidth 64).toNat = mode.pixelsPerScanLine.toNat :=
    BitVec.toNat_setWidth_of_le (by decide)
  have four : fbBytesPerPixel.toNat = 4 := rfl
  unfold posToFb pixelAt
  simp only [BitVec.toNat_add, BitVec.toNat_mul, line, stride, four, Nat.add_mod_mod, Nat.mod_add_mod,
    Nat.mod_mul_mod]
  rw [Nat.mul_comm (posY.toNat + i), Nat.mod_eq_of_lt (by omega)]
  omega

theorem rowLength_toNat {width : Ulong} (small : width.toNat < 2 ^ 32) :
    (width * fbBytesPerPixel).toNat = 4 * width.toNat := by
  rw [BitVec.toNat_mul, show fbBytesPerPixel.toNat = 4 from rfl, Nat.mod_eq_of_lt (by omega),
    Nat.mul_comm]

end Places

/-! ### One row -/

section Rows

variable {mode}

theorem frame_overwrite (memory source : Bytes) {left width row x y : Nat}
    (fits : left + width ≤ mode.pixelsPerScanLine.toNat)
    (onLine : x < mode.pixelsPerScanLine.toNat) :
    mode.frame (memory.overwrite (mode.pixelAt left row) (4 * width) source) x y =
      if Frame.Inside left row width 1 x y then pixelWord source (4 * (x - left))
      else mode.frame memory x y := by
  have places := pixelAt_inside_iff row y fits onLine
  unfold frame pixelWord
  by_cases inside : Frame.Inside left row width 1 x y
  · obtain ⟨index, rfl⟩ := Nat.exists_eq_add_of_le inside.1
    obtain rfl : y = row := by omega
    have copied := Memory.agree_drop_overwrite memory (mode.pixelAt left y) (4 * width) source
    rw [if_pos inside, pixelAt_line, Nat.add_sub_cancel_left, ← Memory.word_drop,
      copied.word (by omega)]
  · rw [if_neg inside]
    rw [← places] at inside
    rw [Memory.word_overwrite_of_disjoint]
    unfold pixelAt at inside ⊢
    omega

variable {memory : Bytes} {shown : Frame U32} (shows : mode.Shows memory shown)
  {left top width height : Ulong} (screen : mode.OnScreen left top width height) {i : Nat}
  (reached : i < height.toNat)
include shows screen reached

theorem shows_setMem32 (colour : U32) :
    mode.Shows
      (setMem32 memory (mode.posToFb left (top + BitVec.ofNat 64 i)) (width * fbBytesPerPixel) colour)
      (shown.fill left.toNat (top.toNat + i) width.toNat 1 colour) := by
  have columns := screen.columns
  have rows := screen.rows
  have wide := mode.wide
  have small := mode.horizontalResolution.isLt
  intro x y onLine inRows
  unfold setMem32 Frame.fill
  rw [rowLength_toNat (by omega)]
  by_cases none : width.toNat = 0
  · rw [none, Nat.mul_zero, Memory.overwrite_zero, if_neg (by omega)]
    exact shows x y onLine inRows
  · rw [posToFb_toNat (by omega) (by omega), frame_overwrite memory _ (by omega) onLine]
    refine if_congr Iff.rfl ?_ (shows x y onLine inRows)
    unfold pixelWord
    refine BitVec.eq_of_toNat_eq ?_
    have bound := colour.isLt
    rw [Memory.word_bytes colour.toNat _ 4 fun index inside => by
      rw [Nat.mul_add_mod, Nat.mod_eq_of_lt inside]]
    rw [BitVec.toNat_ofNat]
    omega

theorem shows_copyMem {sourceX sourceY : Ulong} (source : mode.OnScreen sourceX sourceY width height) :
    mode.Shows
      (copyMem memory (mode.posToFb left (top + BitVec.ofNat 64 i))
        (mode.posToFb sourceX (sourceY + BitVec.ofNat 64 i)) (width * fbBytesPerPixel))
      (shown.move sourceX.toNat (sourceY.toNat + i) left.toNat (top.toNat + i) width.toNat 1) := by
  have columns := screen.columns
  have rows := screen.rows
  have sourceColumns := source.columns
  have sourceRows := source.rows
  have wide := mode.wide
  have small := mode.horizontalResolution.isLt
  intro x y onLine inRows
  unfold copyMem Frame.move
  rw [rowLength_toNat (by omega)]
  by_cases none : width.toNat = 0
  · rw [none, Nat.mul_zero, Memory.overwrite_zero, if_neg (by omega)]
    exact shows x y onLine inRows
  · rw [posToFb_toNat (by omega) (by omega), posToFb_toNat (by omega) (by omega),
      frame_overwrite memory _ (by omega) onLine]
    by_cases inside : Frame.Inside left.toNat (top.toNat + i) width.toNat 1 x y
    · rw [if_pos inside, if_pos inside,
        show y - (top.toNat + i) + (sourceY.toNat + i) = sourceY.toNat + i by omega,
        ← shows _ _ (by omega) (by omega), Nat.add_comm (x - left.toNat)]
      unfold pixelWord frame pixelWord
      rw [Memory.word_drop, pixelAt_line]
    · rw [if_neg inside, if_neg inside]
      exact shows x y onLine inRows

end Rows

/-! ### The whole transfers -/

section Transfers

variable {mode} (memory : Bytes) {left top width height : Ulong}
  (screen : mode.OnScreen left top width height)
include screen

/-- The rows of a fill have the colour that the first pixel had, and so has this pixel. -/
theorem shows_fillRows {rows : Nat} (reached : rows ≤ height.toNat) :
    mode.Shows
      (bltRows (fun i memory =>
        setMem32 memory (mode.posToFb left (top + i)) (width * fbBytesPerPixel)
          (pixelWord memory mode.frameBufferBase.toNat)) rows memory)
      ((mode.frame memory).fill left.toNat top.toNat width.toNat rows (mode.frame memory 0 0)) := by
  have columns := screen.columns
  have onScreen := screen.rows
  have wide := mode.wide
  induction rows with
  | zero =>
    rw [Frame.fill_zero]
    exact fun x y _ _ => rfl
  | succ rows inductionHypothesis =>
    have shows := inductionHypothesis (by omega)
    unfold bltRows
    generalize bltRows _ rows memory = filled at shows ⊢
    by_cases none : width.toNat = 0
    · intro x y onLine inRows
      have same := shows_setMem32 shows screen (i := rows) (by omega)
        (pixelWord filled mode.frameBufferBase.toNat) x y onLine inRows
      unfold Frame.fill at same ⊢
      rw [if_neg (by omega), if_neg (by omega)] at same
      rw [if_neg (by omega)]
      exact same
    · have colour : pixelWord filled mode.frameBufferBase.toNat = mode.frame memory 0 0 := by
        have corner := shows 0 0 (by omega) (by omega)
        unfold Frame.fill at corner
        rw [ite_self] at corner
        exact corner
      rw [colour, ← Frame.fill_succ]
      exact shows_setMem32 shows screen (by omega) _

theorem shows_moveRows {sourceX sourceY : Ulong} (source : mode.OnScreen sourceX sourceY width height)
    {rows : Nat} (reached : rows ≤ height.toNat) :
    mode.Shows
      (bltRows (fun i memory =>
        copyMem memory (mode.posToFb left (top + i)) (mode.posToFb sourceX (sourceY + i))
          (width * fbBytesPerPixel)) rows memory)
      ((mode.frame memory).moveRows sourceX.toNat sourceY.toNat left.toNat top.toNat width.toNat
        rows) := by
  induction rows with
  | zero => exact fun x y _ _ => rfl
  | succ rows inductionHypothesis =>
    exact shows_copyMem (inductionHypothesis (by omega)) screen (by omega) source

/-- Frames that are the same outside the rectangle are shown alike exactly if they are the same. -/
theorem Shows.eq_iff {after : Bytes} {shown other : Frame U32} (shows : mode.Shows after shown)
    (same : ∀ x y, ¬ Frame.Inside left.toNat top.toNat width.toNat height.toNat x y →
      shown x y = other x y) :
    mode.Shows after other ↔ shown = other := by
  have columns := screen.columns
  have rows := screen.rows
  have wide := mode.wide
  constructor
  · intro showsOther
    funext x y
    by_cases inside : Frame.Inside left.toNat top.toNat width.toNat height.toNat x y
    · rw [← shows x y (by omega) (by omega), showsOther x y (by omega) (by omega)]
    · exact same x y inside
  · rintro rfl
    exact shows

end Transfers

/-- A fill gives the rectangle the first colour of the buffer and leaves the rest. -/
def FillRight (bltBuffer sourceX sourceY left top width height delta : Ulong) (memory : Bytes) :
    Prop :=
  mode.Shows
    (mode.displayBlt bltBuffer .efiBltVideoFill sourceX sourceY left top width height delta memory).2
    ((mode.frame memory).fill left.toNat top.toNat width.toNat height.toNat
      (pixelWord memory bltBuffer.toNat))

/-- A transfer within the screen gives the rectangle what the source had before and leaves the
rest. -/
def MoveRight (bltBuffer sourceX sourceY left top width height delta : Ulong) (memory : Bytes) :
    Prop :=
  mode.Shows
    (mode.displayBlt bltBuffer .efiBltVideoToVideo sourceX sourceY left top width height delta
      memory).2
    ((mode.frame memory).move sourceX.toNat sourceY.toNat left.toNat top.toNat width.toNat
      height.toNat)

section Exact

variable {mode} {left top width height : Ulong} (screen : mode.OnScreen left top width height)
include screen

theorem fillRight_iff (bltBuffer sourceX sourceY delta : Ulong) (memory : Bytes) :
    mode.FillRight bltBuffer sourceX sourceY left top width height delta memory ↔
      width.toNat = 0 ∨ height.toNat = 0 ∨
        mode.frame memory 0 0 = pixelWord memory bltBuffer.toNat := by
  have shows := shows_fillRows memory screen (Nat.le_refl _)
  refine (Shows.eq_iff screen shows fun x y outside => ?_).trans ⟨fun same => ?_, fun same => ?_⟩
  · unfold Frame.fill
    rw [if_neg outside, if_neg outside]
  · by_contra other
    have corner := congrFun (congrFun same left.toNat) top.toNat
    unfold Frame.fill at corner
    rw [if_pos (by omega), if_pos (by omega)] at corner
    exact other (.inr (.inr corner))
  · rcases same with none | none | same
    · funext x y
      unfold Frame.fill
      rw [if_neg (by omega), if_neg (by omega)]
    · rw [none, Frame.fill_zero, Frame.fill_zero]
    · rw [same]

theorem moveRight_iff (bltBuffer delta : Ulong) {sourceX sourceY : Ulong}
    (source : mode.OnScreen sourceX sourceY width height) (memory : Bytes) :
    mode.MoveRight bltBuffer sourceX sourceY left top width height delta memory ↔
      top.toNat ≤ sourceY.toNat ∨
        Frame.Repeats (mode.frame memory) sourceX.toNat sourceY.toNat left.toNat top.toNat
          width.toNat height.toNat := by
  have shows := shows_moveRows memory screen source (Nat.le_refl _)
  refine (Shows.eq_iff screen shows fun x y outside => ?_).trans Frame.moveRows_eq_iff
  rw [Frame.moveRows_outside _ _ _ _ _ _ outside]
  unfold Frame.move
  rw [if_neg outside]

end Exact

/-- A fill is right exactly if it is empty or the first pixel of the screen has the colour, and a
transfer within the screen exactly if it does not go down or repeats what it overwrites. -/
theorem displayBlt_right_iff (memory : Bytes) (bltBuffer delta : Ulong)
    {sourceX sourceY left top width height : Ulong}
    (source : mode.OnScreen sourceX sourceY width height)
    (target : mode.OnScreen left top width height) :
    (mode.FillRight bltBuffer sourceX sourceY left top width height delta memory ↔
      width.toNat = 0 ∨ height.toNat = 0 ∨
        mode.frame memory 0 0 = pixelWord memory bltBuffer.toNat) ∧
    (mode.MoveRight bltBuffer sourceX sourceY left top width height delta memory ↔
      top.toNat ≤ sourceY.toNat ∨
        Frame.Repeats (mode.frame memory) sourceX.toNat sourceY.toNat left.toNat top.toNat
          width.toNat height.toNat) :=
  ⟨fillRight_iff target bltBuffer sourceX sourceY delta memory,
    moveRight_iff target bltBuffer delta source memory⟩

/-- A screen of two pixels in two lines, at the place of the frame buffer of the phone. -/
def smallMode : DisplayMode where
  frameBufferBase := 0x48000000
  horizontalResolution := 1
  verticalResolution := 2
  pixelsPerScanLine := 1
  wide := by decide
  fits := by decide

/-- A screen of four pixels in each of three lines, with a pixel beside each line -/
def sampleMode : DisplayMode where
  frameBufferBase := 0x48000000
  horizontalResolution := 4
  verticalResolution := 3
  pixelsPerScanLine := 5
  wide := by decide
  fits := by decide

/-- Each byte of memory is the low byte of its address. -/
def sampleMemory : Bytes := fun address => BitVec.ofNat 8 address

/-- The rectangle is filled with a colour that is the one of the first pixel, and moved up by a line. -/
theorem displayBlt_right_iff_sample :
    sampleMode.FillRight 0x50000000 1 1 1 0 3 2 0 sampleMemory ∧
      sampleMode.MoveRight 0x50000000 1 1 1 0 3 2 0 sampleMemory := by
  have upper : sampleMode.OnScreen 1 0 3 2 := ⟨by decide, by decide⟩
  have lower : sampleMode.OnScreen 1 1 3 2 := ⟨by decide, by decide⟩
  have colour : sampleMode.frame sampleMemory 0 0 = pixelWord sampleMemory (0x50000000 : Ulong).toNat := by
    decide +kernel
  have right := sampleMode.displayBlt_right_iff sampleMemory 0x50000000 0 lower upper
  exact ⟨right.1.mpr (.inr (.inr colour)), right.2.mpr (.inl (by decide))⟩

/-- A fill with white leaves a black screen black. -/
theorem displayBlt_not_right :
    ¬ ∀ (mode : DisplayMode) (memory : Bytes)
        (bltBuffer sourceX sourceY left top width height delta : Ulong),
      mode.OnScreen sourceX sourceY width height → mode.OnScreen left top width height →
      mode.FillRight bltBuffer sourceX sourceY left top width height delta memory ∧
        mode.MoveRight bltBuffer sourceX sourceY left top width height delta memory := by
  intro claim
  have screen : smallMode.OnScreen 0 0 1 1 := ⟨by decide, by decide⟩
  have right := claim smallMode (Memory.setWord (fun _ => 0) 0 4 0xffffff) 0 0 0 0 0 1 1 0 screen
    screen
  rcases (fillRight_iff screen 0 0 0 0 _).mp right.1 with none | none | same
  · exact absurd none (by decide)
  · exact absurd none (by decide)
  · exact absurd same (by decide +kernel)

end DisplayMode

end PinePhonePkg
