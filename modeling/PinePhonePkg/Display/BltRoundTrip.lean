/-
This file sends a rectangle of a buffer to the screen and fetches it back into a
buffer. Both transfers copy rows: those of the screen lie a scan line apart, and
those of a buffer its pitch apart, which by default is as wide as the rectangle. No
two rows of one side meet, and a buffer is apart from the screen, so the pixels come
back, and nothing else is written.
-/

import PinePhonePkg.Display.Blt
import PinePhonePkg.Library.RowCopies

namespace PinePhonePkg

open Library

namespace DisplayMode

/-! ### Rows -/

/-- The bytes from one row of a buffer to the next; a `Delta` of 0 is the default. -/
def bufferPitch (width delta : Ulong) : Nat :=
  if delta = 0 then 4 * width.toNat else delta.toNat

/-- The place of a row of a rectangle in a buffer -/
def bufferRow (bltBuffer x y width delta : Ulong) (row : Nat) : Nat :=
  bltBuffer.toNat + (y.toNat + row) * bufferPitch width delta + 4 * x.toNat

variable (mode : DisplayMode)

/-- The place of a row of a rectangle on the screen -/
def screenRow (left top : Ulong) (row : Nat) : Nat :=
  mode.pixelAt left.toNat (top.toNat + row)

/-- The bytes of all lines of the frame buffer -/
def frameBytes : Nat := 4 * (mode.pixelsPerScanLine.toNat * mode.verticalResolution.toNat)

/-- A rectangle in a buffer: the pitch is the default or has room for its rows, and they are inside
of the memory and not in the frame buffer. -/
structure InBuffer (bltBuffer x y width height delta : Ulong) : Prop where
  pitch : delta = 0 ∨ 4 * (x.toNat + width.toNat) ≤ delta.toNat
  fits : ∀ row < height.toNat, bufferRow bltBuffer x y width delta row + 4 * width.toNat ≤ 2 ^ 64
  apart : ∀ row < height.toNat,
    bufferRow bltBuffer x y width delta row + 4 * width.toNat ≤ mode.frameBufferBase.toNat ∨
      mode.frameBufferBase.toNat + mode.frameBytes ≤ bufferRow bltBuffer x y width delta row

/-- The address is in no row of a rectangle. -/
def Beside (target : Nat → Nat) (width height : Ulong) (address : Nat) : Prop :=
  ∀ row < height.toNat, address < target row ∨ target row + 4 * width.toNat ≤ address

/-- The bytes of the rectangle that was sent are in the one it was fetched into; the first transfer
has written the rectangle on the screen only, and the second one that in the buffer only. -/
structure RoundTrip (left top width height : Ulong) (source target : Nat → Nat)
    (memory sent back : Bytes) : Prop where
  pixels : ∀ row < height.toNat, ∀ place < 4 * width.toNat,
    back (target row + place) = memory (source row + place)
  screen : ∀ address, Beside (mode.screenRow left top) width height address →
    sent address = memory address
  buffer : ∀ address, Beside target width height address → back address = sent address

/-! ### Transfers are copies of rows -/

theorem bltRows_eq_copyRows (target source : Ulong → Ulong) (length : Ulong) (rows : Nat)
    (memory : Bytes) :
    bltRows (fun i memory => copyMem memory (target i) (source i) length) rows memory =
      Memory.copyRows (fun row => (target (BitVec.ofNat 64 row)).toNat)
        (fun row => (source (BitVec.ofNat 64 row)).toNat) length.toNat rows memory := by
  induction rows with
  | zero => rfl
  | succ rows inductionHypothesis =>
    rw [bltRows, inductionHypothesis]
    rfl

section Rows

variable {mode} {left top width height : Ulong} (screen : mode.OnScreen left top width height)
include screen

theorem width_lt : width.toNat < 2 ^ 32 := by
  have columns := screen.columns
  have small := mode.horizontalResolution.isLt
  omega

/-- The rows on the screen are in the frame buffer. -/
theorem screenRow_inside {row : Nat} (reached : row < height.toNat) :
    mode.frameBufferBase.toNat ≤ mode.screenRow left top row ∧
      mode.screenRow left top row + 4 * width.toNat ≤
        mode.frameBufferBase.toNat + mode.frameBytes := by
  have columns := screen.columns
  have rows := screen.rows
  have wide := mode.wide
  have below := Nat.mul_le_mul_left mode.pixelsPerScanLine.toNat
    (show top.toNat + row + 1 ≤ mode.verticalResolution.toNat by omega)
  rw [Nat.mul_succ] at below
  unfold screenRow pixelAt frameBytes
  omega

theorem screenRow_inOrder :
    Memory.RowsInOrder (mode.screenRow left top) (4 * width.toNat) height.toNat := by
  intro one other less reached
  have columns := screen.columns
  have wide := mode.wide
  have line := Nat.mul_le_mul_left mode.pixelsPerScanLine.toNat
    (show top.toNat + one + 1 ≤ top.toNat + other by omega)
  rw [Nat.mul_succ] at line
  unfold screenRow pixelAt
  omega

theorem screenRow_toNat {row : Nat} (some : 0 < width.toNat) (reached : row < height.toNat) :
    (mode.posToFb left (top + BitVec.ofNat 64 row)).toNat = mode.screenRow left top row := by
  have columns := screen.columns
  have rows := screen.rows
  have wide := mode.wide
  exact posToFb_toNat (by omega) (by omega)

variable {bltBuffer x y delta : Ulong}
  (area : mode.InBuffer bltBuffer x y width height delta)
include area

omit screen in
theorem width_le_pitch : 4 * width.toNat ≤ bufferPitch width delta := by
  unfold bufferPitch
  split
  · exact Nat.le_refl _
  · rename_i given
    have room := area.pitch.resolve_left given
    omega

omit screen in
theorem bufferRow_inOrder :
    Memory.RowsInOrder (bufferRow bltBuffer x y width delta) (4 * width.toNat) height.toNat := by
  intro one other less reached
  have wide := width_le_pitch area
  have line := Nat.mul_le_mul_right (bufferPitch width delta)
    (show y.toNat + one + 1 ≤ y.toNat + other by omega)
  rw [Nat.succ_mul] at line
  unfold bufferRow
  omega

/-- The rows of a buffer lie at the addresses that the driver computes. -/
theorem bufferRow_toNat {row : Nat} (some : 0 < width.toNat) (reached : row < height.toNat) :
    (bltBuffer + (y + BitVec.ofNat 64 row) *
        (if delta = 0 then width * fbBytesPerPixel else delta) + x * fbBytesPerPixel).toNat =
      bufferRow bltBuffer x y width delta row := by
  have fits := area.fits row reached
  have wide := width_le_pitch area
  have pitch : (if delta = 0 then width * fbBytesPerPixel else delta).toNat =
      bufferPitch width delta := by
    unfold bufferPitch
    split
    · exact rowLength_toNat (width_lt screen)
    · rfl
  have enough := Nat.le_mul_of_pos_right (y.toNat + row)
    (show 0 < bufferPitch width delta by omega)
  have line : (y + BitVec.ofNat 64 row).toNat = y.toNat + row := by
    unfold bufferRow at fits
    rw [BitVec.toNat_add, BitVec.toNat_ofNat, Nat.mod_eq_of_lt (show row < 2 ^ 64 by omega),
      Nat.mod_eq_of_lt (by omega)]
  have four : fbBytesPerPixel.toNat = 4 := rfl
  unfold bufferRow at fits ⊢
  simp only [BitVec.toNat_add, BitVec.toNat_mul, line, pitch, four, Nat.add_mod_mod,
    Nat.mod_add_mod]
  rw [Nat.mod_eq_of_lt (by omega), Nat.mul_comm x.toNat]

omit screen in
/-- The rows of a buffer and those on the screen do not meet. -/
theorem rows_apart (screen : mode.OnScreen left top width height) :
    Memory.RowsApart (mode.screenRow left top) (bufferRow bltBuffer x y width delta)
      (4 * width.toNat) height.toNat := by
  intro one first other second
  have away := area.apart one first
  have inside := screenRow_inside screen second
  omega

end Rows

/-! ### The two transfers -/

section Transfers

variable {mode} {left top width height bltBuffer x y delta : Ulong}
  (screen : mode.OnScreen left top width height)
  (area : mode.InBuffer bltBuffer x y width height delta) (memory : Bytes)
include screen area

/-- `EfiBltBufferToVideo` copies the rows of the buffer to those on the screen. -/
theorem bufferToVideo_eq :
    (mode.displayBlt bltBuffer .efiBltBufferToVideo x y left top width height delta memory).2 =
      Memory.copyRows (mode.screenRow left top) (bufferRow bltBuffer x y width delta)
        (4 * width.toNat) height.toNat memory := by
  rw [displayBlt]
  dsimp only
  rw [bltRows_eq_copyRows (fun i => mode.posToFb left (top + i)), rowLength_toNat (width_lt screen)]
  rcases Nat.eq_zero_or_pos width.toNat with none | some
  · rw [none, Nat.mul_zero, Memory.copyRows_zero, Memory.copyRows_zero]
  · exact Memory.copyRows_congr memory fun row reached =>
      ⟨screenRow_toNat screen some reached, bufferRow_toNat screen area some reached⟩

/-- `EfiBltVideoToBltBuffer` copies them the other way. -/
theorem videoToBltBuffer_eq :
    (mode.displayBlt bltBuffer .efiBltVideoToBltBuffer left top x y width height delta memory).2 =
      Memory.copyRows (bufferRow bltBuffer x y width delta) (mode.screenRow left top)
        (4 * width.toNat) height.toNat memory := by
  rw [displayBlt]
  dsimp only
  rw [BitVec.mul_comm fbBytesPerPixel,
    bltRows_eq_copyRows _ (fun i => mode.posToFb left (top + i)), rowLength_toNat (width_lt screen)]
  rcases Nat.eq_zero_or_pos width.toNat with none | some
  · rw [none, Nat.mul_zero, Memory.copyRows_zero, Memory.copyRows_zero]
  · exact Memory.copyRows_congr memory fun row reached =>
      ⟨bufferRow_toNat screen area some reached, screenRow_toNat screen some reached⟩

end Transfers

/-- A rectangle that is sent to the screen from any place in a buffer comes back into any place in a
buffer. -/
theorem displayBlt_roundTrip {mode : DisplayMode} {left top width height : Ulong}
    {fromBuffer fromX fromY fromDelta toBuffer toX toY toDelta : Ulong}
    (screen : mode.OnScreen left top width height)
    (source : mode.InBuffer fromBuffer fromX fromY width height fromDelta)
    (target : mode.InBuffer toBuffer toX toY width height toDelta) (memory : Bytes) :
    mode.RoundTrip left top width height (bufferRow fromBuffer fromX fromY width fromDelta)
      (bufferRow toBuffer toX toY width toDelta) memory
      (mode.displayBlt fromBuffer .efiBltBufferToVideo fromX fromY left top width height fromDelta
        memory).2
      (mode.displayBlt toBuffer .efiBltVideoToBltBuffer left top toX toY width height toDelta
        (mode.displayBlt fromBuffer .efiBltBufferToVideo fromX fromY left top width height fromDelta
          memory).2).2 := by
  rw [videoToBltBuffer_eq screen target, bufferToVideo_eq screen source]
  have sourceApart := rows_apart source screen
  have targetApart := rows_apart target screen
  refine ⟨fun row reached place inside => ?_, fun address beside => ?_, fun address beside => ?_⟩
  · have back := Memory.copyRows_inside
      (Memory.copyRows (mode.screenRow left top) (bufferRow fromBuffer fromX fromY width fromDelta)
        (4 * width.toNat) height.toNat memory) (bufferRow_inOrder target)
      (fun one first other second => (targetApart other second one first).symm) reached inside
    rw [back]
    exact Memory.copyRows_inside memory (screenRow_inOrder screen) sourceApart reached inside
  · exact Memory.copyRows_outside memory beside
  · exact Memory.copyRows_outside _ beside

/-- From the second column of a buffer of four columns -/
theorem inBuffer_source : sampleMode.InBuffer 0x50000000 1 0 2 2 16 where
  pitch := .inr (by decide)
  fits row reached := by
    obtain rfl | rfl : row = 0 ∨ row = 1 := by have two : row < 2 := reached; omega
    · decide
    · decide
  apart row reached := by
    obtain rfl | rfl : row = 0 ∨ row = 1 := by have two : row < 2 := reached; omega
    · decide
    · decide

/-- Into the second line of a buffer that is as wide as the rectangle -/
theorem inBuffer_target : sampleMode.InBuffer 0x50000100 0 1 2 2 0 where
  pitch := .inl rfl
  fits row reached := by
    obtain rfl | rfl : row = 0 ∨ row = 1 := by have two : row < 2 := reached; omega
    · decide
    · decide
  apart row reached := by
    obtain rfl | rfl : row = 0 ∨ row = 1 := by have two : row < 2 := reached; omega
    · decide
    · decide

/-- Four pixels go to the middle of the screen, and come back. -/
theorem displayBlt_roundTrip_sample :
    sampleMode.RoundTrip 1 1 2 2 (bufferRow 0x50000000 1 0 2 16) (bufferRow 0x50000100 0 1 2 0)
      sampleMemory
      (sampleMode.displayBlt 0x50000000 .efiBltBufferToVideo 1 0 1 1 2 2 16 sampleMemory).2
      (sampleMode.displayBlt 0x50000100 .efiBltVideoToBltBuffer 1 1 0 1 2 2 0
        (sampleMode.displayBlt 0x50000000 .efiBltBufferToVideo 1 0 1 1 2 2 16 sampleMemory).2).2 :=
  displayBlt_roundTrip ⟨by decide, by decide⟩ inBuffer_source inBuffer_target sampleMemory

end DisplayMode

end PinePhonePkg
