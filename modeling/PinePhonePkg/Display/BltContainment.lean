/-
This file settles which bytes a block transfer reads and writes on the side of
the screen. The transfer checks nothing: it is a list of fills and copies at the
addresses it computes. They lie in the frame buffer for every rectangle on the
screen, and for a rectangle off the screen they need not.
-/

import PinePhonePkg.Display.Blt

namespace PinePhonePkg

open Library

/-! ### The frame buffer -/

/-- The fields of the mode and of its information that are set up -/
structure GopMode where
  horizontalResolution : U32
  verticalResolution : U32
  pixelsPerScanLine : U32
  frameBufferBase : Ulong
  frameBufferSize : Ulong
  deriving DecidableEq

/-- `VNBYTES` has no brackets around its quotient, so that the width is multiplied first. -/
def lineLength (width : U32) : U32 := width * 32 / 8

/-- The mode that the driver makes of what the boot loader left, if there is a display -/
def simpleFbDxeInitialize (mipiFrameBufferAddr mipiFrameBufferWidth mipiFrameBufferHeight : U32) :
    Except Ulong GopMode :=
  if mipiFrameBufferAddr = 0 ∨ mipiFrameBufferWidth = 0 ∨ mipiFrameBufferHeight = 0 then
    .error efiDeviceError
  else
    .ok {
      horizontalResolution := mipiFrameBufferWidth
      verticalResolution := mipiFrameBufferHeight
      pixelsPerScanLine := mipiFrameBufferWidth
      frameBufferBase := mipiFrameBufferAddr.setWidth 64
      frameBufferSize := (lineLength mipiFrameBufferWidth * mipiFrameBufferHeight).setWidth 64 }

/-- A mode whose frame buffer has room for its lines -/
structure FrameBuffer extends DisplayMode where
  frameBufferSize : Ulong
  shown : 0 < horizontalResolution.toNat
  lines : 4 * (pixelsPerScanLine.toNat * verticalResolution.toNat) ≤ frameBufferSize.toNat

/-- What is told of the mode -/
def FrameBuffer.gopMode (screen : FrameBuffer) : GopMode :=
  ⟨screen.horizontalResolution, screen.verticalResolution, screen.pixelsPerScanLine,
    screen.frameBufferBase, screen.frameBufferSize⟩

section Initialize

variable {width height : U32}

theorem toNat_lineLength (narrow : width.toNat < 2 ^ 27) :
    (lineLength width).toNat = 4 * width.toNat := by
  unfold lineLength
  rw [BitVec.toNat_udiv, BitVec.toNat_mul, show (32 : U32).toNat = 32 from rfl,
    show (8 : U32).toNat = 8 from rfl]
  omega

theorem toNat_lineLength_mul (narrow : width.toNat < 2 ^ 27)
    (small : 4 * (width.toNat * height.toNat) < 2 ^ 32) :
    ((lineLength width * height).setWidth 64).toNat = 4 * (width.toNat * height.toNat) := by
  rw [BitVec.toNat_setWidth_of_le (by decide), BitVec.toNat_mul, toNat_lineLength narrow,
    Nat.mul_assoc]
  exact Nat.mod_eq_of_lt small

/-- The mode that is set up for these parameters -/
def FrameBuffer.ofParameters (address width height : U32) (shown : 0 < width.toNat)
    (narrow : width.toNat < 2 ^ 27) (small : 4 * (width.toNat * height.toNat) < 2 ^ 32) :
    FrameBuffer where
  frameBufferBase := address.setWidth 64
  horizontalResolution := width
  verticalResolution := height
  pixelsPerScanLine := width
  wide := Nat.le_refl _
  fits := by
    have low := address.isLt
    rw [BitVec.toNat_setWidth_of_le (by decide)]
    omega
  frameBufferSize := (lineLength width * height).setWidth 64
  shown := shown
  lines := (toNat_lineLength_mul narrow small).ge

/-- Where the size has 32 bits, the initialisation sets up a frame buffer with room for it. -/
theorem simpleFbDxeInitialize_eq {address : U32} (some : address ≠ 0) (high : height ≠ 0)
    (shown : 0 < width.toNat) (narrow : width.toNat < 2 ^ 27)
    (small : 4 * (width.toNat * height.toNat) < 2 ^ 32) :
    simpleFbDxeInitialize address width height =
      .ok (FrameBuffer.ofParameters address width height shown narrow small).gopMode := by
  have wide : width ≠ 0 := by
    rintro rfl
    exact absurd shown (by decide)
  unfold simpleFbDxeInitialize
  rw [if_neg fun none => none.elim some fun rest => rest.elim wide high]
  rfl

end Initialize

/-- The screen of the phone -/
def phoneScreen : FrameBuffer :=
  .ofParameters 0x48000000 720 1440 (by decide) (by decide) (by decide)

theorem simpleFbDxeInitialize_phoneScreen :
    simpleFbDxeInitialize 0x48000000 720 1440 = .ok phoneScreen.gopMode :=
  simpleFbDxeInitialize_eq (by decide) (by decide) (by decide) (by decide) (by decide)

/-! ### Steps -/

/-- What a transfer does for one row; `source` is where the colour of a fill is read. -/
inductive BltStep where
  | fill (buffer length source : Ulong)
  | copy (destination source length : Ulong)

/-- Bytes that are read or written -/
structure Span where
  start : Nat
  length : Nat

namespace BltStep

/-- What a step does to the memory -/
def perform (memory : Bytes) : BltStep → Bytes
  | .fill buffer length source => setMem32 memory buffer length (pixelWord memory source.toNat)
  | .copy destination source length => copyMem memory destination source length

/-- The bytes a step writes -/
def written : BltStep → Span
  | .fill buffer length _ => ⟨buffer.toNat, length.toNat⟩
  | .copy destination _ length => ⟨destination.toNat, length.toNat⟩

/-- The bytes a step reads -/
def read : BltStep → Span
  | .fill _ _ source => ⟨source.toNat, 4⟩
  | .copy _ source length => ⟨source.toNat, length.toNat⟩

end BltStep

/-! ### The steps of a transfer -/

namespace BltOperation

/-- The operation reads the screen. -/
def readsScreen : BltOperation → Bool
  | .efiBltVideoFill | .efiBltVideoToBltBuffer | .efiBltVideoToVideo => true
  | .efiBltBufferToVideo | .other => false

/-- The operation writes to the screen. -/
def writesScreen : BltOperation → Bool
  | .efiBltVideoFill | .efiBltBufferToVideo | .efiBltVideoToVideo => true
  | .efiBltVideoToBltBuffer | .other => false

/-- The corners of the rectangles an operation has on the screen -/
def corners (operation : BltOperation) (sourceX sourceY destinationX destinationY : Ulong) :
    List (Ulong × Ulong) :=
  match operation with
  | .efiBltVideoFill | .efiBltBufferToVideo => [(destinationX, destinationY)]
  | .efiBltVideoToBltBuffer => [(sourceX, sourceY)]
  | .efiBltVideoToVideo => [(sourceX, sourceY), (destinationX, destinationY)]
  | .other => []

/-- The bytes a step touches on the side of the screen -/
def screenSpans (operation : BltOperation) (step : BltStep) : List Span :=
  (if operation.readsScreen then [step.read] else []) ++
    if operation.writesScreen then [step.written] else []

end BltOperation

namespace DisplayMode

variable (mode : DisplayMode)

/-- The step of a transfer for one row -/
def bltStep (bltBuffer : Ulong) (operation : BltOperation)
    (sourceX sourceY destinationX destinationY width delta : Ulong) (i : Ulong) : List BltStep :=
  let delta := if delta = 0 then width * fbBytesPerPixel else delta
  match operation with
  | .efiBltVideoFill =>
    [.fill (mode.posToFb destinationX (destinationY + i)) (width * fbBytesPerPixel)
      mode.frameBufferBase]
  | .efiBltVideoToBltBuffer =>
    [.copy (bltBuffer + (destinationY + i) * delta + destinationX * fbBytesPerPixel)
      (mode.posToFb sourceX (sourceY + i)) (fbBytesPerPixel * width)]
  | .efiBltBufferToVideo =>
    [.copy (mode.posToFb destinationX (destinationY + i))
      (bltBuffer + (sourceY + i) * delta + sourceX * fbBytesPerPixel) (width * fbBytesPerPixel)]
  | .efiBltVideoToVideo =>
    [.copy (mode.posToFb destinationX (destinationY + i)) (mode.posToFb sourceX (sourceY + i))
      (width * fbBytesPerPixel)]
  | .other => []

/-- The steps of a transfer, row by row -/
def bltSteps (bltBuffer : Ulong) (operation : BltOperation)
    (sourceX sourceY destinationX destinationY width height delta : Ulong) : List BltStep :=
  (List.range height.toNat).flatMap fun row =>
    mode.bltStep bltBuffer operation sourceX sourceY destinationX destinationY width delta
      (BitVec.ofNat 64 row)

section Steps

variable (bltBuffer : Ulong) (operation : BltOperation)
  (sourceX sourceY destinationX destinationY width height delta : Ulong) (memory : Bytes)

/-- Rows that are made of steps are the steps of all rows. -/
theorem bltRows_eq_foldl {row : Ulong → Bytes → Bytes} {steps : Ulong → List BltStep}
    (same : ∀ i memory, row i memory = (steps i).foldl BltStep.perform memory) (height : Nat)
    (memory : Bytes) :
    bltRows row height memory =
      ((List.range height).flatMap fun index => steps (BitVec.ofNat 64 index)).foldl
        BltStep.perform memory := by
  induction height with
  | zero => rfl
  | succ height inductionHypothesis =>
    rw [bltRows, same, inductionHypothesis, List.range_succ, List.flatMap_append,
      List.foldl_append, List.flatMap_singleton]

/-- A transfer performs its steps; an operation that is not known has none. -/
theorem displayBlt_eq_foldl :
    (mode.displayBlt bltBuffer operation sourceX sourceY destinationX destinationY width height
        delta memory).2 =
      (mode.bltSteps bltBuffer operation sourceX sourceY destinationX destinationY width height
        delta).foldl BltStep.perform memory := by
  have steps {row : Ulong → Bytes → Bytes}
      (same : ∀ i memory, row i memory =
        (mode.bltStep bltBuffer operation sourceX sourceY destinationX destinationY width delta
          i).foldl BltStep.perform memory) :=
    bltRows_eq_foldl same height.toNat memory
  cases operation with
  | efiBltVideoFill | efiBltVideoToBltBuffer | efiBltBufferToVideo | efiBltVideoToVideo =>
    exact steps fun _ _ => rfl
  | other =>
    have none : mode.bltSteps bltBuffer .other sourceX sourceY destinationX destinationY width
        height delta = [] := List.flatMap_eq_nil_iff.mpr fun _ _ => rfl
    rw [none]
    rfl

end Steps

end DisplayMode

/-! ### Containment -/

namespace FrameBuffer

variable (screen : FrameBuffer)

/-- The bytes, if there are any, lie in the frame buffer. -/
def Holds (span : Span) : Prop :=
  span.length = 0 ∨ screen.frameBufferBase.toNat ≤ span.start ∧
    span.start + span.length ≤ screen.frameBufferBase.toNat + screen.frameBufferSize.toNat

instance (span : Span) : Decidable (screen.Holds span) :=
  inferInstanceAs (Decidable (_ ∨ _ ∧ _))

section Rows

variable {screen} {left top width height : Ulong}
  (onScreen : screen.OnScreen left top width height) {row : Nat} (reached : row < height.toNat)
include onScreen reached

/-- A row of a rectangle on the screen lies in the frame buffer. -/
theorem holds_row :
    screen.Holds ⟨(screen.posToFb left (top + BitVec.ofNat 64 row)).toNat,
      (width * fbBytesPerPixel).toNat⟩ := by
  have columns := onScreen.columns
  have rows := onScreen.rows
  have wide := screen.wide
  have lines := screen.lines
  have small := screen.horizontalResolution.isLt
  unfold Holds
  rw [DisplayMode.rowLength_toNat (by omega)]
  by_cases none : width.toNat = 0
  · left
    show 4 * width.toNat = 0
    rw [none]
  · right
    rw [DisplayMode.posToFb_toNat (by omega) (by omega)]
    have below := Nat.mul_le_mul_left screen.pixelsPerScanLine.toNat
      (show top.toNat + row + 1 ≤ screen.verticalResolution.toNat by omega)
    rw [Nat.mul_succ] at below
    unfold DisplayMode.pixelAt
    constructor
    · exact Nat.le_add_right _ _
    · dsimp only
      omega

/-- Where a rectangle on the screen has a row, there is a first pixel. -/
theorem holds_first : screen.Holds ⟨screen.frameBufferBase.toNat, 4⟩ := by
  have rows := onScreen.rows
  have wide := screen.wide
  have shown := screen.shown
  have lines := screen.lines
  have pixel : 1 * 1 ≤ screen.pixelsPerScanLine.toNat * screen.verticalResolution.toNat :=
    Nat.mul_le_mul (by omega) (by omega)
  right
  exact ⟨Nat.le_refl _, by dsimp only; omega⟩

end Rows

/-- No byte outside the frame buffer is touched on the side of the screen. -/
def Contained (bltBuffer : Ulong) (operation : BltOperation)
    (sourceX sourceY destinationX destinationY width height delta : Ulong) : Prop :=
  ∀ step ∈ screen.bltSteps bltBuffer operation sourceX sourceY destinationX destinationY width
    height delta, ∀ span ∈ operation.screenSpans step, screen.Holds span

section Contained

variable {screen} {sourceX sourceY destinationX destinationY width height : Ulong}

theorem contained_of_onScreen (bltBuffer : Ulong) (operation : BltOperation) (delta : Ulong)
    (onScreen : ∀ corner ∈ operation.corners sourceX sourceY destinationX destinationY,
      screen.OnScreen corner.1 corner.2 width height) :
    screen.Contained bltBuffer operation sourceX sourceY destinationX destinationY width height
      delta := by
  intro step member span touched
  obtain ⟨row, among, made⟩ := List.mem_flatMap.mp member
  have reached := List.mem_range.mp among
  cases operation with
  | efiBltVideoFill =>
    obtain rfl := List.mem_singleton.mp made
    have target := onScreen _ List.mem_cons_self
    rcases List.mem_pair.mp touched with rfl | rfl
    · exact holds_first target reached
    · exact holds_row target reached
  | efiBltVideoToBltBuffer =>
    obtain rfl := List.mem_singleton.mp made
    obtain rfl := List.mem_singleton.mp touched
    show screen.Holds ⟨_, (fbBytesPerPixel * width).toNat⟩
    rw [BitVec.mul_comm]
    exact holds_row (onScreen _ List.mem_cons_self) reached
  | efiBltBufferToVideo =>
    obtain rfl := List.mem_singleton.mp made
    obtain rfl := List.mem_singleton.mp touched
    exact holds_row (onScreen _ List.mem_cons_self) reached
  | efiBltVideoToVideo =>
    obtain rfl := List.mem_singleton.mp made
    rcases List.mem_pair.mp touched with rfl | rfl
    · exact holds_row (onScreen _ List.mem_cons_self) reached
    · exact holds_row (onScreen _ (List.mem_cons_of_mem _ List.mem_cons_self)) reached
  | other => cases made

end Contained

/-- A transfer whose rectangles on the screen lie in the resolution touches the frame buffer
only; it performs its steps, of which an unknown operation has none, and checks nothing. -/
theorem displayBlt_contained (bltBuffer : Ulong) (operation : BltOperation)
    (sourceX sourceY destinationX destinationY width height delta : Ulong) (memory : Bytes)
    (onScreen : ∀ corner ∈ operation.corners sourceX sourceY destinationX destinationY,
      screen.OnScreen corner.1 corner.2 width height) :
    screen.Contained bltBuffer operation sourceX sourceY destinationX destinationY width height
        delta ∧
      (screen.displayBlt bltBuffer operation sourceX sourceY destinationX destinationY width
          height delta memory).2 =
        (screen.bltSteps bltBuffer operation sourceX sourceY destinationX destinationY width
          height delta).foldl BltStep.perform memory ∧
      (operation = .other →
        (screen.displayBlt bltBuffer operation sourceX sourceY destinationX destinationY width
          height delta memory).2 = memory) := by
  refine ⟨contained_of_onScreen bltBuffer operation delta onScreen,
    screen.displayBlt_eq_foldl _ _ _ _ _ _ _ _ _ _, ?_⟩
  rintro rfl
  rfl

theorem onScreen_phoneScreen : phoneScreen.OnScreen 700 1400 20 40 :=
  ⟨by decide, by decide⟩

theorem displayBlt_contained_phoneScreen :
    (∀ corner ∈ BltOperation.efiBltVideoFill.corners 0 0 700 1400,
        phoneScreen.OnScreen corner.1 corner.2 20 40) ∧
      phoneScreen.Contained 0x50000000 .efiBltVideoFill 0 0 700 1400 20 40 0 := by
  have onScreen : ∀ corner ∈ BltOperation.efiBltVideoFill.corners 0 0 700 1400,
      phoneScreen.OnScreen corner.1 corner.2 20 40 := by
    intro corner member
    rw [List.mem_singleton.mp member]
    exact onScreen_phoneScreen
  exact ⟨onScreen, (phoneScreen.displayBlt_contained 0x50000000 .efiBltVideoFill 0 0 700 1400 20
    40 0 (fun _ => 0) onScreen).1⟩

/-- A pixel below the last line is written behind the frame buffer, with a success. -/
theorem displayBlt_leaves_screen :
    ¬ ∀ (screen : FrameBuffer) (bltBuffer : Ulong) (operation : BltOperation)
        (sourceX sourceY destinationX destinationY width height delta : Ulong) (memory : Bytes),
      screen.Contained bltBuffer operation sourceX sourceY destinationX destinationY width height
          delta ∧
        ((¬ ∀ corner ∈ operation.corners sourceX sourceY destinationX destinationY,
            screen.OnScreen corner.1 corner.2 width height) ∨ operation = .other →
          (screen.displayBlt bltBuffer operation sourceX sourceY destinationX destinationY width
              height delta memory).1 ≠ efiSuccess ∧
            (screen.displayBlt bltBuffer operation sourceX sourceY destinationX destinationY width
              height delta memory).2 = memory) := by
  intro claim
  have contained := (claim phoneScreen 0x50000000 .efiBltBufferToVideo 0 0 0 1440 1 1 0
    fun _ => 0).1
  have behind := contained _ (List.mem_flatMap.mpr ⟨0, by decide, List.mem_singleton.mpr rfl⟩) _
    (List.mem_singleton.mpr rfl)
  exact absurd behind (by decide)

end FrameBuffer

end PinePhonePkg
