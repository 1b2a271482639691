import Kvmulate.Lib.Paint
import Kvmulate.Vga.Context

/-!
# The viewer

The renderers of `devices/x86/vga/viewer.c`.  The font of `font.h` and the
surface that SDL delivers are parameters.
-/

namespace Kvmulate.Vga

open DeviceLib

/-- What the viewer uses of an `SDL_Surface`. -/
structure Surface where
  pitch : Uint16
  pixels : Nat → Uint32

/-- `font8x16`, by character and row. -/
abbrev Font := Uint8 → Nat → Uint8

def isTextMode (ctx : VgaCtx) : Prop :=
  ctx.gcontReg.get 6 &&& 1 = 0

instance (ctx : VgaCtx) : Decidable (isTextMode ctx) :=
  inferInstanceAs (Decidable (_ = _))

/-- The three components of a color follow each other. -/
def pelIndex (color : Uint8) (component : Fin 3) : Fin 768 :=
  ⟨color.toNat * 3 + component.val, by
    have bound := color.isLt
    omega⟩

def argb (ctx : VgaCtx) (color : Uint8) : Uint32 :=
  ((ctx.pel.get (pelIndex color 0)).setWidth 32 <<< 18) |||
    ((ctx.pel.get (pelIndex color 1)).setWidth 32 <<< 10) |||
    ((ctx.pel.get (pelIndex color 2)).setWidth 32 <<< 2)

/-- The color of a pixel of a glyph. -/
def glyphColor (font8x16 : Font) (ctx : VgaCtx) (ch attr : Uint8)
    (x y : Nat) : Uint32 :=
  if font8x16 ch y &&& (0x80 >>> x) ≠ 0 then argb ctx (attr &&& 0x0F)
  else argb ctx ((attr >>> 4) &&& 0x0F)

/-- `pitch` is that of the surface in pixels. -/
def drawGlyphAt (font8x16 : Font) (ctx : VgaCtx) (pitch : Nat)
    (ch attr : Uint8) (sx sy : Nat) (pixels : Nat → Uint32) :
    Nat → Uint32 :=
  let pFB := sy * 16 * pitch + sx * 8
  (List.range 16).foldl
    (fun pixels y =>
      (List.range 8).foldl
        (fun pixels x =>
          Function.update pixels (pFB + y * pitch + x)
            (glyphColor font8x16 ctx ch attr x y))
        pixels)
    pixels

/-- `(crtc_reg[0xC] << 8) | crtc_reg[0xD]` -/
def startAddress (ctx : VgaCtx) : Nat :=
  (((ctx.crtcReg.get 0xC).setWidth 32 <<< 8) |||
    (ctx.crtcReg.get 0xD).setWidth 32 : Uint32).toNat

/-- A byte of a plane. -/
def loadVram (ctx : VgaCtx) (plane : Fin 6) (offset : Nat) :
    Outcome Uint8 := do
  Outcome.guard (offset < planeSize)
  pure (ctx.pVRAM plane offset)

/-- Plane 0. -/
def textPlane : Fin 6 :=
  ⟨0, Nat.succ_pos 5⟩

/-- The body of the inner loop of `updateTextmode`. -/
def drawCell (font8x16 : Font) (ctx : VgaCtx) (pitch y : Nat)
    (pixels : Nat → Uint32) (x : Nat) : Outcome (Nat → Uint32) := do
  let vramOff := startAddress ctx * 2
  let ch ← loadVram ctx textPlane (0x18000 + vramOff + (y * 80 + x) * 2 + 0)
  let attr ← loadVram ctx textPlane (0x18000 + vramOff + (y * 80 + x) * 2 + 1)
  pure (drawGlyphAt font8x16 ctx pitch ch attr x y pixels)

/-- The column is 80 after the loops, so that the cursor is not drawn. -/
def updateTextmode (font8x16 : Font) (ctx : VgaCtx) (surface : Surface) :
    Outcome Surface := do
  let pitch := surface.pitch.toNat / 4
  let pixels ←
    (List.range 25).foldlM
      (fun pixels y =>
        (List.range 80).foldlM (drawCell font8x16 ctx pitch y) pixels)
      surface.pixels
  pure { surface with pixels := pixels }

/-- `x & 3` -/
def planeOf (x : Nat) : Fin 6 :=
  ⟨x % 4, by omega⟩

/-- The four stores of `updateGraphics`. -/
def pixelStrokes (x y : Nat) (c : Uint32) : List (Nat × Uint32) :=
  [((y * 2 + 0) * 640 + (x * 2 + 0), c),
    ((y * 2 + 0) * 640 + (x * 2 + 1), c),
    ((y * 2 + 1) * 640 + (x * 2 + 0), c),
    ((y * 2 + 1) * 640 + (x * 2 + 1), c)]

/-- The body of the inner loop of `updateGraphics`. -/
def drawPixel (ctx : VgaCtx) (y : Nat) (pixels : Nat → Uint32) (x : Nat) :
    Outcome (Nat → Uint32) := do
  let ci ← loadVram ctx (planeOf x) (y * 320 + x + startAddress ctx)
  pure (paint pixels (pixelStrokes x y (argb ctx ci)))

/-- Width and height are set to 320 and 200 whatever the registers say. -/
def updateGraphics (ctx : VgaCtx) (surface : Surface) :
    Outcome Surface := do
  let pixels ←
    (List.range 200).foldlM
      (fun pixels y => (List.range 320).foldlM (drawPixel ctx y) pixels)
      surface.pixels
  pure { surface with pixels := pixels }

/-- What `viewer_thread` draws in one pass of its loop. -/
def drawFrame (font8x16 : Font) (ctx : VgaCtx) (surface : Surface) :
    Outcome Surface :=
  if isTextMode ctx then updateTextmode font8x16 ctx surface
  else updateGraphics ctx surface

/-! ## What a frame shows -/

/-- The pixel at a column and a row of the surface. -/
def Surface.pixel (surface : Surface) (x y : Nat) : Uint32 :=
  surface.pixels (y * (surface.pitch.toNat / 4) + x)

section Frame

variable {font8x16 : Font} {ctx : VgaCtx} {surface : Surface}

theorem startAddress_eq :
    startAddress ctx =
      (ctx.crtcReg.get 0xC).toNat * 256 + (ctx.crtcReg.get 0xD).toNat := by
  have high := (ctx.crtcReg.get 0xC).isLt
  have low : (ctx.crtcReg.get 0xD).toNat < 2 ^ 8 :=
    (ctx.crtcReg.get 0xD).isLt
  unfold startAddress
  have shifted :
      (((ctx.crtcReg.get 0xC).setWidth 32 : Uint32) <<< 8).toNat =
        (ctx.crtcReg.get 0xC).toNat <<< 8 := by
    rw [BitVec.toNat_shiftLeft, BitVec.toNat_setWidth, Nat.shiftLeft_eq,
      Nat.shiftLeft_eq]
    omega
  have kept :
      ((ctx.crtcReg.get 0xD).setWidth 32 : Uint32).toNat =
        (ctx.crtcReg.get 0xD).toNat := by
    rw [BitVec.toNat_setWidth]
    omega
  rw [BitVec.toNat_or, shifted, kept,
    ← Nat.shiftLeft_add_eq_or_of_lt low, Nat.shiftLeft_eq]

theorem startAddress_lt : startAddress ctx < 65536 := by
  have high := (ctx.crtcReg.get 0xC).isLt
  have low := (ctx.crtcReg.get 0xD).isLt
  rw [startAddress_eq]
  omega

theorem loadVram_of_lt {plane : Fin 6} {offset : Nat}
    (inside : offset < planeSize) :
    loadVram ctx plane offset = .ok (ctx.pVRAM plane offset) := by
  unfold loadVram
  rw [Outcome.guard_of inside]
  rfl

/-- The strokes of one glyph. -/
def glyphStrokes (font8x16 : Font) (ctx : VgaCtx) (pitch : Nat)
    (ch attr : Uint8) (sx sy : Nat) : List (Nat × Uint32) :=
  (List.range 16).flatMap fun y =>
    (List.range 8).flatMap fun x =>
      [(sy * 16 * pitch + sx * 8 + y * pitch + x,
        glyphColor font8x16 ctx ch attr x y)]

theorem drawGlyphAt_eq_paint {pitch : Nat} {ch attr : Uint8}
    {sx sy : Nat} (pixels : Nat → Uint32) :
    drawGlyphAt font8x16 ctx pitch ch attr sx sy pixels =
      paint pixels
        (glyphStrokes font8x16 ctx pitch ch attr sx sy) := by
  unfold drawGlyphAt glyphStrokes
  apply foldl_paint
  intro row y
  apply foldl_paint
  intro cell x
  rfl

/-- The byte of a text cell. -/
def cellByte (ctx : VgaCtx) (x y byte : Nat) : Uint8 :=
  ctx.pVRAM textPlane (0x18000 + startAddress ctx * 2 + (y * 80 + x) * 2 + byte)

/-- The strokes of the whole text screen. -/
def textStrokes (font8x16 : Font) (ctx : VgaCtx) (pitch : Nat) :
    List (Nat × Uint32) :=
  (List.range 25).flatMap fun y =>
    (List.range 80).flatMap fun x =>
      glyphStrokes font8x16 ctx pitch (cellByte ctx x y 0)
        (cellByte ctx x y 1) x y

theorem updateTextmode_eq_paint
    (visible : 2 * startAddress ctx + 4000 ≤ 0x8000) :
    updateTextmode font8x16 ctx surface =
      .ok { surface with
        pixels :=
          paint surface.pixels
            (textStrokes font8x16 ctx (surface.pitch.toNat / 4)) } := by
  have size : planeSize = 0x20000 := rfl
  refine Outcome.bind_eq_ok_iff.mpr ⟨_, foldlM_paint ?_ _, rfl⟩
  intro pixels y row
  have rowInside := List.mem_range.mp row
  apply foldlM_paint
  intro pixels x column
  have columnInside := List.mem_range.mp column
  unfold drawCell
  simp only [loadVram_of_lt (show 0x18000 + startAddress ctx * 2 +
      (y * 80 + x) * 2 + 0 < planeSize by omega),
    loadVram_of_lt (show 0x18000 + startAddress ctx * 2 +
      (y * 80 + x) * 2 + 1 < planeSize by omega),
    Outcome.ok_bind, drawGlyphAt_eq_paint]
  rfl

/-- Where a stroke of the text screen comes from. -/
theorem mem_textStrokes_iff {pitch place : Nat} {color : Uint32} :
    (place, color) ∈ textStrokes font8x16 ctx pitch ↔
      ∃ y < 25, ∃ x < 80, ∃ row < 16, ∃ column < 8,
        place = y * 16 * pitch + x * 8 + row * pitch + column ∧
          color =
            glyphColor font8x16 ctx (cellByte ctx x y 0)
              (cellByte ctx x y 1) column row := by
  simp only [textStrokes, glyphStrokes, List.mem_flatMap, List.mem_range,
    List.mem_singleton, Prod.mk.injEq]

/-- Each cell of the text screen shows its character in its colors. -/
theorem updateTextmode_pixel (visible : 2 * startAddress ctx + 4000 ≤ 0x8000)
    (rows : 640 ≤ surface.pitch.toNat / 4) :
    ∃ after, updateTextmode font8x16 ctx surface = .ok after ∧
      ∀ x < 80, ∀ y < 25, ∀ column < 8, ∀ row < 16,
        after.pixel (x * 8 + column) (y * 16 + row) =
          glyphColor font8x16 ctx (cellByte ctx x y 0) (cellByte ctx x y 1)
            column row := by
  refine ⟨_, updateTextmode_eq_paint visible, ?_⟩
  intro x left y top column inRow row inGlyph
  simp only [Surface.pixel]
  generalize surface.pitch.toNat / 4 = pitch at rows ⊢
  have place : ∀ x y column row : Nat,
      (y * 16 + row) * pitch + (x * 8 + column) =
        y * 16 * pitch + x * 8 + row * pitch + column := by
    intro x y column row
    rw [Nat.add_mul]
    omega
  apply paint_of_mem
  · exact mem_textStrokes_iff.mpr ⟨y, top, x, left, row, inGlyph, column,
      inRow, place x y column row, rfl⟩
  · intro other mem
    rcases mem_textStrokes_iff.mp mem with
      ⟨y', top', x', left', row', inGlyph', column', inRow', same, color⟩
    rw [← place] at same
    have unique := row_column_unique (by omega) (by omega) same
    have sameY : y = y' := by omega
    have sameRow : row = row' := by omega
    have sameX : x = x' := by omega
    have sameColumn : column = column' := by omega
    rw [color, sameY, sameRow, sameX, sameColumn]

/-- The byte of a pixel. -/
def pixelByte (ctx : VgaCtx) (x y : Nat) : Uint8 :=
  ctx.pVRAM (planeOf x) (y * 320 + x + startAddress ctx)

def graphicsStrokes (ctx : VgaCtx) : List (Nat × Uint32) :=
  (List.range 200).flatMap fun y =>
    (List.range 320).flatMap fun x =>
      pixelStrokes x y (argb ctx (pixelByte ctx x y))

theorem updateGraphics_eq_paint :
    updateGraphics ctx surface =
      .ok { surface with
        pixels := paint surface.pixels (graphicsStrokes ctx) } := by
  have size : planeSize = 0x20000 := rfl
  have start := @startAddress_lt ctx
  refine Outcome.bind_eq_ok_iff.mpr ⟨_, foldlM_paint ?_ _, rfl⟩
  intro pixels y row
  have rowInside := List.mem_range.mp row
  apply foldlM_paint
  intro pixels x column
  have columnInside := List.mem_range.mp column
  unfold drawPixel
  rw [loadVram_of_lt (by omega)]
  rfl

theorem mem_pixelStrokes_iff {x y place : Nat} {c color : Uint32} :
    (place, color) ∈ pixelStrokes x y c ↔
      ∃ down < 2, ∃ right < 2,
        place = (y * 2 + down) * 640 + (x * 2 + right) ∧ color = c := by
  simp only [pixelStrokes, List.mem_cons, List.not_mem_nil, or_false,
    Prod.mk.injEq]
  constructor
  · intro stroke
    rcases stroke with same | same | same | same
    · exact ⟨0, by omega, 0, by omega, same⟩
    · exact ⟨0, by omega, 1, by omega, same⟩
    · exact ⟨1, by omega, 0, by omega, same⟩
    · exact ⟨1, by omega, 1, by omega, same⟩
  · intro stroke
    rcases stroke with ⟨down, inPixel, right, inRow, same⟩
    have rows : down = 0 ∨ down = 1 := by omega
    have columns : right = 0 ∨ right = 1 := by omega
    rcases rows with isZero | isOne
    · rcases columns with first | second
      · rw [isZero, first] at same
        exact Or.inl same
      · rw [isZero, second] at same
        exact Or.inr (Or.inl same)
    · rcases columns with first | second
      · rw [isOne, first] at same
        exact Or.inr (Or.inr (Or.inl same))
      · rw [isOne, second] at same
        exact Or.inr (Or.inr (Or.inr same))

/-- Where a stroke of the picture comes from. -/
theorem mem_graphicsStrokes_iff {place : Nat} {color : Uint32} :
    (place, color) ∈ graphicsStrokes ctx ↔
      ∃ y < 200, ∃ x < 320, ∃ down < 2, ∃ right < 2,
        place = (y * 2 + down) * 640 + (x * 2 + right) ∧
          color = argb ctx (pixelByte ctx x y) := by
  simp only [graphicsStrokes, List.mem_flatMap, List.mem_range,
    mem_pixelStrokes_iff]

/-- Each pixel of the picture is shown by four pixels of the frame buffer. -/
theorem updateGraphics_pixel :
    ∃ after, updateGraphics ctx surface = .ok after ∧
      after.pitch = surface.pitch ∧
      ∀ x < 320, ∀ y < 200, ∀ right < 2, ∀ down < 2,
        after.pixels ((y * 2 + down) * 640 + (x * 2 + right)) =
          argb ctx (pixelByte ctx x y) := by
  refine ⟨_, updateGraphics_eq_paint, rfl, ?_⟩
  intro x left y top right inRow down inPixel
  apply paint_of_mem
  · exact mem_graphicsStrokes_iff.mpr
      ⟨y, top, x, left, down, inPixel, right, inRow, rfl, rfl⟩
  · intro other mem
    rcases mem_graphicsStrokes_iff.mp mem with
      ⟨y', top', x', left', down', inPixel', right', inRow', same, color⟩
    have unique := row_column_unique (by omega) (by omega) same
    have sameY : y = y' := by omega
    have sameX : x = x' := by omega
    rw [color, sameY, sameX]

/-- Behind 400 rows of 640 pixels, nothing is drawn. -/
theorem updateGraphics_behind {after : Surface}
    (drawn : updateGraphics ctx surface = .ok after) :
    after.pitch = surface.pitch ∧
      ∀ place, 256000 ≤ place → after.pixels place = surface.pixels place := by
  rw [updateGraphics_eq_paint] at drawn
  rw [← Except.ok.inj drawn]
  refine ⟨rfl, ?_⟩
  intro place behind
  apply paint_elsewhere
  intro other mem
  rcases mem_graphicsStrokes_iff.mp mem with
    ⟨y, top, x, left, down, inPixel, right, inRow, same, -⟩
  omega

end Frame

end Kvmulate.Vga
