import Kvmulate.Vga.Viewer

/-!
# The indices of a frame

The text screen starts at twice the start address, and a plane has no room for
a text screen behind every one.
-/

namespace Kvmulate.Vga

open DeviceLib

/-- The index of a byte of a text cell. -/
def textIndex (ctx : VgaCtx) (x y byte : Nat) : Nat :=
  0x18000 + startAddress ctx * 2 + (y * 80 + x) * 2 + byte

/-- The index of a pixel. -/
def pixelIndex (ctx : VgaCtx) (x y : Nat) : Nat :=
  y * 320 + x + startAddress ctx

/-- Every index of the two renderers lies inside a plane or the palette, so
that both return. -/
structure RendersInside (font8x16 : Font) (ctx : VgaCtx)
    (surface : Surface) : Prop where
  text : ∀ y < 25, ∀ x < 80, ∀ byte < 2,
    textIndex ctx x y byte < planeSize
  graphics : ∀ y < 200, ∀ x < 320, pixelIndex ctx x y < planeSize
  palette : ∀ (color : Uint8) (component : Fin 3),
    color.toNat * 3 + component.val < ctx.pel.size
  textReturns : (updateTextmode font8x16 ctx surface).Returns
  graphicsReturns : (updateGraphics ctx surface).Returns

section Frame

variable {font8x16 : Font} {ctx : VgaCtx} {surface : Surface}

/-! ## When a renderer returns -/

theorem returns_loadVram_iff {plane : Fin 6} {offset : Nat} :
    (loadVram ctx plane offset).Returns ↔ offset < planeSize := by
  constructor
  · intro returns
    rcases returns with ⟨byte, loaded⟩
    rcases Outcome.bind_eq_ok_iff.mp loaded with ⟨_, inside, -⟩
    exact Outcome.guard_eq_ok_iff.mp inside
  · intro inside
    exact ⟨_, loadVram_of_lt inside⟩

theorem returns_drawCell_iff (pitch y : Nat) (pixels : Nat → Uint32)
    (x : Nat) :
    (drawCell font8x16 ctx pitch y pixels x).Returns ↔
      ∀ byte < 2, textIndex ctx x y byte < planeSize := by
  constructor
  · intro returns
    rcases returns with ⟨after, drawn⟩
    rcases Outcome.bind_eq_ok_iff.mp drawn with ⟨ch, first, rest⟩
    rcases Outcome.bind_eq_ok_iff.mp rest with ⟨attr, second, -⟩
    intro byte small
    rcases Nat.le_one_iff_eq_zero_or_eq_one.mp (Nat.le_of_lt_succ small)
      with zero | one
    · rw [zero]
      exact returns_loadVram_iff.mp ⟨ch, first⟩
    · rw [one]
      exact returns_loadVram_iff.mp ⟨attr, second⟩
  · intro inside
    have first := @loadVram_of_lt ctx textPlane _ (inside 0 (by decide))
    have second := @loadVram_of_lt ctx textPlane _ (inside 1 (by decide))
    exact ⟨_, Outcome.bind_eq_ok_iff.mpr
      ⟨_, first, Outcome.bind_eq_ok_iff.mpr ⟨_, second, rfl⟩⟩⟩

/-- Two nested loops over the pixels of the surface. -/
theorem returns_loops_iff {rows columns : Nat}
    {body : Nat → (Nat → Uint32) → Nat → Outcome (Nat → Uint32)}
    {inside : Nat → Nat → Prop}
    (each : ∀ y pixels x, (body y pixels x).Returns ↔ inside x y) :
    Outcome.Returns (do
        let pixels ←
          (List.range rows).foldlM
            (fun pixels y => (List.range columns).foldlM (body y) pixels)
            surface.pixels
        pure { surface with pixels := pixels }) ↔
      ∀ y < rows, ∀ x < columns, inside x y := by
  have row : ∀ (pixels : Nat → Uint32) (y : Nat),
      Outcome.Returns ((List.range columns).foldlM (body y) pixels) ↔
        ∀ x < columns, inside x y := by
    intro pixels y
    rw [Outcome.returns_foldlM_iff (each y)]
    simp only [List.mem_range]
  refine Outcome.returns_bind_ok_iff.trans ?_
  rw [Outcome.returns_foldlM_iff row]
  simp only [List.mem_range]

theorem returns_updateTextmode_iff :
    (updateTextmode font8x16 ctx surface).Returns ↔
      ∀ y < 25, ∀ x < 80, ∀ byte < 2,
        textIndex ctx x y byte < planeSize :=
  returns_loops_iff (returns_drawCell_iff (surface.pitch.toNat / 4))

theorem returns_drawPixel_iff (y : Nat) (pixels : Nat → Uint32)
    (x : Nat) :
    (drawPixel ctx y pixels x).Returns ↔ pixelIndex ctx x y < planeSize :=
  Outcome.returns_bind_ok_iff.trans returns_loadVram_iff

theorem returns_updateGraphics_iff :
    (updateGraphics ctx surface).Returns ↔
      ∀ y < 200, ∀ x < 320, pixelIndex ctx x y < planeSize :=
  returns_loops_iff returns_drawPixel_iff

/-! ## When the indices fit -/

/-- The last cell decides. -/
theorem textIndex_inside_iff :
    (∀ y < 25, ∀ x < 80, ∀ byte < 2, textIndex ctx x y byte < planeSize) ↔
      2 * startAddress ctx + 4000 ≤ 0x8000 := by
  have size : planeSize = 0x20000 := rfl
  simp only [textIndex]
  constructor
  · intro inside
    have last := inside 24 (by decide) 79 (by decide) 1 (by decide)
    omega
  · intro fits y row x column byte inCell
    omega

/-- A picture fits behind every start address. -/
theorem pixelIndex_inside {x y : Nat} (row : y < 200) (column : x < 320) :
    pixelIndex ctx x y < planeSize := by
  have size : planeSize = 0x20000 := rfl
  have start := @startAddress_lt ctx
  simp only [pixelIndex]
  omega

theorem paletteIndex_inside (color : Uint8) (component : Fin 3) :
    color.toNat * 3 + component.val < ctx.pel.size :=
  (pelIndex color component).isLt

/-- For all registers, the renderers stay inside exactly if the text screen
ends inside the plane. -/
theorem rendersInside_iff (font8x16 : Font) (ctx : VgaCtx)
    (surface : Surface) :
    RendersInside font8x16 ctx surface ↔
      2 * ((ctx.crtcReg.get 0xC).toNat * 256 +
          (ctx.crtcReg.get 0xD).toNat) + 4000 ≤ 0x8000 := by
  have picture : ∀ y < 200, ∀ x < 320, pixelIndex ctx x y < planeSize :=
    fun y row x column => pixelIndex_inside row column
  rw [← startAddress_eq, ← textIndex_inside_iff]
  constructor
  · intro inside
    exact inside.text
  · intro text
    exact
      { text := text
        graphics := picture
        palette := paletteIndex_inside
        textReturns := returns_updateTextmode_iff.mpr text
        graphicsReturns := returns_updateGraphics_iff.mpr picture }

end Frame

/-- The registers that every guest can load: all bits of the start address. -/
def VgaCtx.lastStart : VgaCtx :=
  { VgaCtx.zeroed (fun _ _ => 0) with
    crtcReg := Vector.replicate 0x19 0xFF }

/-- The first cell of a text screen from the last start address on is behind
the plane. -/
theorem not_always_rendersInside :
    isTextMode VgaCtx.lastStart ∧
      ¬ ∀ (font8x16 : Font) (surface : Surface),
        RendersInside font8x16 VgaCtx.lastStart surface := by
  refine ⟨by decide, ?_⟩
  intro claimed
  have inside := claimed (fun _ _ => 0) ⟨2560, fun _ => 0⟩
  have first := inside.text 0 (by decide) 0 (by decide) 0 (by decide)
  have start : startAddress VgaCtx.lastStart = 65535 := by
    decide
  have size : planeSize = 0x20000 := rfl
  simp only [textIndex] at first
  omega

end Kvmulate.Vga
