import Kvmulate.Vga.Stores
import Kvmulate.Vga.Viewer

/-!
# The screen shows what the guest wrote

The planes hold the bytes last stored in every run.  A text frame shows them,
and a picture does where the rows of the surface are 640 pixels long.
-/

namespace Kvmulate.Vga

open DeviceLib Kvmulate.Pci

/-- The planes hold what was last stored, and the window is where it was. -/
structure Holds (pVRAM : Fin 6 → Nat → Uint8) (video : Video)
    (history : List GuestStore) : Prop where
  base : video.pci.rom.base = 0xFFAA0000
  bytes : ∀ plane ∈ writtenPlanes, ∀ offset,
    video.vga.pVRAM plane offset =
      lastStored pVRAM history plane (0xA0000 + offset)

section Step

variable {pVRAM : Fin 6 → Nat → Uint8} {video next : Video}
variable {history : List GuestStore} {guest : ScreenStep}

theorem and_twoPow_ne_zero_iff {byte : Uint8} {bit : Nat} (small : bit < 8) :
    byte &&& BitVec.twoPow 8 bit ≠ 0 ↔ byte.getLsbD bit = true := by
  have nonzero : BitVec.twoPow 8 bit ≠ 0#8 := by
    intro zero
    have set := congrArg (fun word => word.getLsbD bit) zero
    simp [small] at set
  rw [BitVec.and_twoPow]
  cases byte.getLsbD bit with
  | true => exact iff_of_true nonzero rfl
  | false => exact iff_of_false (not_not_intro rfl) Bool.false_ne_true

/-- The planes are the bits of the map mask. -/
theorem planeEnabled_iff {ctx : VgaCtx} {plane : Fin 6} :
    planeEnabled ctx plane ↔ (mapMask ctx).getLsbD plane.val = true := by
  have small := plane.isLt
  have selected : ∀ plane : Fin 6,
      ((1 <<< plane.val : Nat) : Uint8) = BitVec.twoPow 8 plane.val := by
    decide
  change mapMask ctx &&& ((1 <<< plane.val : Nat) : Uint8) ≠ 0 ↔ _
  rw [selected]
  exact and_twoPow_ne_zero_iff (by omega)

theorem Holds.apart (holds : Holds pVRAM video history) :
    video.pci.rom.base ≠ 0xA0000 := by
  rw [holds.base]
  decide

theorem Holds.write (holds : Holds pVRAM video history)
    {address : Uint64} (low : 0xA0000 ≤ address.toNat)
    (pData : List Uint8) :
    Holds pVRAM (video.stored address pData)
      (⟨mapMask video.vga, address.toNat, pData⟩ :: history) := by
  refine ⟨holds.base, ?_⟩
  intro plane mem offset
  change storedPlanes _ _ _ _ plane offset = _
  rw [lastStored_cons]
  simp only [GuestStore.byteAt]
  by_cases reached : (mapMask video.vga).getLsbD plane.val = true ∧
      address.toNat ≤ 0xA0000 + offset ∧
        0xA0000 + offset < address.toNat + pData.length
  · rcases reached with ⟨enabled, above, below⟩
    have covered : Covers (address.toNat - 0xA0000) offset pData :=
      ⟨by omega, by omega⟩
    have position : 0xA0000 + offset - address.toNat =
        offset - (address.toNat - 0xA0000) := by
      omega
    rw [storedPlanes_of_covered mem (planeEnabled_iff.mpr enabled) covered,
      if_pos ⟨enabled, above, below⟩, position]
    rfl
  · rw [if_neg reached]
    refine (storedPlanes_of_spared ?_).trans (holds.bytes plane mem offset)
    intro both
    rcases both with ⟨enabled, above, below⟩
    exact reached ⟨planeEnabled_iff.mp enabled, by omega, by omega⟩

theorem Holds.step (holds : Holds pVRAM video history)
    (inside : guest.Inside)
    (stepped : screenStep video guest = .ok ((), next)) :
    Holds pVRAM next (recordStore video guest () history) := by
  cases guest with
  | write address pData =>
      rcases Outcome.bind_eq_ok_iff.mp stepped with
        ⟨⟨result, after⟩, written, built⟩
      cases built
      rw [mmioWrite_window holds.apart inside] at written
      cases written
      exact holds.write inside.2.1 pData
  | register access =>
      rcases Outcome.bind_eq_ok_iff.mp stepped with
        ⟨⟨response, vga⟩, accessed, built⟩
      cases built
      refine ⟨holds.base, ?_⟩
      intro plane mem offset
      change vga.pVRAM plane offset = _
      rw [planes_of_vgaAccess accessed]
      exact holds.bytes plane mem offset

theorem holds_start {file : Option (List Uint8)}
    (started : x86VgaInit file pVRAM = .ok video) :
    Holds pVRAM video [] := by
  rcases romTracks_start with ⟨pci, registered, tracks⟩
  unfold x86VgaInit at started
  rw [registered, Outcome.ok_bind] at started
  rcases Outcome.bind_eq_ok_iff.mp started with ⟨rom, -, built⟩
  cases built
  refine ⟨tracks.base, ?_⟩
  intro plane mem offset
  change pVRAM plane offset = pVRAM plane (0xA0000 + offset - 0xA0000)
  rw [Nat.add_sub_cancel_left]

end Step

/-- What holds before a run of writes inside the window holds after it. -/
theorem holds_of_run {pVRAM : Fin 6 → Nat → Uint8} {video final : Video}
    {history later : List GuestStore} {steps : List ScreenStep}
    {responses : List Unit} (holds : Holds pVRAM video history)
    (inside : ∀ guest ∈ steps, guest.Inside)
    (ran : run (observed screenStep recordStore) (video, history) steps =
      .ok (responses, (final, later))) :
    Holds pVRAM final later := by
  induction steps generalizing video history responses with
  | nil =>
      cases ran
      exact holds
  | cons guest rest inductionHypothesis =>
      rcases run_cons_eq_ok_iff.mp ran with
        ⟨response, ⟨middle, recorded⟩, others, called, ranRest, -⟩
      rcases observed_eq_ok_iff.mp called with ⟨stepped, same⟩
      change recorded = recordStore video guest response history at same
      have one := holds.step (inside guest List.mem_cons_self) stepped
      rw [same] at ranRest
      exact inductionHypothesis one
        (fun later mem => inside later (List.mem_cons_of_mem _ mem)) ranRest

/-! ## Colors -/

section Colors

variable {font8x16 : Font} {ctx : VgaCtx} {pixel : Uint32}

/-- Red, green and blue of an entry of the palette follow each other. -/
def VgaCtx.component (ctx : VgaCtx) (entry component : Nat) : Uint8 :=
  ctx.pel.toList.getD (3 * entry + component) 0

/-- The bits of a pixel are those of the three components of an entry: red
from bit 18 on, green from bit 10 on and blue from bit 2 on. -/
def HasColor (ctx : VgaCtx) (entry : Nat) (pixel : Uint32) : Prop :=
  ∀ place, pixel.getLsbD place = true ↔
    ∃ component < 3, ∃ bit < 8, place = 18 - 8 * component + bit ∧
      (ctx.component entry component).getLsbD bit = true

/-- The low half of the attribute is the entry of the ink, the high half that
of the paper. -/
def glyphEntry (font8x16 : Font) (ch attr : Uint8) (column row : Nat) : Nat :=
  if (font8x16 ch row).getLsbD (7 - column) = true then attr.toNat % 16
  else attr.toNat / 16

theorem component_eq {color : Uint8} (component : Fin 3) :
    ctx.component color.toNat component.val =
      ctx.pel.get (pelIndex color component) := by
  have inside := (pelIndex color component).isLt
  have place : 3 * color.toNat + component.val =
      (pelIndex color component).val := by
    change _ = color.toNat * 3 + component.val
    omega
  unfold VgaCtx.component
  rw [place, List.getD_eq_getElem _ _ (by simp)]
  simp [Vector.get]

/-- The bits of one component. -/
theorem getLsbD_shifted {byte : Uint8} {shift place : Nat}
    (room : shift + 8 ≤ 32) :
    ((byte.setWidth 32 : Uint32) <<< shift).getLsbD place = true ↔
      ∃ bit < 8, place = shift + bit ∧ byte.getLsbD bit = true := by
  rw [BitVec.getLsbD_shiftLeft, BitVec.getLsbD_setWidth]
  simp only [Bool.and_eq_true, decide_eq_true_eq, Bool.not_eq_true',
    decide_eq_false_iff_not, Nat.not_lt]
  constructor
  · intro set
    rcases set with ⟨⟨_, above⟩, _, set⟩
    exact ⟨place - shift, BitVec.lt_of_getLsbD set, by omega, set⟩
  · intro set
    rcases set with ⟨bit, small, same, set⟩
    have back : place - shift = bit := by omega
    rw [back]
    exact ⟨⟨by omega, by omega⟩, by omega, set⟩

theorem hasColor_argb (color : Uint8) :
    HasColor ctx color.toNat (argb ctx color) := by
  intro place
  have components : ∀ shown : Nat → Prop,
      (∃ component < 3, shown component) ↔
        (shown 0 ∨ shown 1) ∨ shown 2 := by
    intro shown
    simp only [Nat.lt_succ_iff_lt_or_eq, Nat.not_lt_zero, false_or, or_and_right,
      exists_or, exists_eq_left]
  have red := @component_eq ctx color 0
  have green := @component_eq ctx color 1
  have blue := @component_eq ctx color 2
  rw [components, argb, BitVec.getLsbD_or, BitVec.getLsbD_or, Bool.or_eq_true,
    Bool.or_eq_true, getLsbD_shifted (by decide), getLsbD_shifted (by decide),
    getLsbD_shifted (by decide), ← red, ← green, ← blue]
  rfl

/-- No other pixel has the color. -/
theorem hasColor_iff {color : Uint8} :
    HasColor ctx color.toNat pixel ↔ pixel = argb ctx color := by
  constructor
  · intro colored
    apply BitVec.eq_of_getLsbD_eq
    intro place _
    exact Bool.eq_iff_iff.mpr
      ((colored place).trans (hasColor_argb color place).symm)
  · intro same
    rw [same]
    exact hasColor_argb color

theorem channels_eq {red green blue : Nat} (greenSmall : green < 64)
    (blueSmall : blue < 64) :
    red * 2 ^ 18 ||| green * 2 ^ 10 ||| blue * 2 ^ 2 =
      4 * (0x10000 * red + 0x100 * green + blue) := by
  have merged : ∀ high low width : Nat, low < 2 ^ width →
      high * 2 ^ width ||| low = high * 2 ^ width + low := by
    intro high low width small
    rw [← Nat.shiftLeft_eq, Nat.shiftLeft_add_eq_or_of_lt small]
  have whole : (red * 2 ^ 8 + green) * 2 ^ 10 + blue * 2 ^ 2 =
      4 * (0x10000 * red + 0x100 * green + blue) := by
    omega
  have high : red * 2 ^ 18 + green * 2 ^ 10 =
      (red * 2 ^ 8 + green) * 2 ^ 10 := by
    rw [Nat.add_mul, Nat.mul_assoc, ← Nat.pow_add]
  have upper := merged red (green * 2 ^ 10) 18 (by omega)
  have lower := merged (red * 2 ^ 8 + green) (blue * 2 ^ 2) 10 (by omega)
  calc
    red * 2 ^ 18 ||| green * 2 ^ 10 ||| blue * 2 ^ 2 =
        red * 2 ^ 18 + green * 2 ^ 10 ||| blue * 2 ^ 2 :=
      congrArg (· ||| blue * 2 ^ 2) upper
    _ = (red * 2 ^ 8 + green) * 2 ^ 10 ||| blue * 2 ^ 2 :=
      congrArg (· ||| blue * 2 ^ 2) high
    _ = (red * 2 ^ 8 + green) * 2 ^ 10 + blue * 2 ^ 2 := lower
    _ = 4 * (0x10000 * red + 0x100 * green + blue) := whole

/-- Components of six bits are the upper bits of the channels of a pixel. -/
theorem HasColor.toNat_eq {color red green blue : Uint8}
    (colored : HasColor ctx color.toNat pixel)
    (components : (List.range 3).map (ctx.component color.toNat) =
      [red, green, blue])
    (redSmall : red.toNat < 64) (greenSmall : green.toNat < 64)
    (blueSmall : blue.toNat < 64) :
    pixel.toNat =
      4 * (0x10000 * red.toNat + 0x100 * green.toNat + blue.toNat) := by
  have shifted : ∀ (byte : Uint8) (shift : Nat), byte.toNat < 64 →
      shift ≤ 18 →
        ((byte.setWidth 32 : Uint32) <<< shift).toNat =
          byte.toNat * 2 ^ shift := by
    intro byte shift small room
    have bound : byte.toNat * 2 ^ shift < 64 * 2 ^ 18 :=
      Nat.mul_lt_mul_of_lt_of_le small
        (Nat.pow_le_pow_right (by decide) room) (by decide)
    have kept : (byte.setWidth 32 : Uint32).toNat = byte.toNat := by
      rw [BitVec.toNat_setWidth]
      omega
    rw [BitVec.toNat_shiftLeft, kept, Nat.shiftLeft_eq,
      Nat.mod_eq_of_lt (by omega)]
  simp only [List.range_succ, List.range_zero, List.nil_append,
    List.cons_append, List.map_cons, List.map_nil, List.cons.injEq,
    and_true] at components
  rcases components with ⟨isRed, isGreen, isBlue⟩
  have redByte := (component_eq 0).symm.trans isRed
  have greenByte := (component_eq 1).symm.trans isGreen
  have blueByte := (component_eq 2).symm.trans isBlue
  rw [hasColor_iff.mp colored, argb, redByte, greenByte, blueByte,
    BitVec.toNat_or, BitVec.toNat_or, shifted red 18 redSmall (by decide),
    shifted green 10 greenSmall (by decide),
    shifted blue 2 blueSmall (by decide)]
  exact channels_eq greenSmall blueSmall

theorem hasColor_glyphColor {ch attr : Uint8} {column row : Nat}
    (inRow : column < 8) :
    HasColor ctx (glyphEntry font8x16 ch attr column row)
      (glyphColor font8x16 ctx ch attr column row) := by
  have selected : ∀ column < 8,
      ((0x80 >>> column : Nat) : Uint8) = BitVec.twoPow 8 (7 - column) := by
    decide
  have ink : (attr &&& 0x0F).toNat = attr.toNat % 16 := by
    rw [BitVec.toNat_and]
    exact Nat.and_two_pow_sub_one_eq_mod attr.toNat 4
  have paper : ((attr >>> 4) &&& 0x0F).toNat = attr.toNat / 16 := by
    have bound := attr.isLt
    rw [BitVec.toNat_and, BitVec.toNat_ushiftRight, Nat.shiftRight_eq_div_pow]
    refine (Nat.and_two_pow_sub_one_eq_mod _ 4).trans ?_
    exact Nat.mod_eq_of_lt (by omega)
  unfold glyphEntry glyphColor
  rw [selected column inRow]
  by_cases set : (font8x16 ch row).getLsbD (7 - column) = true
  · rw [if_pos set, if_pos ((and_twoPow_ne_zero_iff (by omega)).mpr set), ← ink]
    exact hasColor_argb _
  · rw [if_neg set,
      if_neg (fun other => set ((and_twoPow_ne_zero_iff (by omega)).mp other)),
      ← paper]
    exact hasColor_argb _

end Colors

/-! ## Frames -/

section Frames

/-- The start address of the CRTC. -/
def displayStart (ctx : VgaCtx) : Nat :=
  256 * (ctx.crtcReg.toList.getD 0xC 0).toNat +
    (ctx.crtcReg.toList.getD 0xD 0).toNat

/-- The glyph of each cell is that of the character and the attribute stored
from twice the start address on in plane 0. -/
def ShowsText (font8x16 : Font) (ctx : VgaCtx)
    (stored : Fin 6 → Nat → Uint8) (surface : Surface) : Prop :=
  ∀ plane : Fin 6, plane.val = 0 →
    ∀ x < 80, ∀ y < 25, ∀ column < 8, ∀ row < 16,
      HasColor ctx
        (glyphEntry font8x16
          (stored plane (0xB8000 + 2 * displayStart ctx + 2 * (80 * y + x)))
          (stored plane
            (0xB8000 + 2 * displayStart ctx + 2 * (80 * y + x) + 1))
          column row)
        (surface.pixel (8 * x + column) (16 * y + row))

/-- Four pixels of the surface have the color of the byte stored for them, each
in the plane of its column. -/
def ShowsPicture (ctx : VgaCtx) (stored : Fin 6 → Nat → Uint8)
    (surface : Surface) : Prop :=
  ∀ x < 320, ∀ y < 200, ∀ plane : Fin 6, plane.val = x % 4 →
    ∀ right < 2, ∀ down < 2,
      HasColor ctx
        (stored plane (0xA0000 + displayStart ctx + 320 * y + x)).toNat
        (surface.pixel (2 * x + right) (2 * y + down))

/-- A frame shows what is stored, in the mode that bit 0 of the miscellaneous
register selects.  The text screen has to end inside the window. -/
structure ShowsStores (font8x16 : Font) (ctx : VgaCtx)
    (stored : Fin 6 → Nat → Uint8) (surface : Surface) : Prop where
  text : (ctx.gcontReg.get 6).getLsbD 0 = false →
    2 * displayStart ctx + 4000 ≤ 0x8000 →
      ∃ after, drawFrame font8x16 ctx surface = .ok after ∧
        ShowsText font8x16 ctx stored after
  picture : (ctx.gcontReg.get 6).getLsbD 0 = true →
    ∃ after, drawFrame font8x16 ctx surface = .ok after ∧
      ShowsPicture ctx stored after

variable {font8x16 : Font} {pVRAM : Fin 6 → Nat → Uint8} {video : Video}
variable {history : List GuestStore} {surface : Surface}

theorem displayStart_eq {ctx : VgaCtx} :
    displayStart ctx = startAddress ctx := by
  have high : ctx.crtcReg.toList.getD 0xC 0 = ctx.crtcReg.get 0xC := by
    rw [List.getD_eq_getElem _ _ (by simp)]
    rfl
  have low : ctx.crtcReg.toList.getD 0xD 0 = ctx.crtcReg.get 0xD := by
    rw [List.getD_eq_getElem _ _ (by simp)]
    rfl
  rw [startAddress_eq, displayStart, high, low, Nat.mul_comm]

theorem isTextMode_iff {ctx : VgaCtx} :
    isTextMode ctx ↔ (ctx.gcontReg.get 6).getLsbD 0 = false := by
  have graphics := @and_twoPow_ne_zero_iff (ctx.gcontReg.get 6) 0 (by decide)
  rw [← Bool.not_eq_true, ← graphics, not_not]
  rfl

theorem Holds.cellByte (holds : Holds pVRAM video history) (x y byte : Nat) :
    cellByte video.vga x y byte =
      lastStored pVRAM history textPlane
        (0xB8000 + 2 * displayStart video.vga + 2 * (80 * y + x) + byte) := by
  have place :
      0xB8000 + 2 * displayStart video.vga + 2 * (80 * y + x) + byte =
        0xA0000 + (0x18000 + startAddress video.vga * 2 +
          (y * 80 + x) * 2 + byte) := by
    rw [displayStart_eq]
    omega
  rw [place]
  exact holds.bytes textPlane (by decide) _

theorem mem_writtenPlanes (x : Nat) : planeOf x ∈ writtenPlanes := by
  have first : ∀ rest : Fin 4,
      (Fin.castLE (by decide) rest : Fin 6) ∈ writtenPlanes := by
    decide
  exact first ⟨x % 4, Nat.mod_lt x (by decide)⟩

theorem Holds.pixelByte (holds : Holds pVRAM video history) (x y : Nat) :
    pixelByte video.vga x y =
      lastStored pVRAM history (planeOf x)
        (0xA0000 + displayStart video.vga + 320 * y + x) := by
  have place :
      0xA0000 + displayStart video.vga + 320 * y + x =
        0xA0000 + (y * 320 + x + startAddress video.vga) := by
    rw [displayStart_eq]
    omega
  rw [place]
  exact holds.bytes (planeOf x) (mem_writtenPlanes x) _

theorem Holds.text (holds : Holds pVRAM video history)
    (text : isTextMode video.vga) (rows : 640 ≤ surface.pitch.toNat / 4)
    (visible : 2 * displayStart video.vga + 4000 ≤ 0x8000) :
    ∃ after, drawFrame font8x16 video.vga surface = .ok after ∧
      ShowsText font8x16 video.vga (lastStored pVRAM history) after := by
  rw [displayStart_eq] at visible
  rcases @updateTextmode_pixel font8x16 video.vga surface visible rows with
    ⟨after, drawn, shows⟩
  refine ⟨after, ?_, ?_⟩
  · unfold drawFrame
    rw [if_pos text]
    exact drawn
  · intro plane first x left y top column inRow row inGlyph
    have text : plane = textPlane := Fin.ext first
    have ch := holds.cellByte x y 0
    have attr := holds.cellByte x y 1
    rw [text, Nat.mul_comm 8 x, Nat.mul_comm 16 y,
      shows x left y top column inRow row inGlyph, ch, attr]
    exact hasColor_glyphColor inRow

theorem Holds.picture (holds : Holds pVRAM video history)
    (graphics : ¬ isTextMode video.vga)
    (packed : surface.pitch.toNat / 4 = 640) :
    ∃ after, drawFrame font8x16 video.vga surface = .ok after ∧
      ShowsPicture video.vga (lastStored pVRAM history) after := by
  rcases @updateGraphics_pixel video.vga surface with
    ⟨after, drawn, same, shows⟩
  refine ⟨after, ?_, ?_⟩
  · unfold drawFrame
    rw [if_neg graphics]
    exact drawn
  · intro x left y top plane column right inRow down inPixel
    have own : plane = planeOf x := Fin.ext column
    have color := shows x left y top right inRow down inPixel
    rw [Nat.mul_comm y 2, Nat.mul_comm x 2, holds.pixelByte] at color
    rw [own, Surface.pixel, same, packed, color]
    exact hasColor_argb _

/-- The last pixel of longer rows lies behind all that is drawn. -/
theorem packed_of_picture {ctx : VgaCtx} {stored : Fin 6 → Nat → Uint8}
    {pitch : Uint16} (graphics : ¬ isTextMode ctx)
    (rows : 640 ≤ pitch.toNat / 4)
    (shows : ∃ after, drawFrame font8x16 ctx ⟨pitch, fun _ => 1⟩ = .ok after ∧
      ShowsPicture ctx stored after) :
    pitch.toNat / 4 = 640 := by
  rcases shows with ⟨after, drawn, shows⟩
  by_contra longer
  unfold drawFrame at drawn
  rw [if_neg graphics] at drawn
  have last := shows 319 (by decide) 199 (by decide) (planeOf 319) rfl 1
    (by decide) 1 (by decide)
  have behind : 256000 ≤ (2 * 199 + 1) * (pitch.toNat / 4) + (2 * 319 + 1) := by
    omega
  rcases updateGraphics_behind drawn with ⟨same, kept⟩
  rw [Surface.pixel, same, kept _ behind] at last
  have one : (1 : Uint32).getLsbD 0 = true := by decide
  have lowest := (last 0).mp one
  rcases lowest with ⟨component, small, bit, _, place, -⟩
  omega

end Frames

/-- After every sequence of writes to the window and of accesses to the
registers, the next write returns, and a frame shows the bytes last stored,
each under the map mask of its time, whatever the surface showed before.  In
graphics mode that takes rows of 640 pixels. -/
theorem screen_shows_stores_iff (font8x16 : Font)
    {file : Option (List Uint8)} {pVRAM : Fin 6 → Nat → Uint8}
    {start final : Video} {steps : List ScreenStep} {responses : List Unit}
    {history : List GuestStore}
    (started : x86VgaInit file pVRAM = .ok start)
    (inside : ∀ guest ∈ steps, guest.Inside)
    (ran : run (observed screenStep recordStore) (start, []) steps =
      .ok (responses, (final, history)))
    {pitch : Uint16} (rows : 640 ≤ pitch.toNat / 4) :
    ((∀ pixels, ShowsStores font8x16 final.vga (lastStored pVRAM history)
        ⟨pitch, pixels⟩) ↔
      isTextMode final.vga ∨ pitch.toNat / 4 = 640) ∧
    ∀ address pData, (ScreenStep.write address pData).Inside →
      ∃ after, screenStep final (.write address pData) = .ok ((), after) := by
  have holds := holds_of_run (holds_start started) inside ran
  refine ⟨⟨?_, ?_⟩, fun _ _ => write_returns holds.apart⟩
  · intro shows
    by_cases text : isTextMode final.vga
    · exact Or.inl text
    · have graphics := Bool.of_not_eq_false (mt isTextMode_iff.mpr text)
      exact Or.inr (packed_of_picture text rows
        ((shows fun _ => 1).picture graphics))
  · intro condition pixels
    constructor
    · intro text visible
      exact holds.text (isTextMode_iff.mpr text) rows visible
    · intro graphics
      have picture : ¬ isTextMode final.vga := by
        rw [isTextMode_iff, graphics]
        decide
      exact holds.picture picture (condition.resolve_left picture)

/-- The entries 1 and 4 of the palette, then a character in their colors. -/
def coloredCharacter : List ScreenStep :=
  [.register (.outb 0x3C8 1), .register (.outb 0x3C9 0x3F),
    .register (.outb 0x3C9 0x20), .register (.outb 0x3C9 0x01),
    .register (.outb 0x3C8 4), .register (.outb 0x3C9 0x02),
    .register (.outb 0x3C9 0x03), .register (.outb 0x3C9 0x3C),
    .register (.outb 0x3C4 2), .register (.outb 0x3C5 1),
    .write 0xB8000 [0x41, 0x41]]

/-- A font of one character. -/
def oneCharacter : Font := fun ch _ => if ch = 0x41 then 0x80 else 0

theorem screen_shows_stores_iff_character :
    ∃ start final responses history after,
      x86VgaInit none (fun _ _ => 0x20) = .ok start ∧
        run (observed screenStep recordStore) (start, []) coloredCharacter =
          .ok (responses, (final, history)) ∧
        drawFrame oneCharacter final.vga ⟨2560, fun _ => 0⟩ = .ok after ∧
        (after.pixel 0 0).toNat = 0xFC8004 ∧
        (after.pixel 1 0).toNat = 0x080CF0 := by
  have seen :
      (x86VgaInit none (fun _ _ => 0x20) >>= fun start =>
        (run (observed screenStep recordStore) (start, [])
          coloredCharacter).map fun ran =>
            ((ran.2.1.vga.gcontReg.get 6).getLsbD 0, displayStart ran.2.1.vga,
              ran.2.2, (List.range 3).map (ran.2.1.vga.component 1),
              (List.range 3).map (ran.2.1.vga.component 4))) =
        .ok (false, 0, [⟨1, 0xB8000, [0x41, 0x41]⟩], [0x3F, 0x20, 0x01],
          [0x02, 0x03, 0x3C]) := by
    decide +kernel
  rcases Outcome.bind_eq_ok_iff.mp seen with ⟨start, started, ended⟩
  rcases Outcome.map_eq_ok_iff.mp ended with
    ⟨⟨responses, final, history⟩, ran, ends⟩
  have text : (final.vga.gcontReg.get 6).getLsbD 0 = false :=
    congrArg Prod.fst ends
  have top : displayStart final.vga = 0 :=
    congrArg (fun found => found.2.1) ends
  have written : history = [⟨1, 0xB8000, [0x41, 0x41]⟩] :=
    congrArg (fun found => found.2.2.1) ends
  have ink : (List.range 3).map (final.vga.component 1) =
      [0x3F, 0x20, 0x01] :=
    congrArg (fun found => found.2.2.2.1) ends
  have paper : (List.range 3).map (final.vga.component 4) =
      [0x02, 0x03, 0x3C] :=
    congrArg (fun found => found.2.2.2.2) ends
  have inside : ∀ guest ∈ coloredCharacter, guest.Inside := by
    simp [coloredCharacter, ScreenStep.Inside]
  have shown := screen_shows_stores_iff oneCharacter started inside ran
    (show 640 ≤ (2560 : Uint16).toNat / 4 by decide)
  rcases (shown.1.mpr (Or.inr (by decide)) fun _ => 0).text text
      (by rw [top]; decide) with ⟨after, drawn, shows⟩
  have left := shows 0 rfl 0 (by decide) 0 (by decide) 0 (by decide) 0
    (by decide)
  have right := shows 0 rfl 0 (by decide) 0 (by decide) 1 (by decide) 0
    (by decide)
  rw [top, written] at left right
  have first := @HasColor.toNat_eq final.vga _ 1 _ _ _ left ink
    (by decide) (by decide) (by decide)
  have second := @HasColor.toNat_eq final.vga _ 4 _ _ _ right paper
    (by decide) (by decide) (by decide)
  exact ⟨start, final, responses, history, after, started, ran, drawn,
    first, second⟩

/-- On a surface with rows of 1024 pixels, the picture is drawn in rows of
640. -/
theorem not_always_showsStores :
    ∃ start final responses history,
      x86VgaInit none (fun _ _ => 0) = .ok start ∧
        run (observed screenStep recordStore) (start, [])
            [.register (.outb 0x3CE 6), .register (.outb 0x3CF 1)] =
          .ok (responses, (final, history)) ∧
        ¬ ShowsStores oneCharacter final.vga
          (lastStored (fun _ _ => 0) history) ⟨4096, fun _ => 1⟩ := by
  have seen :
      (x86VgaInit none (fun _ _ => 0) >>= fun start =>
        (run (observed screenStep recordStore) (start, [])
          [.register (.outb 0x3CE 6), .register (.outb 0x3CF 1)]).map
            fun ran => (ran.2.1.vga.gcontReg.get 6).getLsbD 0) =
        .ok true := by
    decide +kernel
  rcases Outcome.bind_eq_ok_iff.mp seen with ⟨start, started, ended⟩
  rcases Outcome.map_eq_ok_iff.mp ended with
    ⟨⟨responses, final, history⟩, ran, graphics⟩
  refine ⟨start, final, responses, history, started, ran, ?_⟩
  intro shows
  have picture : ¬ isTextMode final.vga := by
    rw [isTextMode_iff, graphics]
    decide
  have packed := packed_of_picture picture (by decide)
    (shows.picture graphics)
  revert packed
  decide

end Kvmulate.Vga
