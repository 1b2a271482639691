import Kvmulate.Mmio
import Kvmulate.Vga.Context

/-!
# The VGA memory window

The handlers of `devices/x86/vga/ram.c`.  Reads deliver plane 0, writes go to
the planes that the map mask enables.
-/

namespace Kvmulate.Vga

open DeviceLib

/-- `address - pDev->base` in 64 bits. -/
def planeOffset (base : Uint32) (address : Uint64) : Nat :=
  (address - base.setWidth 64).toNat

/-- Load `count` bytes of plane 0. -/
def loadPlane (ctx : VgaCtx) (count offset : Nat) :
    Outcome (List Uint8) := do
  Outcome.guard (offset + count ≤ planeSize)
  pure ((List.range count).map fun index => ctx.pVRAM 0 (offset + index))

/-- Store bytes to a plane. -/
def storePlane (ctx : VgaCtx) (plane : Fin 6) (offset : Nat)
    (bytes : List Uint8) : Outcome VgaCtx := do
  Outcome.guard (offset + bytes.length ≤ planeSize)
  let stored : Nat → Uint8 := fun index =>
    if offset ≤ index ∧ index < offset + bytes.length then
      bytes.getD (index - offset) 0
    else ctx.pVRAM plane index
  pure { ctx with pVRAM := Function.update ctx.pVRAM plane stored }

/-- `NUM_PLANES` planes are written to. -/
def writtenPlanes : List (Fin 6) := [0, 1, 2, 3]

/-- `seq_reg[2] & (1<<p)` -/
def planeEnabled (ctx : VgaCtx) (plane : Fin 6) : Prop :=
  ctx.seqReg.get 2 &&& (1 <<< plane.val) ≠ 0

instance (ctx : VgaCtx) (plane : Fin 6) :
    Decidable (planeEnabled ctx plane) :=
  inferInstanceAs (Decidable (_ ≠ _))

/-- The register that enables the planes. -/
def mapMask (ctx : VgaCtx) : Uint8 :=
  ctx.seqReg.get 2

/-- The loop over the planes, for the planes that are left. -/
def storeEnabled (offset : Nat) (bytes : List Uint8) (ctx : VgaCtx) :
    List (Fin 6) → Outcome VgaCtx
  | [] => pure ctx
  | plane :: rest => do
      let next ←
        if planeEnabled ctx plane then storePlane ctx plane offset bytes
        else pure ctx
      storeEnabled offset bytes next rest

/-- `readb`, `readw`, `readl` and `readq`, which differ in their width. -/
def readPlane (width : Nat) (base : Uint32) (address : Uint64)
    (ctx : VgaCtx) : Outcome (BitVec width × VgaCtx) := do
  let bytes ← loadPlane ctx (width / 8) (planeOffset base address)
  pure (leValue width bytes, ctx)

/-- `writeb`, `writew` and `writel`. -/
def writePlanes {width : Nat} (base : Uint32) (address : Uint64)
    (val : BitVec width) (ctx : VgaCtx) : Outcome VgaCtx :=
  storeEnabled (planeOffset base address) (leBytes (width / 8) val) ctx
    writtenPlanes

def readb : Uint32 → Uint64 → VgaCtx → Outcome (Uint8 × VgaCtx) :=
  readPlane 8

def readw : Uint32 → Uint64 → VgaCtx → Outcome (Uint16 × VgaCtx) :=
  readPlane 16

def readl : Uint32 → Uint64 → VgaCtx → Outcome (Uint32 × VgaCtx) :=
  readPlane 32

def readq : Uint32 → Uint64 → VgaCtx → Outcome (Uint64 × VgaCtx) :=
  readPlane 64

def writeb : Uint32 → Uint64 → Uint8 → VgaCtx → Outcome VgaCtx :=
  writePlanes

def writew : Uint32 → Uint64 → Uint16 → VgaCtx → Outcome VgaCtx :=
  writePlanes

def writel : Uint32 → Uint64 → Uint32 → VgaCtx → Outcome VgaCtx :=
  writePlanes

/-- The body of `writeq` is disabled. -/
def writeq : Uint32 → Uint64 → Uint64 → VgaCtx → Outcome VgaCtx :=
  fun _ _ _ ctx => pure ctx

/-- The device that `x86_vga_ram_init` registers. -/
def gfxram : MmioDevice VgaCtx where
  base := 0xA0000
  mask := ~~~0x1FFFF
  readb := some readb
  readw := some readw
  readl := some readl
  readq := some readq
  writeb := some writeb
  writew := some writew
  writel := some writel
  writeq := some writeq

/-! ## When a handler leaves its plane -/

theorem loadPlane_eq_fault_iff (ctx : VgaCtx) (count offset : Nat) :
    loadPlane ctx count offset = .error .fault ↔
      ¬ offset + count ≤ planeSize := by
  unfold loadPlane
  by_cases fits : offset + count ≤ planeSize
  · rw [Outcome.guard_of fits]
    simp [fits]
  · rw [Outcome.guard_of_not fits]
    simp [fits]

theorem readPlane_eq_fault_iff (width : Nat) (base : Uint32)
    (address : Uint64) (ctx : VgaCtx) :
    readPlane width base address ctx = .error .fault ↔
      ¬ planeOffset base address + width / 8 ≤ planeSize := by
  rw [← loadPlane_eq_fault_iff ctx]
  unfold readPlane
  cases loadPlane ctx (width / 8) (planeOffset base address) with
  | error stop => simp
  | ok bytes => simp

theorem storePlane_of_fits (ctx : VgaCtx) (plane : Fin 6) {offset : Nat}
    {bytes : List Uint8} (fits : offset + bytes.length ≤ planeSize) :
    ∃ next, storePlane ctx plane offset bytes = .ok next ∧
      next.seqReg = ctx.seqReg := by
  unfold storePlane
  rw [Outcome.guard_of fits]
  exact ⟨_, rfl, rfl⟩

theorem storePlane_of_not_fits {ctx : VgaCtx} {plane : Fin 6}
    {offset : Nat} {bytes : List Uint8}
    (overruns : ¬ offset + bytes.length ≤ planeSize) :
    storePlane ctx plane offset bytes = .error .fault := by
  unfold storePlane
  rw [Outcome.guard_of_not overruns]
  rfl

/-- The loop leaves a plane exactly when the bytes do not fit and some plane is
enabled. -/
theorem storeEnabled_eq_fault_iff {offset : Nat} {bytes : List Uint8}
    (planes : List (Fin 6)) :
    ∀ ctx : VgaCtx,
      storeEnabled offset bytes ctx planes = .error .fault ↔
        ¬ offset + bytes.length ≤ planeSize ∧
          ∃ plane ∈ planes, planeEnabled ctx plane := by
  induction planes with
  | nil =>
      intro ctx
      simp [storeEnabled]
  | cons plane rest inductionHypothesis =>
      intro ctx
      by_cases enabled : planeEnabled ctx plane
      · by_cases fits : offset + bytes.length ≤ planeSize
        · obtain ⟨next, stored, same⟩ :=
            storePlane_of_fits ctx plane fits
          rw [storeEnabled, if_pos enabled, stored, Outcome.ok_bind,
            inductionHypothesis]
          simp [fits]
        · rw [storeEnabled, if_pos enabled, storePlane_of_not_fits fits,
            Outcome.error_bind]
          simp [fits, enabled]
      · rw [storeEnabled, if_neg enabled, Outcome.pure_eq_ok,
          Outcome.ok_bind, inductionHypothesis]
        simp [enabled]

/-- Some plane is written to. -/
def AnyPlaneEnabled (ctx : VgaCtx) : Prop :=
  ∃ plane ∈ writtenPlanes, planeEnabled ctx plane

theorem writePlanes_eq_fault_iff {width : Nat} (base : Uint32)
    (address : Uint64) (val : BitVec width) (ctx : VgaCtx) :
    writePlanes base address val ctx = .error .fault ↔
      ¬ planeOffset base address + width / 8 ≤ planeSize ∧
        AnyPlaneEnabled ctx := by
  have length : (leBytes (width / 8) val).length = width / 8 := by
    simp [leBytes]
  unfold writePlanes
  rw [storeEnabled_eq_fault_iff, length]
  rfl

/-! ## Accesses through the dispatcher -/

theorem callRead_eq_fault_iff {σ : Type} {width stored : Nat}
    {read : Uint32 → Uint64 → σ → Outcome (BitVec width × σ)}
    {base : Uint32} {address : Uint64} {state : σ} :
    callRead (some read) stored base address state = .error .fault ↔
      read base address state = .error .fault :=
  Outcome.bind_ok_eq_error_iff

theorem callWrite_eq_fault_iff {σ : Type} {width : Nat}
    {write : Uint32 → Uint64 → BitVec width → σ → Outcome σ}
    {base : Uint32} {address : Uint64} {pData : List Uint8} {state : σ} :
    callWrite (some write) base address pData state = .error .fault ↔
      write base address (leValue width (pData.take (width / 8))) state =
        .error .fault :=
  Outcome.bind_ok_eq_error_iff

/-- The widths of an access that are dispatched. -/
def Natural (len : Uint32) : Prop :=
  len = 1 ∨ len = 2 ∨ len = 4 ∨ len = 8

section Window

variable {devices : List (MmioDevice VgaCtx)} {address : Uint64}
variable {len : Uint32}

/-- An access inside one page stays in a plane exactly below 4 GiB. -/
theorem planeOffset_fits_iff
    (found : getDevice devices address = some gfxram)
    (positive : 0 < len.toNat)
    (page : address.toNat % 4096 + len.toNat ≤ 4096) :
    planeOffset gfxram.base address + len.toNat ≤ planeSize ↔
      address.toNat < 2 ^ 32 := by
  have contains := contains_iff_of_getDevice found
  have base : ((gfxram.base).setWidth 64 : Uint64).toNat = 0xA0000 := rfl
  have offset :
      planeOffset gfxram.base address =
        (2 ^ 64 - 0xA0000 + address.toNat) % 2 ^ 64 := by
    rw [planeOffset, BitVec.toNat_sub, base]
  have bound := address.isLt
  have lower :
      gfxram.Contains address ↔
        0xA0000 ≤ address.toNat ∧ address.toNat - 0xA0000 ≤ 0x1FFFF :=
    Iff.rfl
  have size : planeSize = 0x20000 := rfl
  rw [lower] at contains
  rw [offset, size]
  omega

theorem mmioRead_gfxram_eq_fault_iff (ctx : VgaCtx)
    (found : getDevice devices address = some gfxram)
    (natural : Natural len) :
    mmioRead devices address len ctx = .error .fault ↔
      ¬ planeOffset gfxram.base address + len.toNat ≤ planeSize := by
  unfold mmioRead
  rw [found]
  rcases natural with rfl | rfl | rfl | rfl
  · exact callRead_eq_fault_iff.trans (readPlane_eq_fault_iff 8 _ _ _)
  · exact callRead_eq_fault_iff.trans (readPlane_eq_fault_iff 16 _ _ _)
  · exact callRead_eq_fault_iff.trans (readPlane_eq_fault_iff 32 _ _ _)
  · exact callRead_eq_fault_iff.trans (readPlane_eq_fault_iff 64 _ _ _)

theorem callWrite_planes_eq_fault_iff {width : Nat} {base : Uint32}
    {pData : List Uint8} {ctx : VgaCtx} (narrow : len ≠ 8) :
    callWrite (some (@writePlanes width)) base address pData
        ctx = .error .fault ↔
      ¬ planeOffset base address + width / 8 ≤ planeSize ∧
        len ≠ 8 ∧ AnyPlaneEnabled ctx := by
  rw [callWrite_eq_fault_iff, writePlanes_eq_fault_iff]
  exact and_congr_right fun _ => (and_iff_right narrow).symm

theorem mmioWrite_gfxram_eq_fault_iff (ctx : VgaCtx)
    (pData : List Uint8)
    (found : getDevice devices address = some gfxram)
    (natural : Natural len) :
    mmioWrite devices address len pData ctx = .error .fault ↔
      ¬ planeOffset gfxram.base address + len.toNat ≤ planeSize ∧
        len ≠ 8 ∧ AnyPlaneEnabled ctx := by
  unfold mmioWrite
  rw [found]
  rcases natural with rfl | rfl | rfl | rfl
  · exact callWrite_planes_eq_fault_iff (by decide)
  · exact callWrite_planes_eq_fault_iff (by decide)
  · exact callWrite_planes_eq_fault_iff (by decide)
  · refine callWrite_eq_fault_iff.trans (iff_of_false ?_ ?_)
    · exact fun fault => nomatch fault
    · exact fun disabled => disabled.2.1 rfl

end Window

/-- For every list of devices, the device that serves an access contains its
address exactly if the address is below 4 GiB.  In the VGA window, an access
inside one page indexes a plane within its allocation exactly then, and the
handlers leave the plane exactly where they index it beyond. -/
theorem dispatched_inside_iff_below_4GiB (address : Uint64) :
    (∀ (σ : Type) (devices : List (MmioDevice σ)) (dev : MmioDevice σ),
      getDevice devices address = some dev →
        (dev.Contains address ↔ address.toNat < 2 ^ 32)) ∧
      ∀ (devices : List (MmioDevice VgaCtx)) (len : Uint32)
          (pData : List Uint8) (ctx : VgaCtx),
        getDevice devices address = some gfxram → Natural len →
          address.toNat % 4096 + len.toNat ≤ 4096 →
            (planeOffset gfxram.base address + len.toNat ≤ planeSize ↔
                address.toNat < 2 ^ 32) ∧
              (mmioRead devices address len ctx = .error .fault ↔
                ¬ address.toNat < 2 ^ 32) ∧
              (mmioWrite devices address len pData ctx =
                  .error .fault ↔
                ¬ address.toNat < 2 ^ 32 ∧ len ≠ 8 ∧
                  AnyPlaneEnabled ctx) := by
  constructor
  · intro σ devices dev found
    exact contains_iff_of_getDevice found
  · intro devices len pData ctx found natural page
    have positive : 0 < len.toNat := by
      rcases natural with rfl | rfl | rfl | rfl <;> decide
    have fits := planeOffset_fits_iff found positive page
    have read := mmioRead_gfxram_eq_fault_iff ctx found natural
    have written :=
      mmioWrite_gfxram_eq_fault_iff ctx pData found natural
    rw [fits] at read written
    exact ⟨fits, read, written⟩

/-- The first byte of the text screen. -/
theorem dispatched_inside_iff_below_4GiB_text :
    gfxram.Contains 0xB8000 ↔ (0xB8000 : Uint64).toNat < 2 ^ 32 :=
  (dispatched_inside_iff_below_4GiB 0xB8000).1 _ [gfxram] gfxram rfl

/-- Bits above the mask are not compared: the VGA window also answers at 32 GiB
above itself, where it indexes a plane far beyond its end. -/
theorem dispatched_not_always_inside :
    (¬ ∀ (σ : Type) (devices : List (MmioDevice σ)) (address : Uint64)
        (dev : MmioDevice σ),
      (∀ registered ∈ devices,
        registered.base &&& registered.mask = registered.base) →
        getDevice devices address = some dev → dev.Contains address) ∧
      ¬ ∀ (address : Uint64) (len : Uint32),
        getDevice [gfxram] address = some gfxram → Natural len →
          address.toNat % 4096 + len.toNat ≤ 4096 →
            planeOffset gfxram.base address + len.toNat ≤ planeSize := by
  have found : getDevice [gfxram] 0x8000A0000 = some gfxram := rfl
  constructor
  · intro always
    have aligned :
        ∀ registered ∈ [gfxram],
          registered.base &&& registered.mask = registered.base := by
      intro registered mem
      obtain rfl := List.mem_singleton.mp mem
      rfl
    have inside := always VgaCtx [gfxram] 0x8000A0000 gfxram aligned found
    exact absurd inside.2 (by decide)
  · intro always
    have fits :=
      always 0x8000A0000 1 found (Or.inl rfl) (by decide)
    exact absurd fits (by decide)

end Kvmulate.Vga
