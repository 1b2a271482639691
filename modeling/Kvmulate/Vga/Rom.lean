import Kvmulate.Pci.Handler
import Kvmulate.Vga.Ram

/-!
# The VGA ROM

The image and the MMIO handlers of `devices/x86/vga/rom.c`, and the list of
MMIO devices that `x86_vga_init` builds.
-/

namespace Kvmulate.Vga

open DeviceLib Kvmulate.Io Kvmulate.Pci

/-! ## The image -/

/-- The size of `pROMData` and `pRAMData`. -/
def romSize : Nat := 0x20000

/-- `NULL` if the file could not be opened. -/
structure RomData where
  pROMData : Option (Nat → Uint8)
  pRAMData : Option (Nat → Uint8)

/-- The bytes of the file in a buffer that `calloc` cleared. -/
def padded (image : List Uint8) (offset : Nat) : Uint8 :=
  image.getD offset 0

/-- `load_bios`; the length of the file is not compared with that of the
buffer. -/
def loadBios (file : Option (List Uint8)) : Outcome RomData :=
  match file with
  | none => pure ⟨none, none⟩
  | some image => do
      Outcome.guard (image.length ≤ romSize)
      pure ⟨some (padded image), some (padded image)⟩

/-! ## The machine around the ROM -/

/-- The configuration spaces, the buffers of the ROM and the VGA memory. -/
structure Video where
  pci : PciSystem
  rom : RomData
  vga : VgaCtx

/-- `address - pDev->base` in 64 bits. -/
def romOffset (base : Uint32) (address : Uint64) : Nat :=
  (address - base.setWidth 64).toNat

def loadBuffer (buffer : Option (Nat → Uint8)) (offset count : Nat) :
    Outcome (List Uint8) :=
  match buffer with
  | none => .error .fault
  | some bytes => do
      Outcome.guard (offset + count ≤ romSize)
      pure ((List.range count).map fun index => bytes (offset + index))

def storeBuffer (buffer : Option (Nat → Uint8)) (offset : Nat)
    (stored : List Uint8) : Outcome (Option (Nat → Uint8)) :=
  match buffer with
  | none => .error .fault
  | some bytes => do
      Outcome.guard (offset + stored.length ≤ romSize)
      pure (some fun index =>
        if offset ≤ index ∧ index < offset + stored.length then
          stored.getD (index - offset) 0
        else bytes index)

/-- `vgarom_bios_writeb`, `vgarom_bios_writew` and `vgarom_bios_writel`, which
differ in their width. -/
def vgaromBiosWrite {width : Nat} (base : Uint32) (address : Uint64)
    (val : BitVec width) (video : Video) : Outcome Video :=
  if base = 0xC0000 then do
    let pRAMData ←
      storeBuffer video.rom.pRAMData (romOffset base address)
        (leBytes (width / 8) val)
    pure { video with rom := { video.rom with pRAMData := pRAMData } }
  else pure video

/-- `vgarom_bios_readb`, `vgarom_bios_readw` and `vgarom_bios_readl`. -/
def vgaromBiosRead (width : Nat) (base : Uint32) (address : Uint64)
    (video : Video) : Outcome (BitVec width × Video) := do
  let buffer :=
    if base = 0xC0000 then video.rom.pRAMData else video.rom.pROMData
  let bytes ← loadBuffer buffer (romOffset base address) (width / 8)
  pure (leValue width bytes, video)

/-- `ctx.pcirom`, with the base that `remap_bios` last gave it. -/
def pcirom (base : Uint32) : MmioDevice Video where
  base := base
  mask := ~~~0x1FFFF
  readb := some (vgaromBiosRead 8)
  readw := some (vgaromBiosRead 16)
  readl := some (vgaromBiosRead 32)
  readq := none
  writeb := some vgaromBiosWrite
  writew := some vgaromBiosWrite
  writel := some vgaromBiosWrite
  writeq := none

/-! ## The MMIO devices -/

def readVga {width : Nat}
    (read : Uint32 → Uint64 → VgaCtx → Outcome (BitVec width × VgaCtx))
    (base : Uint32) (address : Uint64) (video : Video) :
    Outcome (BitVec width × Video) := do
  let (val, vga) ← read base address video.vga
  pure (val, { video with vga := vga })

def writeVga {width : Nat}
    (write : Uint32 → Uint64 → BitVec width → VgaCtx → Outcome VgaCtx)
    (base : Uint32) (address : Uint64) (val : BitVec width)
    (video : Video) : Outcome Video := do
  let vga ← write base address val video.vga
  pure { video with vga := vga }

/-- `gfxram`, which works on the VGA context alone. -/
def gfxramOfVideo : MmioDevice Video where
  base := gfxram.base
  mask := gfxram.mask
  readb := gfxram.readb.map readVga
  readw := gfxram.readw.map readVga
  readl := gfxram.readl.map readVga
  readq := gfxram.readq.map readVga
  writeb := gfxram.writeb.map writeVga
  writew := gfxram.writew.map writeVga
  writel := gfxram.writel.map writeVga
  writeq := gfxram.writeq.map writeVga

/-- `x86_vga_rom_init` comes before `x86_vga_ram_init`. -/
def mmioDevices (video : Video) : List (MmioDevice Video) :=
  mmioRegisterDevice
    (mmioRegisterDevice [] (pcirom video.pci.rom.base)) gfxramOfVideo

/-- The state that `devices_register_all` leaves, over the bytes of the file
and the memory that `malloc` returned. -/
def x86VgaInit (file : Option (List Uint8)) (pVRAM : Fin 6 → Nat → Uint8) :
    Outcome Video := do
  let pci ← devicesRegisterAll
  let rom ← loadBios file
  pure ⟨pci, rom, VgaCtx.zeroed pVRAM⟩

/-! ## Accesses -/

/-- A port access to the PCI bus, or an MMIO access. -/
inductive VideoAccess where
  | port (access : IoAccess)
  | write (address : Uint64) (len : Uint32) (pData : List Uint8)
  | read (address : Uint64) (len : Uint32)
deriving DecidableEq, Repr

/-- The result of a port access, or that of an MMIO access with the bytes that
it stored for the guest. -/
inductive VideoResponse where
  | data (data : IoData)
  | mmio (result : Int) (pData : List Uint8)
deriving DecidableEq, Repr

def pciTable : IoTable PciSystem :=
  (ioRegisterHandler IoTable.empty pciHandler).2

def videoAccess : Call Video VideoAccess VideoResponse
  | video, .port access => do
      let (data, pci) ← ioAccess pciTable video.pci access
      pure (.data data, { video with pci := pci })
  | video, .write address len pData => do
      let (result, next) ←
        mmioWrite (mmioDevices video) address len pData video
      pure (.mmio result [], next)
  | video, .read address len => do
      let (result, pData, next) ←
        mmioRead (mmioDevices video) address len video
      pure (.mmio result pData, next)

end Kvmulate.Vga
