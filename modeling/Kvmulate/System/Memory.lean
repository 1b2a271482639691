import Kvmulate.Types
import Kvmulate.Lib.Region

/-!
# The memory of the guest

The part of `sys_create` in `system.c` that maps memory: `load_bios`,
`load_bios_vga` and `map_ram`.  What KVM answers to a region and where the
host puts a buffer are inputs.
-/

namespace Kvmulate.System

open DeviceLib

/-- `struct kvm_userspace_memory_region` -/
structure MemRegion where
  slot : Uint32
  guestPhysAddr : Uint64
  memorySize : Uint64
  userspaceAddr : Uint64
  flags : Uint32
deriving DecidableEq, Repr

def MemRegion.region (mem : MemRegion) : Region 64 :=
  ⟨mem.guestPhysAddr, mem.memorySize⟩

/-- Whether KVM takes a region next to the ones that it has. -/
abbrev Kvm := List MemRegion → MemRegion → Bool

/-- The fields of `sys_t` that describe the memory, `phys_lowmem`, and all
regions passed to KVM: those that it took and those that it rejected. -/
structure Sys where
  currmemslot : Int
  ramsize : Uint64
  physLowmem : Fin 2 → Uint64
  requested : List MemRegion
  memslots : List MemRegion
  rejected : List MemRegion

/-- After `calloc`. -/
def Sys.cleared : Sys where
  currmemslot := 0
  ramsize := 0
  physLowmem := fun _ => 0
  requested := []
  memslots := []
  rejected := []

/-- A file and the buffer that `posix_memalign` returns for it.  Either may be
missing. -/
structure Rom where
  file : Option (List Byte)
  tmp : Option Uint64

/-- What `sys_map` passes to KVM. -/
def Sys.request (sys : Sys) (daddr saddr size : Uint64) : MemRegion where
  slot := BitVec.ofInt 32 (sys.currmemslot + 1)
  guestPhysAddr := daddr
  memorySize := size
  userspaceAddr := saddr
  flags := 0

def sysMap (kvm : Kvm) (sys : Sys) (daddr saddr size : Uint64) :
    Int × Sys :=
  let mem := sys.request daddr saddr size
  let asked :=
    { sys with
      currmemslot := sys.currmemslot + 1
      requested := sys.requested ++ [mem] }
  if kvm sys.memslots mem then
    (0, { asked with memslots := sys.memslots ++ [mem] })
  else (-1, { asked with rejected := sys.rejected ++ [mem] })

/-- The RAM from 1M on, in two parts around a hole below 4G if it is
large. -/
def mapUpper (kvm : Kvm) (blocks : Fin 4 → Uint64) (sys : Sys)
    (ramEnd : Uint64) : Sys :=
  if ramEnd ≤ 0xE0000000 then
    (sysMap kvm sys 0x100000 (blocks 2) (ramEnd - 0x100000)).2
  else
    let below :=
      (sysMap kvm sys 0x100000 (blocks 2) (0xE0000000 - 0x100000)).2
    (sysMap kvm below 0x100000000 (blocks 3) (ramEnd - 0xE0100000)).2

/-- The size of the RAM in bytes. -/
def ramBytes (uNumMegsRAM : Uint32) : Uint64 :=
  uNumMegsRAM.setWidth 64 * 1024 * 1024

/-- `blocks` are the results of `mmap`, call by call. -/
def mapRam (kvm : Kvm) (blocks : Fin 4 → Uint64) (sys : Sys)
    (uNumMegsRAM : Uint32) : Sys :=
  let ramEnd := ramBytes uNumMegsRAM
  let low := (sysMap kvm sys 0x0 (blocks 0) 0xA0000).2
  let area := (sysMap kvm low 0xC0000 (blocks 1) 0x20000).2
  { mapUpper kvm blocks area ramEnd with
    ramsize := ramEnd
    physLowmem := fun index =>
      if index.val = 0 then blocks 0 else blocks 1 }

/-- The length of a file as an `int`, rounded up to whole pages. -/
def roundedLength (flen : Uint32) : Uint32 :=
  if flen &&& 0xFFF ≠ 0 then (flen &&& ~~~0xFFF) + 0x1000 else flen

/-- Read a ROM file into its buffer.  The length that was checked is the
rounded `int`; `read` is given the `int` as a `size_t` and stops at the end of
the file. -/
def readRom (bytes : List Byte) (tmp : Option Uint64) :
    Outcome Uint64 := do
  let flen : Uint32 := BitVec.ofNat 32 bytes.length
  Outcome.assert ((roundedLength flen).toInt ≤ 0x20000)
  match tmp with
  | none => .error .abort
  | some addr =>
      Outcome.guard
        (min bytes.length (flen.signExtend 64).toNat ≤ 0x20000)
      pure addr

def loadBiosVga (kvm : Kvm) (rom : Rom) (sys : Sys) :
    Outcome (Int × Sys) :=
  match rom.file with
  | none => pure (-1, sys)
  | some bytes => do
      let tmp ← readRom bytes rom.tmp
      pure (0, (sysMap kvm sys 0xC0000 tmp 0x20000).2)

def loadBios (kvm : Kvm) (seabios vgabios : Rom) (sys : Sys) :
    Outcome (Int × Sys) :=
  match seabios.file with
  | none => pure (-1, sys)
  | some bytes => do
      let tmp ← readRom bytes seabios.tmp
      let legacy := (sysMap kvm sys 0xE0000 tmp 0x20000).2
      let shadow := (sysMap kvm legacy 0xFFFE0000 tmp 0x20000).2
      -- The result of `load_bios_vga` is ignored.
      let (_, loaded) ← loadBiosVga kvm vgabios shadow
      pure (0, loaded)

/-- `sys_create` once KVM is set up.  It returns `NULL` only without the
BIOS. -/
def sysCreate (kvm : Kvm) (seabios vgabios : Rom)
    (blocks : Fin 4 → Uint64) (uNumMegsRAM : Uint32) :
    Outcome (Option Sys) := do
  let (result, sys) ← loadBios kvm seabios vgabios Sys.cleared
  if result ≠ 0 then pure none
  else pure (some (mapRam kvm blocks sys uNumMegsRAM))

/-! ## The regions asked for -/

/-- The regions passed to `sys_map`, without slot and host address. -/
def Sys.regions (sys : Sys) : List (Region 64) :=
  sys.requested.map MemRegion.region

/-- What `map_ram` maps from 1M on. -/
def upperRegions (ramEnd : Uint64) : List (Region 64) :=
  if ramEnd ≤ 0xE0000000 then [⟨0x100000, ramEnd - 0x100000⟩]
  else
    [⟨0x100000, 0xE0000000 - 0x100000⟩,
      ⟨0x100000000, ramEnd - 0xE0100000⟩]

def ramRegions (uNumMegsRAM : Uint32) : List (Region 64) :=
  ⟨0x0, 0xA0000⟩ :: ⟨0xC0000, 0x20000⟩ ::
    upperRegions (ramBytes uNumMegsRAM)

/-- The regions that `map_ram` adds to those of the ROMs. -/
def mappedByMapRam (kvm : Kvm) (blocks : Fin 4 → Uint64) (sys : Sys)
    (uNumMegsRAM : Uint32) : List (Region 64) :=
  (mapRam kvm blocks sys uNumMegsRAM).regions.drop sys.regions.length

/-! ## The buffers that the host delivers -/

/-- The buffer of a ROM, which is allocated only for a file. -/
def Rom.buffer (rom : Rom) : List (Region 64) :=
  match rom.file, rom.tmp with
  | some _, some tmp => [⟨tmp, 0x20000⟩]
  | _, _ => []

/-- The buffers of the RAM from 1M on. -/
def upperBuffers (blocks : Fin 4 → Uint64) (ramEnd : Uint64) :
    List (Region 64) :=
  if ramEnd ≤ 0xE0000000 then [⟨blocks 2, ramEnd - 0x100000⟩]
  else
    [⟨blocks 2, 0xE0000000 - 0x100000⟩,
      ⟨blocks 3, ramEnd - 0xE0100000⟩]

/-- The buffers that hold anything but the RAM below 1M. -/
def otherBuffers (seabios vgabios : Rom) (blocks : Fin 4 → Uint64)
    (uNumMegsRAM : Uint32) : List (Region 64) :=
  seabios.buffer ++ vgabios.buffer ++
    upperBuffers blocks (ramBytes uNumMegsRAM)

def hostBuffers (seabios vgabios : Rom) (blocks : Fin 4 → Uint64)
    (uNumMegsRAM : Uint32) : List (Region 64) :=
  ⟨blocks 0, 0xA0000⟩ :: ⟨blocks 1, 0x20000⟩ ::
    otherBuffers seabios vgabios blocks uNumMegsRAM

section Requested

variable {kvm : Kvm} {sys : Sys} {daddr saddr size ramEnd : Uint64}
variable {blocks : Fin 4 → Uint64} {uNumMegsRAM : Uint32}

theorem toNat_ramBytes (uNumMegsRAM : Uint32) :
    (ramBytes uNumMegsRAM).toNat = uNumMegsRAM.toNat * 1048576 := by
  have bound := uNumMegsRAM.isLt
  have kilo : (1024 : Uint64).toNat = 1024 := rfl
  unfold ramBytes
  simp only [BitVec.toNat_mul, BitVec.toNat_setWidth, kilo]
  omega

/-- The region is passed on under the next slot, and KVM takes it or it is
rejected. -/
theorem sysMap_cases (kvm : Kvm) (sys : Sys) (daddr saddr size : Uint64) :
    (sysMap kvm sys daddr saddr size).2.currmemslot =
        sys.currmemslot + 1 ∧
      (sysMap kvm sys daddr saddr size).2.requested =
        sys.requested ++ [sys.request daddr saddr size] ∧
      (kvm sys.memslots (sys.request daddr saddr size) = true ∧
          (sysMap kvm sys daddr saddr size).2.memslots =
            sys.memslots ++ [sys.request daddr saddr size] ∧
          (sysMap kvm sys daddr saddr size).2.rejected =
            sys.rejected ∨
        (sysMap kvm sys daddr saddr size).2.rejected =
          sys.rejected ++ [sys.request daddr saddr size]) := by
  unfold sysMap
  by_cases taken : kvm sys.memslots (sys.request daddr saddr size)
  · rw [if_pos taken]
    exact ⟨rfl, rfl, Or.inl ⟨taken, rfl, rfl⟩⟩
  · rw [if_neg taken]
    exact ⟨rfl, rfl, Or.inr rfl⟩

theorem sysMap_regions :
    (sysMap kvm sys daddr saddr size).2.regions =
      sys.regions ++ [⟨daddr, size⟩] := by
  unfold Sys.regions
  rw [(sysMap_cases kvm sys daddr saddr size).2.1, List.map_append]
  rfl

theorem mapUpper_regions :
    (mapUpper kvm blocks sys ramEnd).regions =
      sys.regions ++ upperRegions ramEnd := by
  unfold mapUpper upperRegions
  by_cases small : ramEnd ≤ 0xE0000000
  · rw [if_pos small, if_pos small, sysMap_regions]
  · rw [if_neg small, if_neg small, sysMap_regions, sysMap_regions,
      List.append_assoc]
    rfl

theorem mapRam_regions :
    (mapRam kvm blocks sys uNumMegsRAM).regions =
      sys.regions ++ ramRegions uNumMegsRAM := by
  have upper :
      (mapRam kvm blocks sys uNumMegsRAM).regions =
        (mapUpper kvm blocks
          (sysMap kvm (sysMap kvm sys 0x0 (blocks 0) 0xA0000).2 0xC0000
            (blocks 1) 0x20000).2 (ramBytes uNumMegsRAM)).regions := rfl
  rw [upper, mapUpper_regions, sysMap_regions, sysMap_regions,
    List.append_assoc, List.append_assoc]
  rfl

theorem mappedByMapRam_eq :
    mappedByMapRam kvm blocks sys uNumMegsRAM =
      ramRegions uNumMegsRAM := by
  unfold mappedByMapRam
  rw [mapRam_regions, List.drop_left]

end Requested

end Kvmulate.System
