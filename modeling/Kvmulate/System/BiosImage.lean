import Kvmulate.System.GuestMemory

/-!
# The BIOS image

Where the bytes of `seabios.rom` appear in the memory of the guest.  The file
is read to the start of its buffer, and the buffer is mapped as a whole.
-/

namespace Kvmulate.System

open DeviceLib

/-! ## What is read into the buffers -/

/-- The bytes that `read` delivers, once the length was taken from the end of
the file. -/
def delivered (host : HostCalls) (bytes : List Byte) : List Byte :=
  let flen : Uint32 := BitVec.ofNat 32 bytes.length
  let file : HostFile := ⟨bytes, bytes.length⟩
  ((file.seek host 0).read host (flen.signExtend 64).toNat).1

/-- The memory of the host, once a ROM was read. -/
def Rom.load (rom : Rom) (host : HostCalls) (memory : ByteMemory 64) :
    ByteMemory 64 :=
  match rom.file, rom.tmp with
  | some bytes, some tmp => memory.store tmp (delivered host bytes)
  | _, _ => memory

/-- The BIOS is read before the VGA BIOS. -/
def loadedMemory (seabios vgabios : Rom) (seaHost vgaHost : HostCalls)
    (memory : ByteMemory 64) : ByteMemory 64 :=
  vgabios.load vgaHost (seabios.load seaHost memory)

/-- The last bytes of the file are the last bytes below `top`. -/
def EndsAt (sys : Sys) (memory : ByteMemory 64) (bytes : List Byte)
    (top : Uint64) : Prop :=
  ∀ back byte, 1 ≤ back → back ≤ bytes.length →
    bytes[bytes.length - back]? = some byte →
      sys.GuestByte memory (top - BitVec.ofNat 64 back) byte

/-- `sys_create` returns, and the image ends at 1M and at 4G. -/
def EndsAtTops (kvm : Kvm) (seabios vgabios : Rom)
    (blocks : Fin 4 → Uint64) (uNumMegsRAM : Uint32)
    (seaHost vgaHost : HostCalls) (memory : ByteMemory 64)
    (bytes : List Byte) : Prop :=
  ∃ sys,
    sysCreate kvm seabios vgabios blocks uNumMegsRAM = .ok (some sys) ∧
      EndsAt sys (loadedMemory seabios vgabios seaHost vgaHost memory)
        bytes 0x100000 ∧
      EndsAt sys (loadedMemory seabios vgabios seaHost vgaHost memory)
        bytes 0x100000000

/-! ## What the host provides -/

/-- The distance from the buffer of a ROM is inside it. -/
def InBuffer (tmp addr : Uint64) : Prop := (addr - tmp).toNat < 0x20000

/-- The buffer of the BIOS starts at a page and is apart from the one of the
VGA BIOS. -/
structure BiosAllocated (seabios vgabios : Rom) (tmp : Uint64) : Prop where
  buffer : seabios.tmp = some tmp
  page : pageSize ∣ tmp.toNat
  apart : ∀ other, vgabios.tmp = some other →
    ∀ addr, InBuffer tmp addr → ¬ InBuffer other addr

/-- The VGA BIOS, if there is one, fits its buffer. -/
def VgaLoads (vgabios : Rom) : Prop :=
  ∀ bytes, vgabios.file = some bytes →
    ∃ tmp, readRom bytes vgabios.tmp = .ok tmp

/-! ## The two mappings of the BIOS -/

section Bios

variable {kvm : Kvm} {seabios vgabios : Rom} {blocks : Fin 4 → Uint64}
variable {uNumMegsRAM : Uint32} {sys : Sys} {bytes : List Byte}
variable {tmp : Uint64}

/-- The system once the BIOS is mapped twice. -/
def biosMapped (kvm : Kvm) (tmp : Uint64) : Sys :=
  (sysMap kvm (sysMap kvm Sys.cleared 0xE0000 tmp 0x20000).2
    0xFFFE0000 tmp 0x20000).2

/-- The system is created where the BIOS fits its buffer and the VGA BIOS
loads. -/
theorem sysCreate_eq_ok_iff (file : seabios.file = some bytes)
    (buffer : seabios.tmp = some tmp) :
    sysCreate kvm seabios vgabios blocks uNumMegsRAM = .ok (some sys) ↔
      readRom bytes (some tmp) = .ok tmp ∧
        ∃ result loaded,
          loadBiosVga kvm vgabios (biosMapped kvm tmp) =
              .ok (result, loaded) ∧
            mapRam kvm blocks loaded uNumMegsRAM = sys := by
  simp only [sysCreate, loadBios, file, buffer, Outcome.bind_eq_ok_iff,
    Outcome.pure_eq_ok, Except.ok.injEq, Prod.exists, Prod.mk.injEq]
  constructor
  · rintro ⟨_, _, ⟨read, reads, result, loaded, vga, rfl, rfl⟩, done⟩
    obtain rfl : tmp = read := Option.some.inj (readRom_eq_ok reads)
    refine ⟨reads, result, loaded, vga, ?_⟩
    rw [if_neg (by decide)] at done
    exact Option.some.inj (Except.ok.inj done)
  · rintro ⟨reads, result, loaded, vga, rfl⟩
    exact ⟨0, loaded, ⟨tmp, reads, result, loaded, vga, rfl, rfl⟩, rfl⟩

/-- What `sys_map` passes for the mapping below 1M. -/
def legacyRequest (tmp : Uint64) : MemRegion :=
  Sys.cleared.request 0xE0000 tmp 0x20000

/-- What it passes for the mapping below 4G. -/
def shadowRequest (kvm : Kvm) (tmp : Uint64) : MemRegion :=
  (sysMap kvm Sys.cleared 0xE0000 tmp 0x20000).2.request 0xFFFE0000 tmp
    0x20000

/-- KVM has both. -/
theorem bios_taken (takes : TakesSeparate kvm)
    (page : pageSize ∣ tmp.toNat) :
    legacyRequest tmp ∈ (biosMapped kvm tmp).memslots ∧
      shadowRequest kvm tmp ∈ (biosMapped kvm tmp).memslots := by
  have nothing : Mapped Sys.cleared 0 [] :=
    ⟨rfl, fun _ absent => absurd absent List.not_mem_nil,
      fun _ absent => absurd absent List.not_mem_nil⟩
  have legacyTaken :
      kvm Sys.cleared.memslots (Sys.cleared.request 0xE0000 tmp 0x20000) =
        true :=
    nothing.takes (by decide) takes (by decide) (by decide) page (by decide)
  have once :
      Mapped (sysMap kvm Sys.cleared 0xE0000 tmp 0x20000).2 1
        [⟨0xE0000, 0x20000⟩] :=
    nothing.sysMap (by decide)
  have shadowTaken :
      kvm (sysMap kvm Sys.cleared 0xE0000 tmp 0x20000).2.memslots
        ((sysMap kvm Sys.cleared 0xE0000 tmp 0x20000).2.request
          0xFFFE0000 tmp 0x20000) = true :=
    once.takes (by decide) takes (by decide) (by decide) page (by decide)
  exact ⟨mem_sysMap (request_mem_sysMap legacyTaken),
    request_mem_sysMap shadowTaken⟩

theorem mem_loadBiosVga {loaded : Sys} {result : Int} {mem : MemRegion}
    (vga : loadBiosVga kvm vgabios sys = .ok (result, loaded))
    (present : mem ∈ sys.memslots) : mem ∈ loaded.memslots := by
  rcases loadBiosVga_cases vga with ⟨-, rfl⟩ | ⟨-, _, -, rfl⟩
  · exact present
  · exact mem_sysMap present

theorem mem_mapRam {mem : MemRegion} (present : mem ∈ sys.memslots) :
    mem ∈ (mapRam kvm blocks sys uNumMegsRAM).memslots := by
  rw [memslots_mapRam]
  exact mem_mapUpper (mem_sysMap (mem_sysMap present))

/-! ## Where the bytes of the buffer appear -/

/-- The guest byte `back` bytes below the end of a mapping is the one `back`
bytes before the end of the buffer. -/
theorem guestByte_top_iff (disjoint : sys.Disjoint) {mem : MemRegion}
    {top : Uint64} {back : Nat} (present : mem ∈ sys.memslots)
    (start : mem.guestPhysAddr = top - 0x20000)
    (size : mem.memorySize = 0x20000) (host : mem.userspaceAddr = tmp)
    (high : 0x20000 ≤ top.toNat) (positive : 1 ≤ back)
    (inside : back ≤ 0x20000) (memory : ByteMemory 64) (byte : Byte) :
    sys.GuestByte memory (top - BitVec.ofNat 64 back) byte ↔
      memory (tmp + BitVec.ofNat 64 (0x20000 - back)) = byte := by
  have covers : mem.region.Covers (top - BitVec.ofNat 64 back) := by
    simp only [Region.Covers, Region.stop, MemRegion.region, start, size]
    bv_omega
  have place :
      top - BitVec.ofNat 64 back - mem.guestPhysAddr =
        BitVec.ofNat 64 (0x20000 - back) := by
    rw [start]
    bv_omega
  rw [disjoint.guestByte_iff present covers, place, host]

/-- The last bytes of the file are the last bytes of the buffer. -/
def EndsInBuffer (memory : ByteMemory 64) (tmp : Uint64)
    (bytes : List Byte) : Prop :=
  ∀ back byte, 1 ≤ back → back ≤ bytes.length →
    bytes[bytes.length - back]? = some byte →
      memory (tmp + BitVec.ofNat 64 (0x20000 - back)) = byte

theorem endsAt_iff (disjoint : sys.Disjoint) {mem : MemRegion}
    {top : Uint64} (present : mem ∈ sys.memslots)
    (start : mem.guestPhysAddr = top - 0x20000)
    (size : mem.memorySize = 0x20000) (host : mem.userspaceAddr = tmp)
    (high : 0x20000 ≤ top.toNat) (fits : bytes.length ≤ 0x20000)
    (memory : ByteMemory 64) :
    EndsAt sys memory bytes top ↔ EndsInBuffer memory tmp bytes := by
  simp only [EndsAt, EndsInBuffer]
  refine forall₅_congr fun back byte positive inside last => ?_
  exact guestByte_top_iff disjoint present start size host high positive
    (Nat.le_trans inside fits) memory byte

end Bios

/-! ## What the buffer holds -/

section Buffer

variable {seabios vgabios : Rom} {seaHost vgaHost host : HostCalls}
variable {bytes : List Byte} {tmp : Uint64}

theorem readRom_eq_ok_iff :
    readRom bytes (some tmp) = .ok tmp ↔
      (roundedLength (BitVec.ofNat 32 bytes.length)).toInt ≤ 0x20000 ∧
        min bytes.length
          ((BitVec.ofNat 32 bytes.length).signExtend 64).toNat ≤
            0x20000 := by
  simp only [readRom, Outcome.bind_eq_ok_iff, Outcome.assert_eq_ok_iff,
    Outcome.guard_eq_ok_iff, Outcome.pure_eq_ok, exists_const, and_true]

/-- No more is delivered than was asked for and than there is. -/
theorem delivered_length_le (host : HostCalls) (bytes : List Byte) :
    (delivered host bytes).length ≤
      min bytes.length
        ((BitVec.ofNat 32 bytes.length).signExtend 64).toNat := by
  have asked :=
    HostFile.read_length_le host
      ((⟨bytes, bytes.length⟩ : HostFile).seek host 0)
      ((BitVec.ofNat 32 bytes.length).signExtend 64).toNat
  refine Nat.le_min.mpr ⟨?_, asked⟩
  simp only [delivered, HostFile.read, List.length_take, List.length_drop,
    HostFile.seek_data]
  omega

/-- A file that was delivered as a whole and fits its buffer. -/
theorem length_le_of_readRom (whole : delivered host bytes = bytes)
    (read : readRom bytes (some tmp) = .ok tmp) :
    bytes.length ≤ 0x20000 := by
  have length := delivered_length_le host bytes
  rw [whole] at length
  exact Nat.le_trans length (readRom_eq_ok_iff.mp read).2

/-- The VGA BIOS leaves the other buffer alone. -/
theorem vgaLoad_of_inBuffer (allocated : BiosAllocated seabios vgabios tmp)
    (vga : VgaLoads vgabios) {addr : Uint64} (inside : InBuffer tmp addr)
    (memory : ByteMemory 64) :
    vgabios.load vgaHost memory addr = memory addr := by
  simp only [Rom.load]
  cases file : vgabios.file with
  | none => rfl
  | some image =>
      cases buffer : vgabios.tmp with
      | none => rfl
      | some other =>
          obtain ⟨loadedAt, read⟩ := vga image file
          rw [buffer] at read
          obtain rfl : other = loadedAt :=
            Option.some.inj (readRom_eq_ok read)
          have fits := (readRom_eq_ok_iff.mp read).2
          have length := delivered_length_le vgaHost image
          have apart := allocated.apart other buffer addr inside
          simp only [InBuffer] at apart
          exact ByteMemory.store_of_le (by omega)

/-- The buffer holds the file from its start, and what was there behind it. -/
theorem loadedMemory_buffer (allocated : BiosAllocated seabios vgabios tmp)
    (file : seabios.file = some bytes)
    (whole : delivered seaHost bytes = bytes) (vga : VgaLoads vgabios)
    {offset : Nat} (inside : offset < 0x20000) (memory : ByteMemory 64) :
    loadedMemory seabios vgabios seaHost vgaHost memory
        (tmp + BitVec.ofNat 64 offset) =
      (bytes[offset]?).getD (memory (tmp + BitVec.ofNat 64 offset)) := by
  have distance : (tmp + BitVec.ofNat 64 offset - tmp).toNat = offset := by
    bv_omega
  have inBuffer : InBuffer tmp (tmp + BitVec.ofNat 64 offset) := by
    rw [InBuffer, distance]
    exact inside
  rw [loadedMemory, vgaLoad_of_inBuffer allocated vga inBuffer]
  simp only [Rom.load, file, allocated.buffer, whole]
  exact ByteMemory.store_apply distance

/-- Whatever the buffer held, the image ends in it where it fills it. -/
theorem endsInBuffer_iff (allocated : BiosAllocated seabios vgabios tmp)
    (file : seabios.file = some bytes)
    (whole : delivered seaHost bytes = bytes) (vga : VgaLoads vgabios)
    (nonempty : 1 ≤ bytes.length) (fits : bytes.length ≤ 0x20000) :
    (∀ memory, EndsInBuffer
        (loadedMemory seabios vgabios seaHost vgaHost memory) tmp bytes) ↔
      bytes.length = 0x20000 := by
  constructor
  · intro ends
    by_contra short
    obtain ⟨last, found⟩ : ∃ last, bytes[bytes.length - 1]? = some last :=
      ⟨_, List.getElem?_eq_getElem (by omega)⟩
    have lastByte :=
      ends (fun _ => last + 1) 1 last (Nat.le_refl 1) nonempty found
    rw [loadedMemory_buffer allocated file whole vga (by decide),
      List.getElem?_eq_none (by omega)] at lastByte
    simp at lastByte
  · intro full memory back byte positive inside found
    rw [full] at found
    rw [loadedMemory_buffer allocated file whole vga (by omega), found]
    rfl

theorem readRom_of_full (full : bytes.length = 0x20000) :
    readRom bytes (some tmp) = .ok tmp := by
  rw [readRom_eq_ok_iff, full]
  decide

end Buffer

/-! ## The image in the memory of the guest -/

section Image

variable {kvm : Kvm} {seabios vgabios : Rom} {blocks : Fin 4 → Uint64}
variable {uNumMegsRAM : Uint32} {seaHost vgaHost : HostCalls}
variable {bytes : List Byte} {tmp : Uint64}

theorem exists_loadBiosVga (vga : VgaLoads vgabios) (sys : Sys) :
    ∃ result loaded, loadBiosVga kvm vgabios sys = .ok (result, loaded) := by
  simp only [loadBiosVga]
  cases file : vgabios.file with
  | none => exact ⟨_, _, rfl⟩
  | some image =>
      obtain ⟨other, read⟩ := vga image file
      simp only [read, Outcome.ok_bind, Outcome.pure_eq_ok]
      exact ⟨_, _, rfl⟩

/-- The two mappings show the end of the buffer. -/
theorem endsAt_of_created {sys : Sys} (takes : TakesSeparate kvm)
    (rejects : RejectsOverlaps kvm)
    (allocated : BiosAllocated seabios vgabios tmp)
    (file : seabios.file = some bytes)
    (whole : delivered seaHost bytes = bytes)
    (created : sysCreate kvm seabios vgabios blocks uNumMegsRAM =
      .ok (some sys)) (memory : ByteMemory 64) :
    (EndsAt sys memory bytes 0x100000 ↔ EndsInBuffer memory tmp bytes) ∧
      (EndsAt sys memory bytes 0x100000000 ↔
        EndsInBuffer memory tmp bytes) := by
  obtain ⟨legacy, shadow⟩ := bios_taken takes allocated.page
  have disjoint := disjoint_sysCreate rejects created
  obtain ⟨read, result, loaded, vgaLoaded, rfl⟩ :=
    (sysCreate_eq_ok_iff file allocated.buffer).mp created
  have fits := length_le_of_readRom whole read
  have low : (0xE0000 : Uint64) = 0x100000 - 0x20000 := by decide
  have high : (0xFFFE0000 : Uint64) = 0x100000000 - 0x20000 := by decide
  constructor
  · exact endsAt_iff disjoint
      (mem_mapRam (mem_loadBiosVga vgaLoaded legacy)) low rfl rfl
      (by decide) fits memory
  · exact endsAt_iff disjoint
      (mem_mapRam (mem_loadBiosVga vgaLoaded shadow)) high rfl rfl
      (by decide) fits memory

/-- The system is created where the file fits its buffer. -/
theorem endsAtTops_iff (takes : TakesSeparate kvm)
    (rejects : RejectsOverlaps kvm)
    (allocated : BiosAllocated seabios vgabios tmp)
    (file : seabios.file = some bytes)
    (whole : delivered seaHost bytes = bytes) (vga : VgaLoads vgabios)
    (memory : ByteMemory 64) :
    EndsAtTops kvm seabios vgabios blocks uNumMegsRAM seaHost vgaHost memory
        bytes ↔
      readRom bytes (some tmp) = .ok tmp ∧
        EndsInBuffer
          (loadedMemory seabios vgabios seaHost vgaHost memory) tmp
          bytes := by
  constructor
  · rintro ⟨sys, created, ends, -⟩
    have shows :=
      endsAt_of_created takes rejects allocated file whole created
        (loadedMemory seabios vgabios seaHost vgaHost memory)
    exact ⟨((sysCreate_eq_ok_iff file allocated.buffer).mp created).1,
      shows.1.mp ends⟩
  · rintro ⟨read, ends⟩
    obtain ⟨result, loaded, vgaLoaded⟩ :=
      @exists_loadBiosVga kvm _ vga (biosMapped kvm tmp)
    have created :=
      (@sysCreate_eq_ok_iff _ _ _ blocks uNumMegsRAM _ _ _ file
        allocated.buffer).mpr ⟨read, result, loaded, vgaLoaded, rfl⟩
    have shows :=
      endsAt_of_created takes rejects allocated file whole created
        (loadedMemory seabios vgabios seaHost vgaHost memory)
    exact ⟨_, created, shows.1.mpr ends, shows.2.mpr ends⟩

/-- For every image of at least sixteen bytes, whatever memory was there
before: the image ends at the top of both mappings exactly where it fills its
buffer of 128 kilobytes. -/
theorem bios_ends_at_tops_iff (takes : TakesSeparate kvm)
    (rejects : RejectsOverlaps kvm)
    (allocated : BiosAllocated seabios vgabios tmp)
    (file : seabios.file = some bytes) (long : 16 ≤ bytes.length)
    (whole : delivered seaHost bytes = bytes) (vga : VgaLoads vgabios) :
    (∀ memory, EndsAtTops kvm seabios vgabios blocks uNumMegsRAM seaHost
        vgaHost memory bytes) ↔
      bytes.length = 0x20000 := by
  simp only [endsAtTops_iff takes rejects allocated file whole vga]
  constructor
  · intro ends
    have fits := length_le_of_readRom whole (ends fun _ => 0).1
    exact (endsInBuffer_iff allocated file whole vga (by omega) fits).mp
      fun memory => (ends memory).2
  · intro full memory
    refine ⟨readRom_of_full full, ?_⟩
    exact (endsInBuffer_iff allocated file whole vga (by omega)
      (Nat.le_of_eq full)).mpr full memory

end Image

/-! ## An image of sixteen bytes -/

/-- Nothing but a jump at the reset vector. -/
def resetImage : List Byte :=
  [0xEA, 0x5B, 0xE0, 0x00, 0xF0, 0x30, 0x36, 0x2F, 0x32, 0x33, 0x2F, 0x39,
    0x39, 0x00, 0xFC, 0x00]

def resetRom : Rom := ⟨some resetImage, some 0x7F0000000000⟩

theorem allocated_resetRom :
    BiosAllocated resetRom noRom 0x7F0000000000 where
  buffer := rfl
  page := by decide
  apart := by
    intro other buffer
    cases buffer

theorem vgaLoads_noRom : VgaLoads noRom := by
  intro bytes file
  cases file

theorem bios_ends_at_tops_iff_resetImage :
    (∀ memory, EndsAtTops checksOverlaps resetRom noRom (fun _ => 0)
        mainMegs HostCalls.full HostCalls.full memory resetImage) ↔
      resetImage.length = 0x20000 :=
  bios_ends_at_tops_iff takesSeparate_checksOverlaps
    rejectsOverlaps_checksOverlaps allocated_resetRom rfl (by decide)
    (by decide) vgaLoads_noRom

/-- The image lies at the start of its buffer, and the reset vector shows what
the buffer held before. -/
theorem bios_not_always_at_tops :
    (∃ sys, sysCreate checksOverlaps resetRom noRom (fun _ => 0) mainMegs =
        .ok (some sys)) ∧
      ¬ ∀ memory, EndsAtTops checksOverlaps resetRom noRom (fun _ => 0)
          mainMegs HostCalls.full HostCalls.full memory resetImage := by
  refine ⟨⟨_, rfl⟩, fun always => ?_⟩
  have whole : delivered HostCalls.full resetImage = resetImage := by decide
  have ends : ∀ memory, EndsInBuffer
      (loadedMemory resetRom noRom HostCalls.full HostCalls.full memory)
      0x7F0000000000 resetImage := by
    intro memory
    exact ((endsAtTops_iff takesSeparate_checksOverlaps
      rejectsOverlaps_checksOverlaps allocated_resetRom rfl whole
      vgaLoads_noRom memory).mp (always memory)).2
  have full :=
    (endsInBuffer_iff allocated_resetRom rfl whole vgaLoads_noRom
      (by decide) (by decide)).mp ends
  exact absurd full (by decide)

end Kvmulate.System
