import Kvmulate.Vga.RomWindow

/-!
# The image behind the expansion ROM

The window never reaches the base at which the handlers turn to the copy in
RAM, so that writes are dropped and reads come from the file.
-/

namespace Kvmulate.Vga

open DeviceLib Kvmulate.Io Kvmulate.Pci

/-- The buffer holds the file, and the window is where a run can move it. -/
structure RomHolds (image : List Uint8) (video : Video) : Prop where
  data : video.rom.pROMData = some (padded image)
  window : ∃ writes, RomTracks video.pci writes

section Step

variable {image : List Uint8} {video next : Video}

theorem RomHolds.base_ne (holds : RomHolds image video) :
    video.pci.rom.base ≠ 0xC0000 := by
  obtain ⟨writes, tracks⟩ := holds.window
  rw [tracks.base]
  exact windowBase_ne writes

/-- The handlers of an access change neither the buffer nor the bus. -/
structure KeepsRom (video next : Video) : Prop where
  pci : next.pci = video.pci
  rom : next.rom = video.rom

theorem RomHolds.of_keeps (holds : RomHolds image video)
    (keeps : KeepsRom video next) : RomHolds image next := by
  constructor
  · rw [keeps.rom]
    exact holds.data
  · rw [keeps.pci]
    exact holds.window

/-- A write handler that keeps the ROM. -/
def WriteKeeps {width : Nat} (video : Video) (base : Uint32)
    (handler :
      Option (Uint32 → Uint64 → BitVec width → Video → Outcome Video)) :
    Prop :=
  ∀ write, handler = some write → ∀ address val next,
    write base address val video = .ok next → KeepsRom video next

/-- A read handler that keeps the ROM. -/
def ReadKeeps {width : Nat} (video : Video) (base : Uint32)
    (handler :
      Option (Uint32 → Uint64 → Video → Outcome (BitVec width × Video))) :
    Prop :=
  ∀ read, handler = some read → ∀ address val next,
    read base address video = .ok (val, next) → KeepsRom video next

theorem WriteKeeps.call {width : Nat} {base : Uint32} {address : Uint64}
    {handler :
      Option (Uint32 → Uint64 → BitVec width → Video → Outcome Video)}
    {pData : List Uint8} {result : Int}
    (keeps : WriteKeeps video base handler)
    (called : callWrite handler base address pData video =
      .ok (result, next)) : KeepsRom video next := by
  cases handler with
  | none => cases called
  | some write =>
      obtain ⟨after, written, built⟩ := Outcome.bind_eq_ok_iff.mp called
      cases built
      exact keeps write rfl _ _ _ written

theorem ReadKeeps.call {width stored : Nat} {base : Uint32}
    {address : Uint64}
    {handler :
      Option (Uint32 → Uint64 → Video → Outcome (BitVec width × Video))}
    {pData : List Uint8} {result : Int}
    (keeps : ReadKeeps video base handler)
    (called : callRead handler stored base address video =
      .ok (result, pData, next)) : KeepsRom video next := by
  cases handler with
  | none => cases called
  | some read =>
      obtain ⟨⟨val, after⟩, delivered, built⟩ :=
        Outcome.bind_eq_ok_iff.mp called
      cases built
      exact keeps read rfl _ _ _ delivered

/-- All handlers of a device keep the ROM. -/
structure DeviceKeeps (video : Video) (dev : MmioDevice Video) : Prop where
  readb : ReadKeeps video dev.base dev.readb
  readw : ReadKeeps video dev.base dev.readw
  readl : ReadKeeps video dev.base dev.readl
  readq : ReadKeeps video dev.base dev.readq
  writeb : WriteKeeps video dev.base dev.writeb
  writew : WriteKeeps video dev.base dev.writew
  writel : WriteKeeps video dev.base dev.writel
  writeq : WriteKeeps video dev.base dev.writeq

/-- Accesses to devices that keep the ROM keep it. -/
theorem keepsRom_mmioWrite {devices : List (MmioDevice Video)}
    {address : Uint64} {len : Uint32} {pData : List Uint8} {result : Int}
    (keeps : ∀ dev ∈ devices, DeviceKeeps video dev)
    (done : mmioWrite devices address len pData video =
      .ok (result, next)) : KeepsRom video next := by
  unfold mmioWrite at done
  cases found : Kvmulate.getDevice devices address with
  | none =>
      rw [found] at done
      cases done
      exact ⟨rfl, rfl⟩
  | some dev =>
      rw [found] at done
      have device := keeps dev (List.mem_of_find?_eq_some found)
      rcases Outcome.of_ite_eq_ok done with ⟨-, byte⟩ | ⟨-, wide⟩
      · exact device.writeb.call byte
      rcases Outcome.of_ite_eq_ok wide with ⟨-, word⟩ | ⟨-, wider⟩
      · exact device.writew.call word
      rcases Outcome.of_ite_eq_ok wider with ⟨-, long⟩ | ⟨-, widest⟩
      · exact device.writel.call long
      rcases Outcome.of_ite_eq_ok widest with ⟨-, quad⟩ | ⟨-, aborted⟩
      · exact device.writeq.call quad
      · cases aborted

theorem keepsRom_mmioRead {devices : List (MmioDevice Video)}
    {address : Uint64} {len : Uint32} {pData : List Uint8} {result : Int}
    (keeps : ∀ dev ∈ devices, DeviceKeeps video dev)
    (done : mmioRead devices address len video =
      .ok (result, pData, next)) : KeepsRom video next := by
  unfold mmioRead at done
  cases found : Kvmulate.getDevice devices address with
  | none =>
      rw [found] at done
      cases done
      exact ⟨rfl, rfl⟩
  | some dev =>
      rw [found] at done
      have device := keeps dev (List.mem_of_find?_eq_some found)
      rcases Outcome.of_ite_eq_ok done with ⟨-, byte⟩ | ⟨-, wide⟩
      · exact device.readb.call byte
      rcases Outcome.of_ite_eq_ok wide with ⟨-, word⟩ | ⟨-, wider⟩
      · exact device.readw.call word
      rcases Outcome.of_ite_eq_ok wider with ⟨-, long⟩ | ⟨-, widest⟩
      · exact device.readl.call long
      rcases Outcome.of_ite_eq_ok widest with ⟨-, quad⟩ | ⟨-, aborted⟩
      · exact device.readq.call quad
      · cases aborted

/-! ## The two devices -/

/-- Writes to the ROM are dropped. -/
theorem vgaromBiosWrite_of_ne {width : Nat} {base : Uint32}
    (free : base ≠ 0xC0000) (address : Uint64) (val : BitVec width)
    (video : Video) :
    vgaromBiosWrite base address val video = .ok video :=
  if_neg free

theorem readKeeps_vgaromBiosRead (width : Nat) (base : Uint32) :
    ReadKeeps video base (some (vgaromBiosRead width)) := by
  rintro _ ⟨⟩ address val next delivered
  obtain ⟨bytes, -, built⟩ := Outcome.bind_eq_ok_iff.mp delivered
  cases built
  exact ⟨rfl, rfl⟩

theorem writeKeeps_vgaromBiosWrite (width : Nat) {base : Uint32}
    (free : base ≠ 0xC0000) :
    WriteKeeps video base (some (@vgaromBiosWrite width)) := by
  rintro _ ⟨⟩ address val next written
  rw [vgaromBiosWrite_of_ne free] at written
  cases written
  exact ⟨rfl, rfl⟩

theorem deviceKeeps_pcirom {base : Uint32} (free : base ≠ 0xC0000) :
    DeviceKeeps video (pcirom base) where
  readb := readKeeps_vgaromBiosRead 8 base
  readw := readKeeps_vgaromBiosRead 16 base
  readl := readKeeps_vgaromBiosRead 32 base
  readq := nofun
  writeb := writeKeeps_vgaromBiosWrite 8 free
  writew := writeKeeps_vgaromBiosWrite 16 free
  writel := writeKeeps_vgaromBiosWrite 32 free
  writeq := nofun

theorem readKeeps_readVga {width : Nat} {base : Uint32}
    (read :
      Uint32 → Uint64 → VgaCtx → Outcome (BitVec width × VgaCtx)) :
    ReadKeeps video base (some (readVga read)) := by
  rintro _ ⟨⟩ address val next delivered
  obtain ⟨⟨_, vga⟩, -, built⟩ := Outcome.bind_eq_ok_iff.mp delivered
  cases built
  exact ⟨rfl, rfl⟩

theorem writeKeeps_writeVga {width : Nat} {base : Uint32}
    (write : Uint32 → Uint64 → BitVec width → VgaCtx → Outcome VgaCtx) :
    WriteKeeps video base (some (writeVga write)) := by
  rintro _ ⟨⟩ address val next written
  obtain ⟨vga, -, built⟩ := Outcome.bind_eq_ok_iff.mp written
  cases built
  exact ⟨rfl, rfl⟩

theorem deviceKeeps_gfxram : DeviceKeeps video gfxramOfVideo where
  readb := readKeeps_readVga readb
  readw := readKeeps_readVga readw
  readl := readKeeps_readVga readl
  readq := readKeeps_readVga readq
  writeb := writeKeeps_writeVga writeb
  writew := writeKeeps_writeVga writew
  writel := writeKeeps_writeVga writel
  writeq := writeKeeps_writeVga writeq

theorem deviceKeeps_of_mem (free : video.pci.rom.base ≠ 0xC0000) :
    ∀ dev ∈ mmioDevices video, DeviceKeeps video dev := by
  intro dev member
  rcases List.mem_cons.mp member with rfl | ram
  · exact deviceKeeps_pcirom free
  · rw [List.mem_singleton.mp ram]
    exact deviceKeeps_gfxram

/-! ## One access -/

theorem RomHolds.access (holds : RomHolds image video)
    {access : VideoAccess} {response : VideoResponse}
    (done : videoAccess video access = .ok (response, next)) :
    RomHolds image next := by
  have keeps := deviceKeeps_of_mem holds.base_ne
  cases access with
  | port access =>
      obtain ⟨⟨data, pci⟩, called, built⟩ :=
        Outcome.bind_eq_ok_iff.mp done
      cases built
      obtain ⟨writes, tracks⟩ := holds.window
      exact ⟨holds.data, _, tracks.access called⟩
  | write address len pData =>
      obtain ⟨⟨result, after⟩, written, built⟩ :=
        Outcome.bind_eq_ok_iff.mp done
      cases built
      exact holds.of_keeps (keepsRom_mmioWrite keeps written)
  | read address len =>
      obtain ⟨⟨result, pData, after⟩, delivered, built⟩ :=
        Outcome.bind_eq_ok_iff.mp done
      cases built
      exact holds.of_keeps (keepsRom_mmioRead keeps delivered)

end Step

/-! ## The law -/

/-- An access of a natural width that starts in the window and does not run
over its end. -/
def InsideRom (base address len : Uint32) : Prop :=
  (len = 1 ∨ len = 2 ∨ len = 4) ∧
    address.toNat - base.toNat + len.toNat ≤ romSize

/-- Accesses that are dispatched to the ROM read the image at their distance
from the base, and write nothing. -/
structure ServesImage (image : List Uint8) (video : Video) : Prop where
  read : ∀ address len : Uint32,
    Kvmulate.getDevice (mmioDevices video) (address.setWidth 64) =
        some (pcirom video.pci.rom.base) →
      InsideRom video.pci.rom.base address len →
        mmioRead (mmioDevices video) (address.setWidth 64) len video =
          .ok (0,
            (List.range len.toNat).map fun index =>
              padded image
                (address.toNat - video.pci.rom.base.toNat + index),
            video)
  write : ∀ (address len : Uint32) (pData : List Uint8),
    Kvmulate.getDevice (mmioDevices video) (address.setWidth 64) =
        some (pcirom video.pci.rom.base) →
      InsideRom video.pci.rom.base address len →
        mmioWrite (mmioDevices video) (address.setWidth 64) len pData
          video = .ok (0, video)

section Law

variable {image : List Uint8} {video : Video} {address : Uint32}

/-- A decoded address is not below the base. -/
theorem romOffset_of_decoded {base : Uint32}
    (decoded : address &&& 0xFFFE0000 = base) :
    romOffset base (address.setWidth 64) =
      address.toNat - base.toNat := by
  have parts := toNat_and_add_and_not address 0xFFFE0000
  rw [decoded] at parts
  have bound := address.isLt
  have low := base.isLt
  unfold romOffset
  rw [BitVec.toNat_sub, BitVec.toNat_setWidth, BitVec.toNat_setWidth]
  omega

theorem RomHolds.callRead (holds : RomHolds image video) (width : Nat)
    (decoded : address &&& 0xFFFE0000 = video.pci.rom.base)
    (whole : 8 * (width / 8) = width)
    (inside : address.toNat - video.pci.rom.base.toNat + width / 8 ≤
      romSize) :
    callRead (some (vgaromBiosRead width)) (width / 8) video.pci.rom.base
        (address.setWidth 64) video =
      .ok (0,
        (List.range (width / 8)).map fun index =>
          padded image
            (address.toNat - video.pci.rom.base.toNat + index),
        video) := by
  have bytes :
      ((List.range (width / 8)).map fun index =>
        padded image
          (address.toNat - video.pci.rom.base.toNat + index)).length =
        width / 8 := by
    rw [List.length_map, List.length_range]
  have back :=
    @leBytes_leValue width
      ((List.range (width / 8)).map fun index =>
        padded image
          (address.toNat - video.pci.rom.base.toNat + index))
      (by rw [bytes]; omega)
  rw [bytes] at back
  simp only [Kvmulate.callRead, vgaromBiosRead]
  rw [if_neg holds.base_ne, holds.data, romOffset_of_decoded decoded]
  simp only [loadBuffer, Outcome.guard_of inside, Outcome.ok_bind,
    Outcome.pure_eq_ok, back]

theorem callWrite_vgaromBiosWrite (width : Nat) {base : Uint32}
    {place : Uint64} {pData : List Uint8} (free : base ≠ 0xC0000) :
    callWrite (some (@vgaromBiosWrite width)) base place pData video =
      .ok (0, video) := by
  simp only [callWrite, vgaromBiosWrite_of_ne free, Outcome.ok_bind,
    Outcome.pure_eq_ok]

theorem RomHolds.servesImage (holds : RomHolds image video) :
    ServesImage image video where
  read address len found inside := by
    obtain ⟨-, decoded⟩ := getDevice_eq_pcirom_iff.mp found
    obtain ⟨natural, room⟩ := inside
    unfold mmioRead
    rw [found]
    rcases natural with rfl | rfl | rfl
    · exact holds.callRead 8 decoded rfl room
    · exact holds.callRead 16 decoded rfl room
    · exact holds.callRead 32 decoded rfl room
  write address len pData found inside := by
    have free := holds.base_ne
    obtain ⟨natural, -⟩ := inside
    unfold mmioWrite
    rw [found]
    rcases natural with rfl | rfl | rfl
    · exact callWrite_vgaromBiosWrite 8 free
    · exact callWrite_vgaromBiosWrite 16 free
    · exact callWrite_vgaromBiosWrite 32 free

end Law

theorem romHolds_init {image : List Uint8} {pVRAM : Fin 6 → Nat → Uint8}
    {start : Video} (started : x86VgaInit (some image) pVRAM = .ok start) :
    RomHolds image start := by
  obtain ⟨pci, registered, loading⟩ := Outcome.bind_eq_ok_iff.mp started
  obtain ⟨rom, loaded, built⟩ := Outcome.bind_eq_ok_iff.mp loading
  obtain ⟨_, -, filled⟩ := Outcome.bind_eq_ok_iff.mp loaded
  obtain ⟨first, same, tracks⟩ := romTracks_start
  rw [registered] at same
  cases same
  cases built
  cases filled
  exact ⟨rfl, [], tracks⟩

/-- After every run of port and MMIO accesses, the buffer holds the file, the
window does not show the copy in RAM, and what is dispatched to the ROM reads
the file. -/
theorem rom_serves_image {image : List Uint8}
    {pVRAM : Fin 6 → Nat → Uint8} {start final : Video}
    {accesses : List VideoAccess} {responses : List VideoResponse}
    (started : x86VgaInit (some image) pVRAM = .ok start)
    (ran : run videoAccess start accesses = .ok (responses, final)) :
    final.rom.pROMData = some (padded image) ∧
      final.pci.rom.base ≠ 0xC0000 ∧ ServesImage image final := by
  have holds : RomHolds image final :=
    run_invariant (fun before done => before.access done)
      (romHolds_init started) ran
  exact ⟨holds.data, holds.base_ne, holds.servesImage⟩

/-- An image of two bytes, enabled, written to and read. -/
theorem rom_serves_image_enabled :
    ∃ start final responses,
      x86VgaInit (some [0x55, 0xAA]) (fun _ _ => 0) = .ok start ∧
        run videoAccess start
            [.port (.outl 0xCF8 0x80000030),
              .port (.outl 0xCFC 0xFFFC0001),
              .write 0xFFFC0000 1 [0x00], .read 0xFFFC0000 2] =
          .ok (responses, final) ∧
        responses.getLast? = some (.mmio 0 [0x55, 0xAA]) ∧
          ServesImage [0x55, 0xAA] final := by
  have seen :
      (x86VgaInit (some [0x55, 0xAA]) (fun _ _ => 0) >>= fun start =>
        (run videoAccess start
          [.port (.outl 0xCF8 0x80000030),
            .port (.outl 0xCFC 0xFFFC0001),
            .write 0xFFFC0000 1 [0x00], .read 0xFFFC0000 2]).map
              fun ran => ran.1.getLast?) =
        .ok (some (.mmio 0 [0x55, 0xAA])) := by
    decide +kernel
  obtain ⟨start, started, ended⟩ := Outcome.bind_eq_ok_iff.mp seen
  obtain ⟨⟨responses, final⟩, ran, last⟩ := Outcome.map_eq_ok_iff.mp ended
  exact ⟨start, final, responses, started, ran, last,
    (rom_serves_image started ran).2.2⟩

end Kvmulate.Vga
