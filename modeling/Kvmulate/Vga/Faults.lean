import Kvmulate.Lib.Faults
import Kvmulate.Vga.Indices
import Kvmulate.Vga.Rom

/-!
# The memory accesses that fault

The ROM and the VGA window decode addresses whose distance from their base is
behind their last byte: those that run over the end of the window, and all from
4 GiB on.
-/

namespace Kvmulate.Vga

open DeviceLib

/-! ## The two devices -/

/-- The buffer that a read of the ROM is served from. -/
def romBuffer (video : Video) : Option (Nat → Uint8) :=
  if video.pci.rom.base = 0xC0000 then video.rom.pRAMData
  else video.rom.pROMData

/-- There is no buffer, or the access runs over its end. -/
def RomLeaves (buffer : Option (Nat → Uint8)) (base : Uint32)
    (address : Uint64) (len : Uint32) : Prop :=
  buffer = none ∨ ¬ romOffset base address + len.toNat ≤ romSize

/-- The access runs over the end of a plane. -/
def PlaneLeaves (address : Uint64) (len : Uint32) : Prop :=
  ¬ planeOffset gfxram.base address + len.toNat ≤ planeSize

/-- The ROM is found first. -/
def FindsRom (video : Video) (address : Uint64) : Prop :=
  (pcirom video.pci.rom.base).decodes address = true

def FindsRam (video : Video) (address : Uint64) : Prop :=
  ¬ FindsRom video address ∧ gfxramOfVideo.decodes address = true

def ReadOverruns (video : Video) (address : Uint64) (len : Uint32) :
    Prop :=
  FindsRom video address ∧ (len = 1 ∨ len = 2 ∨ len = 4) ∧
      RomLeaves (romBuffer video) video.pci.rom.base address len ∨
    FindsRam video address ∧ Natural len ∧ PlaneLeaves address len

/-- The ROM stores only at the base where it is shadowed, the VGA window only
to planes that are enabled. -/
def WriteOverruns (video : Video) (address : Uint64) (len : Uint32) :
    Prop :=
  FindsRom video address ∧ (len = 1 ∨ len = 2 ∨ len = 4) ∧
      video.pci.rom.base = 0xC0000 ∧
      RomLeaves video.rom.pRAMData video.pci.rom.base address len ∨
    FindsRam video address ∧ (len = 1 ∨ len = 2 ∨ len = 4) ∧
      PlaneLeaves address len ∧ AnyPlaneEnabled video.vga

section Handlers

variable {video : Video} {address : Uint64} {len : Uint32}
variable {pData : List Uint8} {base : Uint32} {width : Nat}

theorem faultsIff_loadBuffer {buffer : Option (Nat → Uint8)}
    {offset count : Nat} :
    FaultsIff (loadBuffer buffer offset count)
      (buffer = none ∨ ¬ offset + count ≤ romSize) := by
  cases buffer with
  | none => exact FaultsIff.faults.congr (by simp)
  | some bytes =>
      exact (FaultsIff.guard FaultsIff.returns).congr (by simp)

theorem faultsIff_storeBuffer {buffer : Option (Nat → Uint8)}
    {offset : Nat} {stored : List Uint8} :
    FaultsIff (storeBuffer buffer offset stored)
      (buffer = none ∨ ¬ offset + stored.length ≤ romSize) := by
  cases buffer with
  | none => exact FaultsIff.faults.congr (by simp)
  | some bytes =>
      exact (FaultsIff.guard FaultsIff.returns).congr (by simp)

theorem faultsIff_vgaromBiosRead :
    FaultsIff
      (vgaromBiosRead width video.pci.rom.base address video)
      (romBuffer video = none ∨
        ¬ romOffset video.pci.rom.base address + width / 8 ≤ romSize) :=
  faultsIff_loadBuffer.map

theorem faultsIff_vgaromBiosWrite {val : BitVec width} :
    FaultsIff (vgaromBiosWrite base address val video)
      (base = 0xC0000 ∧ (video.rom.pRAMData = none ∨
        ¬ romOffset base address + width / 8 ≤ romSize)) := by
  unfold vgaromBiosWrite
  have stored := @faultsIff_storeBuffer video.rom.pRAMData
    (romOffset base address) (leBytes (width / 8) val)
  rw [leBytes_length] at stored
  exact (FaultsIff.ite (fun _ => stored.map)
    fun _ => FaultsIff.returns).congr (by simp)

theorem faultsIff_readVga
    {read : Uint32 → Uint64 → VgaCtx → Outcome (BitVec width × VgaCtx)}
    {condition : Prop}
    (faults : FaultsIff (read base address video.vga) condition) :
    FaultsIff (readVga read base address video) condition :=
  faults.map

theorem faultsIff_writeVga
    {write : Uint32 → Uint64 → BitVec width → VgaCtx → Outcome VgaCtx}
    {val : BitVec width} {condition : Prop}
    (faults : FaultsIff (write base address val video.vga) condition) :
    FaultsIff (writeVga write base address val video) condition :=
  faults.map

/-! ## Dispatch -/

theorem getDevice_rom (rom : FindsRom video address) :
    Kvmulate.getDevice (mmioDevices video) address =
      some (pcirom video.pci.rom.base) :=
  List.find?_cons_of_pos rom

/-- Behind the ROM, the VGA window is looked at. -/
theorem getDevice_behind_rom (rom : ¬ FindsRom video address) :
    Kvmulate.getDevice (mmioDevices video) address =
      [gfxramOfVideo].find? fun dev => dev.decodes address := by
  have skipped : (pcirom video.pci.rom.base).decodes address = false :=
    Bool.eq_false_of_not_eq_true rom
  simp only [Kvmulate.getDevice, mmioDevices, mmioRegisterDevice,
    List.nil_append, List.cons_append, List.find?_cons, skipped]

theorem getDevice_ram (ram : FindsRam video address) :
    Kvmulate.getDevice (mmioDevices video) address =
      some gfxramOfVideo := by
  rw [getDevice_behind_rom ram.1]
  exact List.find?_cons_of_pos ram.2

theorem getDevice_none (rom : ¬ FindsRom video address)
    (ram : ¬ FindsRam video address) :
    Kvmulate.getDevice (mmioDevices video) address = none := by
  rw [getDevice_behind_rom rom]
  exact List.find?_cons_of_neg fun found => ram ⟨rom, found⟩

/-- Other widths are refused. -/
theorem mmioRead_of_not_natural {devices : List (MmioDevice Video)}
    {dev : MmioDevice Video}
    (found : Kvmulate.getDevice devices address = some dev)
    (odd : ¬ Natural len) :
    mmioRead devices address len video = .error .abort := by
  simp only [Natural, not_or] at odd
  unfold mmioRead
  simp only [found, if_neg odd.1, if_neg odd.2.1, if_neg odd.2.2.1,
    if_neg odd.2.2.2]

theorem mmioWrite_of_not_natural {devices : List (MmioDevice Video)}
    {dev : MmioDevice Video}
    (found : Kvmulate.getDevice devices address = some dev)
    (odd : ¬ Natural len) :
    mmioWrite devices address len pData video = .error .abort := by
  simp only [Natural, not_or] at odd
  unfold mmioWrite
  simp only [found, if_neg odd.1, if_neg odd.2.1, if_neg odd.2.2.1,
    if_neg odd.2.2.2]

theorem natural_of_narrow (narrow : len = 1 ∨ len = 2 ∨ len = 4) :
    Natural len := by
  rcases narrow with byte | word | long
  · exact .inl byte
  · exact .inr (.inl word)
  · exact .inr (.inr (.inl long))

theorem faultsIff_read_rom (rom : FindsRom video address) :
    FaultsIff (mmioRead (mmioDevices video) address len video)
      ((len = 1 ∨ len = 2 ∨ len = 4) ∧
        RomLeaves (romBuffer video) video.pci.rom.base address len) := by
  have found := getDevice_rom rom
  by_cases natural : Natural len
  · unfold mmioRead
    rw [found]
    rcases natural with rfl | rfl | rfl | rfl
    · exact (callRead_eq_fault_iff.trans faultsIff_vgaromBiosRead).trans
        (and_iff_right (Or.inl rfl)).symm
    · exact (callRead_eq_fault_iff.trans faultsIff_vgaromBiosRead).trans
        (and_iff_right (Or.inr (Or.inl rfl))).symm
    · exact (callRead_eq_fault_iff.trans faultsIff_vgaromBiosRead).trans
        (and_iff_right (Or.inr (Or.inr rfl))).symm
    · exact iff_of_false nofun fun both => absurd both.1 (by decide)
  · rw [mmioRead_of_not_natural found natural]
    exact iff_of_false nofun fun both => natural (natural_of_narrow both.1)

theorem faultsIff_read_ram (ram : FindsRam video address) :
    FaultsIff (mmioRead (mmioDevices video) address len video)
      (Natural len ∧ PlaneLeaves address len) := by
  have found := getDevice_ram ram
  by_cases natural : Natural len
  · refine FaultsIff.congr ?_ (and_iff_right natural).symm
    unfold mmioRead
    rw [found]
    rcases natural with rfl | rfl | rfl | rfl
    · exact callRead_eq_fault_iff.trans
        (faultsIff_readVga (readPlane_eq_fault_iff 8 _ _ _))
    · exact callRead_eq_fault_iff.trans
        (faultsIff_readVga (readPlane_eq_fault_iff 16 _ _ _))
    · exact callRead_eq_fault_iff.trans
        (faultsIff_readVga (readPlane_eq_fault_iff 32 _ _ _))
    · exact callRead_eq_fault_iff.trans
        (faultsIff_readVga (readPlane_eq_fault_iff 64 _ _ _))
  · rw [mmioRead_of_not_natural found natural]
    exact iff_of_false nofun fun both => natural both.1

theorem faultsIff_write_rom (rom : FindsRom video address) :
    FaultsIff (mmioWrite (mmioDevices video) address len pData video)
      ((len = 1 ∨ len = 2 ∨ len = 4) ∧ video.pci.rom.base = 0xC0000 ∧
        RomLeaves video.rom.pRAMData video.pci.rom.base address len) := by
  have found := getDevice_rom rom
  by_cases natural : Natural len
  · unfold mmioWrite
    rw [found]
    rcases natural with rfl | rfl | rfl | rfl
    · exact (callWrite_eq_fault_iff.trans faultsIff_vgaromBiosWrite).trans
        (and_iff_right (Or.inl rfl)).symm
    · exact (callWrite_eq_fault_iff.trans faultsIff_vgaromBiosWrite).trans
        (and_iff_right (Or.inr (Or.inl rfl))).symm
    · exact (callWrite_eq_fault_iff.trans faultsIff_vgaromBiosWrite).trans
        (and_iff_right (Or.inr (Or.inr rfl))).symm
    · exact iff_of_false nofun fun both => absurd both.1 (by decide)
  · rw [mmioWrite_of_not_natural found natural]
    exact iff_of_false nofun fun both => natural (natural_of_narrow both.1)

theorem faultsIff_write_ram (ram : FindsRam video address) :
    FaultsIff (mmioWrite (mmioDevices video) address len pData video)
      ((len = 1 ∨ len = 2 ∨ len = 4) ∧
        PlaneLeaves address len ∧ AnyPlaneEnabled video.vga) := by
  have found := getDevice_ram ram
  by_cases natural : Natural len
  · unfold mmioWrite
    rw [found]
    rcases natural with rfl | rfl | rfl | rfl
    · exact (callWrite_eq_fault_iff.trans (faultsIff_writeVga
        (writePlanes_eq_fault_iff _ _ _ _))).trans
          (and_iff_right (Or.inl rfl)).symm
    · exact (callWrite_eq_fault_iff.trans (faultsIff_writeVga
        (writePlanes_eq_fault_iff _ _ _ _))).trans
          (and_iff_right (Or.inr (Or.inl rfl))).symm
    · exact (callWrite_eq_fault_iff.trans (faultsIff_writeVga
        (writePlanes_eq_fault_iff _ _ _ _))).trans
          (and_iff_right (Or.inr (Or.inr rfl))).symm
    · exact iff_of_false nofun fun both => absurd both.1 (by decide)
  · rw [mmioWrite_of_not_natural found natural]
    exact iff_of_false nofun fun both => natural (natural_of_narrow both.1)

/-- Neither device is found. -/
theorem faultsIff_read :
    FaultsIff (mmioRead (mmioDevices video) address len video)
      (ReadOverruns video address len) := by
  by_cases rom : FindsRom video address
  · exact (faultsIff_read_rom rom).congr
      (by simp [ReadOverruns, FindsRam, rom])
  by_cases ram : FindsRam video address
  · exact (faultsIff_read_ram ram).congr (by simp [ReadOverruns, rom, ram])
  · unfold mmioRead
    rw [getDevice_none rom ram]
    exact iff_of_false nofun (by simp [ReadOverruns, rom, ram])

theorem faultsIff_write :
    FaultsIff (mmioWrite (mmioDevices video) address len pData video)
      (WriteOverruns video address len) := by
  by_cases rom : FindsRom video address
  · exact (faultsIff_write_rom rom).congr
      (by simp [WriteOverruns, FindsRam, rom])
  by_cases ram : FindsRam video address
  · exact (faultsIff_write_ram ram).congr
      (by simp [WriteOverruns, rom, ram])
  · unfold mmioWrite
    rw [getDevice_none rom ram]
    exact iff_of_false nofun (by simp [WriteOverruns, rom, ram])

/-! ## The indices of the registers -/

variable {next : Video} {result : Int}

/-- A store to the planes writes to no index. -/
theorem sameIndices_storeEnabled {ctx after : VgaCtx} {offset : Nat}
    {bytes : List Uint8} {planes : List (Fin 6)}
    (done : storeEnabled offset bytes ctx planes = .ok after) :
    SameIndices ctx after := by
  induction planes generalizing ctx with
  | nil =>
      cases done
      exact .refl after
  | cons plane rest inductionHypothesis =>
      rw [storeEnabled] at done
      rcases Outcome.of_ite_eq_ok done with ⟨-, enabled⟩ | ⟨-, passed⟩
      · obtain ⟨between, stored, later⟩ := Outcome.bind_eq_ok_iff.mp enabled
        obtain ⟨_, -, built⟩ := Outcome.bind_eq_ok_iff.mp stored
        cases built
        have same := inductionHypothesis later
        exact ⟨same.seq, same.gcont, same.crtc, same.write, same.read⟩
      · exact inductionHypothesis passed

/-- A read changes nothing. -/
theorem eq_of_read
    (done : mmioRead (mmioDevices video) address len video =
      .ok (result, pData, next)) : next = video := by
  have rom {width stored : Nat} {base : Uint32} {pData : List Uint8}
      (called : callRead (some (vgaromBiosRead width)) stored base address
        video = .ok (result, pData, next)) : next = video := by
    obtain ⟨⟨val, after⟩, read, built⟩ := Outcome.bind_eq_ok_iff.mp called
    cases built
    obtain ⟨bytes, -, kept⟩ := Outcome.bind_eq_ok_iff.mp read
    cases kept
    rfl
  have ram {width stored : Nat} {base : Uint32} {pData : List Uint8}
      (called : callRead (some (readVga (readPlane width))) stored base
        address video = .ok (result, pData, next)) : next = video := by
    obtain ⟨⟨val, after⟩, read, built⟩ := Outcome.bind_eq_ok_iff.mp called
    cases built
    obtain ⟨⟨other, vga⟩, plane, kept⟩ := Outcome.bind_eq_ok_iff.mp read
    cases kept
    obtain ⟨bytes, -, same⟩ := Outcome.bind_eq_ok_iff.mp plane
    cases same
    rfl
  by_cases isRom : FindsRom video address
  · by_cases natural : Natural len
    · unfold mmioRead at done
      rw [getDevice_rom isRom] at done
      rcases natural with rfl | rfl | rfl | rfl
      · exact rom done
      · exact rom done
      · exact rom done
      · cases done
    · rw [mmioRead_of_not_natural (getDevice_rom isRom) natural] at done
      cases done
  by_cases isRam : FindsRam video address
  · by_cases natural : Natural len
    · unfold mmioRead at done
      rw [getDevice_ram isRam] at done
      rcases natural with rfl | rfl | rfl | rfl
      · exact ram done
      · exact ram done
      · exact ram done
      · exact ram done
    · rw [mmioRead_of_not_natural (getDevice_ram isRam) natural] at done
      cases done
  · unfold mmioRead at done
    rw [getDevice_none isRom isRam] at done
    cases done
    rfl

theorem sameIndices_write
    (done : mmioWrite (mmioDevices video) address len pData video =
      .ok (result, next)) : SameIndices video.vga next.vga := by
  have rom {width : Nat} {base : Uint32}
      (called : callWrite (some (@vgaromBiosWrite width)) base address pData
        video = .ok (result, next)) : SameIndices video.vga next.vga := by
    obtain ⟨after, written, built⟩ := Outcome.bind_eq_ok_iff.mp called
    cases built
    rcases Outcome.of_ite_eq_ok written with ⟨-, stored⟩ | ⟨-, dropped⟩
    · obtain ⟨pRAMData, -, kept⟩ := Outcome.bind_eq_ok_iff.mp stored
      cases kept
      exact .refl _
    · cases dropped
      exact .refl _
  have ram {width : Nat} {base : Uint32}
      (called : callWrite (some (writeVga (@writePlanes width))) base
        address pData video = .ok (result, next)) :
      SameIndices video.vga next.vga := by
    obtain ⟨after, written, built⟩ := Outcome.bind_eq_ok_iff.mp called
    cases built
    obtain ⟨vga, stored, kept⟩ := Outcome.bind_eq_ok_iff.mp written
    cases kept
    exact sameIndices_storeEnabled stored
  by_cases isRom : FindsRom video address
  · by_cases natural : Natural len
    · unfold mmioWrite at done
      rw [getDevice_rom isRom] at done
      rcases natural with rfl | rfl | rfl | rfl
      · exact rom done
      · exact rom done
      · exact rom done
      · cases done
    · rw [mmioWrite_of_not_natural (getDevice_rom isRom) natural] at done
      cases done
  by_cases isRam : FindsRam video address
  · by_cases natural : Natural len
    · unfold mmioWrite at done
      rw [getDevice_ram isRam] at done
      rcases natural with rfl | rfl | rfl | rfl
      · exact ram done
      · exact ram done
      · exact ram done
      · cases done
        exact .refl _
    · rw [mmioWrite_of_not_natural (getDevice_ram isRam) natural] at done
      cases done
  · unfold mmioWrite at done
    rw [getDevice_none isRom isRam] at done
    cases done
    exact .refl _

end Handlers

end Kvmulate.Vga
