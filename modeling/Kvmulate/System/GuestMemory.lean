import Kvmulate.Lib.ByteMemory
import Kvmulate.System.LowPointers

/-!
# The memory that the guest reads

KVM shows the guest the buffers that it took.  The guest reads the low memory
from its two buffers, except where KVM has the VGA BIOS and refused the second
one.
-/

namespace Kvmulate.System

open DeviceLib

/-- The guest reads the byte at the address from a region that KVM has. -/
def Sys.GuestByte (sys : Sys) (memory : ByteMemory 64) (addr : Uint64)
    (byte : Byte) : Prop :=
  ∃ mem ∈ sys.memslots, mem.region.Covers addr ∧
    memory (mem.userspaceAddr + (addr - mem.guestPhysAddr)) = byte

/-! ## The regions do not meet -/

section Disjoint

variable {kvm : Kvm} {sys : Sys} {daddr saddr size : Uint64}

/-- No two regions that KVM has meet. -/
def Sys.Disjoint (sys : Sys) : Prop :=
  sys.memslots.Pairwise fun first second =>
    ¬ first.region.Overlaps second.region

theorem Sys.Disjoint.sysMap (disjoint : sys.Disjoint)
    (rejects : RejectsOverlaps kvm) :
    (sysMap kvm sys daddr saddr size).2.Disjoint := by
  rw [Sys.Disjoint, memslots_sysMap]
  by_cases taken : kvm sys.memslots (sys.request daddr saddr size)
  · rw [if_pos taken, List.pairwise_append]
    refine ⟨disjoint, List.pairwise_singleton _ _, ?_⟩
    intro first firstMem second secondMem overlap
    obtain rfl := List.mem_singleton.mp secondMem
    have refused :=
      rejects sys.memslots (sys.request daddr saddr size)
        ⟨first, firstMem, overlap⟩
    rw [taken] at refused
    cases refused
  · rw [if_neg taken]
    exact disjoint

theorem disjoint_sysCreate {seabios vgabios : Rom}
    {blocks : Fin 4 → Uint64} {uNumMegsRAM : Uint32}
    (rejects : RejectsOverlaps kvm)
    (created : sysCreate kvm seabios vgabios blocks uNumMegsRAM =
      .ok (some sys)) : sys.Disjoint :=
  sysCreate_invariant List.Pairwise.nil
    (fun disjoint => disjoint.sysMap rejects) (fun disjoint => disjoint)
    created

/-- Only one region covers an address. -/
theorem Sys.Disjoint.eq_of_covers (disjoint : sys.Disjoint)
    {first second : MemRegion} {addr : Uint64}
    (firstMem : first ∈ sys.memslots) (secondMem : second ∈ sys.memslots)
    (inFirst : first.region.Covers addr)
    (inSecond : second.region.Covers addr) : first = second := by
  have symmetric : Std.Symm fun first second : MemRegion =>
      ¬ first.region.Overlaps second.region :=
    ⟨fun _ _ apart overlap => apart overlap.symm⟩
  by_contra different
  exact disjoint.forall firstMem secondMem different
    ⟨addr, inFirst, inSecond⟩

/-- What the guest reads in a region that KVM has. -/
theorem Sys.Disjoint.guestByte_iff (disjoint : sys.Disjoint)
    {mem : MemRegion} {addr : Uint64} (present : mem ∈ sys.memslots)
    (covers : mem.region.Covers addr) (memory : ByteMemory 64)
    (byte : Byte) :
    sys.GuestByte memory addr byte ↔
      memory (mem.userspaceAddr + (addr - mem.guestPhysAddr)) = byte := by
  constructor
  · rintro ⟨other, otherMem, otherCovers, reads⟩
    obtain rfl :=
      disjoint.eq_of_covers otherMem present otherCovers covers
    exact reads
  · intro reads
    exact ⟨mem, present, covers, reads⟩

end Disjoint

/-! ## The buffers of the host -/

/-- The part of the memory of the host behind a region. -/
def MemRegion.host (mem : MemRegion) : Region 64 :=
  ⟨mem.userspaceAddr, mem.memorySize⟩

/-- What `mmap` and `posix_memalign` return are buffers that do not meet. -/
structure BuffersApart (buffers : List (Region 64)) : Prop where
  inhabited : ∀ buffer ∈ buffers, buffer.Inhabited
  disjoint : buffers.Pairwise fun first second =>
    ¬ first.Overlaps second

/-- A system that `sys_create` returned, where KVM and the host do as they
document. -/
structure Created (kvm : Kvm) (seabios vgabios : Rom)
    (blocks : Fin 4 → Uint64) (uNumMegsRAM : Uint32) (sys : Sys) :
    Prop where
  takes : TakesSeparate kvm
  rejects : RejectsOverlaps kvm
  allocated : Allocated vgabios blocks
  apart : BuffersApart (hostBuffers seabios vgabios blocks uNumMegsRAM)
  returned : sysCreate kvm seabios vgabios blocks uNumMegsRAM =
    .ok (some sys)

/-- The memory of the host, where the buffers of the RAM below 1M hold
`lowMem`. -/
def Sys.hostMemory (sys : Sys) (lowMem : LowMem) (memory : ByteMemory 64) :
    ByteMemory 64 :=
  (memory.store (sys.physLowmem LowMem.areaIndex) lowMem.area.toList).store
    (sys.physLowmem LowMem.ramIndex) lowMem.ram.toList

/-- The guest reads the byte at the address, whatever `memory` holds outside
the two buffers. -/
def Sys.Reads (sys : Sys) (memory : ByteMemory 64) (lowMem : LowMem)
    (addr : Uint64) (byte : Byte) : Prop :=
  sys.GuestByte (sys.hostMemory lowMem memory) addr byte

/-- From one content of the low memory to the other, the guest gets the bytes
from `start` on, and no other byte changes for it. -/
def Sys.Delivers (sys : Sys) (memory : ByteMemory 64)
    (lowMem next : LowMem) (start : Nat) (bytes : List Byte) : Prop :=
  ∀ addr byte, sys.Reads memory next addr byte ↔
    if start ≤ addr.toNat ∧ addr.toNat < start + bytes.length then
      bytes[addr.toNat - start]? = some byte
    else sys.Reads memory lowMem addr byte

/-! ## Distances in a buffer -/

section Distance

variable {region : Region 64} {point : Uint64}

theorem distance_lt_of_covers (covers : region.Covers point) :
    (point - region.addr).toNat < region.size.toNat := by
  have low := covers.1
  have high := covers.2
  simp only [Region.stop] at high
  bv_omega

theorem distance_of_offset (base : Uint64) {offset : Nat}
    (inside : offset < 2 ^ 64) :
    (base + BitVec.ofNat 64 offset - base).toNat = offset := by
  bv_omega

theorem covers_iff_distance_lt (some : region.Inhabited) :
    region.Covers point ↔
      (point - region.addr).toNat < region.size.toNat := by
  constructor
  · exact distance_lt_of_covers
  · intro near
    have ends := Region.inhabited_iff.mp some
    simp only [Region.stop] at ends
    simp only [Region.Covers, Region.stop]
    bv_omega

end Distance

/-! ## Addresses below 1M -/

section Narrow

variable {addr : Uint64}

/-- Below 1M, an address passes through the `uint32` of `sys_getLowMem`. -/
theorem toNat_narrow (below : addr.toNat < 0x100000) :
    (addr.setWidth 32).toNat = addr.toNat := by
  bv_omega

theorem wide_narrow (below : addr.toNat < 0x100000) :
    (addr.setWidth 32).setWidth 64 = addr := by
  bv_omega

end Narrow

/-! ## What the host holds -/

section Host

variable {sys : Sys} {lowMem : LowMem} {memory : ByteMemory 64}
variable {addr : Uint64} {byte : Byte} {offset : Nat}

theorem hostMemory_ram_iff (inside : offset < 0xA0000) :
    sys.hostMemory lowMem memory
        (sys.physLowmem 0 + BitVec.ofNat 64 offset) = byte ↔
      lowMem.ram.toList[offset]? = some byte := by
  refine ByteMemory.store_eq_iff (distance_of_offset _ (by omega)) ?_
  rw [Vector.length_toList]
  exact inside

theorem hostMemory_area_iff (inside : offset < 0x20000)
    (apart : 0xA0000 ≤ (sys.physLowmem 1 + BitVec.ofNat 64 offset -
      sys.physLowmem 0).toNat) :
    sys.hostMemory lowMem memory
        (sys.physLowmem 1 + BitVec.ofNat 64 offset) = byte ↔
      lowMem.area.toList[offset]? = some byte := by
  have beyond :
      sys.hostMemory lowMem memory
          (sys.physLowmem 1 + BitVec.ofNat 64 offset) =
        memory.store (sys.physLowmem 1) lowMem.area.toList
          (sys.physLowmem 1 + BitVec.ofNat 64 offset) :=
    ByteMemory.store_of_le (by rwa [Vector.length_toList])
  rw [beyond]
  refine ByteMemory.store_eq_iff (distance_of_offset _ (by omega)) ?_
  rw [Vector.length_toList]
  exact inside

theorem hostMemory_other
    (notRam : 0xA0000 ≤ (addr - sys.physLowmem 0).toNat)
    (notArea : 0x20000 ≤ (addr - sys.physLowmem 1).toNat) :
    sys.hostMemory lowMem memory addr = memory addr := by
  have beyondRam :
      sys.hostMemory lowMem memory addr =
        memory.store (sys.physLowmem 1) lowMem.area.toList addr :=
    ByteMemory.store_of_le (by rwa [Vector.length_toList])
  rw [beyondRam]
  exact ByteMemory.store_of_le (by rwa [Vector.length_toList])

end Host

/-! ## The buffers that KVM has -/

section Slots

variable {kvm : Kvm} {seabios vgabios : Rom} {blocks : Fin 4 → Uint64}
variable {uNumMegsRAM : Uint32} {sys loaded : Sys} {mem : MemRegion}
variable {ramEnd : Uint64} {result : Int}

theorem host_of_mem_mapUpper
    (present : mem ∈ (mapUpper kvm blocks sys ramEnd).memslots) :
    mem ∈ sys.memslots ∨ mem.host ∈ upperBuffers blocks ramEnd := by
  simp only [mapUpper] at present
  simp only [upperBuffers]
  by_cases small : ramEnd ≤ 0xE0000000
  · rw [if_pos small] at present ⊢
    rcases of_mem_sysMap present with before | rfl
    · exact Or.inl before
    · exact Or.inr List.mem_cons_self
  · rw [if_neg small] at present ⊢
    rcases of_mem_sysMap present with before | rfl
    · rcases of_mem_sysMap before with earlier | rfl
      · exact Or.inl earlier
      · exact Or.inr List.mem_cons_self
    · exact Or.inr (List.mem_cons_of_mem _ List.mem_cons_self)

/-- Behind every region that KVM has is one of the buffers of the RAM below 1M,
or another buffer. -/
theorem host_of_mem
    (created : sysCreate kvm seabios vgabios blocks uNumMegsRAM =
      .ok (some sys)) (present : mem ∈ sys.memslots) :
    mem.region = ⟨0x0, 0xA0000⟩ ∧ mem.userspaceAddr = blocks 0 ∨
      mem.region = ⟨0xC0000, 0x20000⟩ ∧ mem.userspaceAddr = blocks 1 ∨
        mem.host ∈ otherBuffers seabios vgabios blocks uNumMegsRAM := by
  obtain ⟨tmp, result, loaded, ⟨file, buffer⟩, vga, rfl⟩ :=
    sysCreate_cases created
  obtain ⟨bytes, file⟩ := Option.ne_none_iff_exists'.mp file
  have bios : seabios.buffer = [⟨tmp, 0x20000⟩] := by
    simp only [Rom.buffer, file, buffer]
  have isBios {region : Region 64} (same : region = ⟨tmp, 0x20000⟩) :
      region ∈ otherBuffers seabios vgabios blocks uNumMegsRAM := by
    rw [otherBuffers, bios, same]
    exact List.mem_append_left _ List.mem_cons_self
  have ofBios (mapped : mem ∈ (sysMap kvm
      (sysMap kvm Sys.cleared 0xE0000 tmp 0x20000).2 0xFFFE0000 tmp
        0x20000).2.memslots) :
      mem.host ∈ otherBuffers seabios vgabios blocks uNumMegsRAM := by
    rcases of_mem_sysMap mapped with before | rfl
    · rcases of_mem_sysMap before with nothing | rfl
      · exact absurd nothing List.not_mem_nil
      · exact isBios rfl
    · exact isBios rfl
  rw [memslots_mapRam] at present
  rcases host_of_mem_mapUpper present with below | upper
  · rcases of_mem_sysMap below with before | rfl
    · rcases of_mem_sysMap before with roms | rfl
      · refine Or.inr (Or.inr ?_)
        rcases loadBiosVga_cases vga with
          ⟨-, rfl⟩ | ⟨withFile, rom, allocated, rfl⟩
        · exact ofBios roms
        · rcases of_mem_sysMap roms with earlier | rfl
          · exact ofBios earlier
          · obtain ⟨image, withFile⟩ :=
              Option.ne_none_iff_exists'.mp withFile
            have vgaBios : vgabios.buffer = [⟨rom, 0x20000⟩] := by
              simp only [Rom.buffer, withFile, allocated]
            rw [otherBuffers, vgaBios]
            exact List.mem_append_left _
              (List.mem_append_right _ List.mem_cons_self)
      · exact Or.inl ⟨rfl, rfl⟩
    · exact Or.inr (Or.inl ⟨rfl, rfl⟩)
  · exact Or.inr (Or.inr (List.mem_append_right _ upper))

end Slots

/-! ## What the guest reads -/

/-- The addresses whose bytes the guest reads from the two buffers. -/
def ShowsLowMem (vgabios : Rom) (addr : Uint64) : Prop :=
  addr.toNat < 0xA0000 ∨
    vgabios.file = none ∧ 0xC0000 ≤ addr.toNat ∧ addr.toNat < 0xE0000

namespace Created

variable {kvm : Kvm} {seabios vgabios : Rom} {blocks : Fin 4 → Uint64}
variable {uNumMegsRAM : Uint32} {sys : Sys} {mem : MemRegion}
variable {memory : ByteMemory 64} {lowMem : LowMem} {addr : Uint64}
variable {byte : Byte}

theorem reads_of_pointsRight
    (created : Created kvm seabios vgabios blocks uNumMegsRAM sys)
    {pointer : LowPtr} (right : PointsRight sys (addr.setWidth 32))
    (points : sysGetLowMem (addr.setWidth 32) = .ok pointer)
    (below : addr.toNat < 0x100000) :
    sys.Reads memory lowMem addr byte ↔
      sys.hostMemory lowMem memory (sys.hostPointer pointer) = byte := by
  obtain ⟨mem, present, covers, same⟩ := (right pointer points).2
  rw [wide_narrow below] at covers same
  rw [Sys.Reads, same]
  exact (disjoint_sysCreate created.rejects created.returned).guestByte_iff
    present covers _ byte

theorem reads_low
    (created : Created kvm seabios vgabios blocks uNumMegsRAM sys)
    (low : addr.toNat < 0xA0000) :
    sys.Reads memory lowMem addr byte ↔
      lowMem.byteAt addr.toNat = some byte := by
  have narrow := @toNat_narrow addr (by omega)
  have small : (addr.setWidth 32).toNat < 0xA0000 := by
    rw [narrow]
    exact low
  rw [created.reads_of_pointsRight
    (pointsRight_of_low created.takes created.allocated created.returned
      small) (getLowMem_low small) (by omega), narrow]
  rw [LowMem.byteAt, if_pos low]
  exact hostMemory_ram_iff low

/-- The two buffers of the RAM below 1M do not meet. -/
theorem ram_apart_area
    (created : Created kvm seabios vgabios blocks uNumMegsRAM sys)
    {host : Uint64} (covers : (⟨blocks 1, 0x20000⟩ : Region 64).Covers host) :
    ¬ (⟨blocks 0, 0xA0000⟩ : Region 64).Covers host := by
  intro inRam
  have disjoint := created.apart.disjoint
  rw [hostBuffers] at disjoint
  exact (List.pairwise_cons.mp disjoint).1 _ List.mem_cons_self
    ⟨host, inRam, covers⟩

theorem reads_area
    (created : Created kvm seabios vgabios blocks uNumMegsRAM sys)
    (absent : vgabios.file = none) (above : 0xC0000 ≤ addr.toNat)
    (below : addr.toNat < 0xE0000) :
    sys.Reads memory lowMem addr byte ↔
      lowMem.byteAt addr.toNat = some byte := by
  have narrow := @toNat_narrow addr (by omega)
  have first : 0xC0000 ≤ (addr.setWidth 32).toNat := by
    rw [narrow]
    exact above
  have last : (addr.setWidth 32).toNat < 0xE0000 := by
    rw [narrow]
    exact below
  have offset := toNat_areaOffset first
  rw [narrow] at offset
  have inside : addr.toNat - 0xC0000 < 0x20000 := by omega
  obtain ⟨ram, area⟩ := physLowmem_of_created created.returned
  rw [created.reads_of_pointsRight
    (pointsRight_of_area created.takes created.allocated created.returned
      absent first last)
    (getLowMem_area (by omega) (by omega)) (by omega)]
  have covers : (⟨blocks 1, 0x20000⟩ : Region 64).Covers
      (blocks 1 + BitVec.ofNat 64 (addr.toNat - 0xC0000)) := by
    refine (covers_iff_distance_lt
      (created.apart.inhabited _ (List.mem_cons_of_mem _
        List.mem_cons_self))).mpr ?_
    simp only
    bv_omega
  have notRam := created.ram_apart_area covers
  rw [covers_iff_distance_lt
    (created.apart.inhabited _ List.mem_cons_self)] at notRam
  rw [LowMem.byteAt, if_neg (by omega), if_neg (by omega), ← offset]
  rw [← offset] at inside notRam
  refine hostMemory_area_iff inside ?_
  rw [ram, area]
  exact Nat.le_of_not_lt notRam

/-- The host addresses behind the other addresses are outside of the two
buffers. -/
theorem host_of_not_shown
    (created : Created kvm seabios vgabios blocks uNumMegsRAM sys)
    (hidden : ¬ ShowsLowMem vgabios addr) (present : mem ∈ sys.memslots)
    (covers : mem.region.Covers addr) :
    mem.host ∈ otherBuffers seabios vgabios blocks uNumMegsRAM := by
  simp only [ShowsLowMem, not_or, not_and] at hidden
  obtain ⟨notLow, notArea⟩ := hidden
  rcases host_of_mem created.returned present with
    ⟨region, -⟩ | ⟨region, host⟩ | other
  · have near := distance_lt_of_covers covers
    rw [region] at near
    bv_omega
  · have near := covers
    rw [region] at near
    have distance := distance_lt_of_covers near
    have start : 0xC0000 ≤ addr.toNat := near.1
    have stop : addr.toNat < 0xE0000 := by
      bv_omega
    have withFile : vgabios.file ≠ none := by
      intro absent
      exact notArea absent start stop
    have below : addr.toNat < 0x100000 := by omega
    have narrow := toNat_narrow below
    have covered :
        mem.region.Covers ((addr.setWidth 32).setWidth 64) := by
      rw [wide_narrow below]
      exact covers
    refine absurd host ?_
    exact (ne_area_of_covers created.takes created.rejects
      created.allocated created.returned withFile (by omega) (by omega)
      present covered).2
  · exact other

theorem reads_other
    (created : Created kvm seabios vgabios blocks uNumMegsRAM sys)
    (hidden : ¬ ShowsLowMem vgabios addr) :
    sys.Reads memory lowMem addr byte ↔
      sys.GuestByte memory addr byte := by
  obtain ⟨ram, area⟩ := physLowmem_of_created created.returned
  have same {mem : MemRegion} (present : mem ∈ sys.memslots)
      (covers : mem.region.Covers addr) :
      sys.hostMemory lowMem memory
          (mem.userspaceAddr + (addr - mem.guestPhysAddr)) =
        memory (mem.userspaceAddr + (addr - mem.guestPhysAddr)) := by
    have other := created.host_of_not_shown hidden present covers
    have disjoint := created.apart.disjoint
    rw [hostBuffers, List.pairwise_cons, List.pairwise_cons] at disjoint
    have inhabited := created.apart.inhabited
    have isOther : mem.host ∈
        hostBuffers seabios vgabios blocks uNumMegsRAM :=
      List.mem_cons_of_mem _ (List.mem_cons_of_mem _ other)
    have covered : mem.host.Covers
        (mem.userspaceAddr + (addr - mem.guestPhysAddr)) := by
      rw [covers_iff_distance_lt (inhabited _ isOther)]
      have near := distance_lt_of_covers covers
      have distance : mem.userspaceAddr + (addr - mem.guestPhysAddr) -
          mem.userspaceAddr = addr - mem.guestPhysAddr := by
        bv_omega
      simp only [MemRegion.host, distance]
      exact near
    have notRam := fun inRam => disjoint.1 _
      (List.mem_cons_of_mem _ other) ⟨_, inRam, covered⟩
    have notArea := fun inArea =>
      disjoint.2.1 _ other ⟨_, inArea, covered⟩
    rw [covers_iff_distance_lt (inhabited _ List.mem_cons_self)] at notRam
    rw [covers_iff_distance_lt
      (inhabited _ (List.mem_cons_of_mem _ List.mem_cons_self))] at notArea
    refine hostMemory_other ?_ ?_
    · rw [ram]
      exact Nat.le_of_not_lt notRam
    · rw [area]
      exact Nat.le_of_not_lt notArea
  constructor
  · rintro ⟨mem, present, covers, reads⟩
    exact ⟨mem, present, covers, (same present covers).symm.trans reads⟩
  · rintro ⟨mem, present, covers, reads⟩
    exact ⟨mem, present, covers, (same present covers).trans reads⟩

/-- The guest reads the two buffers where they are shown, and else what
`memory` holds. -/
theorem reads_iff
    (created : Created kvm seabios vgabios blocks uNumMegsRAM sys)
    (memory : ByteMemory 64) (lowMem : LowMem) (addr : Uint64)
    (byte : Byte) :
    sys.Reads memory lowMem addr byte ↔
      ShowsLowMem vgabios addr ∧ lowMem.byteAt addr.toNat = some byte ∨
        ¬ ShowsLowMem vgabios addr ∧ sys.GuestByte memory addr byte := by
  by_cases shown : ShowsLowMem vgabios addr
  · rw [and_iff_right shown, or_iff_left (fun hidden => hidden.1 shown)]
    rcases shown with low | ⟨absent, above, below⟩
    · exact created.reads_low low
    · exact created.reads_area absent above below
  · rw [and_iff_right shown, or_iff_right (fun both => shown both.1)]
    exact created.reads_other shown

/-- What is stored where the guest is shown the buffers is delivered. -/
theorem delivers_of_stored {next : LowMem} {start : Nat}
    {bytes : List Byte}
    (created : Created kvm seabios vgabios blocks uNumMegsRAM sys)
    (stored : lowMem.Stored next start bytes)
    (shown : ∀ addr : Uint64, start ≤ addr.toNat →
      addr.toNat < start + bytes.length → ShowsLowMem vgabios addr)
    (memory : ByteMemory 64) :
    sys.Delivers memory lowMem next start bytes := by
  intro addr byte
  rw [created.reads_iff, stored addr.toNat]
  by_cases inside :
      start ≤ addr.toNat ∧ addr.toNat < start + bytes.length
  · have here := shown addr inside.1 inside.2
    rw [if_pos inside, if_pos inside, and_iff_right here,
      or_iff_left (fun hidden => hidden.1 here)]
  · rw [if_neg inside, if_neg inside, ← created.reads_iff]

end Created

/-! ## What `main` asks for -/

def noRom : Rom := ⟨none, none⟩

/-- Buffers that are 4 gigabytes apart. -/
def mainBlocks (index : Fin 4) : Uint64 :=
  BitVec.ofNat 64 (0x7F0100000000 + 0x100000000 * index.val)

theorem apart_main :
    BuffersApart (hostBuffers shortRom noRom mainBlocks mainMegs) :=
  ⟨by decide, by decide⟩

theorem allocated_main : Allocated noRom mainBlocks where
  low := by decide
  area := by decide
  rom := by
    intro tmp absent
    cases absent
  apart := by decide

/-- Without a VGA BIOS, and KVM and the host as documented. -/
theorem exists_created :
    ∃ sys, Created checksOverlaps shortRom noRom mainBlocks mainMegs sys :=
  ⟨_, takesSeparate_checksOverlaps, rejectsOverlaps_checksOverlaps,
    allocated_main, apart_main, rfl⟩

end Kvmulate.System
