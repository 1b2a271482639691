import Kvmulate.LowMem
import Kvmulate.System.MemoryMap

/-!
# Pointers into the low memory

Whether the host byte that `sys_getLowMem` points to is the one that the guest
sees at the address.
-/

namespace Kvmulate.System

open DeviceLib

/-- The pointer that `sys_getLowMem` returns. -/
def Sys.hostPointer (sys : Sys) (pointer : LowPtr) : Uint64 :=
  sys.physLowmem pointer.index + BitVec.ofNat 64 pointer.offset

/-- The host address is that of the guest address in a region that KVM has. -/
def Sys.Backs (sys : Sys) (addr : Uint32) (host : Uint64) : Prop :=
  ∃ mem ∈ sys.memslots, mem.region.Covers (addr.setWidth 64) ∧
    host = mem.userspaceAddr + (addr.setWidth 64 - mem.guestPhysAddr)

/-- The video memory and the BIOS. -/
def Excluded (addr : Uint32) : Prop :=
  0xA0000 ≤ addr.toNat ∧ addr.toNat < 0xC0000 ∨
    0xE0000 ≤ addr.toNat ∧ addr.toNat < 0x100000

/-- Where `sys_getLowMem` returns, the address is none of those it should
refuse, and the guest sees the byte behind the pointer. -/
def PointsRight (sys : Sys) (addr : Uint32) : Prop :=
  ∀ pointer, sysGetLowMem addr = .ok pointer →
    ¬ Excluded addr ∧ sys.Backs addr (sys.hostPointer pointer)

/-! ## What the host provides -/

/-- KVM takes a region of whole pages in a slot of its own that meets none of
those it has. -/
def TakesSeparate (kvm : Kvm) : Prop :=
  ∀ memslots mem, mem.region.Inhabited → mem.region.Aligned pageSize →
    pageSize ∣ mem.userspaceAddr.toNat →
      (∀ taken ∈ memslots, taken.slot ≠ mem.slot) →
        (∀ taken ∈ memslots, ¬ taken.region.Overlaps mem.region) →
          kvm memslots mem = true

/-- The buffers of the RAM below 1M and of the VGA BIOS start at pages, and
the last two are different. -/
structure Allocated (vgabios : Rom) (blocks : Fin 4 → Uint64) : Prop where
  low : pageSize ∣ (blocks 0).toNat
  area : pageSize ∣ (blocks 1).toNat
  rom : ∀ tmp, vgabios.tmp = some tmp → pageSize ∣ tmp.toNat
  apart : vgabios.tmp ≠ some (blocks 1)

/-! ## What KVM has -/

section Taken

variable {kvm : Kvm} {sys : Sys} {daddr saddr size : Uint64} {count : Nat}
variable {regions : List (Region 64)} {mem : MemRegion}

theorem memslots_sysMap (kvm : Kvm) (sys : Sys)
    (daddr saddr size : Uint64) :
    (sysMap kvm sys daddr saddr size).2.memslots =
      if kvm sys.memslots (sys.request daddr saddr size) then
        sys.memslots ++ [sys.request daddr saddr size]
      else sys.memslots := by
  simp only [sysMap]
  by_cases taken : kvm sys.memslots (sys.request daddr saddr size)
  · rw [if_pos taken, if_pos taken]
  · rw [if_neg taken, if_neg taken]

/-- KVM keeps what it has. -/
theorem mem_sysMap (present : mem ∈ sys.memslots) :
    mem ∈ (sysMap kvm sys daddr saddr size).2.memslots := by
  rw [memslots_sysMap]
  by_cases taken : kvm sys.memslots (sys.request daddr saddr size)
  · rw [if_pos taken]
    exact List.mem_append_left _ present
  · rw [if_neg taken]
    exact present

/-- It has a region that it took. -/
theorem request_mem_sysMap
    (taken : kvm sys.memslots (sys.request daddr saddr size) = true) :
    sys.request daddr saddr size ∈
      (sysMap kvm sys daddr saddr size).2.memslots := by
  rw [memslots_sysMap, if_pos taken]
  exact List.mem_append_right _ List.mem_cons_self

/-- It gets nothing but the region. -/
theorem of_mem_sysMap
    (present : mem ∈ (sysMap kvm sys daddr saddr size).2.memslots) :
    mem ∈ sys.memslots ∨ mem = sys.request daddr saddr size := by
  rw [memslots_sysMap] at present
  by_cases taken : kvm sys.memslots (sys.request daddr saddr size)
  · rw [if_pos taken] at present
    rcases List.mem_append.mp present with before | last
    · exact Or.inl before
    · exact Or.inr (List.mem_singleton.mp last)
  · rw [if_neg taken] at present
    exact Or.inl present

/-- The slots and regions that KVM has are among those of the calls so far. -/
structure Mapped (sys : Sys) (count : Nat) (regions : List (Region 64)) :
    Prop where
  current : sys.currmemslot = count
  slots : ∀ mem ∈ sys.memslots, mem.slot.toNat ≤ count
  regions : ∀ mem ∈ sys.memslots, mem.region ∈ regions

theorem toNat_slot (small : count < 100) :
    (BitVec.ofInt 32 ((count : Int) + 1)).toNat = count + 1 := by
  rw [BitVec.toNat_ofInt]
  omega

theorem Mapped.sysMap (mapped : Mapped sys count regions)
    (small : count < 100) :
    Mapped (sysMap kvm sys daddr saddr size).2 (count + 1)
      (⟨daddr, size⟩ :: regions) where
  current := by
    rw [(sysMap_cases kvm sys daddr saddr size).1, mapped.current]
    rfl
  slots := by
    intro mem present
    rcases of_mem_sysMap present with before | last
    · have bound := mapped.slots mem before
      omega
    · subst last
      change (BitVec.ofInt 32 (sys.currmemslot + 1)).toNat ≤ count + 1
      rw [mapped.current, toNat_slot small]
  regions := by
    intro mem present
    rcases of_mem_sysMap present with before | last
    · exact List.mem_cons_of_mem _ (mapped.regions mem before)
    · subst last
      exact List.mem_cons_self

/-- KVM takes a region apart from those of the calls so far. -/
theorem Mapped.takes (mapped : Mapped sys count regions)
    (small : count < 100) (takes : TakesSeparate kvm)
    (some : (⟨daddr, size⟩ : Region 64).Inhabited)
    (aligned : (⟨daddr, size⟩ : Region 64).Aligned pageSize)
    (host : pageSize ∣ saddr.toNat)
    (apart : ∀ region ∈ regions, ¬ region.Overlaps ⟨daddr, size⟩) :
    kvm sys.memslots (sys.request daddr saddr size) = true := by
  refine takes sys.memslots (sys.request daddr saddr size) some aligned host
    ?_ ?_
  · intro taken present same
    have bound := mapped.slots taken present
    rw [same] at bound
    change (BitVec.ofInt 32 (sys.currmemslot + 1)).toNat ≤ count at bound
    rw [mapped.current, toNat_slot small] at bound
    omega
  · intro taken present
    exact apart taken.region (mapped.regions taken present)

end Taken

/-! ## What `sys_create` leaves -/

section Created

variable {kvm : Kvm} {vgabios : Rom} {blocks : Fin 4 → Uint64}
variable {sys loaded : Sys} {ramEnd tmp : Uint64} {mem : MemRegion}
variable {result : Int}

theorem mem_mapUpper (present : mem ∈ sys.memslots) :
    mem ∈ (mapUpper kvm blocks sys ramEnd).memslots := by
  simp only [mapUpper]
  by_cases small : ramEnd ≤ 0xE0000000
  · rw [if_pos small]
    exact mem_sysMap present
  · rw [if_neg small]
    exact mem_sysMap (mem_sysMap present)

theorem of_mem_mapUpper
    (present : mem ∈ (mapUpper kvm blocks sys ramEnd).memslots) :
    mem ∈ sys.memslots ∨ 0x100000 ≤ mem.guestPhysAddr := by
  simp only [mapUpper] at present
  by_cases small : ramEnd ≤ 0xE0000000
  · rw [if_pos small] at present
    rcases of_mem_sysMap present with before | last
    · exact Or.inl before
    · subst last
      exact Or.inr (by decide : (0x100000 : Uint64) ≤ 0x100000)
  · rw [if_neg small] at present
    rcases of_mem_sysMap present with before | last
    · rcases of_mem_sysMap before with earlier | below
      · exact Or.inl earlier
      · subst below
        exact Or.inr (by decide : (0x100000 : Uint64) ≤ 0x100000)
    · subst last
      exact Or.inr (by decide : (0x100000 : Uint64) ≤ 0x100000000)

/-- The BIOS takes the first two slots. -/
theorem mapped_bios (kvm : Kvm) (tmp : Uint64) :
    Mapped
      (sysMap kvm (sysMap kvm Sys.cleared 0xE0000 tmp 0x20000).2
        0xFFFE0000 tmp 0x20000).2 2
      [⟨0xFFFE0000, 0x20000⟩, ⟨0xE0000, 0x20000⟩] := by
  have nothing : Mapped Sys.cleared 0 [] :=
    ⟨rfl, fun _ absent => absurd absent List.not_mem_nil,
      fun _ absent => absurd absent List.not_mem_nil⟩
  exact (nothing.sysMap (by decide)).sysMap (by decide)

/-! ## The two buffers of the RAM -/

/-- What `map_ram` passes to KVM for the first buffer. -/
def Sys.lowRequest (sys : Sys) (low : Uint64) : MemRegion :=
  sys.request 0x0 low 0xA0000

def Sys.withLow (kvm : Kvm) (low : Uint64) (sys : Sys) : Sys :=
  (sysMap kvm sys 0x0 low 0xA0000).2

/-- What it passes for the second one. -/
def Sys.areaRequest (sys : Sys) (area : Uint64) : MemRegion :=
  sys.request 0xC0000 area 0x20000

def Sys.withArea (kvm : Kvm) (area : Uint64) (sys : Sys) : Sys :=
  (sysMap kvm sys 0xC0000 area 0x20000).2

theorem memslots_mapRam (kvm : Kvm) (blocks : Fin 4 → Uint64) (sys : Sys)
    (uNumMegsRAM : Uint32) :
    (mapRam kvm blocks sys uNumMegsRAM).memslots =
      (mapUpper kvm blocks ((sys.withLow kvm (blocks 0)).withArea kvm (blocks 1))
        (ramBytes uNumMegsRAM)).memslots := rfl

section Blocks

variable {uNumMegsRAM : Uint32} {count : Nat} {regions : List (Region 64)}

/-- KVM takes the first buffer. -/
theorem low_taken (mapped : Mapped loaded count regions)
    (small : count < 4) (takes : TakesSeparate kvm)
    (host : pageSize ∣ (blocks 0).toNat)
    (apart : ∀ region ∈ regions,
      ¬ region.Overlaps (⟨0x0, 0xA0000⟩ : Region 64)) :
    loaded.lowRequest (blocks 0) ∈
      (mapRam kvm blocks loaded uNumMegsRAM).memslots := by
  have taken :
      kvm loaded.memslots (loaded.request 0x0 (blocks 0) 0xA0000) = true :=
    mapped.takes (by omega) takes (by decide) (by decide) host apart
  have present :
      loaded.lowRequest (blocks 0) ∈
        (loaded.withLow kvm (blocks 0)).memslots :=
    request_mem_sysMap taken
  rw [memslots_mapRam]
  exact mem_mapUpper (mem_sysMap present)

/-- KVM takes the second one if nothing is there. -/
theorem area_taken (mapped : Mapped loaded count regions)
    (small : count < 4) (takes : TakesSeparate kvm)
    (host : pageSize ∣ (blocks 1).toNat)
    (apart : ∀ region ∈ regions,
      ¬ region.Overlaps (⟨0xC0000, 0x20000⟩ : Region 64)) :
    (loaded.withLow kvm (blocks 0)).areaRequest (blocks 1) ∈
      (mapRam kvm blocks loaded uNumMegsRAM).memslots := by
  have lowMapped :
      Mapped (loaded.withLow kvm (blocks 0)) (count + 1)
        (⟨0x0, 0xA0000⟩ :: regions) :=
    mapped.sysMap (by omega)
  have alsoApart : ∀ region ∈ (⟨0x0, 0xA0000⟩ : Region 64) :: regions,
      ¬ region.Overlaps (⟨0xC0000, 0x20000⟩ : Region 64) := by
    intro region present
    rcases List.mem_cons.mp present with first | other
    · subst first
      decide
    · exact apart region other
  have taken :
      kvm (loaded.withLow kvm (blocks 0)).memslots
        ((loaded.withLow kvm (blocks 0)).request 0xC0000 (blocks 1) 0x20000) =
          true :=
    lowMapped.takes (by omega) takes (by decide) (by decide) host alsoApart
  rw [memslots_mapRam]
  exact mem_mapUpper (request_mem_sysMap taken)

theorem toNat_wide (addr : Uint32) :
    (addr.setWidth 64).toNat = addr.toNat := by
  have bound := addr.isLt
  rw [BitVec.toNat_setWidth]
  omega

/-- KVM refuses the area behind the video memory where it has the VGA BIOS. -/
theorem of_mem_mapRam_loaded
    (mapped : Mapped sys 2
      [⟨0xFFFE0000, 0x20000⟩, ⟨0xE0000, 0x20000⟩])
    (takes : TakesSeparate kvm) (rejects : RejectsOverlaps kvm)
    (host : pageSize ∣ tmp.toNat)
    (present : mem ∈
      (mapRam kvm blocks (sysMap kvm sys 0xC0000 tmp 0x20000).2
        uNumMegsRAM).memslots) :
    mem ∈ sys.memslots ∨ mem = sys.request 0xC0000 tmp 0x20000 ∨
      mem.region = ⟨0x0, 0xA0000⟩ ∨
        0x100000 ≤ mem.guestPhysAddr.toNat := by
  have taken : kvm sys.memslots (sys.request 0xC0000 tmp 0x20000) = true :=
    mapped.takes (by decide) takes (by decide) (by decide) host (by decide)
  have first :
      sys.request 0xC0000 tmp 0x20000 ∈
        ((sysMap kvm sys 0xC0000 tmp 0x20000).2.withLow kvm
          (blocks 0)).memslots :=
    mem_sysMap (request_mem_sysMap taken)
  have refused :
      kvm ((sysMap kvm sys 0xC0000 tmp 0x20000).2.withLow kvm
          (blocks 0)).memslots
        (((sysMap kvm sys 0xC0000 tmp 0x20000).2.withLow kvm
          (blocks 0)).request 0xC0000 (blocks 1) 0x20000) = false := by
    apply rejects
    exact ⟨_, first, @Region.overlaps_self _ ⟨0xC0000, 0x20000⟩
      (by decide)⟩
  rw [memslots_mapRam] at present
  rcases of_mem_mapUpper present with inArea | high
  · rw [Sys.withArea, memslots_sysMap, refused,
      if_neg Bool.false_ne_true] at inArea
    rcases of_mem_sysMap inArea with inLoaded | isLow
    · rcases of_mem_sysMap inLoaded with inBios | isVga
      · exact Or.inl inBios
      · exact Or.inr (Or.inl isVga)
    · refine Or.inr (Or.inr (Or.inl ?_))
      rw [isLow]
      rfl
  · exact Or.inr (Or.inr (Or.inr high))

/-- Where the VGA BIOS is, KVM has nothing else. -/
theorem eq_of_covers_area {addr : Uint32}
    (mapped : Mapped sys 2
      [⟨0xFFFE0000, 0x20000⟩, ⟨0xE0000, 0x20000⟩])
    (takes : TakesSeparate kvm) (rejects : RejectsOverlaps kvm)
    (host : pageSize ∣ tmp.toNat)
    (above : 0xC0000 ≤ addr.toNat) (below : addr.toNat < 0xE0000)
    (present : mem ∈
      (mapRam kvm blocks (sysMap kvm sys 0xC0000 tmp 0x20000).2
        uNumMegsRAM).memslots)
    (covers : mem.region.Covers (addr.setWidth 64)) :
    mem = sys.request 0xC0000 tmp 0x20000 := by
  have wide := toNat_wide addr
  have front : mem.region.addr.toNat ≤ addr.toNat :=
    Nat.le_trans covers.1 (Nat.le_of_eq wide)
  rcases of_mem_mapRam_loaded mapped takes rejects host present with
    inBios | isVga | isLow | high
  · have starts : ∀ region ∈ ([⟨0xFFFE0000, 0x20000⟩,
        ⟨0xE0000, 0x20000⟩] : List (Region 64)),
          0xE0000 ≤ region.addr.toNat := by
      decide
    have behind := starts mem.region (mapped.regions mem inBios)
    omega
  · exact isVga
  · have stop :
        ((⟨0x0, 0xA0000⟩ : Region 64).stop).toNat = 0xA0000 := by
      decide
    rw [isLow] at covers
    have inside := Nat.lt_of_lt_of_eq covers.2 stop
    omega
  · have behind : 0x100000 ≤ mem.region.addr.toNat := high
    omega

end Blocks

/-! ## The pointers -/

section Pointers

variable {addr : Uint32} {uNumMegsRAM : Uint32}

theorem hostPointer_low :
    (mapRam kvm blocks loaded uNumMegsRAM).hostPointer ⟨0, addr.toNat⟩ =
      blocks 0 + addr.setWidth 64 := by
  have wide : BitVec.ofNat 64 addr.toNat = addr.setWidth 64 := by
    bv_omega
  change blocks 0 + BitVec.ofNat 64 addr.toNat = _
  rw [wide]

theorem hostPointer_area (above : 0xC0000 ≤ addr.toNat) :
    (mapRam kvm blocks loaded uNumMegsRAM).hostPointer
        ⟨1, (addr - 0xC0000).toNat⟩ =
      blocks 1 + (addr.setWidth 64 - 0xC0000) := by
  have wide :
      BitVec.ofNat 64 (addr - 0xC0000).toNat =
        addr.setWidth 64 - 0xC0000 := by
    bv_omega
  change blocks 1 + BitVec.ofNat 64 (addr - 0xC0000).toNat = _
  rw [wide]

theorem covers_low (low : addr.toNat < 0xA0000) :
    (⟨0x0, 0xA0000⟩ : Region 64).Covers (addr.setWidth 64) := by
  have stop : ((⟨0x0, 0xA0000⟩ : Region 64).stop).toNat = 0xA0000 := by
    decide
  refine ⟨Nat.zero_le _, ?_⟩
  change (addr.setWidth 64).toNat < _
  rw [toNat_wide, stop]
  exact low

theorem covers_area (above : 0xC0000 ≤ addr.toNat)
    (below : addr.toNat < 0xE0000) :
    (⟨0xC0000, 0x20000⟩ : Region 64).Covers (addr.setWidth 64) := by
  have stop : ((⟨0xC0000, 0x20000⟩ : Region 64).stop).toNat = 0xE0000 := by
    decide
  constructor
  · change 0xC0000 ≤ (addr.setWidth 64).toNat
    rw [toNat_wide]
    exact above
  · change (addr.setWidth 64).toNat < _
    rw [toNat_wide, stop]
    exact below

theorem pointsRight_high (high : 0x100000 ≤ addr.toNat) :
    PointsRight sys addr := by
  intro pointer points
  rw [getLowMem_high high] at points
  cases points

theorem not_pointsRight_excluded (excluded : Excluded addr) :
    ¬ PointsRight sys addr := by
  intro right
  have above : 0xA0000 ≤ addr.toNat := by
    simp only [Excluded] at excluded
    omega
  have below : addr.toNat < 0x100000 := by
    simp only [Excluded] at excluded
    omega
  exact (right _ (getLowMem_area above below)).1 excluded

theorem pointsRight_low {count : Nat} {regions : List (Region 64)}
    (mapped : Mapped loaded count regions) (small : count < 4)
    (takes : TakesSeparate kvm) (host : pageSize ∣ (blocks 0).toNat)
    (apart : ∀ region ∈ regions,
      ¬ region.Overlaps (⟨0x0, 0xA0000⟩ : Region 64))
    (low : addr.toNat < 0xA0000) :
    PointsRight (mapRam kvm blocks loaded uNumMegsRAM) addr := by
  intro pointer points
  rw [getLowMem_low low] at points
  cases points
  refine ⟨?_, _, low_taken mapped small takes host apart, covers_low low,
    ?_⟩
  · simp only [Excluded]
    omega
  · rw [hostPointer_low]
    exact congrArg (blocks 0 + ·) (BitVec.sub_zero _).symm

theorem pointsRight_area {count : Nat} {regions : List (Region 64)}
    (mapped : Mapped loaded count regions) (small : count < 4)
    (takes : TakesSeparate kvm) (host : pageSize ∣ (blocks 1).toNat)
    (apart : ∀ region ∈ regions,
      ¬ region.Overlaps (⟨0xC0000, 0x20000⟩ : Region 64))
    (above : 0xC0000 ≤ addr.toNat) (below : addr.toNat < 0xE0000) :
    PointsRight (mapRam kvm blocks loaded uNumMegsRAM) addr := by
  intro pointer points
  rw [getLowMem_area (by omega) (by omega)] at points
  cases points
  refine ⟨?_, _, area_taken mapped small takes host apart,
    covers_area above below, ?_⟩
  · simp only [Excluded]
    omega
  · rw [hostPointer_area above]
    rfl

end Pointers

end Created

/-! ## Every system created -/

section Created

variable {kvm : Kvm} {seabios vgabios : Rom} {blocks : Fin 4 → Uint64}
variable {uNumMegsRAM : Uint32} {sys : Sys} {addr : Uint32}

theorem physLowmem_of_created
    (created : sysCreate kvm seabios vgabios blocks uNumMegsRAM =
      .ok (some sys)) :
    sys.physLowmem 0 = blocks 0 ∧ sys.physLowmem 1 = blocks 1 := by
  obtain ⟨tmp, result, loaded, -, -, rfl⟩ := sysCreate_cases created
  exact ⟨rfl, rfl⟩

theorem hostPointer_of_area
    (created : sysCreate kvm seabios vgabios blocks uNumMegsRAM =
      .ok (some sys)) (above : 0xC0000 ≤ addr.toNat) :
    sys.hostPointer ⟨1, (addr - 0xC0000).toNat⟩ =
      blocks 1 + (addr.setWidth 64 - 0xC0000) := by
  obtain ⟨tmp, result, loaded, -, -, rfl⟩ := sysCreate_cases created
  exact hostPointer_area above

theorem pointsRight_of_low (takes : TakesSeparate kvm)
    (allocated : Allocated vgabios blocks)
    (created : sysCreate kvm seabios vgabios blocks uNumMegsRAM =
      .ok (some sys)) (low : addr.toNat < 0xA0000) :
    PointsRight sys addr := by
  obtain ⟨tmp, result, loaded, -, vga, rfl⟩ := sysCreate_cases created
  have bios := mapped_bios kvm tmp
  rcases loadBiosVga_cases vga with ⟨-, rfl⟩ | ⟨-, rom, -, rfl⟩
  · exact pointsRight_low bios (by decide) takes allocated.low (by decide)
      low
  · exact pointsRight_low (bios.sysMap (by decide)) (by decide) takes
      allocated.low (by decide) low

theorem pointsRight_of_area (takes : TakesSeparate kvm)
    (allocated : Allocated vgabios blocks)
    (created : sysCreate kvm seabios vgabios blocks uNumMegsRAM =
      .ok (some sys)) (absent : vgabios.file = none)
    (above : 0xC0000 ≤ addr.toNat) (below : addr.toNat < 0xE0000) :
    PointsRight sys addr := by
  obtain ⟨tmp, result, loaded, -, vga, rfl⟩ := sysCreate_cases created
  rcases loadBiosVga_cases vga with ⟨-, rfl⟩ | ⟨present, -⟩
  · exact pointsRight_area (mapped_bios kvm tmp) (by decide) takes
      allocated.area (by decide) above below
  · exact absurd absent present

/-- With a VGA BIOS, the second buffer is behind no region of the area. -/
theorem ne_area_of_covers (takes : TakesSeparate kvm)
    (rejects : RejectsOverlaps kvm) (allocated : Allocated vgabios blocks)
    (created : sysCreate kvm seabios vgabios blocks uNumMegsRAM =
      .ok (some sys)) (present : vgabios.file ≠ none)
    (above : 0xC0000 ≤ addr.toNat) (below : addr.toNat < 0xE0000)
    {mem : MemRegion} (taken : mem ∈ sys.memslots)
    (covers : mem.region.Covers (addr.setWidth 64)) :
    mem.guestPhysAddr = 0xC0000 ∧ mem.userspaceAddr ≠ blocks 1 := by
  obtain ⟨tmp, result, loaded, -, vga, rfl⟩ := sysCreate_cases created
  rcases loadBiosVga_cases vga with ⟨absent, -⟩ | ⟨-, rom, buffer, rfl⟩
  · exact absurd absent present
  · have isRom := eq_of_covers_area (mapped_bios kvm tmp) takes rejects
      (allocated.rom rom buffer) above below taken covers
    subst isRom
    refine ⟨rfl, fun same => ?_⟩
    have same : rom = blocks 1 := same
    exact allocated.apart (buffer.trans (congrArg some same))

end Created

/-- For every address, whatever KVM and the host do within what they document,
the pointer is right or refused exactly for the RAM below the video memory, for
the area behind it without a VGA BIOS, and from 1M on. -/
theorem pointsRight_iff {kvm : Kvm} {seabios vgabios : Rom}
    {blocks : Fin 4 → Uint64} {uNumMegsRAM : Uint32} {sys : Sys}
    (takes : TakesSeparate kvm) (rejects : RejectsOverlaps kvm)
    (allocated : Allocated vgabios blocks)
    (created : sysCreate kvm seabios vgabios blocks uNumMegsRAM =
      .ok (some sys)) (addr : Uint32) :
    PointsRight sys addr ↔
      addr.toNat < 0xA0000 ∨
        (0xC0000 ≤ addr.toNat ∧ addr.toNat < 0xE0000 ∧
          vgabios.file = none) ∨
          0x100000 ≤ addr.toNat := by
  by_cases high : 0x100000 ≤ addr.toNat
  · exact iff_of_true (pointsRight_high high) (Or.inr (Or.inr high))
  by_cases low : addr.toNat < 0xA0000
  · exact iff_of_true (pointsRight_of_low takes allocated created low)
      (Or.inl low)
  by_cases excluded : Excluded addr
  · refine iff_of_false (not_pointsRight_excluded excluded) ?_
    simp only [Excluded] at excluded
    omega
  simp only [Excluded] at excluded
  have above : 0xC0000 ≤ addr.toNat := by omega
  have below : addr.toNat < 0xE0000 := by omega
  by_cases absent : vgabios.file = none
  · exact iff_of_true
      (pointsRight_of_area takes allocated created absent above below)
      (Or.inr (Or.inl ⟨above, below, absent⟩))
  · refine iff_of_false ?_ ?_
    · intro right
      obtain ⟨mem, taken, covers, same⟩ :=
        (right _ (getLowMem_area (by omega) (by omega))).2
      obtain ⟨start, other⟩ := ne_area_of_covers takes rejects allocated
        created absent above below taken covers
      rw [hostPointer_of_area created above, start] at same
      exact other ((BitVec.add_left_inj _).mp same).symm
    · rintro (isLow | ⟨-, -, none⟩ | isHigh)
      · exact low isLow
      · exact absent none
      · exact high isHigh

theorem takesSeparate_checksOverlaps : TakesSeparate checksOverlaps := by
  intro memslots mem _ _ _ _ apart
  simp only [checksOverlaps]
  rw [List.all_eq_true]
  intro taken present
  simp [apart taken present]

/-- With a VGA BIOS, the area behind the video memory is another one. -/
theorem pointsRight_iff_main :
    ∃ sys, sysCreate checksOverlaps shortRom shortRom (fun _ => 0) mainMegs =
        .ok (some sys) ∧
      (PointsRight sys 0xC0000 ↔
        (0xC0000 : Uint32).toNat < 0xA0000 ∨
          (0xC0000 ≤ (0xC0000 : Uint32).toNat ∧
            (0xC0000 : Uint32).toNat < 0xE0000 ∧
              shortRom.file = none) ∨
            0x100000 ≤ (0xC0000 : Uint32).toNat) := by
  obtain ⟨sys, created⟩ := exists_main_sys
  have rom : ∀ tmp, shortRom.tmp = some tmp → pageSize ∣ tmp.toNat := by
    intro tmp same
    cases same
    decide
  have allocated : Allocated shortRom fun _ => 0 :=
    ⟨by decide, by decide, rom, by decide⟩
  exact ⟨sys, created,
    pointsRight_iff takesSeparate_checksOverlaps
      rejectsOverlaps_checksOverlaps allocated created 0xC0000⟩

/-- The video memory is not refused. -/
theorem not_always_pointsRight :
    ∃ sys, sysCreate checksOverlaps shortRom shortRom (fun _ => 0) mainMegs =
        .ok (some sys) ∧
      ¬ PointsRight sys 0xA0000 := by
  obtain ⟨sys, created⟩ := exists_main_sys
  refine ⟨sys, created, not_pointsRight_excluded ?_⟩
  exact Or.inl ⟨by decide, by decide⟩

end Kvmulate.System
