import Kvmulate.System.Memory

/-!
# The memory map

What `sys_create` asks KVM for, and where two of the regions meet.
-/

namespace Kvmulate.System

open DeviceLib

/-! ## What a consistent map is -/

def pageSize : Nat := 0x1000

/-- The window of the VGA memory, which is not mapped. -/
def videoWindow : Region 64 := ⟨0xA0000, 0x20000⟩

/-- The regions do not meet one another or the video memory. -/
structure Separate (regions : List (Region 64)) : Prop where
  inhabited : ∀ region ∈ regions, region.Inhabited
  aligned : ∀ region ∈ regions, region.Aligned pageSize
  disjoint : regions.Pairwise fun first second =>
    ¬ first.Overlaps second
  video : ∀ region ∈ regions, ¬ region.Overlaps videoWindow

structure Consistent (sys : Sys) : Prop where
  separate : Separate sys.regions
  slots : (sys.requested.map MemRegion.slot).Nodup

/-- KVM does not take a region that meets one that it has. -/
def RejectsOverlaps (kvm : Kvm) : Prop :=
  ∀ memslots mem, (∃ taken ∈ memslots,
    taken.region.Overlaps mem.region) → kvm memslots mem = false

/-! ## What holds after every call of `sys_map` -/

section Invariant

variable {kvm : Kvm} {seabios vgabios : Rom} {blocks : Fin 4 → Uint64}
variable {uNumMegsRAM : Uint32} {sys loaded : Sys} {result : Int}

theorem readRom_eq_ok {bytes : List Byte} {buffer : Option Uint64}
    {tmp : Uint64} (read : readRom bytes buffer = .ok tmp) : buffer = some tmp := by
  unfold readRom at read
  obtain ⟨_, -, rest⟩ := Outcome.bind_eq_ok_iff.mp read
  cases buffer with
  | none => cases rest
  | some addr =>
      obtain ⟨_, -, built⟩ := Outcome.bind_eq_ok_iff.mp rest
      cases built
      rfl

/-- The VGA BIOS is mapped from the buffer that was allocated for it. -/
theorem loadBiosVga_cases
    (done : loadBiosVga kvm vgabios sys = .ok (result, loaded)) :
    vgabios.file = none ∧ loaded = sys ∨
      vgabios.file ≠ none ∧ ∃ tmp, vgabios.tmp = some tmp ∧
        loaded = (sysMap kvm sys 0xC0000 tmp 0x20000).2 := by
  unfold loadBiosVga at done
  cases shown : vgabios.file with
  | none =>
      rw [shown] at done
      cases done
      exact Or.inl ⟨rfl, rfl⟩
  | some bytes =>
      rw [shown] at done
      obtain ⟨tmp, read, built⟩ := Outcome.bind_eq_ok_iff.mp done
      cases built
      exact Or.inr ⟨nofun, tmp, readRom_eq_ok read, rfl⟩

/-- With the BIOS, `sys_create` maps it twice, then the VGA BIOS and then the
RAM. -/
theorem sysCreate_cases
    (created : sysCreate kvm seabios vgabios blocks uNumMegsRAM =
      .ok (some sys)) :
    ∃ tmp result loaded,
      (seabios.file ≠ none ∧ seabios.tmp = some tmp) ∧
      loadBiosVga kvm vgabios
          (sysMap kvm (sysMap kvm Sys.cleared 0xE0000 tmp 0x20000).2
            0xFFFE0000 tmp 0x20000).2 = .ok (result, loaded) ∧
        sys = mapRam kvm blocks loaded uNumMegsRAM := by
  obtain ⟨⟨answer, biosLoaded⟩, loading, done⟩ :=
    Outcome.bind_eq_ok_iff.mp created
  unfold loadBios at loading
  cases shown : seabios.file with
  | none =>
      rw [shown] at loading
      cases loading
      cases done
  | some bytes =>
      rw [shown] at loading
      obtain ⟨tmp, read, loading⟩ := Outcome.bind_eq_ok_iff.mp loading
      obtain ⟨⟨ignored, loaded⟩, vga, finished⟩ :=
        Outcome.bind_eq_ok_iff.mp loading
      cases finished
      cases done
      exact ⟨tmp, ignored, _,
        ⟨Option.some_ne_none bytes, readRom_eq_ok read⟩, vga, rfl⟩

/-- What every call of `sys_map` preserves holds of the system created. -/
theorem sysCreate_invariant {Inv : Sys → Prop}
    (initial : Inv Sys.cleared)
    (mapped : ∀ {sys daddr saddr size}, Inv sys →
      Inv (sysMap kvm sys daddr saddr size).2)
    (sized : ∀ {sys ramsize physLowmem}, Inv sys →
      Inv { sys with ramsize := ramsize, physLowmem := physLowmem })
    (created : sysCreate kvm seabios vgabios blocks uNumMegsRAM =
      .ok (some sys)) : Inv sys := by
  obtain ⟨tmp, result, loaded, -, vga, rfl⟩ := sysCreate_cases created
  have legacy := @mapped _ 0xE0000 tmp 0x20000 initial
  have bios := @mapped _ 0xFFFE0000 tmp 0x20000 legacy
  have both : Inv loaded := by
    rcases loadBiosVga_cases vga with ⟨-, rfl⟩ | ⟨-, buffer, -, rfl⟩
    · exact bios
    · exact mapped bios
  refine sized ?_
  unfold mapUpper
  by_cases small : ramBytes uNumMegsRAM ≤ 0xE0000000
  · rw [if_pos small]
    exact mapped (mapped (mapped both))
  · rw [if_neg small]
    exact mapped (mapped (mapped (mapped both)))

/-- Slots are counted from 1. -/
structure Numbered (sys : Sys) : Prop where
  current : sys.currmemslot = sys.requested.length
  slots : sys.requested.map MemRegion.slot =
    (List.range sys.requested.length).map fun index : Nat =>
      BitVec.ofInt 32 (index + 1)

theorem numbered_sysMap {daddr saddr size : Uint64}
    (numbered : Numbered sys) :
    Numbered (sysMap kvm sys daddr saddr size).2 := by
  obtain ⟨current, requested, -⟩ := sysMap_cases kvm sys daddr saddr size
  refine ⟨?_, ?_⟩
  · rw [current, requested, numbered.current, List.length_append]
    rfl
  · rw [requested, List.map_append, numbered.slots, List.length_append,
      List.length_singleton, List.range_succ, List.map_append,
      List.map_singleton, List.map_singleton, Sys.request,
      numbered.current]

/-- As long as KVM has rejected nothing, it has what it was asked for, and no
two of its regions meet. -/
def Accepted (sys : Sys) : Prop :=
  sys.rejected = [] →
    sys.memslots = sys.requested ∧
      sys.regions.Pairwise fun first second => ¬ first.Overlaps second

theorem accepted_sysMap {daddr saddr size : Uint64}
    (rejects : RejectsOverlaps kvm) (accepted : Accepted sys) :
    Accepted (sysMap kvm sys daddr saddr size).2 := by
  obtain ⟨-, requested, taken | rejected⟩ :=
    sysMap_cases kvm sys daddr saddr size
  · obtain ⟨asked, memslots, kept⟩ := taken
    intro none
    rw [kept] at none
    obtain ⟨same, disjoint⟩ := accepted none
    refine ⟨by rw [memslots, requested, same], ?_⟩
    rw [sysMap_regions, List.pairwise_append]
    refine ⟨disjoint, List.pairwise_singleton _ _, ?_⟩
    intro first firstMem second secondMem overlap
    obtain ⟨mem, inMap, rfl⟩ := List.mem_map.mp firstMem
    obtain rfl := List.mem_singleton.mp secondMem
    have refused := rejects sys.memslots (sys.request daddr saddr size)
      ⟨mem, by rw [same]; exact inMap, overlap⟩
    rw [asked] at refused
    cases refused
  · intro none
    rw [rejected] at none
    exact absurd none (List.append_ne_nil_of_right_ne_nil _
      (List.cons_ne_nil _ _))

theorem numbered_sysCreate
    (created : sysCreate kvm seabios vgabios blocks uNumMegsRAM =
      .ok (some sys)) : Numbered sys :=
  sysCreate_invariant ⟨rfl, rfl⟩ numbered_sysMap
    (fun numbered => ⟨numbered.current, numbered.slots⟩) created

theorem accepted_sysCreate (rejects : RejectsOverlaps kvm)
    (created : sysCreate kvm seabios vgabios blocks uNumMegsRAM =
      .ok (some sys)) : Accepted sys :=
  sysCreate_invariant (fun _ => ⟨rfl, List.Pairwise.nil⟩)
    (accepted_sysMap rejects) (fun accepted => accepted) created

/-! ## The regions of the ROMs and the RAM -/

def biosRegions : List (Region 64) :=
  [⟨0xE0000, 0x20000⟩, ⟨0xFFFE0000, 0x20000⟩]

def vgaBiosRegion : Region 64 := ⟨0xC0000, 0x20000⟩

theorem sysCreate_regions
    (created : sysCreate kvm seabios vgabios blocks uNumMegsRAM =
      .ok (some sys)) :
    vgabios.file = none ∧
        sys.regions = biosRegions ++ ramRegions uNumMegsRAM ∨
      vgabios.file ≠ none ∧
        sys.regions =
          biosRegions ++ vgaBiosRegion :: ramRegions uNumMegsRAM := by
  obtain ⟨tmp, result, loaded, -, vga, rfl⟩ := sysCreate_cases created
  have bios :
      (sysMap kvm (sysMap kvm Sys.cleared 0xE0000 tmp 0x20000).2
        0xFFFE0000 tmp 0x20000).2.regions = biosRegions := by
    rw [sysMap_regions, sysMap_regions]
    rfl
  rw [mapRam_regions]
  rcases loadBiosVga_cases vga with ⟨absent, rfl⟩ | ⟨some, buffer, -, rfl⟩
  · rw [bios]
    exact Or.inl ⟨absent, rfl⟩
  · rw [sysMap_regions, bios, List.append_assoc]
    exact Or.inr ⟨some, rfl⟩

/-! ## The VGA BIOS and the RAM -/

theorem not_pairwise_of_vgaBios {front rest : List (Region 64)} :
    ¬ (front ++ vgaBiosRegion :: ⟨0x0, 0xA0000⟩ ::
        vgaBiosRegion :: rest).Pairwise
          fun first second => ¬ first.Overlaps second := by
  intro disjoint
  have tail := (List.pairwise_append.mp disjoint).2.1
  have apart :=
    (List.pairwise_cons.mp tail).1 vgaBiosRegion
      (List.mem_cons_of_mem _ List.mem_cons_self)
  exact apart (Region.overlaps_self (by decide))

/-- With the VGA BIOS present, the map is consistent for no size of the RAM:
`load_bios_vga` and `map_ram` map the same addresses, and where KVM checks for
that, it rejects a region. -/
theorem memory_map_never_consistent
    (created : sysCreate kvm seabios vgabios blocks uNumMegsRAM =
      .ok (some sys))
    (present : vgabios.file ≠ none) :
    ¬ Consistent sys ∧
      (RejectsOverlaps kvm → sys.rejected ≠ []) := by
  have regions :
      sys.regions =
        biosRegions ++ vgaBiosRegion :: ramRegions uNumMegsRAM := by
    rcases sysCreate_regions created with ⟨absent, -⟩ | ⟨-, regions⟩
    · exact absurd absent present
    · exact regions
  have meets : ¬ sys.regions.Pairwise fun first second =>
      ¬ first.Overlaps second := by
    rw [regions]
    exact not_pairwise_of_vgaBios
  constructor
  · intro consistent
    exact meets consistent.separate.disjoint
  · intro rejects none
    exact meets (accepted_sysCreate rejects created none).2

/-- KVM as far as overlaps go. -/
def checksOverlaps : Kvm := fun memslots mem =>
  memslots.all fun taken => ! decide (taken.region.Overlaps mem.region)

/-- A short ROM. -/
def shortRom : Rom := ⟨some [0x55, 0xAA], some 0x7F0000000000⟩

theorem rejectsOverlaps_checksOverlaps :
    RejectsOverlaps checksOverlaps := by
  rintro memslots mem ⟨taken, inMap, overlap⟩
  unfold checksOverlaps
  rw [List.all_eq_false]
  exact ⟨taken, inMap, by simp [overlap]⟩

/-- What `main` asks for: 8 gigabytes. -/
def mainMegs : Uint32 := 1024 * 8

theorem exists_main_sys :
    ∃ sys, sysCreate checksOverlaps shortRom shortRom (fun _ => 0) mainMegs =
      .ok (some sys) :=
  ⟨_, rfl⟩

theorem memory_map_never_consistent_main :
    ∃ sys, sysCreate checksOverlaps shortRom shortRom (fun _ => 0) mainMegs =
        .ok (some sys) ∧
      ¬ Consistent sys ∧
        (RejectsOverlaps checksOverlaps → sys.rejected ≠ []) := by
  obtain ⟨sys, created⟩ := exists_main_sys
  exact ⟨sys, created, memory_map_never_consistent created
    (Option.some_ne_none _)⟩

/-- Of the 8 gigabytes that `main` asks for, KVM rejects the region behind the
VGA memory. -/
theorem memory_map_main_rejected :
    ∃ sys, sysCreate checksOverlaps shortRom shortRom (fun _ => 0) mainMegs =
        .ok (some sys) ∧
      ¬ Consistent sys ∧
        sys.rejected.map MemRegion.region = [⟨0xC0000, 0x20000⟩] := by
  obtain ⟨sys, created⟩ := exists_main_sys
  refine ⟨sys, created, fun consistent => ?_, ?_⟩
  · rcases sysCreate_regions created with ⟨absent, -⟩ | ⟨-, regions⟩
    · cases absent
    · have disjoint := consistent.separate.disjoint
      rw [regions] at disjoint
      exact not_pairwise_of_vgaBios disjoint
  · cases created
    decide

/-! ## Without the VGA BIOS -/

theorem separate_append_singleton_iff {regions : List (Region 64)}
    {last : Region 64} :
    Separate (regions ++ [last]) ↔
      Separate regions ∧ last.Inhabited ∧ last.Aligned pageSize ∧
        (∀ region ∈ regions, ¬ region.Overlaps last) ∧
          ¬ last.Overlaps videoWindow := by
  constructor
  · intro separate
    have disjoint := List.pairwise_append.mp separate.disjoint
    have inFront : ∀ region ∈ regions, region ∈ regions ++ [last] :=
      fun _ mem => List.mem_append_left _ mem
    have atEnd : last ∈ regions ++ [last] := by simp
    exact ⟨⟨fun _ mem => separate.inhabited _ (inFront _ mem),
        fun _ mem => separate.aligned _ (inFront _ mem), disjoint.1,
        fun _ mem => separate.video _ (inFront _ mem)⟩,
      separate.inhabited _ atEnd, separate.aligned _ atEnd,
      fun region mem => disjoint.2.2 region mem last
        (List.mem_singleton_self last), separate.video _ atEnd⟩
  · rintro ⟨front, some, aligned, apart, video⟩
    have both {motive : Region 64 → Prop}
        (inFront : ∀ region ∈ regions, motive region)
        (atEnd : motive last) :
        ∀ region ∈ regions ++ [last], motive region := by
      intro region mem
      rcases List.mem_append.mp mem with mem | mem
      · exact inFront region mem
      · obtain rfl := List.mem_singleton.mp mem
        exact atEnd
    refine ⟨both front.inhabited some, both front.aligned aligned, ?_,
      both front.video video⟩
    rw [List.pairwise_append]
    refine ⟨front.disjoint, List.pairwise_singleton _ _, ?_⟩
    intro region mem other otherMem
    obtain rfl := List.mem_singleton.mp otherMem
    exact apart region mem

/-- The regions below 1M and the BIOS below 4G. -/
def fixedRegions : List (Region 64) :=
  biosRegions ++ [⟨0x0, 0xA0000⟩, ⟨0xC0000, 0x20000⟩]

theorem separate_fixedRegions : Separate fixedRegions :=
  ⟨by decide, by decide, by decide, by decide⟩

theorem separate_fixed_low :
    Separate (fixedRegions ++ [⟨0x100000, 0xE0000000 - 0x100000⟩]) :=
  ⟨by decide, by decide, by decide, by decide⟩

section Upper

variable {ramEnd : Uint64}

theorem low_stop :
    (⟨0x100000, ramEnd - 0x100000⟩ : Region 64).stop = ramEnd := by
  unfold Region.stop
  bv_omega

theorem high_stop :
    (⟨0x100000000, ramEnd - 0xE0100000⟩ : Region 64).stop =
      ramEnd + 0x1FF00000 := by
  unfold Region.stop
  bv_omega

/-- Up to 3.5 gigabytes, the RAM fits below the BIOS. -/
theorem separate_low_iff (small : ramEnd ≤ 0xE0000000)
    (whole : 1048576 ∣ ramEnd.toNat) :
    Separate (fixedRegions ++ [⟨0x100000, ramEnd - 0x100000⟩]) ↔
      0x100000 < ramEnd := by
  have inhabited :
      (⟨0x100000, ramEnd - 0x100000⟩ : Region 64).Inhabited ↔
        0x100000 < ramEnd := by
    rw [Region.inhabited_iff, low_stop]
  rw [separate_append_singleton_iff, inhabited]
  constructor
  · rintro ⟨-, some, -⟩
    exact some
  · intro some
    refine ⟨separate_fixedRegions, some,
      ⟨(by decide : 0x1000 ∣ 0x100000), ?_⟩, ?_, ?_⟩
    · unfold pageSize
      have difference :
          (ramEnd - 0x100000).toNat = ramEnd.toNat - 0x100000 := by
        bv_omega
      change 0x1000 ∣ (ramEnd - 0x100000).toNat
      rw [difference]
      omega
    · have below : ramEnd ≤ 0xFFFE0000 := by bv_omega
      intro region mem
      simp only [fixedRegions, biosRegions, List.cons_append,
        List.nil_append, List.mem_cons, List.not_mem_nil,
        or_false] at mem
      rcases mem with rfl | rfl | rfl | rfl
      · exact Region.not_overlaps_of_stop_le
          (by decide : (0x100000 : Uint64) ≤ 0x100000)
      · intro overlap
        refine Region.not_overlaps_of_stop_le ?_ overlap.symm
        rw [low_stop]
        exact below
      · exact Region.not_overlaps_of_stop_le
          (by decide : (0xA0000 : Uint64) ≤ 0x100000)
      · exact Region.not_overlaps_of_stop_le
          (by decide : (0xE0000 : Uint64) ≤ 0x100000)
    · intro overlap
      exact Region.not_overlaps_of_stop_le
        (by decide : videoWindow.stop ≤ 0x100000) overlap.symm

/-- Beyond that, the rest of the RAM starts at 4 gigabytes. -/
theorem separate_high_iff (large : ¬ ramEnd ≤ 0xE0000000)
    (bound : ramEnd.toNat < 4503599627370496) (whole : 1048576 ∣ ramEnd.toNat) :
    Separate (fixedRegions ++
        [⟨0x100000, 0xE0000000 - 0x100000⟩,
          ⟨0x100000000, ramEnd - 0xE0100000⟩]) ↔
      0xE0100000 < ramEnd := by
  have inhabited :
      (⟨0x100000000, ramEnd - 0xE0100000⟩ : Region 64).Inhabited ↔
        0xE0100000 < ramEnd := by
    rw [Region.inhabited_iff, high_stop]
    change 0x100000000 < ramEnd + 0x1FF00000 ↔ _
    constructor
    · intro above
      bv_omega
    · intro above
      bv_omega
  have list :
      fixedRegions ++
          [⟨0x100000, 0xE0000000 - 0x100000⟩,
            ⟨0x100000000, ramEnd - 0xE0100000⟩] =
        (fixedRegions ++ [⟨0x100000, 0xE0000000 - 0x100000⟩]) ++
          [⟨0x100000000, ramEnd - 0xE0100000⟩] := by
    rw [List.append_assoc]
    rfl
  rw [list, separate_append_singleton_iff, inhabited]
  constructor
  · rintro ⟨-, some, -⟩
    exact some
  · intro some
    refine ⟨separate_fixed_low, some,
      ⟨(by decide : 0x1000 ∣ 0x100000000), ?_⟩, ?_, ?_⟩
    · unfold pageSize
      have difference :
          (ramEnd - 0xE0100000).toNat = ramEnd.toNat - 0xE0100000 := by
        bv_omega
      change 0x1000 ∣ (ramEnd - 0xE0100000).toNat
      rw [difference]
      omega
    · have below : ∀ region ∈
          fixedRegions ++ [⟨0x100000, 0xE0000000 - 0x100000⟩],
            region.stop ≤ (0x100000000 : Uint64) := by
        decide
      intro region mem
      exact Region.not_overlaps_of_stop_le (below region mem)
    · intro overlap
      exact Region.not_overlaps_of_stop_le
        (by decide : videoWindow.stop ≤ 0x100000000) overlap.symm

end Upper

/-- Without the VGA BIOS, the map is consistent but for three sizes of the
RAM, where a region is empty or its size wraps. -/
theorem consistent_without_vgaBios_iff
    (created : sysCreate kvm seabios vgabios blocks uNumMegsRAM =
      .ok (some sys))
    (absent : vgabios.file = none) :
    Consistent sys ↔
      2 ≤ uNumMegsRAM.toNat ∧ uNumMegsRAM.toNat ≠ 3585 := by
  have regions :
      sys.regions = biosRegions ++ ramRegions uNumMegsRAM := by
    rcases sysCreate_regions created with ⟨-, regions⟩ | ⟨present, -⟩
    · exact regions
    · exact absurd absent present
  have numbered := numbered_sysCreate created
  have length : sys.requested.length = sys.regions.length :=
    (List.length_map _).symm
  have bytes := toNat_ramBytes uNumMegsRAM
  have megs := uNumMegsRAM.isLt
  have whole : 1048576 ∣ (ramBytes uNumMegsRAM).toNat :=
    ⟨uNumMegsRAM.toNat, by omega⟩
  have front : biosRegions ++ ramRegions uNumMegsRAM =
      fixedRegions ++ upperRegions (ramBytes uNumMegsRAM) := rfl
  rw [front] at regions
  unfold upperRegions at regions
  by_cases small : ramBytes uNumMegsRAM ≤ 0xE0000000
  · rw [if_pos small] at regions
    have count : sys.requested.length = 5 := by
      rw [length, regions]
      rfl
    have slots : (sys.requested.map MemRegion.slot).Nodup := by
      rw [numbered.slots, count]
      decide
    have separate := separate_low_iff small whole
    rw [← regions] at separate
    constructor
    · intro consistent
      have some := separate.mp consistent.separate
      bv_omega
    · intro sizes
      exact ⟨separate.mpr (by bv_omega), slots⟩
  · rw [if_neg small] at regions
    have count : sys.requested.length = 6 := by
      rw [length, regions]
      rfl
    have slots : (sys.requested.map MemRegion.slot).Nodup := by
      rw [numbered.slots, count]
      decide
    have separate := separate_high_iff small (by omega) whole
    rw [← regions] at separate
    constructor
    · intro consistent
      have some := separate.mp consistent.separate
      bv_omega
    · intro sizes
      exact ⟨separate.mpr (by bv_omega), slots⟩

end Invariant

end Kvmulate.System
