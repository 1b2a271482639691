import Kvmulate.Qemu.Paravirt
import Kvmulate.System.Memory

/-!
# The memory that the E820 table declares

The guest reads the table through the data port; `map_ram` maps the RAM.  The
first does not depend on the size of the second.
-/

namespace Kvmulate.Qemu

open DeviceLib Kvmulate.System

/-! ## The guest's side -/

def decodeEntry (bytes : List Uint8) : E820Entry where
  addr := leValue 64 (bytes.take 8)
  length := leValue 64 ((bytes.drop 8).take 8)
  type := leValue 32 ((bytes.drop 16).take 4)

/-- A count and as many entries of 20 bytes. -/
def decodeTable (bytes : List Uint8) : List E820Entry :=
  (List.range (leValue 32 (bytes.take 4)).toNat).map fun index =>
    decodeEntry ((bytes.drop (4 + 20 * index)).take 20)

/-- Select the table, and read it from port 0x511. -/
def e820Reads : List ParaStep :=
  .outw 0 0x8003 :: (List.replicate 64 1).map .inb

def DeclaresRam (table : List E820Entry) (point : Uint64) : Prop :=
  ∃ entry ∈ table, entry.type = e820Ram ∧
    (⟨entry.addr, entry.length⟩ : Region 64).Covers point

section Table

variable {ctx : Ctx} {point : Uint64} {kvm : Kvm}
variable {blocks : Fin 4 → Uint64} {sys : Sys} {uNumMegsRAM : Uint32}

/-- The guest reads the table that the source writes. -/
theorem decodeTable_bytes :
    decodeTable e820Table.bytes = e820Table.entry := by
  decide +kernel

theorem run_e820Reads (ctx : Ctx) :
    ∃ final, run paraStep ctx e820Reads =
      .ok (none :: e820Table.bytes.map some, final) := by
  have fits : e820Table.bytes.length ≤ bufferSize := by decide
  obtain ⟨buff, filled, list⟩ :=
    exists_fill { ctx with reg := 0x8003, off := 0 } fits
  have selected :
      paraStep ctx (.outw 0 0x8003) =
        .ok (none, ⟨0x8003, 0, buff⟩) := by
    change (select { ctx with reg := 0x8003 } 0x8003 >>= _) = _
    rw [select_eq]
    change ({ ctx with reg := 0x8003, off := 0 }.fill e820Table.bytes >>=
      _) = _
    rw [filled]
    rfl
  obtain ⟨final, ran⟩ :=
    @run_inb ⟨0x8003, 0, buff⟩ (List.replicate 64 1) 0 rfl (by decide)
  have shown : window buff.toList 0 64 = e820Table.bytes := by
    have length : e820Table.bytes.length = 64 := by decide
    have inside : 0 + 64 ≤ buff.toList.length := by
      rw [Vector.length_toList]
      decide
    rw [window_eq_take inside, list]
    exact List.take_left' length
  rw [List.length_replicate] at ran
  rw [← shown]
  exact ⟨final, run_cons selected ran⟩

theorem declaresRam_iff :
    DeclaresRam e820Table.entry point ↔
      point < 0xA0000 ∨ 0x100000 ≤ point ∧ point < 0xE0000000 := by
  unfold DeclaresRam e820Table
  constructor
  · rintro ⟨entry, mem, ram, low, high⟩
    simp only [List.mem_cons, List.not_mem_nil, or_false] at mem
    rcases mem with rfl | rfl | rfl
    · exact Or.inl high
    · exact Or.inr ⟨low, high⟩
    · exact absurd ram (by decide : ¬ e820Reserved = e820Ram)
  · rintro (high | ⟨low, high⟩)
    · exact ⟨_, List.mem_cons_self, rfl, Nat.zero_le _, high⟩
    · exact ⟨_, List.mem_cons_of_mem _ List.mem_cons_self, rfl, low,
        high⟩

/-- The RAM above 1M ends where its size says, up to 3.5 gigabytes. -/
theorem upperRegions_cover_iff {ramEnd : Uint64} :
    (∀ point : Uint64, 0x100000 ≤ point → point < 0xE0000000 →
        ∃ region ∈ upperRegions ramEnd, region.Covers point) ↔
      0xE0000000 ≤ ramEnd := by
  unfold upperRegions
  by_cases small : ramEnd ≤ 0xE0000000
  · rw [if_pos small]
    constructor
    · intro every
      obtain ⟨region, mem, -, high⟩ :=
        every 0xDFFFFFFF (by decide) (by decide)
      obtain rfl := List.mem_singleton.mp mem
      have last : (0xDFFFFFFF : Uint64) < 0x100000 + (ramEnd - 0x100000) :=
        high
      bv_omega
    · intro all point low high
      refine ⟨_, List.mem_singleton_self _, low, ?_⟩
      change point < 0x100000 + (ramEnd - 0x100000)
      bv_omega
  · rw [if_neg small]
    refine iff_of_true ?_ (by bv_omega)
    intro point low high
    exact ⟨_, List.mem_cons_self, low, high⟩

/-- Every byte that the table declares as RAM was mapped by `map_ram` exactly
from 3.5 gigabytes on. -/
theorem e820_ram_mapped_iff (ctx : Ctx) (kvm : Kvm)
    (blocks : Fin 4 → Uint64) (sys : Sys) (uNumMegsRAM : Uint32) :
    ∃ bytes final,
      run paraStep ctx e820Reads = .ok (none :: bytes.map some, final) ∧
        ((∀ point, DeclaresRam (decodeTable bytes) point →
            ∃ region ∈ mappedByMapRam kvm blocks sys uNumMegsRAM,
              region.Covers point) ↔
          3584 ≤ uNumMegsRAM.toNat) := by
  obtain ⟨final, ran⟩ := run_e820Reads ctx
  refine ⟨e820Table.bytes, final, ran, ?_⟩
  have bytes := toNat_ramBytes uNumMegsRAM
  have enough :
      0xE0000000 ≤ ramBytes uNumMegsRAM ↔ 3584 ≤ uNumMegsRAM.toNat := by
    constructor
    · intro all
      bv_omega
    · intro all
      bv_omega
  rw [decodeTable_bytes, mappedByMapRam_eq, ← enough,
    ← upperRegions_cover_iff]
  constructor
  · intro every point low high
    obtain ⟨region, mem, covers⟩ :=
      every point (declaresRam_iff.mpr (Or.inr ⟨low, high⟩))
    rcases List.mem_cons.mp mem with rfl | mem
    · have below : point < 0xA0000 := covers.2
      bv_omega
    rcases List.mem_cons.mp mem with rfl | mem
    · have below : point < 0xE0000 := covers.2
      bv_omega
    · exact ⟨region, mem, covers⟩
  · intro every point declared
    rcases declaresRam_iff.mp declared with high | ⟨low, high⟩
    · exact ⟨_, List.mem_cons_self, Nat.zero_le _, high⟩
    · obtain ⟨region, mem, covers⟩ := every point low high
      exact ⟨region,
        List.mem_cons_of_mem _ (List.mem_cons_of_mem _ mem), covers⟩

/-- With 1 gigabyte of RAM, the table declares more than there is. -/
theorem e820_declares_missing_ram :
    ∃ bytes final,
      run paraStep Ctx.cleared e820Reads =
          .ok (none :: bytes.map some, final) ∧
        ¬ ∀ point, DeclaresRam (decodeTable bytes) point →
          ∃ region ∈ mappedByMapRam (fun _ _ => true) (fun _ => 0)
              Sys.cleared 1024, region.Covers point := by
  obtain ⟨final, ran⟩ := run_e820Reads Ctx.cleared
  refine ⟨e820Table.bytes, final, ran, fun every => ?_⟩
  rw [decodeTable_bytes, mappedByMapRam_eq] at every
  obtain ⟨region, mem, covers⟩ :=
    every 0x40000000 (declaresRam_iff.mpr (Or.inr (by decide)))
  exact absurd ⟨region, mem, covers⟩
    (by decide : ¬ ∃ region ∈ ramRegions 1024,
      region.Covers 0x40000000)

end Table

end Kvmulate.Qemu
