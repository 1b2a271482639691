import Kvmulate.Types
import Kvmulate.Lib.Indexed

/-!
# The low memory of the guest

The host buffers behind `phys_lowmem` in `system.c`, and the pointers that
`sys_getLowMem` makes into them.
-/

namespace Kvmulate

open DeviceLib

/-- The buffers that `map_ram` allocates below 1M. -/
structure LowMem where
  ram : Vector Uint8 0xA0000
  area : Vector Uint8 0x20000

/-- `phys_lowmem[index] + offset` -/
structure LowPtr where
  index : Fin 2
  offset : Nat
deriving DecidableEq, Repr

def sysGetLowMem (addr : Uint32) : Outcome LowPtr :=
  if addr < 0xA0000 then pure ⟨0, addr.toNat⟩
  -- The difference wraps below 0xC0000.
  else if addr ≤ 0xFFFFF then pure ⟨1, (addr - 0xC0000).toNat⟩
  else .error .abort

/-- `phys_lowmem[0]` -/
def LowMem.ramIndex : Fin 2 := 0

/-- `phys_lowmem[1]` -/
def LowMem.areaIndex : Fin 2 := 1

/-- `memcpy(pDest, bytes, ..)` -/
def LowMem.memcpy (lowMem : LowMem) (pDest : LowPtr)
    (bytes : List Uint8) : Outcome LowMem :=
  if pDest.index = 0 then do
    let ram ← storeList lowMem.ram pDest.offset bytes
    pure { lowMem with ram := ram }
  else do
    let area ← storeList lowMem.area pDest.offset bytes
    pure { lowMem with area := area }

/-- `pDest[0]` and the bytes behind it, `count` in all -/
def LowMem.loads (lowMem : LowMem) (pDest : LowPtr) (count : Nat) :
    Outcome (List Uint8) :=
  if pDest.index = 0 then loadList lowMem.ram pDest.offset count
  else loadList lowMem.area pDest.offset count

/-- The byte of the buffers that belongs to an address below 1M. -/
def LowMem.byteAt (lowMem : LowMem) (addr : Nat) : Option Uint8 :=
  if addr < 0xA0000 then lowMem.ram.toList[addr]?
  else if addr < 0xC0000 then none
  else lowMem.area.toList[addr - 0xC0000]?

/-- The addresses from `addr` on lie in one of the buffers. -/
def InLowMem (addr : Uint32) (count : Nat) : Prop :=
  addr.toNat + count ≤ 0xA0000 ∨
    0xC0000 ≤ addr.toNat ∧ addr.toNat + count ≤ 0xE0000

instance (addr : Uint32) (count : Nat) : Decidable (InLowMem addr count) :=
  inferInstanceAs (Decidable (_ ∨ _))

section Pointer

variable {addr : Uint32}

theorem getLowMem_low (low : addr.toNat < 0xA0000) :
    sysGetLowMem addr = .ok ⟨0, addr.toNat⟩ :=
  if_pos low

theorem getLowMem_area (above : 0xA0000 ≤ addr.toNat)
    (below : addr.toNat < 0x100000) :
    sysGetLowMem addr = .ok ⟨1, (addr - 0xC0000).toNat⟩ := by
  have notLow : ¬ addr < 0xA0000 := Nat.not_lt_of_le above
  have atMost : addr ≤ 0xFFFFF := Nat.le_of_lt_succ below
  rw [sysGetLowMem, if_neg notLow, if_pos atMost]
  rfl

theorem getLowMem_high (high : 0x100000 ≤ addr.toNat) :
    sysGetLowMem addr = .error .abort := by
  have notLow : ¬ addr < 0xA0000 := by
    change ¬ addr.toNat < 0xA0000
    omega
  have notInside : ¬ addr ≤ 0xFFFFF := by
    change ¬ addr.toNat ≤ 0xFFFFF
    omega
  rw [sysGetLowMem, if_neg notLow, if_neg notInside]

/-- The number of the byte of the upper buffer. -/
theorem toNat_areaOffset (above : 0xC0000 ≤ addr.toNat) :
    (addr - 0xC0000).toNat = addr.toNat - 0xC0000 := by
  bv_omega

end Pointer

section Copy

variable {lowMem next : LowMem} {pDest : LowPtr} {addr : Uint32}
variable {bytes : List Uint8} {count : Nat}

/-- The size of the buffer that a pointer goes to. -/
def LowPtr.room (pDest : LowPtr) : Nat :=
  if pDest.index = 0 then 0xA0000 else 0x20000

theorem exists_memcpy_iff (some : bytes ≠ []) :
    (∃ next, lowMem.memcpy pDest bytes = .ok next) ↔
      pDest.offset + bytes.length ≤ pDest.room := by
  simp only [LowMem.memcpy, LowPtr.room]
  by_cases low : pDest.index = 0
  · rw [if_pos low, if_pos low, ← exists_storeList_iff some]
    constructor
    · rintro ⟨next, stored⟩
      obtain ⟨ram, done, -⟩ := Outcome.bind_eq_ok_iff.mp stored
      exact ⟨ram, done⟩
    · rintro ⟨ram, done⟩
      exact ⟨_, Outcome.bind_eq_ok_iff.mpr ⟨ram, done, rfl⟩⟩
  · rw [if_neg low, if_neg low, ← exists_storeList_iff some]
    constructor
    · rintro ⟨next, stored⟩
      obtain ⟨area, done, -⟩ := Outcome.bind_eq_ok_iff.mp stored
      exact ⟨area, done⟩
    · rintro ⟨area, done⟩
      exact ⟨_, Outcome.bind_eq_ok_iff.mpr ⟨area, done, rfl⟩⟩

theorem exists_loads_iff :
    (∃ loaded, lowMem.loads pDest count = .ok loaded) ↔
      pDest.offset + count ≤ pDest.room := by
  simp only [LowMem.loads, LowPtr.room]
  by_cases low : pDest.index = 0
  · rw [if_pos low, if_pos low]
    exact exists_loadList_iff
  · rw [if_neg low, if_neg low]
    exact exists_loadList_iff

/-- Copy to a guest address, and load what is there then. -/
def LowMem.copyAndLoad (lowMem : LowMem) (addr : Uint32)
    (bytes : List Uint8) (count : Nat) : Outcome LowMem := do
  let pDest ← sysGetLowMem addr
  let next ← lowMem.memcpy pDest bytes
  let _ ← next.loads pDest count
  pure next

theorem exists_copyAndLoad_of_pointer (some : bytes ≠ [])
    (points : sysGetLowMem addr = .ok pDest) :
    (∃ next, lowMem.copyAndLoad addr bytes count = .ok next) ↔
      pDest.offset + max bytes.length count ≤ pDest.room := by
  have copies := @exists_memcpy_iff lowMem pDest bytes some
  rw [LowMem.copyAndLoad, points, Outcome.ok_bind]
  constructor
  · rintro ⟨next, done⟩
    obtain ⟨copied, stored, done⟩ := Outcome.bind_eq_ok_iff.mp done
    obtain ⟨loaded, loads, -⟩ := Outcome.bind_eq_ok_iff.mp done
    have stays := copies.mp ⟨copied, stored⟩
    have reaches := exists_loads_iff.mp ⟨loaded, loads⟩
    omega
  · intro inside
    obtain ⟨copied, stored⟩ := copies.mpr (by omega)
    obtain ⟨loaded, loads⟩ :=
      (@exists_loads_iff copied pDest count).mpr (by omega)
    rw [stored, Outcome.ok_bind, loads, Outcome.ok_bind]
    exact ⟨_, rfl⟩

/-- The copy and the loads behind it return exactly where the longer of the two
stays in the low memory. -/
theorem exists_copyAndLoad_iff (some : bytes ≠ []) :
    (∃ next, lowMem.copyAndLoad addr bytes count = .ok next) ↔
      InLowMem addr (max bytes.length count) := by
  have positive := List.length_pos_iff.mpr some
  have bound := addr.isLt
  have ram : LowPtr.room ⟨0, addr.toNat⟩ = 0xA0000 := rfl
  have area : LowPtr.room ⟨1, (addr - 0xC0000).toNat⟩ = 0x20000 := rfl
  simp only [InLowMem]
  by_cases low : addr.toNat < 0xA0000
  · rw [exists_copyAndLoad_of_pointer some (getLowMem_low low), ram]
    simp only
    omega
  by_cases high : addr.toNat < 0x100000
  · have difference :
        (addr - 0xC0000).toNat =
          (4294967296 - 786432 + addr.toNat) % 4294967296 :=
      BitVec.toNat_sub addr 0xC0000
    rw [exists_copyAndLoad_of_pointer some
      (getLowMem_area (by omega) high), area]
    simp only [difference]
    omega
  · rw [LowMem.copyAndLoad, getLowMem_high (by omega), Outcome.error_bind]
    constructor
    · rintro ⟨next, stopped⟩
      cases stopped
    · intro inside
      omega

end Copy

/-! ## What a copy leaves -/

/-- The bytes were put in the buffers from `start` on, and nothing else
changed. -/
def LowMem.Stored (lowMem next : LowMem) (start : Nat)
    (bytes : List Uint8) : Prop :=
  ∀ index, next.byteAt index =
    if start ≤ index ∧ index < start + bytes.length then
      bytes[index - start]?
    else lowMem.byteAt index

section Bytes

variable {lowMem next : LowMem} {addr : Uint32} {bytes : List Uint8}
variable {count : Nat}

theorem stored_of_ram {ram : Vector Uint8 0xA0000} {start : Nat}
    (done : storeList lowMem.ram start bytes = .ok ram)
    (low : start + bytes.length ≤ 0xA0000) :
    lowMem.Stored { lowMem with ram := ram } start bytes := by
  intro index
  simp only [LowMem.byteAt]
  by_cases inRam : index < 0xA0000
  · rw [if_pos inRam, if_pos inRam]
    exact getElem?_of_storeList done low index
  · have apart : ¬ (start ≤ index ∧ index < start + bytes.length) := by
      omega
    rw [if_neg inRam, if_neg inRam, if_neg apart]

theorem stored_of_area {area : Vector Uint8 0x20000} {offset : Nat}
    (done : storeList lowMem.area offset bytes = .ok area)
    (fits : offset + bytes.length ≤ 0x20000) :
    lowMem.Stored { lowMem with area := area } (0xC0000 + offset)
      bytes := by
  intro index
  simp only [LowMem.byteAt]
  by_cases above : 0xC0000 ≤ index
  · have beyondRam : ¬ index < 0xA0000 := by omega
    have beyondVideo : ¬ index < 0xC0000 := by omega
    have same :
        (offset ≤ index - 0xC0000 ∧
            index - 0xC0000 < offset + bytes.length) ↔
          0xC0000 + offset ≤ index ∧
            index < 0xC0000 + offset + bytes.length := by
      omega
    have place :
        index - 0xC0000 - offset = index - (0xC0000 + offset) := by
      omega
    rw [if_neg beyondRam, if_neg beyondVideo, if_neg beyondRam,
      if_neg beyondVideo,
      getElem?_of_storeList done fits (index - 0xC0000), place]
    exact if_congr same rfl rfl
  · have apart :
        ¬ (0xC0000 + offset ≤ index ∧
          index < 0xC0000 + offset + bytes.length) := by
      omega
    have below : index < 0xC0000 := by omega
    rw [if_pos below, if_pos below, if_neg apart]

/-- The bytes are where they were copied to. -/
theorem stored_of_copyAndLoad (some : bytes ≠ [])
    (done : lowMem.copyAndLoad addr bytes count = .ok next) :
    lowMem.Stored next addr.toNat bytes := by
  have inside := (exists_copyAndLoad_iff some).mp ⟨next, done⟩
  have positive := List.length_pos_iff.mpr some
  obtain ⟨pDest, points, copied⟩ := Outcome.bind_eq_ok_iff.mp done
  obtain ⟨after, copied, loads⟩ := Outcome.bind_eq_ok_iff.mp copied
  obtain ⟨_, -, built⟩ := Outcome.bind_eq_ok_iff.mp loads
  cases built
  rcases inside with low | ⟨above, area⟩
  · rw [getLowMem_low (by omega)] at points
    cases points
    obtain ⟨ram, stored, built⟩ := Outcome.bind_eq_ok_iff.mp copied
    cases built
    have stays : addr.toNat + bytes.length ≤ 0xA0000 := by omega
    exact stored_of_ram stored stays
  · rw [getLowMem_area (by omega) (by omega)] at points
    cases points
    obtain ⟨filled, stored, built⟩ := Outcome.bind_eq_ok_iff.mp copied
    cases built
    have offset := toNat_areaOffset above
    simp only [offset] at stored
    have start : 0xC0000 + (addr.toNat - 0xC0000) = addr.toNat := by
      omega
    have bytesOfArea :=
      stored_of_area stored
        (by omega : addr.toNat - 0xC0000 + bytes.length ≤ 0x20000)
    rw [start] at bytesOfArea
    exact bytesOfArea

end Bytes

end Kvmulate
