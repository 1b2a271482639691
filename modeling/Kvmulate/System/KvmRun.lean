import Kvmulate.Types
import Kvmulate.Lib.Bytes

/-!
# The structure shared with the kernel

What `handle_io` of `system.c` reads and writes of `struct kvm_run`.
-/

namespace Kvmulate.System

open DeviceLib

/-- The mapping of `struct kvm_run`, whose length is an `int`, byte by byte.
Its member `io` starts `io` bytes into it and consists of `direction`, `size`,
`port`, `count` and `data_offset`. -/
structure KvmRun where
  statSz : Nat
  io : Nat
  byte : Nat → Uint8
  positive : statSz < 0x80000000
  header : io + 16 ≤ statSz

namespace KvmRun

/-- The bytes from `offset` on. -/
def bytes (pStat : KvmRun) (offset count : Nat) : List Uint8 :=
  (List.range count).map fun index => pStat.byte (offset + index)

/-- Replace the bytes from `offset` on. -/
def patch (pStat : KvmRun) (offset : Nat) (patched : List Uint8) :
    KvmRun :=
  { pStat with
    byte := fun index =>
      if offset ≤ index ∧ index < offset + patched.length then
        patched.getD (index - offset) 0
      else pStat.byte index }

def direction (pStat : KvmRun) : Uint8 := pStat.byte pStat.io

def size (pStat : KvmRun) : Uint8 := pStat.byte (pStat.io + 1)

def port (pStat : KvmRun) : Uint16 :=
  leValue 16 (pStat.bytes (pStat.io + 2) 2)

def count (pStat : KvmRun) : Uint32 :=
  leValue 32 (pStat.bytes (pStat.io + 4) 4)

def dataOffset (pStat : KvmRun) : Uint64 :=
  leValue 64 (pStat.bytes (pStat.io + 8) 8)

def setDataOffset (pStat : KvmRun) (dataOffset : Uint64) : KvmRun :=
  pStat.patch (pStat.io + 8) (leBytes 8 dataOffset)

/-- `pStat->io.data_offset += pStat->io.size` -/
def advance (pStat : KvmRun) : KvmRun :=
  pStat.setDataOffset (pStat.dataOffset + pStat.size.setWidth 64)

/-- A load through `(uint8*)pStat + pStat->io.data_offset`. -/
def load (pStat : KvmRun) (count : Nat) : Outcome (List Uint8) := do
  Outcome.guard (pStat.dataOffset.toNat + count ≤ pStat.statSz)
  pure (pStat.bytes pStat.dataOffset.toNat count)

/-- A store through `(uint8*)pStat + pStat->io.data_offset`. -/
def store (pStat : KvmRun) (stored : List Uint8) : Outcome KvmRun := do
  Outcome.guard (pStat.dataOffset.toNat + stored.length ≤ pStat.statSz)
  pure (pStat.patch pStat.dataOffset.toNat stored)

variable {pStat : KvmRun} {offset count : Nat} {patched : List Uint8}

/-! ## Patches -/

theorem byte_patch (index : Nat) :
    (pStat.patch offset patched).byte index =
      if offset ≤ index ∧ index < offset + patched.length then
        patched.getD (index - offset) 0
      else pStat.byte index := rfl

/-- What is patched is read back. -/
theorem bytes_patch_self :
    (pStat.patch offset patched).bytes offset patched.length = patched := by
  apply List.ext_getElem
  · simp [bytes]
  · intro index inside bound
    simp only [bytes, List.getElem_map, List.getElem_range, byte_patch]
    rw [if_pos ⟨by omega, by omega⟩, Nat.add_sub_cancel_left,
      List.getD_eq_getElem _ _ bound]

/-- Other bytes are as before. -/
theorem bytes_patch_of_disjoint {start : Nat}
    (disjoint : start + count ≤ offset ∨ offset + patched.length ≤ start) :
    (pStat.patch offset patched).bytes start count =
      pStat.bytes start count := by
  apply List.map_congr_left
  intro index member
  have inside := List.mem_range.mp member
  rw [byte_patch, if_neg (by omega)]

@[simp]
theorem bytes_length : (pStat.bytes offset count).length = count := by
  simp [bytes]

/-! ## The header -/

/-- The two structures differ in the data area and the cursor only. -/
structure SameHeader (pStat after : KvmRun) : Prop where
  statSz : after.statSz = pStat.statSz
  io : after.io = pStat.io
  direction : after.direction = pStat.direction
  size : after.size = pStat.size
  port : after.port = pStat.port
  count : after.count = pStat.count

/-- A patch outside the header leaves the header. -/
theorem sameHeader_patch
    (disjoint : offset + patched.length ≤ pStat.io ∨
      pStat.io + 16 ≤ offset) :
    SameHeader pStat (pStat.patch offset patched) ∧
      (pStat.patch offset patched).dataOffset = pStat.dataOffset := by
  have same : ∀ start count, pStat.io ≤ start →
      start + count ≤ pStat.io + 16 →
        (pStat.patch offset patched).bytes start count =
          pStat.bytes start count := by
    intro start count lower upper
    exact bytes_patch_of_disjoint (by omega)
  have byte : ∀ index, pStat.io ≤ index → index < pStat.io + 16 →
      (pStat.patch offset patched).byte index = pStat.byte index := by
    intro index lower upper
    rw [byte_patch, if_neg (by omega)]
  refine ⟨⟨rfl, rfl, ?_, ?_, ?_, ?_⟩, ?_⟩
  · exact byte pStat.io (by omega) (by omega)
  · exact byte (pStat.io + 1) (by omega) (by omega)
  · exact congrArg (leValue 16)
      (same (pStat.io + 2) 2 (by omega) (by omega))
  · exact congrArg (leValue 32)
      (same (pStat.io + 4) 4 (by omega) (by omega))
  · exact congrArg (leValue 64)
      (same (pStat.io + 8) 8 (by omega) (by omega))

/-- The cursor is set, and the rest of the header is as before. -/
theorem sameHeader_setDataOffset {dataOffset : Uint64} :
    SameHeader pStat (pStat.setDataOffset dataOffset) ∧
      (pStat.setDataOffset dataOffset).dataOffset = dataOffset := by
  have length : (leBytes 8 dataOffset).length = 8 := leBytes_length _ _
  have byte : ∀ index, index < pStat.io + 8 →
      (pStat.setDataOffset dataOffset).byte index = pStat.byte index := by
    intro index before
    unfold setDataOffset
    rw [byte_patch, if_neg (by omega)]
  have same : ∀ start count, start + count ≤ pStat.io + 8 →
      (pStat.setDataOffset dataOffset).bytes start count =
        pStat.bytes start count := by
    intro start count before
    exact bytes_patch_of_disjoint (Or.inl before)
  refine ⟨⟨rfl, rfl, ?_, ?_, ?_, ?_⟩, ?_⟩
  · exact byte pStat.io (by omega)
  · exact byte (pStat.io + 1) (by omega)
  · exact congrArg (leValue 16) (same (pStat.io + 2) 2 (by omega))
  · exact congrArg (leValue 32) (same (pStat.io + 4) 4 (by omega))
  · have stored :
        (pStat.setDataOffset dataOffset).bytes (pStat.io + 8) 8 =
          leBytes 8 dataOffset := by
      have self :=
        @bytes_patch_self pStat (pStat.io + 8) (leBytes 8 dataOffset)
      rw [length] at self
      exact self
    exact (congrArg (leValue 64) stored).trans
      (leValue_leBytes dataOffset (by decide))

theorem SameHeader.trans {first second third : KvmRun}
    (left : SameHeader first second) (right : SameHeader second third) :
    SameHeader first third where
  statSz := right.statSz.trans left.statSz
  io := right.io.trans left.io
  direction := right.direction.trans left.direction
  size := right.size.trans left.size
  port := right.port.trans left.port
  count := right.count.trans left.count

theorem sameHeader_advance :
    SameHeader pStat pStat.advance ∧
      pStat.advance.dataOffset =
        pStat.dataOffset + pStat.size.setWidth 64 :=
  sameHeader_setDataOffset

/-- The cursor does not wrap inside the mapping. -/
theorem toNat_dataOffset_advance
    (inside : pStat.dataOffset.toNat + pStat.size.toNat ≤ pStat.statSz) :
    pStat.advance.dataOffset.toNat =
      pStat.dataOffset.toNat + pStat.size.toNat := by
  have positive := pStat.positive
  have small := pStat.size.isLt
  rw [sameHeader_advance.2, BitVec.toNat_add, BitVec.toNat_setWidth]
  omega

/-- The bytes of the data area are not those of the cursor. -/
theorem bytes_setDataOffset {dataOffset : Uint64} {start : Nat}
    (disjoint : start + count ≤ pStat.io ∨ pStat.io + 16 ≤ start) :
    (pStat.setDataOffset dataOffset).bytes start count =
      pStat.bytes start count := by
  apply bytes_patch_of_disjoint
  rw [leBytes_length]
  omega

/-! ## Patches one after the other -/

/-- Structures of one layout are told apart by their bytes. -/
theorem ext_byte {first second : KvmRun}
    (statSz : first.statSz = second.statSz) (io : first.io = second.io)
    (byte : ∀ index, first.byte index = second.byte index) :
    first = second := by
  cases first
  cases second
  cases statSz
  cases io
  congr
  exact funext byte

theorem patch_nil : pStat.patch offset [] = pStat := by
  refine ext_byte rfl rfl fun index => ?_
  rw [byte_patch, List.length_nil, if_neg (by omega)]

theorem patch_patch_append (later : List Uint8) :
    (pStat.patch offset patched).patch (offset + patched.length) later =
      pStat.patch offset (patched ++ later) := by
  refine ext_byte rfl rfl fun index => ?_
  simp only [byte_patch, List.length_append]
  by_cases first : offset ≤ index ∧ index < offset + patched.length
  · rw [if_neg (by omega), if_pos first, if_pos (by omega),
      List.getD_append _ _ _ _ (by omega)]
  · rw [if_neg first]
    by_cases second :
        offset + patched.length ≤ index ∧
          index < offset + patched.length + later.length
    · rw [if_pos second, if_pos (by omega),
        List.getD_append_right _ _ _ _ (by omega)]
      congr 1
      omega
    · rw [if_neg second, if_neg (by omega)]

theorem setDataOffset_setDataOffset (first second : Uint64) :
    (pStat.setDataOffset first).setDataOffset second =
      pStat.setDataOffset second := by
  refine ext_byte rfl rfl fun index => ?_
  unfold setDataOffset
  simp only [byte_patch, leBytes_length]
  have io : (pStat.patch (pStat.io + 8) (leBytes 8 first)).io =
      pStat.io := rfl
  rw [io]
  by_cases cursor : pStat.io + 8 ≤ index ∧ index < pStat.io + 8 + 8
  · rw [if_pos cursor, if_pos cursor]
  · rw [if_neg cursor, if_neg cursor, if_neg cursor]

/-- The data area can be patched before the cursor is set. -/
theorem patch_setDataOffset {dataOffset : Uint64}
    (disjoint : offset + patched.length ≤ pStat.io ∨
      pStat.io + 16 ≤ offset) :
    (pStat.setDataOffset dataOffset).patch offset patched =
      (pStat.patch offset patched).setDataOffset dataOffset := by
  refine ext_byte rfl rfl fun index => ?_
  unfold setDataOffset
  simp only [byte_patch, leBytes_length]
  have io : (pStat.patch offset patched).io = pStat.io := rfl
  rw [io]
  by_cases data : offset ≤ index ∧ index < offset + patched.length
  · rw [if_pos data, if_pos data, if_neg (by omega)]
  · rw [if_neg data, if_neg data]

end KvmRun

end Kvmulate.System
