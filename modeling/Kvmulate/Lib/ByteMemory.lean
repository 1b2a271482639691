import Kvmulate.Lib.Bytes

/-!
# The bytes of an address space

A memory gives every address its byte.  Addresses are machine words, and an
address is compared with a buffer by its distance from the first byte.
-/

namespace DeviceLib

variable {width : Nat}

abbrev ByteMemory (width : Nat) := BitVec width → Byte

namespace ByteMemory

/-- Put the bytes into memory from `base` on. -/
def store (memory : ByteMemory width) (base : BitVec width)
    (bytes : List Byte) : ByteMemory width :=
  fun addr => (bytes[(addr - base).toNat]?).getD (memory addr)

section Store

variable {memory : ByteMemory width} {base addr : BitVec width}
variable {bytes : List Byte}

/-- The byte at a distance from the base. -/
theorem store_apply {distance : Nat}
    (apart : (addr - base).toNat = distance) :
    memory.store base bytes addr =
      (bytes[distance]?).getD (memory addr) := by
  rw [store, apart]

/-- What lies behind the bytes is left alone. -/
theorem store_of_le (outside : bytes.length ≤ (addr - base).toNat) :
    memory.store base bytes addr = memory addr := by
  rw [store_apply rfl, List.getElem?_eq_none outside]
  rfl

/-- One of the bytes is read. -/
theorem store_eq_iff {distance : Nat} {byte : Byte}
    (apart : (addr - base).toNat = distance)
    (inside : distance < bytes.length) :
    memory.store base bytes addr = byte ↔
      bytes[distance]? = some byte := by
  rw [store_apply apart, List.getElem?_eq_getElem inside]
  exact Option.some_inj.symm

end Store

end ByteMemory

end DeviceLib
