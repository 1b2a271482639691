import Kvmulate.LowMem

/-!
# The DMA controller

The registers of `devices/x86/i8237-dma.c` that a transfer uses, and the
transfer itself.
-/

namespace Kvmulate

open DeviceLib

/-- The low and the high byte of each register of a controller. -/
structure DmaCtl where
  regs : Vector (Vector Uint8 2) 7
deriving DecidableEq

structure Dma where
  ctl : Vector DmaCtl 2
  page : Vector Uint8 0xF
deriving DecidableEq

namespace Dma

/-- The 24 bits of the destination. -/
def destOff (dma : Dma) : Uint32 :=
  (dma.page[1].setWidth 32 <<< 16) |||
    (dma.ctl[0].regs[4][1].setWidth 32 <<< 8) |||
      dma.ctl[0].regs[4][0].setWidth 32

def count (dma : Dma) : Uint32 :=
  (dma.ctl[0].regs[5][1].setWidth 32 <<< 8) |||
    dma.ctl[0].regs[5][0].setWidth 32

/-- The destination and the count are 0. -/
def zero : Dma where
  ctl := Vector.replicate 2 ⟨Vector.replicate 7 (Vector.replicate 2 0)⟩
  page := Vector.replicate 0xF 0

end Dma

/-- The size of the buffer that the floppy controller transfers from. -/
abbrev dmaBufferSize : Nat := 64 * 1024

/-- The number of bytes that the log line behind the copy loads. -/
abbrev loggedBytes : Nat := 5

/-- The length that the device supplies is not looked at. -/
def dmaTransferFromDevice (dma : Dma) (lowMem : LowMem) (ch : Nat)
    (pData : Vector Uint8 dmaBufferSize) (_uDatalen : Nat) :
    Outcome LowMem := do
  Outcome.assert (ch = 2)
  let pDest ← sysGetLowMem dma.destOff
  let bytes ← loadList pData 0 (dma.count.toNat + 1)
  let next ← lowMem.memcpy pDest bytes
  -- The arguments of "DMA Five", `pDest[0]` to `pDest[4]`.
  let _ ← next.loads pDest loggedBytes
  pure next

/-- The number of bytes from the destination on that a transfer stores or
loads. -/
def Dma.touched (dma : Dma) : Nat :=
  max (dma.count.toNat + 1) loggedBytes

theorem count_lt (dma : Dma) : dma.count.toNat < 65536 := by
  have high := dma.ctl[0].regs[5][1].isLt
  have low := dma.ctl[0].regs[5][0].isLt
  simp only [Dma.count]
  rw [BitVec.toNat_or]
  refine @Nat.or_lt_two_pow _ _ 16 ?_ ?_
  · rw [BitVec.toNat_shiftLeft, BitVec.toNat_setWidth,
      Nat.shiftLeft_eq]
    omega
  · rw [BitVec.toNat_setWidth]
    omega

section Transfer

variable {dma : Dma} {lowMem : LowMem} {pData : Vector Uint8 dmaBufferSize}
variable {uDatalen : Nat}

theorem length_programmed (dma : Dma)
    (pData : Vector Uint8 dmaBufferSize) :
    (pData.toList.take (dma.count.toNat + 1)).length =
      dma.count.toNat + 1 := by
  have small := count_lt dma
  have size : dmaBufferSize = 64 * 1024 := rfl
  rw [List.length_take, Vector.length_toList]
  omega

theorem programmed_ne_nil (dma : Dma)
    (pData : Vector Uint8 dmaBufferSize) :
    pData.toList.take (dma.count.toNat + 1) ≠ [] := by
  intro nothing
  have length := length_programmed dma pData
  rw [nothing] at length
  cases length

/-- The programmed count is copied, whatever the device supplies. -/
theorem dmaTransfer_eq :
    dmaTransferFromDevice dma lowMem 2 pData uDatalen =
      lowMem.copyAndLoad dma.destOff
        (pData.toList.take (dma.count.toNat + 1)) loggedBytes := by
  have small := count_lt dma
  have size : dmaBufferSize = 64 * 1024 := rfl
  have inside : 0 + (dma.count.toNat + 1) ≤ dmaBufferSize := by
    omega
  have loaded := @loadList_of_le _ _ pData _ _ inside
  rw [List.drop_zero] at loaded
  unfold dmaTransferFromDevice
  rw [Outcome.assert_of rfl, Outcome.ok_bind, loaded]
  rfl

/-- A transfer returns exactly when all it touches lies in the low memory. -/
theorem exists_dmaTransfer_iff :
    (∃ next,
        dmaTransferFromDevice dma lowMem 2 pData uDatalen = .ok next) ↔
      InLowMem dma.destOff dma.touched := by
  rw [dmaTransfer_eq, exists_copyAndLoad_iff (programmed_ne_nil dma pData),
    length_programmed]
  rfl

/-- The programmed bytes are put in the buffers. -/
theorem stored_of_dmaTransfer {next : LowMem}
    (transferred :
      dmaTransferFromDevice dma lowMem 2 pData uDatalen = .ok next) :
    lowMem.Stored next dma.destOff.toNat
      (pData.toList.take (dma.count.toNat + 1)) := by
  rw [dmaTransfer_eq] at transferred
  exact stored_of_copyAndLoad (programmed_ne_nil dma pData) transferred

end Transfer

end Kvmulate
