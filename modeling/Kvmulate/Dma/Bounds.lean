import Kvmulate.Dma
import Kvmulate.Lib.Faults
import Kvmulate.System.GuestMemory

/-!
# The lengths of a transfer

The length that the device supplies, the count that the guest programs and the
buffers of the low memory meet in the copy of a transfer.
-/

namespace Kvmulate

open DeviceLib Kvmulate.System

/-! ## The transfer -/

section Transfer

variable {dma : Dma} {lowMem : LowMem} {uDatalen : Nat}
variable {pData : Vector Uint8 dmaBufferSize}

/-- Above the first megabyte the destination is refused. -/
theorem dmaTransfer_high (lowMem : LowMem)
    (pData : Vector Uint8 dmaBufferSize) (uDatalen : Nat)
    (high : 0x100000 ≤ dma.destOff.toNat) :
    dmaTransferFromDevice dma lowMem 2 pData uDatalen =
      .error .abort := by
  rw [dmaTransfer_eq, LowMem.copyAndLoad, getLowMem_high high]
  rfl

theorem memcpy_ne_abort (lowMem : LowMem) (pDest : LowPtr)
    (bytes : List Uint8) : lowMem.memcpy pDest bytes ≠ .error .abort := by
  unfold LowMem.memcpy
  intro aborted
  split at aborted
  · exact storeList_ne_abort _ _ _
      (Outcome.bind_ok_eq_error_iff.mp aborted)
  · exact storeList_ne_abort _ _ _
      (Outcome.bind_ok_eq_error_iff.mp aborted)

theorem loads_ne_abort (lowMem : LowMem) (pDest : LowPtr) (count : Nat) :
    lowMem.loads pDest count ≠ .error .abort := by
  unfold LowMem.loads
  intro aborted
  split at aborted
  · exact loadList_ne_abort _ _ _ aborted
  · exact loadList_ne_abort _ _ _ aborted

/-- Below the first megabyte, nothing is refused. -/
theorem dmaTransfer_ne_abort (low : dma.destOff.toNat < 0x100000) :
    dmaTransferFromDevice dma lowMem 2 pData uDatalen ≠
      .error .abort := by
  have pointer : ∃ pDest, sysGetLowMem dma.destOff = .ok pDest := by
    by_cases below : dma.destOff.toNat < 0xA0000
    · exact ⟨_, getLowMem_low below⟩
    · exact ⟨_, getLowMem_area (by omega) low⟩
  obtain ⟨pDest, found⟩ := pointer
  rw [dmaTransfer_eq, LowMem.copyAndLoad, found, Outcome.ok_bind]
  intro aborted
  rcases Outcome.bind_eq_error_iff.mp aborted with
    copying | ⟨next, -, loading⟩
  · exact memcpy_ne_abort _ _ _ copying
  · exact loads_ne_abort _ _ _
      (Outcome.bind_ok_eq_error_iff.mp loading)

end Transfer

/-! ## The three lengths -/

/-- The bytes that both the device supplies and the guest programs. -/
def supplied (dma : Dma) (uDatalen : Nat) : Nat :=
  min (dma.count.toNat + 1) uDatalen

/-- Whatever the memory holds, the first bytes of the data, as many as are
supplied, are stored in the buffers of the low memory and delivered to the
guest at the destination, and nothing else; where they would leave the buffers,
the transfer is refused. -/
def TransfersSupplied (sys : Sys) (dma : Dma)
    (pData : Vector Uint8 dmaBufferSize) (uDatalen : Nat) : Prop :=
  ∀ (lowMem : LowMem) (memory : ByteMemory 64),
    if InLowMem dma.destOff (supplied dma uDatalen) then
      ∃ next,
        dmaTransferFromDevice dma lowMem 2 pData uDatalen = .ok next ∧
          lowMem.Stored next dma.destOff.toNat
            (pData.toList.take (supplied dma uDatalen)) ∧
          sys.Delivers memory lowMem next dma.destOff.toNat
            (pData.toList.take (supplied dma uDatalen))
    else
      dmaTransferFromDevice dma lowMem 2 pData uDatalen = .error .abort

section Lengths

variable {dma : Dma} {pData : Vector Uint8 dmaBufferSize} {uDatalen : Nat}
variable {kvm : Kvm} {seabios vgabios : Rom} {blocks : Fin 4 → Uint64}
variable {uNumMegsRAM : Uint32} {sys : Sys}

/-- A memory that holds one byte everywhere. -/
def LowMem.filled (byte : Uint8) : LowMem where
  ram := Vector.replicate 0xA0000 byte
  area := Vector.replicate 0x20000 byte

theorem byteAt_filled {addr : Uint32} {count index : Nat} (byte : Uint8)
    (inside : InLowMem addr count) (above : addr.toNat ≤ index)
    (below : index < addr.toNat + count) :
    (LowMem.filled byte).byteAt index = some byte := by
  simp only [LowMem.byteAt, LowMem.filled]
  rcases inside with low | ⟨high, area⟩
  · rw [if_pos (by omega), Vector.toList_replicate,
      List.getElem?_replicate_of_lt (by omega)]
  · rw [if_neg (by omega), if_neg (by omega), Vector.toList_replicate,
      List.getElem?_replicate_of_lt (by omega)]

theorem length_supplied (dma : Dma) (pData : Vector Uint8 dmaBufferSize)
    (uDatalen : Nat) :
    (pData.toList.take (supplied dma uDatalen)).length =
      supplied dma uDatalen := by
  have small := count_lt dma
  have size : dmaBufferSize = 64 * 1024 := rfl
  rw [List.length_take, Vector.length_toList, supplied]
  omega

/-- A count beyond the supplied length carries a byte too many. -/
theorem not_transfersSupplied_of_long
    (inside : InLowMem dma.destOff dma.touched)
    (long : uDatalen < dma.count.toNat + 1) :
    ¬ TransfersSupplied sys dma pData uDatalen := by
  intro supplies
  have few : supplied dma uDatalen = uDatalen :=
    Nat.min_eq_right (Nat.le_of_lt long)
  have fewInside : InLowMem dma.destOff (supplied dma uDatalen) := by
    rw [few]
    simp only [InLowMem, Dma.touched] at inside ⊢
    omega
  have whole : InLowMem dma.destOff (dma.count.toNat + 1) := by
    simp only [InLowMem, Dma.touched] at inside ⊢
    omega
  have small := count_lt dma
  have length : pData.toList.length = 64 * 1024 := Vector.length_toList
  have programmed := length_programmed dma pData
  have short := length_supplied dma pData uDatalen
  obtain ⟨extra, found⟩ : ∃ extra, pData.toList[uDatalen]? = some extra :=
    ⟨_, List.getElem?_eq_getElem (by omega)⟩
  have only := supplies (LowMem.filled (extra + 1)) (fun _ => 0)
  rw [if_pos fewInside] at only
  obtain ⟨next, transferred, stored, -⟩ := only
  have expected := stored (dma.destOff.toNat + uDatalen)
  have copied :=
    stored_of_dmaTransfer transferred (dma.destOff.toNat + uDatalen)
  rw [if_neg (by omega), byteAt_filled (extra + 1) whole
    (Nat.le_add_right _ _) (by omega)] at expected
  rw [if_pos (by omega), Nat.add_sub_cancel_left,
    List.getElem?_take_of_lt long, found, expected] at copied
  have same : extra + 1 = extra := Option.some.inj copied
  bv_omega

/-- Where the copy or the loads behind it leave their buffer, the call is a
fault. -/
theorem not_transfersSupplied_of_outside
    (low : dma.destOff.toNat < 0x100000)
    (outside : ¬ InLowMem dma.destOff dma.touched) :
    ¬ TransfersSupplied sys dma pData uDatalen := by
  intro supplies
  have only := supplies (LowMem.filled 0) (fun _ => 0)
  by_cases fewInside : InLowMem dma.destOff (supplied dma uDatalen)
  · rw [if_pos fewInside] at only
    obtain ⟨next, transferred, -⟩ := only
    exact outside (exists_dmaTransfer_iff.mp ⟨next, transferred⟩)
  · rw [if_neg fewInside] at only
    exact dmaTransfer_ne_abort low only

/-- With a VGA BIOS, the guest does not see what is stored in the second
buffer. -/
theorem not_transfersSupplied_of_rom
    (created : Created kvm seabios vgabios blocks uNumMegsRAM sys)
    (present : vgabios.file ≠ none) (fits : dma.count.toNat + 1 ≤ uDatalen)
    (above : 0xC0000 ≤ dma.destOff.toNat)
    (inside : InLowMem dma.destOff dma.touched) :
    ¬ TransfersSupplied sys dma pData uDatalen := by
  intro supplies
  have all : supplied dma uDatalen = dma.count.toNat + 1 :=
    Nat.min_eq_left fits
  have fewInside : InLowMem dma.destOff (supplied dma uDatalen) := by
    rw [all]
    simp only [InLowMem, Dma.touched] at inside ⊢
    omega
  have length : pData.toList.length = 64 * 1024 := Vector.length_toList
  have short := length_supplied dma pData uDatalen
  obtain ⟨first, found⟩ : ∃ first, pData.toList[0]? = some first :=
    ⟨_, List.getElem?_eq_getElem (by omega)⟩
  have only := supplies (LowMem.filled 0) (fun _ => first + 1)
  rw [if_pos fewInside] at only
  obtain ⟨next, -, -, delivered⟩ := only
  have start : (dma.destOff.setWidth 64).toNat = dma.destOff.toNat :=
    toNat_wide dma.destOff
  have reads := delivered (dma.destOff.setWidth 64) first
  have hidden : ¬ ShowsLowMem vgabios (dma.destOff.setWidth 64) := by
    rintro (low | ⟨absent, -, -⟩)
    · omega
    · exact present absent
  rw [created.reads_other hidden, start, if_pos (by omega), Nat.sub_self,
    List.getElem?_take_of_lt (by omega), found] at reads
  obtain ⟨mem, -, -, same⟩ := reads.mpr rfl
  have same : first + 1 = first := same
  bv_omega

theorem transfersSupplied_of_shown
    (created : Created kvm seabios vgabios blocks uNumMegsRAM sys)
    (fits : dma.count.toNat + 1 ≤ uDatalen)
    (inside : InLowMem dma.destOff dma.touched)
    (shown : ∀ addr : Uint64, dma.destOff.toNat ≤ addr.toNat →
      addr.toNat < dma.destOff.toNat + (dma.count.toNat + 1) →
        ShowsLowMem vgabios addr) :
    TransfersSupplied sys dma pData uDatalen := by
  intro lowMem memory
  have all : supplied dma uDatalen = dma.count.toNat + 1 :=
    Nat.min_eq_left fits
  have whole : InLowMem dma.destOff (dma.count.toNat + 1) := by
    simp only [InLowMem, Dma.touched] at inside ⊢
    omega
  rw [all, if_pos whole]
  obtain ⟨next, transferred⟩ :=
    (@exists_dmaTransfer_iff dma lowMem pData uDatalen).mpr inside
  have stored := stored_of_dmaTransfer transferred
  refine ⟨next, transferred, stored,
    created.delivers_of_stored stored ?_ memory⟩
  rw [length_programmed]
  exact shown

end Lengths

/-- For every system created, every content of the DMA registers, every data
and every length that the device supplies, the transfer is as it should be
exactly if the destination is above the first megabyte, where it is refused, or
the programmed count is not beyond the supplied length and all that the transfer
touches lies in the RAM, or in the area behind the video memory while there is
no VGA BIOS. -/
theorem transfersSupplied_iff {kvm : Kvm} {seabios vgabios : Rom}
    {blocks : Fin 4 → Uint64} {uNumMegsRAM : Uint32} {sys : Sys}
    (created : Created kvm seabios vgabios blocks uNumMegsRAM sys)
    (dma : Dma) (pData : Vector Uint8 dmaBufferSize) (uDatalen : Nat) :
    TransfersSupplied sys dma pData uDatalen ↔
      0x100000 ≤ dma.destOff.toNat ∨
        dma.count.toNat + 1 ≤ uDatalen ∧
          (dma.destOff.toNat + max (dma.count.toNat + 1) 5 ≤ 0xA0000 ∨
            0xC0000 ≤ dma.destOff.toNat ∧
              dma.destOff.toNat + max (dma.count.toNat + 1) 5 ≤ 0xE0000 ∧
              vgabios.file = none) := by
  constructor
  · intro supplies
    by_contra fails
    rw [not_or] at fails
    obtain ⟨notHigh, fails⟩ := fails
    have low : dma.destOff.toNat < 0x100000 := Nat.lt_of_not_le notHigh
    by_cases inside : InLowMem dma.destOff dma.touched
    · by_cases fits : dma.count.toNat + 1 ≤ uDatalen
      · rw [and_iff_right fits, not_or] at fails
        rcases inside with ram | ⟨above, area⟩
        · exact fails.1 ram
        · by_cases absent : vgabios.file = none
          · exact fails.2 ⟨above, area, absent⟩
          · exact not_transfersSupplied_of_rom created absent fits above
              (Or.inr ⟨above, area⟩) supplies
      · exact not_transfersSupplied_of_long inside (Nat.lt_of_not_le fits)
          supplies
    · exact not_transfersSupplied_of_outside low inside supplies
  · rintro (high | ⟨fits, ram | ⟨above, area, absent⟩⟩)
    · intro lowMem memory
      have outside :
          ¬ InLowMem dma.destOff (supplied dma uDatalen) := by
        simp only [InLowMem]
        omega
      rw [if_neg outside]
      exact dmaTransfer_high lowMem pData uDatalen high
    · refine transfersSupplied_of_shown created fits (Or.inl ram) ?_
      intro addr _ below
      exact Or.inl (by omega)
    · refine transfersSupplied_of_shown created fits
        (Or.inr ⟨above, area⟩) ?_
      intro addr start below
      exact Or.inr ⟨absent, by omega, by omega⟩

/-- The guest programs 1024 bytes for one sector. -/
def Dma.twoSectors : Dma where
  ctl := Vector.replicate 2
    ⟨(Vector.replicate 7 (Vector.replicate 2 0)).setIfInBounds 5
      #v[0xFF, 0x03]⟩
  page := Vector.replicate 0xF 0

/-- The two sectors are asked for, or supplied. -/
theorem transfersSupplied_iff_twoSectors :
    ∃ sys, Created checksOverlaps shortRom noRom mainBlocks mainMegs sys ∧
      (TransfersSupplied sys Dma.twoSectors
          (Vector.replicate dmaBufferSize 0) 1024 ↔
        0x100000 ≤ Dma.twoSectors.destOff.toNat ∨
          Dma.twoSectors.count.toNat + 1 ≤ 1024 ∧
            (Dma.twoSectors.destOff.toNat +
                max (Dma.twoSectors.count.toNat + 1) 5 ≤ 0xA0000 ∨
              0xC0000 ≤ Dma.twoSectors.destOff.toNat ∧
                Dma.twoSectors.destOff.toNat +
                  max (Dma.twoSectors.count.toNat + 1) 5 ≤ 0xE0000 ∧
                noRom.file = none)) := by
  obtain ⟨sys, created⟩ := exists_created
  exact ⟨sys, created, transfersSupplied_iff created Dma.twoSectors
    (Vector.replicate dmaBufferSize 0) 1024⟩

theorem not_always_transfersSupplied :
    ¬ ∀ (sys : Sys) (dma : Dma) (pData : Vector Uint8 dmaBufferSize)
        (sectors : Uint8),
      Created checksOverlaps shortRom noRom mainBlocks mainMegs sys →
        sectors.toNat ≤ 128 →
          TransfersSupplied sys dma pData (sectors.toNat * 512) := by
  intro always
  obtain ⟨sys, created⟩ := exists_created
  have supplies :=
    always sys Dma.twoSectors (Vector.replicate dmaBufferSize 0) 1 created
      (by decide)
  have inside : InLowMem Dma.twoSectors.destOff Dma.twoSectors.touched := by
    decide
  exact not_transfersSupplied_of_long inside (by decide) supplies

end Kvmulate
