import Kvmulate.Dma.Bounds
import Kvmulate.Floppy.Bounds

/-!
# The faults of the floppy controller

A byte for the FIFO is stored behind its end, or it completes a READ DATA
without an image or with a destination whose window leaves the low memory.
-/

namespace Kvmulate.Floppy

open DeviceLib

/-- The DMA controller is programmed for a window that starts below 1M, and the
window or the five bytes that the log line loads leave the buffer of its first
byte. -/
def WindowLeaves (dma : Dma) : Prop :=
  dma.destOff.toNat < 0x100000 ∧
    ¬ InLowMem dma.destOff dma.touched

/-- READ DATA with this many sectors faults. -/
def ReadFaults (sys : FloppySystem) (sectors : Uint8) : Prop :=
  sectors ≤ 128 ∧ (sys.fdc.image = none ∨ WindowLeaves sys.dma)

/-- The sector count, once the byte is stored. -/
def sectorsWith (fdc : Fdc) (val : Uint8) : Uint8 :=
  if fdc.fifondx = 6 then val else fdc.byte 6

/-- The byte is the last one of a READ DATA that faults. -/
def CommandFaults (sys : FloppySystem) (val : Uint8) : Prop :=
  0 < sys.fdc.fifondx ∧ sys.fdc.fifolen ≤ sys.fdc.fifondx + 1 ∧
    commandOf (sys.fdc.byte 0) = some .readData ∧
    ReadFaults sys (sectorsWith sys.fdc val)

/-- The index of the FIFO is behind its end. -/
def FifoFull (fdc : Fdc) : Prop :=
  512 + 10 ≤ fdc.fifondx

section Transfer

variable {host : HostCalls} {sys : FloppySystem} {fdc : Fdc}
variable {val : Uint8}

/-- A transfer does not look where it goes. -/
theorem faultsIff_transfer {dma : Dma} {lowMem : LowMem}
    {pData : Vector Uint8 dmaBufferSize} {len : Nat} :
    FaultsIff (dmaTransferFromDevice dma lowMem 2 pData len)
      (WindowLeaves dma) := by
  by_cases high : 0x100000 ≤ dma.destOff.toNat
  · rw [dmaTransfer_high lowMem pData len high]
    refine FaultsIff.aborts.congr (iff_of_false id ?_)
    rintro ⟨low, -⟩
    omega
  · have low : dma.destOff.toNat < 0x100000 := Nat.lt_of_not_le high
    refine (FaultsIff.of_ne_abort (dmaTransfer_ne_abort low)).congr ?_
    rw [WindowLeaves, and_iff_right low]
    exact not_congr exists_dmaTransfer_iff

theorem faultsIff_readImage {lba : Uint32} {sectors : Uint8}
    (few : sectors ≤ 128) :
    FaultsIff (readImage host fdc lba sectors) (fdc.image = none) := by
  have unchecked : readImage host fdc lba sectors ≠ .error .abort := by
    unfold readImage
    cases fdc.image with
    | none => exact nofun
    | some file =>
        intro aborted
        exact storeList_ne_abort _ _ _
          (Outcome.bind_ok_eq_error_iff.mp aborted)
  refine (FaultsIff.of_ne_abort unchecked).congr ?_
  exact (not_congr (exists_readImage_iff few)).trans not_ne_iff

theorem faultsIff_readData :
    FaultsIff (readData host sys) (ReadFaults sys (sys.fdc.byte 6)) := by
  rw [← sys.fdc.getElem_fifo (by decide : 6 < 522)]
  unfold readData
  refine FaultsIff.assert fun few => ?_
  refine FaultsIff.bind (faultsIff_readImage few) ?_ ?_
  · intro filled _
    exact faultsIff_transfer.map
  · intro image _
    exact (exists_readImage_iff few).mpr image

/-- Of the commands, READ DATA alone faults. -/
theorem faultsIff_doExecuteCommand :
    FaultsIff (doExecuteCommand host sys)
      (commandOf (sys.fdc.byte 0) = some .readData ∧
        ReadFaults sys (sys.fdc.byte 6)) := by
  cases selects : commandOf (sys.fdc.byte 0) with
  | none =>
      rw [doExecuteCommand_of_none selects]
      exact FaultsIff.returns.congr (by simp)
  | some command =>
      rw [doExecuteCommand_of_selects selects]
      cases command with
      | readData =>
          exact faultsIff_readData.congr (by simp [ReadFaults])
      | recalibrate => exact FaultsIff.returns.congr (by simp)
      | senseInterrupt => exact FaultsIff.returns.congr (by simp)
      | readId => exact FaultsIff.returns.congr (by simp)
      | seek => exact FaultsIff.returns.congr (by simp)

theorem byte_six_of_store {fifo : Vector Uint8 (512 + 10)}
    (stored : store fdc.fifo fdc.fifondx val = .ok fifo) :
    fifo.toList.getD 6 0 = sectorsWith fdc val := by
  have inside := indexes_of_store stored
  rw [store_of_indexes inside] at stored
  cases stored
  have list :
      (fdc.fifo.setIfInBounds fdc.fifondx.toNat val).toList =
        fdc.fifo.toList.set fdc.fifondx.toNat val := by
    simp
  have size : fdc.fifo.toList.length = 512 + 10 := by simp
  rw [sectorsWith, list, Fdc.byte, List.getD_eq_getElem?_getD,
    List.getD_eq_getElem?_getD]
  by_cases here : fdc.fifondx = 6
  · have same : fdc.fifondx.toNat = 6 := by omega
    rw [if_pos here, same, List.getElem?_set_self (by omega)]
    rfl
  · have other : fdc.fifondx.toNat ≠ 6 := by omega
    rw [if_neg here, List.getElem?_set_ne other]

/-- The first byte has its place, and the only command of one byte is not
READ DATA. -/
theorem defined_writeFifo_first (starts : sys.fdc.fifondx = 0) :
    (writeFifo host sys val).Defined := by
  have length : (commandLength val).Defined := by
    unfold commandLength
    repeat'
      first
        | exact Outcome.defined_ok
        | exact Outcome.defined_abort
        | refine Outcome.defined_ite (fun _ => ?_) (fun _ => ?_)
  unfold writeFifo beginCommand
  rw [if_pos starts]
  refine Outcome.defined_bind
    (Outcome.defined_bind length fun _ _ => Outcome.defined_ok)
    fun begun began => ?_
  obtain ⟨fifolen, found, built⟩ := Outcome.bind_eq_ok_iff.mp began
  obtain ⟨command, selects, rfl⟩ := exists_command_of_length found
  cases built
  refine Outcome.defined_bind ?_ fun fifo stored => ?_
  · intro fault
    refine store_eq_fault_iff.mp fault ?_
    simp only [starts]
    decide
  · refine Outcome.defined_ite (fun short => ?_) fun _ => Outcome.defined_ok
    have byte : fifo.toList.getD 0 0 = val := by
      simp only [starts] at stored
      have front := congrArg (fun bytes => bytes.getD 0 0)
        (take_of_store stored)
      simpa using front
    refine (faultsIff_doExecuteCommand.congr ?_).defined
    refine iff_of_false ?_ id
    rintro ⟨readData, -⟩
    have first : commandOf (fifo.toList.getD 0 0) = some .readData :=
      readData
    rw [byte, selects] at first
    cases first
    simp only [starts] at short
    exact absurd short (by decide)

theorem faultsIff_writeFifo (low : 0 ≤ sys.fdc.fifondx) :
    FaultsIff (writeFifo host sys val)
      (FifoFull sys.fdc ∨ CommandFaults sys val) := by
  by_cases starts : sys.fdc.fifondx = 0
  · refine (FaultsIff.of_defined (defined_writeFifo_first starts)).congr ?_
    refine iff_of_false id ?_
    rintro (full | ⟨positive, -⟩)
    · unfold FifoFull at full
      omega
    · omega
  unfold writeFifo beginCommand
  rw [if_neg starts, Outcome.pure_eq_ok, Outcome.ok_bind]
  have place : FaultsIff (store sys.fdc.fifo sys.fdc.fifondx val)
      (FifoFull sys.fdc) := by
    refine Iff.trans store_eq_fault_iff ?_
    unfold Indexes FifoFull
    omega
  refine place.bind (fun fifo stored => ?_) fun room _ => ?_
  · have first := byte_zero_of_store (by omega) stored
    have sectors := byte_six_of_store stored
    refine (FaultsIff.ite (fun _ => faultsIff_doExecuteCommand)
      (fun _ => FaultsIff.returns)).congr ?_
    have byteZero : Fdc.byte
        { sys.fdc with
          fifo := fifo, fifondx := sys.fdc.fifondx + 1 } 0 =
            sys.fdc.byte 0 := first
    have byteSix : Fdc.byte
        { sys.fdc with
          fifo := fifo, fifondx := sys.fdc.fifondx + 1 } 6 =
            sectorsWith sys.fdc val := sectors
    rw [byteZero, byteSix, and_false, or_false, CommandFaults,
      and_iff_right (by omega : 0 < sys.fdc.fifondx)]
    exact Iff.rfl
  · exact ⟨_, store_of_indexes (by unfold FifoFull at room; unfold Indexes; omega)⟩

/-! ## The entry points -/

variable {port : Uint16}

theorem faultsIff_floppyOutb (low : 0 ≤ sys.fdc.fifondx) :
    FaultsIff (floppyOutb host sys port val)
      (port = regDataFifo ∧
        (FifoFull sys.fdc ∨ CommandFaults sys val)) := by
  unfold floppyOutb
  by_cases dor : port = regDigitalOut
  · rw [if_pos dor]
    refine FaultsIff.returns.congr (iff_of_false id ?_)
    rintro ⟨data, -⟩
    rw [data] at dor
    exact absurd dor (by decide)
  rw [if_neg dor]
  by_cases data : port = regDataFifo
  · rw [if_pos data, and_iff_right data]
    exact faultsIff_writeFifo low
  · rw [if_neg data]
    have never : FaultsIff
        (if port = regConfigurationControl then
          pure { sys with
            fdc := { sys.fdc with
              ccr := val
              dsr := (sys.fdc.dsr &&& 0xFC) ||| (val &&& 3) } }
        else .error .abort : Outcome FloppySystem) False :=
      FaultsIff.of_defined (Outcome.defined_ite
        (fun _ => Outcome.defined_ok) fun _ => Outcome.defined_abort)
    exact never.congr (iff_of_false id fun both => data both.1)

theorem faultsIff_floppyInb (low : 0 ≤ fdc.fifondx) :
    FaultsIff (floppyInb fdc port)
      (port = regDataFifo ∧ FifoFull fdc) := by
  unfold floppyInb
  by_cases status : port = regMainStatus
  · rw [if_pos status]
    refine FaultsIff.returns.congr (iff_of_false id ?_)
    rintro ⟨data, -⟩
    rw [data] at status
    exact absurd status (by decide)
  rw [if_neg status]
  by_cases dor : port = regDigitalOut
  · rw [if_pos dor]
    refine FaultsIff.returns.congr (iff_of_false id ?_)
    rintro ⟨data, -⟩
    rw [data] at dor
    exact absurd dor (by decide)
  rw [if_neg dor]
  by_cases data : port = regDataFifo
  · rw [if_pos data, and_iff_right data]
    have place : FaultsIff (load fdc.fifo fdc.fifondx) (FifoFull fdc) := by
      refine Iff.trans load_eq_fault_iff ?_
      unfold Indexes FifoFull
      omega
    exact place.first fun r _ => Outcome.defined_ite
      (fun _ => Outcome.defined_ok) fun _ => Outcome.defined_ok
  · rw [if_neg data]
    exact FaultsIff.aborts.congr (iff_of_false id fun both => data both.1)

/-! ## The index is never negative -/

theorem low_writeFifo {after : FloppySystem} (low : 0 ≤ sys.fdc.fifondx)
    (done : writeFifo host sys val = .ok after) :
    0 ≤ after.fdc.fifondx := by
  have executed {called : FloppySystem} (before : 0 ≤ called.fdc.fifondx)
      (ran : doExecuteCommand host called = .ok after) :
      0 ≤ after.fdc.fifondx := by
    rcases doExecuteCommand_index ran with ⟨-, same⟩ | ⟨-, reset, -⟩
    · rw [same]
      exact before
    · omega
  by_cases starts : sys.fdc.fifondx = 0
  · obtain ⟨command, fifo, -, -, rest⟩ := writeFifo_of_zero starts done
    rcases rest with ⟨-, ran⟩ | ⟨-, index, -⟩
    · exact executed (by decide : (0 : Int) ≤ 0 + 1) ran
    · omega
  · obtain ⟨fifo, -, rest⟩ := writeFifo_of_pos (by omega) done
    rcases rest with ⟨-, ran⟩ | ⟨-, shown⟩
    · exact executed (by
        change 0 ≤ sys.fdc.fifondx + 1
        omega) ran
    · rw [shown]
      change 0 ≤ sys.fdc.fifondx + 1
      omega

theorem low_floppyOutb {after : FloppySystem} (low : 0 ≤ sys.fdc.fifondx)
    (done : floppyOutb host sys port val = .ok after) :
    0 ≤ after.fdc.fifondx := by
  unfold floppyOutb at done
  rcases Outcome.of_ite_eq_ok done with ⟨-, done⟩ | ⟨-, done⟩
  · cases done
    change 0 ≤ (writeDor sys.fdc val).fifondx
    unfold writeDor
    by_cases resets : val &&& dorNReset = 0
    · rw [if_pos resets]
      exact Int.le_refl 0
    · rw [if_neg resets]
      exact low
  rcases Outcome.of_ite_eq_ok done with ⟨-, done⟩ | ⟨-, done⟩
  · exact low_writeFifo low done
  rcases Outcome.of_ite_eq_ok done with ⟨-, done⟩ | ⟨-, done⟩
  · cases done
    exact low
  · cases done

theorem low_floppyInb {next : Fdc} (low : 0 ≤ fdc.fifondx)
    (done : floppyInb fdc port = .ok (val, next)) :
    0 ≤ next.fifondx := by
  by_cases data : port = regDataFifo
  · subst data
    obtain ⟨-, -, starts | ⟨index, -⟩⟩ := readFifo_index done
    · omega
    · omega
  · rw [readRegister_eq data done]
    exact low

end Transfer

end Kvmulate.Floppy
