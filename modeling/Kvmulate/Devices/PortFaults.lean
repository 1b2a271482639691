import Kvmulate.Devices.InterruptLines
import Kvmulate.Floppy.Faults
import Kvmulate.Pci.Faults
import Kvmulate.Vga.Indices

/-!
# The port accesses that fault

The table is searched for the handler of an access.  Most handlers fault only
on reads of a width that they do not serve; the DMA controllers, the VGA
registers and the two disk controllers use indices of their own.
-/

namespace Kvmulate.I8237

open DeviceLib

section Faults

variable {dma : Controllers} {access : DmaAccess}

/-- What has no place in the arrays is outside of them. -/
theorem inBounds_iff : InBounds dma access ↔ HasPlace access := by
  constructor
  · intro inside
    by_contra outside
    cases access with
    | inb address =>
        have last : LastRegister address := not_not.mp outside
        have found : ∃ ctl, registerAt address = some (ctl, 7) := by
          rcases last with rfl | rfl | rfl
          · exact ⟨0, by decide⟩
          · exact ⟨1, by decide⟩
          · exact ⟨1, by decide⟩
        obtain ⟨ctl, found⟩ := found
        refine inside ?_
        rw [dmaStep_inb_of_register found,
          readReg_outside _ (by decide : ¬ Indexes 7 ((7 : Nat) : Int))]
        rfl
    | outb address val =>
        by_cases last : LastRegister address
        · have found : ∃ ctl, registerAt address = some (ctl, 7) := by
            rcases last with rfl | rfl | rfl
            · exact ⟨0, by decide⟩
            · exact ⟨1, by decide⟩
            · exact ⟨1, by decide⟩
          obtain ⟨ctl, found⟩ := found
          refine inside ?_
          rw [dmaStep_outb_of_register found,
            writeReg_outside _ _
              (by decide : ¬ Indexes 7 ((7 : Nat) : Int))]
          rfl
        · have page : address = 0x8F := by
            by_contra other
            exact outside ⟨last, other⟩
          subst page
          refine inside ?_
          have shown : handlerAt 0x8F = some .page := by
            decide
          rw [dmaStep_outb_of_page shown,
            pageOutb_eq_fault_iff.mpr (by decide)]
          rfl
  · intro place
    exact (inBounds_and_isolated_iff.mpr place).1

end Faults

end Kvmulate.I8237

namespace Kvmulate.Ata

open DeviceLib

section Faults

variable {cont : AtaController} {host : HostCalls} {address : Uint16}
variable {val : Uint8}

/-- The commands of a disk need no buffer. -/
theorem defined_doCommand (disk : cont.currDev.type = .disk) :
    (doCommand host cont val).Defined := by
  unfold doCommand
  refine Outcome.defined_ite (fun _ => Outcome.defined_ok) fun _ => ?_
  refine Outcome.defined_ite (fun _ => ?_) fun _ => ?_
  · exact Outcome.defined_bind Outcome.defined_assert fun _ _ =>
      Outcome.defined_bind Outcome.defined_assert fun _ _ =>
        Outcome.defined_ok
  refine Outcome.defined_ite (fun _ => Outcome.defined_ok) fun _ => ?_
  refine Outcome.defined_ite (fun _ => ?_) fun _ => ?_
  · refine Outcome.defined_ite (fun dvd => ?_) fun _ => Outcome.defined_ok
    have same : (cont.irqSet false).currDev = cont.currDev := rfl
    rw [same, disk] at dvd
    cases dvd
  refine Outcome.defined_ite (fun _ => ?_) fun _ => ?_
  · exact Outcome.defined_ite (fun _ => Outcome.defined_ok)
      fun _ => Outcome.defined_abort
  exact Outcome.defined_ite (fun _ => Outcome.defined_ok)
    fun _ => Outcome.defined_abort

theorem type_setReg (reg : Reg) :
    (cont.setReg reg val).currDev.type = cont.currDev.type := by
  unfold AtaController.setReg AtaController.setCurrDev
    AtaController.currDev
  cases cont.pCurrDev with
  | master => rfl
  | slave => rfl

/-- Only a soft reset reads a buffer that may be `NULL`. -/
theorem defined_pioOutb (fixed : Fixed cont)
    (apart : address ≠ portWDeviceControl) :
    (pioOutb host cont address val).Defined := by
  unfold pioOutb
  refine Outcome.defined_ite (fun _ => Outcome.defined_ok) fun _ => ?_
  refine Outcome.defined_ite (fun _ => Outcome.defined_ok) fun _ => ?_
  refine Outcome.defined_ite (fun _ => Outcome.defined_ok)
    fun present => ?_
  refine Outcome.defined_ite (fun _ => ?_) fun _ => ?_
  · have selected : cont.pCurrDev = .master :=
      fixed.selects_master (by simpa using present)
    refine defined_doCommand ?_
    change (cont.setReg .command val).currDev.type = .disk
    rw [type_setReg, currDev_of_master selected]
    exact fixed.masterDisk
  rw [if_neg apart]
  repeat'
    first
      | exact Outcome.defined_ok
      | exact Outcome.defined_abort
      | refine Outcome.defined_ite (fun _ => ?_) (fun _ => ?_)

theorem defined_pioInb : (pioInb cont address).Defined := by
  unfold pioInb
  repeat'
    first
      | exact Outcome.defined_ok
      | exact Outcome.defined_abort
      | refine Outcome.defined_ite (fun _ => ?_) (fun _ => ?_)
  cases cont.pCurrDev with
  | master => exact Outcome.defined_ok
  | slave => exact Outcome.defined_ok

theorem faultsIff_pioInw :
    FaultsIff (pioInw cont address)
      (address = 0 ∧
        ¬ insideBuffer cont.currDev.readBuffer
          cont.currDev.readBufferOffset) :=
  FaultsIff.assert fun _ => FaultsIff.guard FaultsIff.returns

theorem faultsIff_pioOutw {word : Uint16} :
    FaultsIff (pioOutw host cont address word)
      (address = 0 ∧
        ¬ insideBuffer cont.currDev.writeBuffer
          cont.currDev.writeBufferOffset) :=
  FaultsIff.assert fun _ => FaultsIff.guard (FaultsIff.of_defined
    (Outcome.defined_ite (fun _ => Outcome.defined_ok)
      fun _ => Outcome.defined_ok))

end Faults

end Kvmulate.Ata

namespace Kvmulate.Vga

open DeviceLib

section Faults

variable {ctx : VgaCtx} {port : Uint16} {val : Uint8}

/-- The write address of the DAC is behind the palette. -/
theorem faultsIff_vgaregOutb {history : DacHistory}
    (bounded : Bounded ctx history) :
    FaultsIff (vgaregOutb ctx port val)
      (port = 0x3C9 ∧ 768 ≤ ctx.pelWriteAddr.toNat) := by
  refine (serves_outb bounded port val).fault_iff.trans ?_
  rw [bounded.write]
  change ¬ (port = 0x3C9 → history.writeStart + history.writes < 768) ↔ _
  rw [Classical.not_imp, Nat.not_lt]

/-- Its read address is. -/
theorem faultsIff_vgaregInb {history : DacHistory}
    (bounded : Bounded ctx history) :
    FaultsIff (vgaregInb ctx port)
      (port = 0x3C9 ∧ 768 ≤ ctx.pelReadAddr.toNat) := by
  refine (serves_inb bounded port).fault_iff.trans ?_
  rw [bounded.read]
  change ¬ (port = 0x3C9 → history.readStart + history.reads < 768) ↔ _
  rw [Classical.not_imp, Nat.not_lt]

end Faults

end Kvmulate.Vga

namespace Kvmulate.Qemu

open DeviceLib

section Faults

variable {ctx next : Ctx} {val : Uint16} {read : Uint8}

theorem defined_fill {bytes : List Uint8}
    (fits : bytes.length ≤ bufferSize) : (ctx.fill bytes).Defined := by
  obtain ⟨buff, filled, -⟩ := exists_fill ctx fits
  rw [filled]
  exact Outcome.defined_ok

theorem defined_qemuparaOutw (port : Uint16) :
    (qemuparaOutw ctx port val).Defined := by
  refine Outcome.defined_ite (fun _ => ?_) fun _ => Outcome.defined_abort
  rw [select_eq]
  cases found : item val with
  | none => exact Outcome.defined_abort
  | some bytes => exact defined_fill (item_length found)

theorem defined_qemuparaInb (low : 0 ≤ ctx.off) :
    (qemuparaInb ctx).Defined := by
  by_cases inside : ctx.off < bufferSize
  · unfold qemuparaInb
    rw [Outcome.assert_of inside, Outcome.ok_bind]
    refine Outcome.defined_bind ?_ fun _ _ => Outcome.defined_ok
    exact fun fault => load_eq_fault_iff.mp fault ⟨low, inside⟩
  · unfold qemuparaInb
    rw [Outcome.assert_of_not inside]
    exact Outcome.defined_abort

/-- The offset is never negative. -/
theorem low_qemuparaInb (low : 0 ≤ ctx.off)
    (done : qemuparaInb ctx = .ok (read, next)) : 0 ≤ next.off := by
  obtain ⟨-, -, rest⟩ := Outcome.bind_eq_ok_iff.mp done
  obtain ⟨byte, -, built⟩ := Outcome.bind_eq_ok_iff.mp rest
  cases built
  change 0 ≤ ctx.off + 1
  omega

theorem low_qemuparaOutw {port : Uint16} (low : 0 ≤ ctx.off)
    (done : qemuparaOutw ctx port val = .ok next) : 0 ≤ next.off := by
  rcases Outcome.of_ite_eq_ok done with ⟨-, selected⟩ | ⟨-, aborted⟩
  swap
  · cases aborted
  rw [select_eq] at selected
  cases found : item val with
  | none =>
      rw [found] at selected
      cases selected
  | some bytes =>
      rw [found] at selected
      obtain ⟨buff, -, built⟩ := Outcome.bind_eq_ok_iff.mp selected
      cases built
      by_cases isNuma : val = numaKey
      · simp only [if_pos isNuma]
        exact low
      · simp only [if_neg isNuma]
        exact Int.le_refl 0

end Faults

end Kvmulate.Qemu

namespace Kvmulate.Cmos

open DeviceLib Kvmulate.System

section Faults

variable {ctx : Ctx} {port : Uint16}

theorem defined_cmosInb (sys : Sys) (tm : Tm) :
    (cmosInb ctx sys tm port).Defined := by
  unfold cmosInb
  repeat'
    first
      | exact Outcome.defined_ok
      | exact Outcome.defined_abort
      | refine Outcome.defined_ite (fun _ => ?_) (fun _ => ?_)

theorem defined_cmosOutb (val : Uint8) :
    (cmosOutb ctx port val).Defined := by
  unfold cmosOutb
  refine Outcome.defined_ite (fun _ => Outcome.defined_ok) fun _ => ?_
  refine Outcome.defined_ite (fun _ => ?_) fun _ => ?_
  · exact Outcome.defined_bind Outcome.defined_assert fun _ _ =>
      Outcome.defined_bind Outcome.defined_assert fun _ _ =>
        Outcome.defined_ok
  repeat'
    first
      | exact Outcome.defined_ok
      | exact Outcome.defined_abort
      | refine Outcome.defined_ite (fun _ => ?_) (fun _ => ?_)

end Faults

end Kvmulate.Cmos
