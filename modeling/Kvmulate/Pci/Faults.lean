import Kvmulate.Io.Faults
import Kvmulate.Pci.ReadBack

/-!
# The PCI bus does not fault

At each of its eight ports, a register of 304 bytes with three bytes in front
of it is reached, whatever the index register holds.
-/

namespace Kvmulate.Pci

open DeviceLib Kvmulate.Io

section Quiet

variable {sys : PciSystem} {dev : PciDev} {reg : Int} {port : BitVec 3}

theorem defined_storeConf (low : -3 ≤ reg) {bytes : List Uint8}
    (high : reg + bytes.length ≤ confSize) :
    (dev.storeConf reg bytes).Defined := by
  obtain ⟨next, stored⟩ := @exists_storeConf dev reg bytes low high
  rw [stored]
  exact Outcome.defined_ok

theorem defined_storeConf_dword (low : -3 ≤ reg)
    (high : reg + 4 ≤ confSize) (val : Uint32) :
    (dev.storeConf reg (leBytes 4 val)).Defined := by
  refine defined_storeConf low ?_
  rw [leBytes_length]
  exact high

theorem defined_readConf {width : Nat} (low : -3 ≤ reg)
    (high : reg + 4 ≤ confSize) (narrow : width / 8 ≤ 4) :
    (PciDev.readConf width dev reg).Defined := by
  rw [readConf_of_inside low (by omega)]
  exact Outcome.defined_ok

theorem defined_pciataWritel (low : -3 ≤ reg) (high : reg + 4 ≤ confSize)
    (val : Uint32) : (pciataWritel dev reg val).Defined := by
  unfold pciataWritel
  refine Outcome.defined_ite (fun bar => ?_) fun _ => ?_
  · refine Outcome.defined_bind ?_ fun sized _ => ?_
    · exact defined_storeConf_dword (by decide) (by decide) _
    · exact defined_storeConf_dword low high _
  · exact Outcome.defined_ite
      (fun _ => defined_storeConf_dword low high _)
      fun _ => defined_storeConf_dword low high _

theorem defined_vgaromWritel (low : -3 ≤ reg) (high : reg + 4 ≤ confSize)
    (rom : VgaRom) (val : Uint32) :
    (vgaromWritel dev rom reg val).Defined := by
  unfold vgaromWritel
  refine Outcome.defined_ite (fun _ => ?_) fun _ => ?_
  · refine Outcome.defined_bind ?_ fun _ _ => Outcome.defined_ok
    exact defined_storeConf low (by
      change reg + 1 ≤ confSize
      omega)
  refine Outcome.defined_ite (fun _ => ?_) fun _ => ?_
  · exact Outcome.defined_bind
      (defined_storeConf_dword (by decide) (by decide) _)
      fun _ _ => Outcome.defined_ok
  refine Outcome.defined_ite (fun _ => ?_) fun _ => Outcome.defined_abort
  exact Outcome.defined_bind (defined_storeConf_dword low high _)
    fun _ _ => Outcome.defined_ok

/-! ## The port handlers -/

/-- A reply calls only callbacks that are there, with a register in range. -/
def InRange {α : Type} (reply : Outcome (Reply PciFunction α)) : Prop :=
  reply.Defined ∧ ∀ function reg, reply = .ok (.call function reg) →
    -3 ≤ reg ∧ reg + 4 ≤ confSize

namespace InRange

theorem callDevice {α : Type} (pci : PciBus PciFunction) (data : port ≠ 0)
    (absent : α) :
    InRange (.ok (pci.callDevice (port.setWidth 16) absent)) := by
  refine ⟨Outcome.defined_ok, fun function reg called => ?_⟩
  unfold PciBus.callDevice at called
  cases found : getDevice pci with
  | none =>
      rw [found] at called
      cases called
  | some dev =>
      rw [found] at called
      cases called
      exact reg_range pci data

theorem abort {α : Type} :
    InRange (.error .abort : Outcome (Reply PciFunction α)) :=
  ⟨Outcome.defined_abort, fun _ _ called => by cases called⟩

theorem done {α : Type} {value : α} : InRange (.ok (.done value)) :=
  ⟨Outcome.defined_ok, fun _ _ called => by cases called⟩

theorem ite {α : Type} {condition : Prop} [Decidable condition]
    {one other : Outcome (Reply PciFunction α)}
    (yes : condition → InRange one) (no : ¬ condition → InRange other) :
    InRange (if condition then one else other) := by
  by_cases holds : condition
  · rw [if_pos holds]
    exact yes holds
  · rw [if_neg holds]
    exact no holds

theorem assert {α : Type} {condition : Prop} [Decidable condition]
    {reply : Outcome (Reply PciFunction α)} (inRange : InRange reply) :
    InRange (Outcome.assert condition >>= fun _ => reply) := by
  by_cases holds : condition
  · rw [Outcome.assert_of holds]
    exact inRange
  · rw [Outcome.assert_of_not holds]
    exact abort

end InRange

/-- A port behind the first four is one of the data ports. -/
theorem ne_zero_of_four_le (high : (0x4 : Uint16) ≤ port.setWidth 16) :
    port ≠ 0 := by
  rintro rfl
  exact absurd high (by decide)

theorem inRange_pciInb (pci : PciBus PciFunction) :
    InRange (pciInb pci (port.setWidth 16)) :=
  InRange.ite (fun high => .callDevice pci (ne_zero_of_four_le high) _)
    fun _ => .abort

theorem inRange_pciInw (pci : PciBus PciFunction) :
    InRange (pciInw pci (port.setWidth 16)) :=
  InRange.ite (fun high => .callDevice pci (ne_zero_of_four_le high) _)
    fun _ => .abort

theorem inRange_pciInl (pci : PciBus PciFunction) :
    InRange (pciInl pci (port.setWidth 16)) := by
  refine InRange.ite (fun _ => .done) fun _ => ?_
  exact InRange.ite
    (fun high => .callDevice pci (ne_zero_of_four_le high) _)
    fun _ => .abort

theorem ne_zero_of_not_le_three
    (behind : ¬ port.setWidth 16 ≤ (3 : Uint16)) : port ≠ 0 := by
  rintro rfl
  exact behind (by decide)

theorem inRange_pciOutb (pci : PciBus PciFunction) (val : Uint8) :
    InRange (pciOutb pci (port.setWidth 16) val) := by
  refine InRange.ite (fun _ => ?_) fun behind => ?_
  · exact InRange.ite (fun _ => .done) fun _ => .abort
  · exact .callDevice pci (ne_zero_of_not_le_three behind) pci

theorem inRange_pciOutw (pci : PciBus PciFunction) :
    InRange (pciOutw pci (port.setWidth 16)) := by
  refine InRange.ite (fun _ => .abort) fun behind => ?_
  cases found : getDevice pci with
  | none => exact .done
  | some dev =>
      refine InRange.assert ⟨Outcome.defined_ok, fun function reg called => ?_⟩
      cases called
      exact reg_range pci (ne_zero_of_not_le_three behind)

theorem inRange_pciOutl (pci : PciBus PciFunction) (val : Uint32) :
    InRange (pciOutl pci (port.setWidth 16) val) := by
  refine InRange.ite (fun _ => .done) fun data => ?_
  exact InRange.assert
    (.callDevice pci (setWidth_ne_zero.mp data) pci)

theorem defined_finish
    {reply : Outcome (Reply PciFunction (PciBus PciFunction))}
    {callback : PciFunction → Int → Outcome PciSystem}
    (inRange : InRange reply)
    (quiet : ∀ function (reg : Int), -3 ≤ reg → reg + 4 ≤ confSize →
      (callback function reg).Defined) :
    (sys.finish reply callback).Defined := by
  refine Outcome.defined_bind inRange.1 fun answer answered => ?_
  cases answer with
  | done bus => exact Outcome.defined_ok
  | call function reg =>
      obtain ⟨low, high⟩ := inRange.2 function reg answered
      exact quiet function reg low high

theorem defined_finishRead {width : Nat}
    {reply : Outcome (Reply PciFunction (BitVec width))}
    {callback : PciFunction → Int → Outcome (BitVec width)}
    (inRange : InRange reply)
    (quiet : ∀ function (reg : Int), -3 ≤ reg → reg + 4 ≤ confSize →
      (callback function reg).Defined) :
    (sys.finishRead reply callback).Defined := by
  refine Outcome.defined_bind inRange.1 fun answer answered => ?_
  cases answer with
  | done val => exact Outcome.defined_ok
  | call function reg =>
      obtain ⟨low, high⟩ := inRange.2 function reg answered
      exact Outcome.defined_bind (quiet function reg low high)
        fun _ _ => Outcome.defined_ok

theorem defined_writeb (val : Uint8) (function : PciFunction) :
    (sys.writeb val function reg).Defined := by
  cases function with
  | vga =>
      refine Outcome.defined_bind ?_ fun _ _ => Outcome.defined_ok
      exact Outcome.defined_bind Outcome.defined_assert
        fun _ _ => Outcome.defined_ok
  | ata => exact Outcome.defined_ok

theorem defined_writel (low : -3 ≤ reg) (high : reg + 4 ≤ confSize)
    (val : Uint32) (function : PciFunction) :
    (sys.writel val function reg).Defined := by
  cases function with
  | vga =>
      exact Outcome.defined_bind (defined_vgaromWritel low high _ val)
        fun _ _ => Outcome.defined_ok
  | ata =>
      exact Outcome.defined_bind (defined_pciataWritel low high val)
        fun _ _ => Outcome.defined_ok

/-- At the eight ports of its window the bus never faults. -/
theorem not_entryFaults {access : IoAccess}
    (window : access.port - pciHandler.base = port.setWidth 16) :
    ¬ pciHandler.EntryFaults sys access := by
  cases access with
  | outb address val =>
      change ¬ sys.finish (pciOutb sys.bus (address - pciHandler.base) val) _
        = .error .fault
      have shown : address - pciHandler.base = port.setWidth 16 := window
      rw [shown]
      exact defined_finish (inRange_pciOutb _ val) fun function reg _ _ =>
        defined_writeb val function
  | outw address val =>
      change ¬ sys.finish (pciOutw sys.bus (address - pciHandler.base)) _
        = .error .fault
      have shown : address - pciHandler.base = port.setWidth 16 := window
      rw [shown]
      refine defined_finish (inRange_pciOutw _) fun function reg _ _ => ?_
      cases function with
      | vga => exact Outcome.defined_ok
      | ata => exact Outcome.defined_ok
  | outl address val =>
      change ¬ sys.finish (pciOutl sys.bus (address - pciHandler.base) val) _
        = .error .fault
      have shown : address - pciHandler.base = port.setWidth 16 := window
      rw [shown]
      exact defined_finish (inRange_pciOutl _ val) fun function reg low high =>
        defined_writel low high val function
  | inb address =>
      change ¬ sys.finishRead (pciInb sys.bus (address - pciHandler.base)) _
        = .error .fault
      have shown : address - pciHandler.base = port.setWidth 16 := window
      rw [shown]
      refine defined_finishRead (inRange_pciInb _)
        fun function reg low high => ?_
      cases function with
      | vga => exact defined_readConf low high (by decide)
      | ata => exact defined_readConf low high (by decide)
  | inw address =>
      change ¬ sys.finishRead (pciInw sys.bus (address - pciHandler.base)) _
        = .error .fault
      have shown : address - pciHandler.base = port.setWidth 16 := window
      rw [shown]
      refine defined_finishRead (inRange_pciInw _)
        fun function reg low high => ?_
      cases function with
      | vga => exact defined_readConf low high (by decide)
      | ata => exact defined_readConf low high (by decide)
  | inl address =>
      change ¬ sys.finishRead (pciInl sys.bus (address - pciHandler.base)) _
        = .error .fault
      have shown : address - pciHandler.base = port.setWidth 16 := window
      rw [shown]
      refine defined_finishRead (inRange_pciInl _)
        fun function reg low high => ?_
      cases function with
      | vga => exact defined_readConf low high (by decide)
      | ata => exact defined_readConf low high (by decide)

end Quiet

end Kvmulate.Pci
