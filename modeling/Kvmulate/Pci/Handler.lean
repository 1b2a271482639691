import Kvmulate.Io
import Kvmulate.Lib.Bytes
import Kvmulate.Pci.Functions

/-!
# The port handler of the PCI bus

The reads of the configuration spaces, from `devices/x86/vga/rom.c` and
`devices/x86/ata/controller.c`, and the handler that `x86_pci_init` registers.
-/

namespace Kvmulate.Pci

open DeviceLib Kvmulate.Io

/-! ## Reads -/

/-- A load through `((uint8*)&dev.conf) + reg`. -/
def PciDev.readConf (width : Nat) (dev : PciDev) (reg : Int) :
    Outcome (BitVec width) := do
  Outcome.guard (-3 ≤ reg)
  let bytes ← loadList dev.raw (3 + reg).toNat (width / 8)
  pure (leValue width bytes)

def vgaromReadb : PciDev → Int → Outcome Uint8 := PciDev.readConf 8

def vgaromReadw : PciDev → Int → Outcome Uint16 := PciDev.readConf 16

def vgaromReadl : PciDev → Int → Outcome Uint32 := PciDev.readConf 32

def pciataReadb : PciDev → Int → Outcome Uint8 := PciDev.readConf 8

def pciataReadw : PciDev → Int → Outcome Uint16 := PciDev.readConf 16

def pciataReadl : PciDev → Int → Outcome Uint32 := PciDev.readConf 32

namespace PciSystem

def readb (sys : PciSystem) : PciFunction → Int → Outcome Uint8
  | .vga, reg => vgaromReadb (sys.bus.object .vga) reg
  | .ata, reg => pciataReadb (sys.bus.object .ata) reg

def readw (sys : PciSystem) : PciFunction → Int → Outcome Uint16
  | .vga, reg => vgaromReadw (sys.bus.object .vga) reg
  | .ata, reg => pciataReadw (sys.bus.object .ata) reg

def readl (sys : PciSystem) : PciFunction → Int → Outcome Uint32
  | .vga, reg => vgaromReadl (sys.bus.object .vga) reg
  | .ata, reg => pciataReadl (sys.bus.object .ata) reg

/-- Do what a reading handler of the bus ends with. -/
def finishRead {width : Nat} (sys : PciSystem)
    (reply : Outcome (Reply PciFunction (BitVec width)))
    (callback : PciFunction → Int → Outcome (BitVec width)) :
    Outcome (BitVec width × PciSystem) := do
  match ← reply with
  | .done val => pure (val, sys)
  | .call function reg => do
      let val ← callback function reg
      pure (val, sys)

end PciSystem

/-! ## The handler -/

def pciHandler : IoHandler PciSystem where
  base := 0xCF8
  mask := ~~~7
  inb := some fun address sys =>
    sys.finishRead (pciInb sys.bus address) sys.readb
  inw := some fun address sys =>
    sys.finishRead (pciInw sys.bus address) sys.readw
  inl := some fun address sys =>
    sys.finishRead (pciInl sys.bus address) sys.readl
  outb := some fun address val sys =>
    sys.finish (pciOutb sys.bus address val) (sys.writeb val)
  outw := some fun address val sys =>
    sys.finish (pciOutw sys.bus address) (sys.writew val)
  outl := some fun address val sys =>
    sys.finish (pciOutl sys.bus address val) (sys.writel val)

theorem finishRead_state {width : Nat} {sys next : PciSystem}
    {reply : Outcome (Reply PciFunction (BitVec width))}
    {callback : PciFunction → Int → Outcome (BitVec width)}
    {val : BitVec width}
    (done : sys.finishRead reply callback = .ok (val, next)) :
    next = sys := by
  obtain ⟨shown, -, rest⟩ := Outcome.bind_eq_ok_iff.mp done
  cases shown with
  | done value =>
      cases rest
      rfl
  | call function reg =>
      obtain ⟨value, -, built⟩ := Outcome.bind_eq_ok_iff.mp rest
      cases built
      rfl

end Kvmulate.Pci
