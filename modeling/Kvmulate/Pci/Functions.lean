import Kvmulate.Pci.Bus

/-!
# The functions on the PCI bus

The configuration space of the disk controller, from
`devices/x86/ata/controller.c`, and that of the VGA ROM, from
`devices/x86/vga/rom.c`, behind the port handlers of the bus.
-/

namespace Kvmulate.Pci

open DeviceLib

/-! ## Configuration space -/

def cfgRegBar0 : Int := 0x10
def cfgRegBar1 : Int := 0x14
def cfgRegBar2 : Int := 0x18
def cfgRegBar3 : Int := 0x1C
def cfgRegBar4 : Int := 0x20
def cfgRegBar5 : Int := 0x24
def cfgRegExprom : Int := 0x30

namespace PciDev

/-- A byte of `conf`. -/
def conf (dev : PciDev) (offset : Nat) : Uint8 := dev.byte (3 + offset)

/-- A store through `((uint8*)&dev.conf) + reg`.  Below 0 it reaches the three
bytes before `conf`. -/
def storeConf (dev : PciDev) (reg : Int) (bytes : List Uint8) :
    Outcome PciDev := do
  Outcome.guard (-3 ≤ reg)
  let raw ← storeList dev.raw (3 + reg).toNat bytes
  pure { dev with raw := raw }

end PciDev

structure Identity where
  vendorid : Uint16
  deviceid : Uint16
  classandrev : Uint32
  headertype : Uint8
deriving DecidableEq, Repr

def PciDev.identity (dev : PciDev) : Identity where
  vendorid := dev.conf 1 ++ dev.conf 0
  deviceid := dev.conf 3 ++ dev.conf 2
  classandrev := dev.conf 11 ++ dev.conf 10 ++ dev.conf 9 ++ dev.conf 8
  headertype := dev.conf 14

/-- The static `dev` before the initialization. -/
def PciDev.clear : PciDev := ⟨Vector.replicate _ 0, true⟩

/-- The fields that both functions initialize; `memset` clears the others. -/
def PciDev.initConf (dev : PciDev) (vendorid deviceid : Uint16)
    (classandrev : Uint32) : Outcome PciDev := do
  let dev ← dev.storeConf 0 (leBytes 2 vendorid)
  let dev ← dev.storeConf 2 (leBytes 2 deviceid)
  let dev ← dev.storeConf 4 (leBytes 2 (0x0003 : Uint16))
  let dev ← dev.storeConf 6 (leBytes 2 (0x0280 : Uint16))
  dev.storeConf 8 (leBytes 4 classandrev)

/-! ## The disk controller -/

def ataClass : Uint32 :=
  ((0x01 : Uint32) <<< 24) ||| ((0x01 : Uint32) <<< 16) |||
    ((((1 : Uint32) <<< 7) + 3) <<< 8) ||| ((0x00 : Uint32) <<< 0)

def pciataWriteb (dev : PciDev) (_reg : Int) (_val : Uint8) :
    Outcome PciDev := pure dev

def pciataWritew (dev : PciDev) (_reg : Int) (_val : Uint16) :
    Outcome PciDev := pure dev

def pciataWritel (dev : PciDev) (reg : Int) (val : Uint32) :
    Outcome PciDev :=
  if reg = cfgRegBar0 ∧ val = 0xFFFFFFFF then do
    let sized ←
      dev.storeConf cfgRegBar0
        (leBytes 4 ((0xFFFFFF0 : Uint32) ||| ((0 : Uint32) <<< 1) |||
          ((1 : Uint32) <<< 0)))
    sized.storeConf reg (leBytes 4 (0 : Uint32))
  else if reg = cfgRegBar1 ∨ reg = cfgRegBar2 ∨ reg = cfgRegBar3 ∨
      reg = cfgRegBar4 ∨ reg = cfgRegBar5 ∨ reg = cfgRegExprom then
    dev.storeConf reg (leBytes 4 (0 : Uint32))
  else dev.storeConf reg (leBytes 4 val)

/-! ## The VGA ROM -/

def vgaClass : Uint32 :=
  ((0x03 : Uint32) <<< 24) ||| ((0x00 : Uint32) <<< 16) |||
    ((0x00 : Uint32) <<< 8) ||| ((0x00 : Uint32) <<< 0)

/-- What a write to the expansion ROM register changes of `ctx`. -/
structure VgaRom where
  base : Uint32
  isMapped : Bool
deriving DecidableEq, Repr

def remapBios (rom : VgaRom) (newbase : Uint32) : VgaRom :=
  if newbase ≠ 0xC0000 then ⟨newbase, true⟩ else rom

def vgaromWriteb (dev : PciDev) (reg : Int) (_val : Uint8) :
    Outcome PciDev := do
  Outcome.assert (reg = 0x04)
  pure dev

def vgaromWritew (dev : PciDev) (_reg : Int) (_val : Uint16) :
    Outcome PciDev := pure dev

/-- A base address register loses its low byte only. -/
def vgaromWritel (dev : PciDev) (rom : VgaRom) (reg : Int)
    (val : Uint32) : Outcome (PciDev × VgaRom) :=
  if reg = cfgRegBar0 ∨ reg = cfgRegBar1 ∨ reg = cfgRegBar2 ∨
      reg = cfgRegBar3 ∨ reg = cfgRegBar4 ∨ reg = cfgRegBar5 then do
    let next ← dev.storeConf reg [0]
    pure (next, rom)
  else if reg = cfgRegExprom ∧ val = 0xFFFFF800 then do
    let next ← dev.storeConf cfgRegExprom (leBytes 4 (0xFFFE0000 : Uint32))
    pure (next, rom)
  else if reg = cfgRegExprom then do
    let mapped :=
      if val &&& 1 ≠ 0 then remapBios rom (val &&& ~~~1) else rom
    let next ← dev.storeConf reg (leBytes 4 val)
    pure (next, mapped)
  else .error .abort

/-! ## Writes of the guest -/

inductive PciFunction where
  | vga
  | ata
deriving DecidableEq, Repr

structure PciSystem where
  bus : PciBus PciFunction
  rom : VgaRom

def PciSystem.setDev (sys : PciSystem) (function : PciFunction)
    (next : PciDev) : PciSystem :=
  { sys with bus := sys.bus.setObject function next }

def x86VgaRomInit (bus : PciBus PciFunction) : Outcome PciSystem := do
  let dev ← PciDev.clear.initConf 0x1234 0x1111 vgaClass
  let dev ← dev.storeConf 14 [0x00]
  let dev ← dev.storeConf cfgRegExprom (leBytes 4 (0xC0000 : Uint32))
  let (_, bus) ←
    pciRegisterDev (bus.setObject .vga dev) (-1) (some .vga)
  pure { bus := bus, rom := ⟨0xFFAA0000, false⟩ }

def x86AtaInit (sys : PciSystem) : Outcome PciSystem := do
  let dev ← PciDev.clear.initConf 0xF00D 0xDEAD ataClass
  let (_, bus) ←
    pciRegisterDev (sys.bus.setObject .ata dev) (-1) (some .ata)
  pure { sys with bus := bus }

/-- What `devices_register_all` does to the bus. -/
def devicesRegisterAll : Outcome PciSystem := do
  let sys ← x86VgaRomInit (x86PciInit fun _ => PciDev.clear)
  x86AtaInit sys

namespace PciSystem

def writeb (sys : PciSystem) (val : Uint8) :
    PciFunction → Int → Outcome PciSystem
  | .vga, reg => do
      let next ← vgaromWriteb (sys.bus.object .vga) reg val
      pure (sys.setDev .vga next)
  | .ata, reg => do
      let next ← pciataWriteb (sys.bus.object .ata) reg val
      pure (sys.setDev .ata next)

def writew (sys : PciSystem) (val : Uint16) :
    PciFunction → Int → Outcome PciSystem
  | .vga, reg => do
      let next ← vgaromWritew (sys.bus.object .vga) reg val
      pure (sys.setDev .vga next)
  | .ata, reg => do
      let next ← pciataWritew (sys.bus.object .ata) reg val
      pure (sys.setDev .ata next)

def writel (sys : PciSystem) (val : Uint32) :
    PciFunction → Int → Outcome PciSystem
  | .vga, reg => do
      let (next, rom) ←
        vgaromWritel (sys.bus.object .vga) sys.rom reg val
      pure { sys.setDev .vga next with rom := rom }
  | .ata, reg => do
      let next ← pciataWritel (sys.bus.object .ata) reg val
      pure (sys.setDev .ata next)

/-- Do what the handler of the bus ends with. -/
def finish (sys : PciSystem)
    (reply : Outcome (Reply PciFunction (PciBus PciFunction)))
    (callback : PciFunction → Int → Outcome PciSystem) :
    Outcome PciSystem := do
  match ← reply with
  | .done bus => pure { sys with bus := bus }
  | .call function reg => callback function reg

end PciSystem

/-- A write to one of the eight ports from 0xCF8 on. -/
inductive ConfigWrite where
  | outb (port : BitVec 3) (val : Uint8)
  | outw (port : BitVec 3) (val : Uint16)
  | outl (port : BitVec 3) (val : Uint32)
deriving DecidableEq, Repr

def configWrite : Call PciSystem ConfigWrite Unit
  | sys, .outb port val => do
      let next ← sys.finish (pciOutb sys.bus (port.setWidth 16) val)
        (sys.writeb val)
      pure ((), next)
  | sys, .outw port val => do
      let next ← sys.finish (pciOutw sys.bus (port.setWidth 16))
        (sys.writew val)
      pure ((), next)
  | sys, .outl port val => do
      let next ← sys.finish (pciOutl sys.bus (port.setWidth 16) val)
        (sys.writel val)
      pure ((), next)

end Kvmulate.Pci
