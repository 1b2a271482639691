import Kvmulate.Types
import Kvmulate.Lib.Run
import Mathlib.Logic.Function.Basic

/-!
# The ATA task file, devices and controller

The declarations of `include/devices/x86/ata/ata_internal.h`.  A buffer is
absent while its pointer is `NULL`; its length is the allocated size.  An
allocation is taken to succeed.
-/

namespace Kvmulate.Ata

open DeviceLib

/-! ## Ports, registers and bits -/

def portRAlternateStatus : Uint16 := 0x206
def portWDeviceControl : Uint16 := 0x206
def portRStatus : Uint16 := 0x007
def portWCommand : Uint16 := 0x007
def portRwCylinderHigh : Uint16 := 0x005
def portRwCylinderLow : Uint16 := 0x004
def portRwDeviceHead : Uint16 := 0x006
def portRError : Uint16 := 0x001
def portWFeatures : Uint16 := 0x001
def portRwSectorCount : Uint16 := 0x002
def portRwSectorNumber : Uint16 := 0x003
def portFloppy0 : Uint16 := 0x202

/-- The indices `REG_*` of the register array, in their order. -/
inductive Reg where
  | data
  | error
  | features
  | sectorCount
  | sectorNumber
  | cylinderLow
  | cylinderHigh
  | deviceHead
  | status
  | command
  | deviceControl
  | alternateStatus
deriving DecidableEq, Repr

abbrev Regs := Reg → Uint8

def bitStatusDrdy : Uint8 := 0x40
def bitStatusDrq : Uint8 := 0x08
def bitStatusErr : Uint8 := 0x01
def bitErrorAbrt : Uint8 := 0x04
def bitDeviceControlSrst : Uint8 := 0x04

def cmdRecalibrateCode : Uint8 := 0x10
def cmdReadSectorsCode : Uint8 := 0x20
def cmdWriteSectorsCode : Uint8 := 0x30
def cmdInitializeDevParamsCode : Uint8 := 0x91
def cmdIdentifyPacketDeviceCode : Uint8 := 0xA1
def cmdIdentifyDeviceCode : Uint8 := 0xEC

/-! ## `atadev_t` and `atacontroller_t` -/

inductive AtaDeviceType where
  | invalid
  | disk
  | dvdRom
deriving DecidableEq, Repr

structure AtaDev where
  bIsPresent : Bool
  type : AtaDeviceType
  backingfile : HostFile
  identify : Vector Uint16 256
  reg : Regs
  readBuffer : Option (List Uint8)
  readBufferOffset : Int
  readBufferSize : Int
  writeBuffer : Option (List Uint8)
  writeBufferOffset : Int
  writeBufferSize : Int
  writeBufferLBA : Uint64

/-- What `pCurrDev` points to. -/
inductive CurrDev where
  | master
  | slave
deriving DecidableEq, Repr

/-- The controller, with the level last given to `irq_set(14, ..)`. -/
structure AtaController where
  master : AtaDev
  slave : AtaDev
  pCurrDev : CurrDev
  irq14 : Bool

/-- A device as `calloc` leaves it. -/
def AtaDev.zeroed : AtaDev where
  bIsPresent := false
  type := .invalid
  backingfile := ⟨[], 0⟩
  identify := Vector.replicate 256 0
  reg := fun _ => 0
  readBuffer := none
  readBufferOffset := 0
  readBufferSize := 0
  writeBuffer := none
  writeBufferOffset := 0
  writeBufferSize := 0
  writeBufferLBA := 0

namespace AtaController

/-- `*pCont->pCurrDev` -/
def currDev (cont : AtaController) : AtaDev :=
  match cont.pCurrDev with
  | .master => cont.master
  | .slave => cont.slave

def setCurrDev (cont : AtaController) (dev : AtaDev) : AtaController :=
  match cont.pCurrDev with
  | .master => { cont with master := dev }
  | .slave => { cont with slave := dev }

/-- `pCont->pCurrDev->reg[reg] = val` -/
def setReg (cont : AtaController) (reg : Reg) (val : Uint8) :
    AtaController :=
  cont.setCurrDev
    { cont.currDev with
      reg := Function.update cont.currDev.reg reg val }

def irqSet (cont : AtaController) (level : Bool) : AtaController :=
  { cont with irq14 := level }

end AtaController

/-- `reg[REG_STATUS] = val; reg[REG_ALTERNATE_STATUS] = reg[REG_STATUS]` -/
def Regs.setStatus (regs : Regs) (val : Uint8) : Regs :=
  Function.update (Function.update regs .status val)
    .alternateStatus val

/-- DRQ is set in the Status register. -/
def AtaDev.drq (dev : AtaDev) : Prop :=
  dev.reg .status &&& bitStatusDrq ≠ 0

instance (dev : AtaDev) : Decidable dev.drq :=
  inferInstanceAs (Decidable (_ ≠ _))

end Kvmulate.Ata
