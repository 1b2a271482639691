import Kvmulate.Ata.Controller
import Kvmulate.Cmos.Clock
import Kvmulate.Floppy.Controller
import Kvmulate.I8237
import Kvmulate.Io.Parts
import Kvmulate.Keyboard.Controller
import Kvmulate.Qemu.Paravirt
import Kvmulate.Vga.Registers
import Kvmulate.Vga.Rom

/-!
# The handlers that the devices register

Each handler as the initialization of its device fills it, over the state of
that device.  A `memset` or static storage leaves the other entry points
`NULL`.
-/

namespace Kvmulate.Devices

open DeviceLib Kvmulate.Io Kvmulate.System

/-- What a call asks the host for: the time, and the outcome of its file
operations. -/
structure Host where
  time : Cmos.LocalTime
  calls : HostCalls

/-- A host whose file operations all succeed. -/
def Host.atNoon : Host := ⟨Cmos.noon2026, HostCalls.full⟩

/-- An entry point that only stops the process. -/
def refuseIn {σ : Type} {width : Nat} (_ : Uint16) (_ : σ) :
    Outcome (BitVec width × σ) :=
  .error .abort

def refuseOut {σ : Type} {width : Nat} (_ : Uint16) (_ : BitVec width)
    (_ : σ) : Outcome σ :=
  .error .abort

/-- An entry point that answers 0. -/
def zeroIn {σ : Type} {width : Nat} (_ : Uint16) (state : σ) :
    Outcome (BitVec width × σ) :=
  pure (0, state)

/-- An entry point without an effect on the devices. -/
def ignoreOut {σ : Type} {width : Nat} (_ : Uint16) (_ : BitVec width)
    (state : σ) : Outcome σ :=
  pure state

/-! ## The CMOS -/

/-- The context, and the system that it points to. -/
structure CmosSystem where
  ctx : Cmos.Ctx
  sys : Sys

def cmosHandler (host : Host) : IoHandler CmosSystem where
  base := 0x70
  mask := 0xFE
  inb := some fun address state => do
    let (val, ctx) ←
      Cmos.cmosInb state.ctx state.sys host.time.toTm address
    pure (val, { state with ctx := ctx })
  inw := none
  inl := none
  outb := some fun address val state => do
    let ctx ← Cmos.cmosOutb state.ctx address val
    pure { state with ctx := ctx }
  outw := none
  outl := none

/-! ## System control and debug ports -/

/-- `state.A20_en` of `ps2_pos.c`. -/
abbrev A20En := Int

def ps2posInb (port : Uint16) (a20En : A20En) : Outcome (Uint8 × A20En) :=
  if port = 2 then pure (if a20En ≠ 0 then (1 : Uint8) <<< 1 else 0, a20En)
  else .error .abort

def ps2posOutb (port : Uint16) (val : Uint8) (_ : A20En) :
    Outcome A20En :=
  if port = 2 then pure ((val >>> 1) &&& 1).toNat
  else .error .abort

def ps2PosHandler : IoHandler A20En where
  base := 0x90
  mask := ~~~0x7
  inb := some ps2posInb
  inw := none
  inl := none
  outb := some ps2posOutb
  outw := none
  outl := none

/-- The byte goes to the output of the process. -/
def biosdebugHandler : IoHandler Unit where
  base := 0x402
  mask := 0xFFFF
  inb := some refuseIn
  inw := none
  inl := none
  outb := some ignoreOut
  outw := none
  outl := none

def vgadbgHandler : IoHandler Unit where
  base := 0x500
  mask := 0xFFFF
  inb := some refuseIn
  inw := none
  inl := none
  outb := some ignoreOut
  outw := none
  outl := none

/-! ## The paravirtual interface and the keyboard -/

def qemuparaHandler : IoHandler Qemu.Ctx where
  base := 0x510
  mask := 0xFFFE
  inb := some fun _ ctx => Qemu.qemuparaInb ctx
  inw := some refuseIn
  inl := some refuseIn
  outb := some refuseOut
  outw := some fun address val ctx => Qemu.qemuparaOutw ctx address val
  outl := some refuseOut

/-- `port += hdl->base` -/
def kbdHandler : IoHandler Keyboard.KbdRegs where
  base := 0x60
  mask := 0xFFF8
  inb := some fun address regs => Keyboard.kbdInb regs (address + 0x60)
  inw := some refuseIn
  inl := some refuseIn
  outb := some fun address val regs =>
    Keyboard.kbdOutb regs (address + 0x60) val
  outw := some refuseOut
  outl := some refuseOut

/-! ## Parallel and serial ports -/

/-- A handler of `parallelport.c` or `serialport.c`, which differ in their
windows. -/
def dummyPort (base mask : Uint16) : IoHandler Unit where
  base := base
  mask := mask
  inb := some zeroIn
  inw := some refuseIn
  inl := some refuseIn
  outb := some ignoreOut
  outw := some refuseOut
  outl := some refuseOut

def parportHandlers : List (IoHandler Unit) :=
  [dummyPort 0x378 0xFFFC, dummyPort 0x278 0xFFFC]

def serportHandlers : List (IoHandler Unit) :=
  [dummyPort 0x3F8 0xFFF8, dummyPort 0x2F8 0xFFF8,
    dummyPort 0x3E8 0xFFF8, dummyPort 0x2E8 0xFFF8]

/-! ## The VGA registers -/

def vgaregHandler (base : Uint16) : IoHandler Vga.VgaCtx where
  base := base
  mask := 0xFFF0
  inb := some fun address ctx => Vga.vgaregInb ctx (address + base)
  inw := some fun address ctx => Vga.vgaregInw ctx (address + base)
  inl := some refuseIn
  outb := some fun address val ctx =>
    Vga.vgaregOutb ctx (address + base) val
  outw := some fun address val ctx =>
    Vga.vgaregOutw ctx (address + base) val
  outl := some refuseOut

def vbeHandler : IoHandler Unit where
  base := 0x1CE
  mask := 0xFFFE
  inb := some zeroIn
  inw := some zeroIn
  inl := none
  outb := some ignoreOut
  outw := some ignoreOut
  outl := none

/-! ## The disks -/

def floppyHandler (host : Host) : IoHandler Floppy.FloppySystem where
  base := 0x3F0
  mask := 0xFFF8
  inb := some fun address sys => do
    let (val, fdc) ← Floppy.floppyInb sys.fdc (address + 0x3F0)
    pure (val, { sys with fdc := fdc })
  inw := none
  inl := none
  outb := some fun address val sys =>
    Floppy.floppyOutb host.calls sys (address + 0x3F0) val
  outw := none
  outl := none

/-- The second assignment to `io.mask` leaves bit 9 of the address out. -/
def pioHandler (host : Host) : IoHandler Ata.AtaController where
  base := 0x1F0
  mask := 0xFDF8
  inb := some fun address cont => Ata.pioInb cont address
  inw := some fun address cont => Ata.pioInw cont address
  inl := none
  outb := some fun address val cont => Ata.pioOutb host.calls cont address val
  outw := some fun address val cont => Ata.pioOutw host.calls cont address val
  outl := none

end Kvmulate.Devices
