import Kvmulate.Types
import Kvmulate.Lib.Run

/-!
# The VGA context

The `vgactx_t` of `include/devices/x86/vga/vga.h`, together with the static
variable of `vgareg_inb` that emulates the vertical retrace.
-/

namespace Kvmulate.Vga

open DeviceLib

/-- The allocated bytes of a plane. -/
def planeSize : Nat := 0x20000

structure VgaCtx where
  miscOutputReg : Uint8
  seqNdx : Int
  seqReg : Vector Uint8 5
  attrNdx : Uint8
  attrReg : Vector Uint8 0x15
  gcontNdx : Int
  gcontReg : Vector Uint8 9
  crtcNdx : Uint8
  crtcReg : Vector Uint8 0x19
  pelWriteAddr : Uint16
  pelReadAddr : Uint16
  pel : Vector Uint8 768
  pVRAM : Fin 6 → Nat → Uint8
  retrace : Bool

/-- The context as it is cleared before the registers are used; the planes
hold whatever `malloc` delivers. -/
def VgaCtx.zeroed (pVRAM : Fin 6 → Nat → Uint8) : VgaCtx where
  miscOutputReg := 0
  seqNdx := 0
  seqReg := Vector.replicate 5 0
  attrNdx := 0
  attrReg := Vector.replicate 0x15 0
  gcontNdx := 0
  gcontReg := Vector.replicate 9 0
  crtcNdx := 0
  crtcReg := Vector.replicate 0x19 0
  pelWriteAddr := 0
  pelReadAddr := 0
  pel := Vector.replicate 768 0
  pVRAM := pVRAM
  retrace := false

end Kvmulate.Vga
