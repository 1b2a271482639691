import Kvmulate.Types
import Kvmulate.Lib.Decode

/-!
# Memory-mapped I/O

The device list of `mmio.c` and the dispatch of an access to the first device
that decodes its address.  The entry points of a device work on a state of the
machine; a missing one is `none`.
-/

namespace Kvmulate

open DeviceLib

/-- `mmio_device_t`.  An entry point gets the base of its device. -/
structure MmioDevice (σ : Type) where
  base : Uint32
  mask : Uint32
  readb : Option (Uint32 → Uint64 → σ → Outcome (Uint8 × σ))
  readw : Option (Uint32 → Uint64 → σ → Outcome (Uint16 × σ))
  readl : Option (Uint32 → Uint64 → σ → Outcome (Uint32 × σ))
  readq : Option (Uint32 → Uint64 → σ → Outcome (Uint64 × σ))
  writeb : Option (Uint32 → Uint64 → Uint8 → σ → Outcome σ)
  writew : Option (Uint32 → Uint64 → Uint16 → σ → Outcome σ)
  writel : Option (Uint32 → Uint64 → Uint32 → σ → Outcome σ)
  writeq : Option (Uint32 → Uint64 → Uint64 → σ → Outcome σ)

variable {σ : Type}

/-- The condition under which `getDevice` returns a device; base and mask are
extended to the width of the address. -/
def MmioDevice.decodes (dev : MmioDevice σ) (addr : Uint64) : Bool :=
  dev.base ≠ 0 ∧ addr &&& dev.mask.setWidth 64 = dev.base.setWidth 64

def getDevice (devices : List (MmioDevice σ)) (addr : Uint64) :
    Option (MmioDevice σ) :=
  devices.find? fun dev => dev.decodes addr

/-- Append the device to the list, also when another one has its base. -/
def mmioRegisterDevice (devices : List (MmioDevice σ))
    (dev : MmioDevice σ) : List (MmioDevice σ) :=
  devices ++ [dev]

/-- `ASSERT(pDev->write_ != NULL, ..); pDev->write_(..)` -/
def callWrite {width : Nat}
    (handler :
      Option (Uint32 → Uint64 → BitVec width → σ → Outcome σ))
    (base : Uint32) (address : Uint64) (pData : List Uint8) (state : σ) :
    Outcome (Int × σ) :=
  match handler with
  | none => .error .abort
  | some write => do
      let value := leValue width (pData.take (width / 8))
      pure (0, ← write base address value state)

/-- `ASSERT(pDev->read_ != NULL, ..); *pData = pDev->read_(..)`, where `stored`
bytes are written to `pData`. -/
def callRead {width : Nat}
    (handler :
      Option (Uint32 → Uint64 → σ → Outcome (BitVec width × σ)))
    (stored : Nat) (base : Uint32) (address : Uint64) (state : σ) :
    Outcome (Int × List Uint8 × σ) :=
  match handler with
  | none => .error .abort
  | some read => do
      let (value, next) ← read base address state
      pure (0, leBytes stored value, next)

/-- The result is -1 if no device decodes the address. -/
def mmioWrite (devices : List (MmioDevice σ)) (address : Uint64)
    (len : Uint32) (pData : List Uint8) (state : σ) :
    Outcome (Int × σ) :=
  match getDevice devices address with
  | none => pure (-1, state)
  | some dev =>
      if len = 1 then callWrite dev.writeb dev.base address pData state
      else if len = 2 then
        callWrite dev.writew dev.base address pData state
      else if len = 4 then
        callWrite dev.writel dev.base address pData state
      else if len = 8 then
        callWrite dev.writeq dev.base address pData state
      else .error .abort

/-- The bytes are those stored to `pData`. -/
def mmioRead (devices : List (MmioDevice σ)) (address : Uint64)
    (len : Uint32) (state : σ) : Outcome (Int × List Uint8 × σ) :=
  match getDevice devices address with
  | none => pure (-1, [], state)
  | some dev =>
      if len = 1 then callRead dev.readb 1 dev.base address state
      else if len = 2 then callRead dev.readw 2 dev.base address state
      else if len = 4 then callRead dev.readl 4 dev.base address state
      -- The result of `readq` is stored through a `uint32` pointer.
      else if len = 8 then callRead dev.readq 4 dev.base address state
      else .error .abort

/-! ## The window of the device that is found -/

/-- The address lies in the window of the device. -/
def MmioDevice.Contains (dev : MmioDevice σ) (address : Uint64) : Prop :=
  InWindow dev.base dev.mask address

theorem decodes_of_getDevice {devices : List (MmioDevice σ)}
    {address : Uint64} {dev : MmioDevice σ}
    (found : getDevice devices address = some dev) :
    address &&& dev.mask.setWidth 64 = dev.base.setWidth 64 := by
  have decoded := List.find?_some found
  simp only [MmioDevice.decodes, decide_eq_true_eq] at decoded
  exact decoded.2

/-- The device that is found contains the address exactly when the address has
no bit above the 32 bits of the mask. -/
theorem contains_iff_of_getDevice {devices : List (MmioDevice σ)}
    {address : Uint64} {dev : MmioDevice σ}
    (found : getDevice devices address = some dev) :
    dev.Contains address ↔ address.toNat < 2 ^ 32 :=
  inWindow_iff_of_decoded (by decide) (decodes_of_getDevice found)

end Kvmulate
