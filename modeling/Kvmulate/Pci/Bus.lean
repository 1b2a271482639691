import Kvmulate.Lib.Indexed
import Kvmulate.Lib.Run
import Kvmulate.Lib.Slots
import Kvmulate.Types

/-!
# The PCI bus

The devices of `include/pci.h`, and the table, the registration and the port
handlers of `devices/x86/pci.c`.
-/

namespace Kvmulate.Pci

open DeviceLib

/-! ## Devices -/

structure Address where
  bus : Uint8
  dev : Uint8
  fn : Uint8
deriving DecidableEq, Repr

def confSize : Nat := 304

/-- A `pcidev_t`, byte by byte: `bus`, `dev` and `fn`, and behind them the
packed `conf`, which the callbacks reach through raw pointers.  Of the
callbacks, only `writew` is tested for `NULL`. -/
structure PciDev where
  raw : Vector Uint8 (3 + confSize)
  writew : Bool
deriving DecidableEq

namespace PciDev

def byte (dev : PciDev) (index : Nat) : Uint8 :=
  dev.raw.toList.getD index 0

def address (dev : PciDev) : Address :=
  ⟨dev.byte 0, dev.byte 1, dev.byte 2⟩

def setAddress (dev : PciDev) (address : Address) : PciDev :=
  { dev with
    raw := ((dev.raw.setIfInBounds 0 address.bus).setIfInBounds 1
      address.dev).setIfInBounds 2 address.fn }

end PciDev

/-! ## The bus -/

/-- The static `state`. -/
structure ConfigState extends Address where
  configspace : Uint32
  index : Uint8
deriving DecidableEq

abbrev maxFpb : Nat := 8 * 32

/-- The statics of `pci.c`, and the devices that its pointers point to. -/
structure PciBus (Ref : Type) where
  state : ConfigState
  devs : Nat
  dev : Vector (Option Ref) maxFpb
  object : Ref → PciDev

variable {Ref : Type}

def getDevice (pci : PciBus Ref) : Option Ref :=
  pci.dev.toList.findSome? <| Option.filter fun ref =>
    (pci.object ref).address = pci.state.toAddress

def x86PciInit (object : Ref → PciDev) : PciBus Ref where
  state := { bus := 0, dev := 0, fn := 0, configspace := 0, index := 0 }
  devs := 0
  dev := Vector.replicate maxFpb none
  object := object

def PciBus.setObject [DecidableEq Ref] (pci : PciBus Ref) (ref : Ref)
    (next : PciDev) : PciBus Ref :=
  { pci with
    object := fun other => if other = ref then next else pci.object other }

/-- The first free slot takes the device. -/
def pciRegisterDev [DecidableEq Ref] (pci : PciBus Ref) (bus : Int)
    (newdev : Option Ref) : Outcome (Int × PciBus Ref) := do
  Outcome.assert (bus = -1)
  match newdev with
  | none => .error .abort
  | some ref =>
      match pci.dev.toList.findIdx? Option.isNone with
      | none => pure (-1, pci)
      | some i =>
          let address := ⟨0, BitVec.ofNat 8 pci.devs, 0⟩
          let next :=
            pci.setObject ref ((pci.object ref).setAddress address)
          pure (0,
            { next with
              devs := pci.devs + 1
              dev := pci.dev.setIfInBounds i (some ref) })

/-! ## The port handlers -/

/-- How a handler ends: with a value of its own, or in a call of a callback of
the selected device, which gets the register and, if it writes, the value
written. -/
inductive Reply (Ref α : Type) where
  | done (value : α)
  | call (device : Ref) (reg : Int)
deriving DecidableEq

/-- The register that a data port stands for. -/
def PciBus.reg (pci : PciBus Ref) (port : Uint16) : Int :=
  pci.state.index.toNat + port.toNat - 0x4

/-- Call the selected device; without one, `absent` is the result. -/
def PciBus.callDevice {α : Type} (pci : PciBus Ref) (port : Uint16)
    (absent : α) : Reply Ref α :=
  match getDevice pci with
  | none => .done absent
  | some dev => .call dev (pci.reg port)

def pciInb (pci : PciBus Ref) (port : Uint16) :
    Outcome (Reply Ref Uint8) :=
  if 0x4 ≤ port then pure (pci.callDevice port 0xFF)
  else .error .abort

def pciInw (pci : PciBus Ref) (port : Uint16) :
    Outcome (Reply Ref Uint16) :=
  if 0x4 ≤ port then pure (pci.callDevice port 0xFFFF)
  else .error .abort

def pciInl (pci : PciBus Ref) (port : Uint16) :
    Outcome (Reply Ref Uint32) :=
  if port = 0 then
    pure (.done ((pci.state.configspace <<< 31) |||
      ((pci.state.bus &&& 0x0F).setWidth 32 <<< 16) |||
      ((pci.state.dev &&& 0x1F).setWidth 32 <<< 11) |||
      pci.state.index.setWidth 32))
  else if 0x4 ≤ port then pure (pci.callDevice port 0xFFFF)
  else .error .abort

def pciOutb (pci : PciBus Ref) (port : Uint16) (val : Uint8) :
    Outcome (Reply Ref (PciBus Ref)) :=
  if port ≤ 3 then
    if port = 3 then
      pure (.done { pci with state := { pci.state with index := val } })
    else .error .abort
  else pure (pci.callDevice port pci)

def pciOutw (pci : PciBus Ref) (port : Uint16) :
    Outcome (Reply Ref (PciBus Ref)) :=
  if port ≤ 3 then .error .abort
  else
    match getDevice pci with
    | none => pure (.done pci)
    | some dev => do
        Outcome.assert ((pci.object dev).writew = true)
        pure (.call dev (pci.reg port))

/-- What a dword at CONFIG_ADDRESS is taken apart into. -/
def latch (val : Uint32) : ConfigState where
  configspace := val >>> 31
  index := (val &&& 0xFF).setWidth 8
  bus := ((val >>> 16) &&& 0x0F).setWidth 8
  dev := ((val >>> 11) &&& 0x1F).setWidth 8
  fn := ((val >>> 8) &&& 0x07).setWidth 8

def pciOutl (pci : PciBus Ref) (port : Uint16) (val : Uint32) :
    Outcome (Reply Ref (PciBus Ref)) :=
  if port = 0 then pure (.done { pci with state := latch val })
  else do
    Outcome.assert (pci.state.configspace = 1)
    pure (pci.callDevice port pci)

end Kvmulate.Pci
