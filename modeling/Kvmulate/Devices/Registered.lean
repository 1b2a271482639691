import Kvmulate.Devices.Handlers
import Kvmulate.Vga.RomTracks

/-!
# All devices

The states of the devices that `devices_register_all` creates, the table that
it builds, and the accesses that change them.
-/

namespace Kvmulate.Devices

open DeviceLib Kvmulate.Io Kvmulate.System

/-- The static variables and the allocated contexts of the devices. -/
structure Machine where
  sys : Sys
  cmos : Cmos.Ctx
  a20En : A20En
  dma : I8237.Controllers
  para : Qemu.Ctx
  kbd : Keyboard.KbdRegs
  video : Vga.Video
  fdc : Floppy.Fdc
  lowMem : LowMem
  ata : Ata.AtaController

/-- The machine with another context of the CMOS. -/
def Machine.withCmos (machine : Machine) (ctx : Cmos.Ctx) : Machine :=
  { machine with cmos := ctx }

/-! ## The part of each device -/

def cmosPart : LawfulPart Machine CmosSystem where
  get machine := ⟨machine.cmos, machine.sys⟩
  set after machine := { machine with cmos := after.ctx, sys := after.sys }
  get_set _ _ := rfl
  set_get _ := rfl

def a20Part : LawfulPart Machine A20En where
  get machine := machine.a20En
  set after machine := { machine with a20En := after }
  get_set _ _ := rfl
  set_get _ := rfl

/-- The part of a device that keeps nothing. -/
def noPart : LawfulPart Machine Unit where
  get _ := ()
  set _ machine := machine
  get_set _ _ := rfl
  set_get _ := rfl

def dmaPart : LawfulPart Machine I8237.Controllers where
  get machine := machine.dma
  set after machine := { machine with dma := after }
  get_set _ _ := rfl
  set_get _ := rfl

def videoPart : LawfulPart Machine Vga.Video where
  get machine := machine.video
  set after machine := { machine with video := after }
  get_set _ _ := rfl
  set_get _ := rfl

def pciPart : LawfulPart Machine Pci.PciSystem where
  get machine := machine.video.pci
  set after machine :=
    { machine with video := { machine.video with pci := after } }
  get_set _ _ := rfl
  set_get _ := rfl

def paraPart : LawfulPart Machine Qemu.Ctx where
  get machine := machine.para
  set after machine := { machine with para := after }
  get_set _ _ := rfl
  set_get _ := rfl

def kbdPart : LawfulPart Machine Keyboard.KbdRegs where
  get machine := machine.kbd
  set after machine := { machine with kbd := after }
  get_set _ _ := rfl
  set_get _ := rfl

def vgaPart : LawfulPart Machine Vga.VgaCtx where
  get machine := machine.video.vga
  set after machine :=
    { machine with video := { machine.video with vga := after } }
  get_set _ _ := rfl
  set_get _ := rfl

/-- READ DATA writes to the memory as the DMA controller is programmed. -/
def floppyPart : Part Machine Floppy.FloppySystem where
  get machine := ⟨machine.fdc, machine.dma.dma, machine.lowMem, []⟩
  set after machine :=
    { machine with fdc := after.fdc, lowMem := after.lowMem }

def ataPart : LawfulPart Machine Ata.AtaController where
  get machine := machine.ata
  set after machine := { machine with ata := after }
  get_set _ _ := rfl
  set_get _ := rfl

/-! ## The table -/

def cmosOfDevices (host : Host) : IoHandler Machine :=
  (cmosHandler host).onPart cmosPart

def floppyOfDevices (host : Host) : IoHandler Machine :=
  (floppyHandler host).onPart floppyPart

def pioOfDevices (host : Host) : IoHandler Machine :=
  (pioHandler host).onPart ataPart

/-- `x86_cmos_init` replaces the handler by itself. -/
def x86CmosInit (table : IoTable Machine) (hdl : IoHandler Machine) :
    Outcome (IoTable Machine) :=
  match ioRegisterHandler table hdl with
  | (none, _) => .error .fault
  | (some h, registered) => do
      let (_, next) ← ioRemapHandler registered h hdl
      pure next

/-- The handlers behind that of the CMOS, in the order of their
registration. -/
def otherHandlers (host : Host) : List (IoHandler Machine) :=
  [ps2PosHandler.onPart a20Part,
      biosdebugHandler.onPart noPart,
      (I8237.i8237Handler 0x00 (~~~0x0F)).onPart dmaPart,
      (I8237.i8237Handler 0xC0 (~~~0x1F)).onPart dmaPart,
      I8237.i8237PageHandler.onPart dmaPart,
      Pci.pciHandler.onPart pciPart,
      qemuparaHandler.onPart paraPart,
      kbdHandler.onPart kbdPart] ++
    parportHandlers.map (IoHandler.onPart noPart) ++
    serportHandlers.map (IoHandler.onPart noPart) ++
    [(vgaregHandler 0x3C0).onPart vgaPart,
      (vgaregHandler 0x3D0).onPart vgaPart,
      vgadbgHandler.onPart noPart,
      vbeHandler.onPart noPart,
      floppyOfDevices host,
      pioOfDevices host]

/-- `irq_init` registers no handler. -/
def devicesRegisterAll (host : Host) : Outcome (IoTable Machine) := do
  let table ← x86CmosInit IoTable.empty (cmosOfDevices host)
  pure (registerEach table (otherHandlers host))

/-! ## The start -/

/-- What the devices are created over: the memory and the images. -/
structure Surroundings where
  sys : Sys
  lowMem : LowMem
  vgabios : Option (List Uint8)
  pVRAM : Fin 6 → Nat → Uint8
  floppyImage : Option (List Byte)
  pDMABuffer : Vector Uint8 dmaBufferSize
  hddImage : List Uint8

/-- The devices as `devices_register_all` leaves them. -/
def Machine.start (around : Surroundings) : Outcome Machine := do
  let video ← Vga.x86VgaInit around.vgabios around.pVRAM
  let floppy :=
    Floppy.x86FloppyInit around.floppyImage around.pDMABuffer
      I8237.Controllers.zero.dma around.lowMem
  pure
    { sys := around.sys
      cmos := Cmos.x86CmosInit
      a20En := 0
      dma := I8237.Controllers.zero
      para := Qemu.Ctx.cleared
      kbd := Keyboard.x86KeyboardInit
      video := video
      fdc := floppy.fdc
      lowMem := floppy.lowMem
      ata := Ata.x86AtaInit around.hddImage }

/-- The devices come up unless the file of the VGA ROM is too long for its
buffer. -/
theorem exists_start {around : Surroundings}
    (fits : ∀ image, around.vgabios = some image →
      image.length ≤ Vga.romSize) :
    ∃ machine, Machine.start around = .ok machine := by
  have bus : ∃ pci, Pci.devicesRegisterAll = .ok pci := by
    rcases Vga.romTracks_start with ⟨pci, registered, -⟩
    exact ⟨pci, registered⟩
  rcases bus with ⟨pci, registered⟩
  unfold Machine.start Vga.x86VgaInit Vga.loadBios
  rw [registered]
  cases missing : around.vgabios with
  | none =>
      exact ⟨_, rfl⟩
  | some image =>
      simp only [Outcome.guard_of (fits image missing), Outcome.ok_bind,
        Outcome.pure_eq_ok]
      exact ⟨_, rfl⟩

/-- A machine without images of the VGA ROM and of a floppy disk. -/
def bare : Surroundings where
  sys := Sys.cleared
  lowMem := ⟨Vector.replicate 0xA0000 0, Vector.replicate 0x20000 0⟩
  vgabios := none
  pVRAM := fun _ _ => 0
  floppyImage := none
  pDMABuffer := Vector.replicate dmaBufferSize 0
  hddImage := []

theorem exists_start_bare : ∃ machine, Machine.start bare = .ok machine :=
  exists_start fun _ found => nomatch found

/-! ## Steps -/

/-- An access of the guest to a port or to the memory of a device, a key
event of the viewer, or stores of the guest to its RAM. -/
inductive DeviceStep where
  | port (host : Host) (access : IoAccess)
  | write (address : Uint64) (len : Uint32) (pData : List Uint8)
  | read (address : Uint64) (len : Uint32)
  | key (sc : Uint8) (bIsPressed : Bool)
  | ram (lowMem : LowMem)

/-- `io_in*` and `io_out*` over the table of all devices. -/
def portAccess (host : Host) (machine : Machine) (access : IoAccess) :
    Outcome (IoData × Machine) := do
  let table ← devicesRegisterAll host
  ioAccess table machine access

/-- The accesses of the viewer and of the RAM deliver nothing. -/
def deviceStep : Call Machine DeviceStep Vga.VideoResponse
  | machine, .port host access => do
      let (data, next) ← portAccess host machine access
      pure (.data data, next)
  | machine, .write address len pData => do
      let (response, video) ←
        Vga.videoAccess machine.video (.write address len pData)
      pure (response, { machine with video := video })
  | machine, .read address len => do
      let (response, video) ←
        Vga.videoAccess machine.video (.read address len)
      pure (response, { machine with video := video })
  | machine, .key sc bIsPressed =>
      pure (.data .none,
        { machine with kbd := Keyboard.kbdInject machine.kbd sc bIsPressed })
  | machine, .ram lowMem =>
      pure (.data .none, { machine with lowMem := lowMem })

/-! ## The table that is built -/

section Table

variable {host : Host} {machine next : Machine} {access : IoAccess}
variable {data : IoData}

/-- The handlers in the order in which they are looked up. -/
def registeredHandlers (host : Host) : List (IoHandler Machine) :=
  cmosOfDevices host :: otherHandlers host

theorem exists_registered (host : Host) :
    ∃ table, devicesRegisterAll host = .ok table ∧
      table.handlers = registeredHandlers host := by
  refine ⟨_, rfl, handlers_registerEach ?_⟩
  change 1 + 20 < 128
  decide

def lookupDevice (host : Host) (port : Uint16) :
    Option (IoHandler Machine) :=
  (registeredHandlers host).find? fun handler => handler.decodes port

theorem portAccess_of_lookup {handler : IoHandler Machine}
    (found : lookupDevice host access.port = some handler) :
    portAccess host machine access = handler.serve machine access := by
  rcases exists_registered host with ⟨table, built, handlers⟩
  unfold portAccess
  rw [built]
  apply ioAccess_of_lookup
  unfold lookupHandler
  rw [handlers]
  exact found

/-- The base and the mask of each handler. -/
def windows : List (Uint16 × Uint16) :=
  [(0x70, 0xFE), (0x90, ~~~0x7), (0x402, 0xFFFF), (0x00, ~~~0x0F),
    (0xC0, ~~~0x1F), (0x80, ~~~0x0F), (0xCF8, ~~~7), (0x510, 0xFFFE),
    (0x60, 0xFFF8), (0x378, 0xFFFC), (0x278, 0xFFFC), (0x3F8, 0xFFF8),
    (0x2F8, 0xFFF8), (0x3E8, 0xFFF8), (0x2E8, 0xFFF8), (0x3C0, 0xFFF0),
    (0x3D0, 0xFFF0), (0x500, 0xFFFF), (0x1CE, 0xFFFE), (0x3F0, 0xFFF8),
    (0x1F0, 0xFDF8)]

theorem map_window (host : Host) :
    (registeredHandlers host).map
        (fun handler => (handler.base, handler.mask)) = windows := rfl

/-- The position of the handler that serves a port. -/
def servedBy (port : Uint16) : Option Nat :=
  windows.findIdx? fun window => port &&& window.2 = window.1

/-- Which handler is found depends on the windows alone. -/
theorem lookupDevice_of_servedBy {port : Uint16} {index : Nat}
    (served : servedBy port = some index) :
    lookupDevice host port = (registeredHandlers host)[index]? := by
  unfold servedBy at served
  rw [← map_window host, List.findIdx?_map] at served
  unfold lookupDevice
  rw [List.find?_eq_bind_findIdx?_getElem?]
  exact congrArg (Option.bind · fun index => (registeredHandlers host)[index]?)
    served

end Table

end Kvmulate.Devices
