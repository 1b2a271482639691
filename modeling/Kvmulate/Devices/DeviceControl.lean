import Kvmulate.Devices.Registered

/-!
# The control block of the ATA controller

Port 0x3F6 lies in the windows of the ATA controller and of the floppy
controller.  The floppy controller is registered first.
-/

namespace Kvmulate.Devices

open DeviceLib Kvmulate.Io

/-- A write reaches Device Control of the selected device, and nothing else
changes. -/
def ReachesDeviceControl (host : Host) (machine : Machine) (val : Uint8) :
    Prop :=
  ∃ cont,
    Ata.pioOutb host.calls machine.ata Ata.portWDeviceControl val =
        .ok cont ∧
      portAccess host machine (.outb 0x3F6 val) =
        .ok (.none, { machine with ata := cont })

/-- A read delivers Alternate Status of the selected device. -/
def DeliversAlternateStatus (host : Host) (machine : Machine) : Prop :=
  ∃ status cont,
    Ata.pioInb machine.ata Ata.portRAlternateStatus =
        .ok (status, cont) ∧
      portAccess host machine (.inb 0x3F6) =
        .ok (.byte status, { machine with ata := cont })

section Conflict

variable {host : Host} {machine : Machine} {val : Uint8}

theorem servedBy_3F6 : servedBy 0x3F6 = some 19 := by decide

theorem lookup_3F6 (host : Host) :
    lookupDevice host 0x3F6 = some (floppyOfDevices host) :=
  lookupDevice_of_servedBy servedBy_3F6

/-- The floppy controller has no register there. -/
theorem serve_floppy_3F6 (host : Host) (sys : Floppy.FloppySystem)
    (val : Uint8) :
    (floppyHandler host).serve sys (.outb 0x3F6 val) = .error .abort ∧
      (floppyHandler host).serve sys (.inb 0x3F6) = .error .abort := by
  have port : (0x3F6 : Uint16) - 0x3F0 + 0x3F0 = 0x3F6 := by decide
  have write :
      Floppy.floppyOutb host.calls sys 0x3F6 val = .error .abort := rfl
  have read : Floppy.floppyInb sys.fdc 0x3F6 = .error .abort := rfl
  simp only [IoHandler.serve, floppyHandler, callOut, callIn, port, write,
    read, Outcome.error_bind, and_self]

/-- Both directions stop the process. -/
theorem portAccess_3F6 (host : Host) (machine : Machine) (val : Uint8) :
    portAccess host machine (.outb 0x3F6 val) = .error .abort ∧
      portAccess host machine (.inb 0x3F6) = .error .abort := by
  have served := serve_floppy_3F6 host (floppyPart.get machine) val
  have found : ∀ access : IoAccess, access.port = 0x3F6 →
      portAccess host machine access =
        (floppyOfDevices host).serve machine access := by
    intro access same
    apply portAccess_of_lookup
    rw [same]
    exact lookup_3F6 host
  constructor
  · rw [found _ rfl]
    refine (serve_onPart floppyPart _ machine _).trans ?_
    rw [served.1, Outcome.error_bind]
  · rw [found _ rfl]
    refine (serve_onPart floppyPart _ machine _).trans ?_
    rw [served.2, Outcome.error_bind]

end Conflict

/-- In no state of the devices is the control block of the ATA controller found
at port 0x3F6. -/
theorem deviceControl_never_served (host : Host) (machine : Machine)
    (val : Uint8) :
    ¬ ReachesDeviceControl host machine val ∧
      ¬ DeliversAlternateStatus host machine := by
  have stopped := portAccess_3F6 host machine val
  constructor
  · intro reached
    rcases reached with ⟨cont, -, returned⟩
    rw [stopped.1] at returned
    cases returned
  · intro delivered
    rcases delivered with ⟨status, cont, -, returned⟩
    rw [stopped.2] at returned
    cases returned

/-- A soft reset right after the start stops the process, and so does a read of
Alternate Status. -/
theorem deviceControl_not_served_at_start :
    ∃ machine, Machine.start bare = .ok machine ∧
      ¬ ReachesDeviceControl Host.atNoon machine 0x04 ∧
        portAccess Host.atNoon machine (.outb 0x3F6 0x04) = .error .abort ∧
          portAccess Host.atNoon machine (.inb 0x3F6) = .error .abort := by
  rcases exists_start_bare with ⟨machine, started⟩
  have stopped := portAccess_3F6 Host.atNoon machine 0x04
  refine ⟨machine, started, ?_, stopped⟩
  intro reached
  rcases reached with ⟨cont, -, returned⟩
  rw [stopped.1] at returned
  cases returned

end Kvmulate.Devices
