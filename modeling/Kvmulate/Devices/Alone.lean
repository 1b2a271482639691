import Kvmulate.Devices.Components

/-!
# Each device on its own

The disk controller, the keyboard controller, the DMA controllers and the
small devices as components of the machine, each with the step function that
its own modules are about.
-/

namespace Kvmulate.Devices

open DeviceLib Kvmulate.Io

/-! ## The disk controller -/

/-- The controller has no entry points for accesses of 32 bits. -/
def pioInput : Host × IoAccess → Option (HostCalls × Ata.Access)
  | (host, .outb port val) => some (host.calls, .outb (port - 0x1F0) val)
  | (host, .outw port val) => some (host.calls, .outw (port - 0x1F0) val)
  | (_, .outl _ _) => none
  | (host, .inb port) => some (host.calls, .inb (port - 0x1F0))
  | (host, .inw port) => some (host.calls, .inw (port - 0x1F0))
  | (_, .inl _) => none

def pioData : Ata.Response → IoData
  | .none => .none
  | .byte val => .byte val
  | .word val => .word val

section Pio

variable {cont next : Ata.AtaController} {own : Host × IoAccess}
variable {data : IoData} {input : HostCalls × Ata.Access}

theorem pio_serves (taken : pioInput own = some input) :
    handlerCall pioHandler cont own = (do
      let (answer, after) ← Ata.access cont input
      pure (pioData answer, after)) := by
  obtain ⟨host, access⟩ := own
  cases access with
  | outb port val =>
      cases taken
      simp only [handlerCall, IoHandler.serve, pioHandler, callOut,
        Ata.access, bind_assoc, pure_bind]
      rfl
  | outw port val =>
      cases taken
      simp only [handlerCall, IoHandler.serve, pioHandler, callOut,
        Ata.access, bind_assoc, pure_bind]
      rfl
  | inb port =>
      cases taken
      simp only [handlerCall, IoHandler.serve, pioHandler, callIn,
        Ata.access, bind_assoc, pure_bind]
      rfl
  | inw port =>
      cases taken
      simp only [handlerCall, IoHandler.serve, pioHandler, callIn,
        Ata.access, bind_assoc, pure_bind]
      rfl
  | outl => cases taken
  | inl => cases taken

theorem pio_spares (apart : pioInput own = none)
    (called : handlerCall pioHandler cont own = .ok (data, next)) :
    next = cont := by
  obtain ⟨host, access⟩ := own
  cases access with
  | outl => cases called
  | inl => cases called
  | outb => cases apart
  | outw => cases apart
  | inb => cases apart
  | inw => cases apart

end Pio

def pioComponent : Component (handlerCall pioHandler) Ata.access where
  get cont := cont
  set after _ := after
  takes := pioInput
  shows := pioData
  get_set _ _ := rfl
  serves := pio_serves
  spares := pio_spares

theorem ata_spared : SparedBy [20] ataPart.get where
  cmos := .inr fun _ _ => rfl
  a20 := .inr fun _ _ => rfl
  dma := .inr fun _ _ => rfl
  pci := .inr fun _ _ => rfl
  para := .inr fun _ _ => rfl
  kbd := .inr fun _ _ => rfl
  vga := .inr fun _ _ => rfl
  floppy := .inr fun _ _ => rfl
  ata := .inl List.mem_cons_self

theorem ata_placed (host : Host) :
    (registeredHandlers host)[20]? =
      some ((pioHandler host).onPart ataPart) := rfl

theorem ata_offPorts {machine next : Machine} {step : DeviceStep}
    {response : Vga.VideoResponse}
    (stepped : deviceStep machine step = .ok (response, next))
    (off : step.OffPorts) : ataPart.get next = ataPart.get machine :=
  view_of_offPorts (fun _ _ => rfl) (fun _ _ => rfl) (fun _ _ => rfl)
    stepped off

def ataSlot : Slot Ata.AtaController where
  index := 20
  part := ataPart
  handler := pioHandler
  placed := ata_placed
  spared := ata_spared
  offPorts := ata_offPorts

/-- The disk controller in the machine. -/
def ataAlone : Component deviceStep Ata.access :=
  ataSlot.component.trans pioComponent

theorem ataAlone_takes_port {host : Host} {access : IoAccess}
    (served : servedBy access.port = some 20) :
    ataAlone.takes (.port host access) = pioInput (host, access) :=
  congrArg (Option.bind · pioInput)
    ((ataSlot.takes_port host access).trans (if_pos served))

/-! ## The keyboard controller -/

/-- Its port accesses, and the key events of the viewer. -/
def kbdInput : DeviceStep → Option Keyboard.KbdStep
  | .key sc bIsPressed => some (.inject sc bIsPressed)
  | .port _ (.outb port val) =>
      if servedBy port = some 8 then some (.outb port val) else none
  | .port _ (.inb port) =>
      if servedBy port = some 8 then some (.inb port) else none
  | _ => none

def byteData : Option Uint8 → Vga.VideoResponse
  | none => .data .none
  | some val => .data (.byte val)

section Kbd

variable {host : Host} {machine next : Machine} {step : DeviceStep}
variable {own : Keyboard.KbdStep} {response : Vga.VideoResponse}
variable {access : IoAccess} {data : IoData}

theorem kbd_spared : SparedBy [8] kbdPart.get where
  cmos := .inr fun _ _ => rfl
  a20 := .inr fun _ _ => rfl
  dma := .inr fun _ _ => rfl
  pci := .inr fun _ _ => rfl
  para := .inr fun _ _ => rfl
  kbd := .inl List.mem_cons_self
  vga := .inr fun _ _ => rfl
  floppy := .inr fun _ _ => rfl
  ata := .inr fun _ _ => rfl

theorem portAccess_kbd (served : servedBy access.port = some 8) :
    portAccess host machine access = (do
      let (data, after) ← kbdHandler.serve machine.kbd access
      pure (data, kbdPart.set after machine)) :=
  portAccess_onPart served rfl

theorem kbd_serves (taken : kbdInput step = some own) :
    deviceStep machine step = (do
      let (answer, after) ← Keyboard.kbdStep (kbdPart.get machine) own
      pure (byteData answer, kbdPart.set after machine)) := by
  cases step with
  | key sc bIsPressed =>
      cases taken
      rfl
  | port host access =>
      cases access with
      | outb port val =>
          obtain ⟨served, same⟩ := Option.ite_none_right_eq_some.mp taken
          cases same
          rw [deviceStep_port,
            @portAccess_kbd host machine (.outb port val) served]
          simp only [IoHandler.serve, kbdHandler, callOut,
            BitVec.sub_add_cancel, Keyboard.kbdStep, bind_assoc, pure_bind]
          rfl
      | inb port =>
          obtain ⟨served, same⟩ := Option.ite_none_right_eq_some.mp taken
          cases same
          rw [deviceStep_port,
            @portAccess_kbd host machine (.inb port) served]
          simp only [IoHandler.serve, kbdHandler, callIn,
            BitVec.sub_add_cancel, Keyboard.kbdStep, bind_assoc, pure_bind]
          rfl
      | outw => cases taken
      | outl => cases taken
      | inw => cases taken
      | inl => cases taken
  | write => cases taken
  | read => cases taken
  | ram => cases taken

/-- An access at its ports that the controller does not take stops the
process. -/
theorem kbd_port_spares (apart : kbdInput (.port host access) = none)
    (accessed : portAccess host machine access = .ok (data, next)) :
    next.kbd = machine.kbd := by
  by_cases served : servedBy access.port = some 8
  · rw [portAccess_kbd served] at accessed
    cases access with
    | outb port val => cases (if_pos served).symm.trans apart
    | inb port => cases (if_pos served).symm.trans apart
    | outw => cases accessed
    | outl => cases accessed
    | inw => cases accessed
    | inl => cases accessed
  · refine view_of_apart kbd_spared ?_ accessed
    intro index mem elsewhere
    rw [List.mem_singleton.mp mem] at elsewhere
    exact served elsewhere

theorem kbd_spares (apart : kbdInput step = none)
    (stepped : deviceStep machine step = .ok (response, next)) :
    kbdPart.get next = kbdPart.get machine := by
  cases step with
  | port host access =>
      obtain ⟨data, accessed, -⟩ := deviceStep_port_eq_ok_iff.mp stepped
      exact kbd_port_spares apart accessed
  | key => cases apart
  | write address len pData =>
      obtain ⟨after, -, built⟩ := Outcome.bind_eq_ok_iff.mp stepped
      cases built
      rfl
  | read address len =>
      obtain ⟨after, -, built⟩ := Outcome.bind_eq_ok_iff.mp stepped
      cases built
      rfl
  | ram lowMem =>
      cases stepped
      rfl

end Kbd

/-- The keyboard controller in the machine. -/
def kbdAlone : Component deviceStep Keyboard.kbdStep where
  get := kbdPart.get
  set := kbdPart.set
  takes := kbdInput
  shows := byteData
  get_set := kbdPart.get_set
  serves := kbd_serves
  spares := kbd_spares

/-! ## The DMA controllers -/

/-- The place of a handler in the table. -/
def dmaIndex : I8237.Handler → Nat
  | .ctrl0 => 3
  | .ctrl1 => 4
  | .page => 5

def ServedByDma (port : Uint16) : Prop :=
  servedBy port = some 3 ∨ servedBy port = some 4 ∨ servedBy port = some 5

instance (port : Uint16) : Decidable (ServedByDma port) :=
  inferInstanceAs (Decidable (_ ∨ _ ∨ _))

def dmaInput : DeviceStep → Option I8237.DmaAccess
  | .port _ (.outb port val) =>
      if ServedByDma port then some (.outb port val) else none
  | .port _ (.inb port) =>
      if ServedByDma port then some (.inb port) else none
  | _ => none

section DmaPorts

variable {host : Host} {machine next : Machine} {step : DeviceStep}
variable {own : I8237.DmaAccess} {response : Vga.VideoResponse}
variable {access : IoAccess} {data : IoData} {port : Uint16}

theorem dma_spared : SparedBy [3, 4, 5] dmaPart.get where
  cmos := .inr fun _ _ => rfl
  a20 := .inr fun _ _ => rfl
  dma := .inl (by decide)
  pci := .inr fun _ _ => rfl
  para := .inr fun _ _ => rfl
  kbd := .inr fun _ _ => rfl
  vga := .inr fun _ _ => rfl
  floppy := .inr fun _ _ => rfl
  ata := .inr fun _ _ => rfl

theorem exists_dmaIndex (served : ServedByDma port) :
    ∃ hdl, servedBy port = some (dmaIndex hdl) := by
  rcases served with first | second | page
  · exact ⟨.ctrl0, first⟩
  · exact ⟨.ctrl1, second⟩
  · exact ⟨.page, page⟩

/-- The table of all devices serves the ports of the controllers as a table of
theirs alone. -/
theorem handlerAt_of_servedBy {hdl : I8237.Handler}
    (served : servedBy port = some (dmaIndex hdl)) :
    I8237.handlerAt port = some hdl := by
  obtain ⟨inside, decoded, before⟩ :=
    List.findIdx?_eq_some_iff_getElem.mp served
  have window (index : Nat) (earlier : index < dmaIndex hdl) :=
    before index earlier
  apply I8237.handlerAt_of_lookup
  cases hdl with
  | ctrl0 =>
      have found : port &&& ~~~0x0F = 0x00 := of_decide_eq_true decoded
      exact List.find?_cons_of_pos (decide_eq_true found)
  | ctrl1 =>
      have found : port &&& ~~~0x1F = 0xC0 := of_decide_eq_true decoded
      have first := window 3 (by decide)
      refine (List.find?_cons_of_neg ?_).trans
        (List.find?_cons_of_pos (decide_eq_true found))
      exact first
  | page =>
      have found : port &&& ~~~0x0F = 0x80 := of_decide_eq_true decoded
      have first := window 3 (by decide)
      have second := window 4 (by decide)
      refine (List.find?_cons_of_neg ?_).trans
        ((List.find?_cons_of_neg ?_).trans
          (List.find?_cons_of_pos (decide_eq_true found)))
      · exact first
      · exact second

theorem placed_dma (host : Host) (hdl : I8237.Handler) :
    (registeredHandlers host)[dmaIndex hdl]? =
      some (hdl.entries.onPart dmaPart) := by
  cases hdl with
  | ctrl0 => rfl
  | ctrl1 => rfl
  | page => rfl

theorem portAccess_dma {hdl : I8237.Handler}
    (served : servedBy access.port = some (dmaIndex hdl)) :
    portAccess host machine access = (do
      let (data, after) ← hdl.entries.serve machine.dma access
      pure (data, dmaPart.set after machine)) :=
  portAccess_onPart served (placed_dma host hdl)

theorem dma_serves (taken : dmaInput step = some own) :
    deviceStep machine step = (do
      let (answer, after) ← I8237.dmaStep (dmaPart.get machine) own
      pure (byteData answer, dmaPart.set after machine)) := by
  cases step with
  | port host access =>
      cases access with
      | outb port val =>
          obtain ⟨window, same⟩ := Option.ite_none_right_eq_some.mp taken
          cases same
          obtain ⟨hdl, served⟩ := exists_dmaIndex window
          rw [deviceStep_port,
            @portAccess_dma host machine (.outb port val) hdl served,
            I8237.dmaStep_outb_eq (handlerAt_of_servedBy served)]
          simp only [IoHandler.serve, I8237.entries_base, bind_assoc,
            pure_bind]
          rfl
      | inb port =>
          obtain ⟨window, same⟩ := Option.ite_none_right_eq_some.mp taken
          cases same
          obtain ⟨hdl, served⟩ := exists_dmaIndex window
          rw [deviceStep_port,
            @portAccess_dma host machine (.inb port) hdl served,
            I8237.dmaStep_inb_eq (handlerAt_of_servedBy served)]
          simp only [IoHandler.serve, I8237.entries_base, bind_assoc,
            pure_bind]
          rfl
      | outw => cases taken
      | outl => cases taken
      | inw => cases taken
      | inl => cases taken
  | key => cases taken
  | write => cases taken
  | read => cases taken
  | ram => cases taken

theorem dma_port_spares (apart : dmaInput (.port host access) = none)
    (accessed : portAccess host machine access = .ok (data, next)) :
    next.dma = machine.dma := by
  by_cases window : ServedByDma access.port
  · obtain ⟨hdl, served⟩ := exists_dmaIndex window
    rw [portAccess_dma served] at accessed
    cases access with
    | outb port val => cases (if_pos window).symm.trans apart
    | inb port => cases (if_pos window).symm.trans apart
    | outw => cases hdl <;> cases accessed
    | outl => cases hdl <;> cases accessed
    | inw => cases hdl <;> cases accessed
    | inl => cases hdl <;> cases accessed
  · refine view_of_apart dma_spared ?_ accessed
    intro index mem elsewhere
    simp only [List.mem_cons, List.not_mem_nil, or_false] at mem
    rcases mem with rfl | rfl | rfl
    · exact window (.inl elsewhere)
    · exact window (.inr (.inl elsewhere))
    · exact window (.inr (.inr elsewhere))

theorem dma_offPorts
    (stepped : deviceStep machine step = .ok (response, next))
    (off : step.OffPorts) : dmaPart.get next = dmaPart.get machine :=
  view_of_offPorts (fun _ _ => rfl) (fun _ _ => rfl) (fun _ _ => rfl)
    stepped off

theorem dma_spares (apart : dmaInput step = none)
    (stepped : deviceStep machine step = .ok (response, next)) :
    dmaPart.get next = dmaPart.get machine := by
  cases step with
  | port host access =>
      obtain ⟨data, accessed, -⟩ := deviceStep_port_eq_ok_iff.mp stepped
      exact dma_port_spares apart accessed
  | write => exact dma_offPorts stepped trivial
  | read => exact dma_offPorts stepped trivial
  | key => exact dma_offPorts stepped trivial
  | ram => exact dma_offPorts stepped trivial

end DmaPorts

/-- The DMA controllers in the machine. -/
def dmaAlone : Component deviceStep I8237.dmaStep where
  get := dmaPart.get
  set := dmaPart.set
  takes := dmaInput
  shows := byteData
  get_set := dmaPart.get_set
  serves := dma_serves
  spares := dma_spares

/-! ## The CMOS, the A20 gate and the paravirtual interface -/

section Small

variable {machine next : Machine} {step : DeviceStep}
variable {response : Vga.VideoResponse}

theorem cmos_spared : SparedBy [0] cmosPart.get where
  cmos := .inl List.mem_cons_self
  a20 := .inr fun _ _ => rfl
  dma := .inr fun _ _ => rfl
  pci := .inr fun _ _ => rfl
  para := .inr fun _ _ => rfl
  kbd := .inr fun _ _ => rfl
  vga := .inr fun _ _ => rfl
  floppy := .inr fun _ _ => rfl
  ata := .inr fun _ _ => rfl

theorem cmos_placed (host : Host) :
    (registeredHandlers host)[0]? = some ((cmosHandler host).onPart cmosPart) := rfl

theorem cmos_offPorts
    (stepped : deviceStep machine step = .ok (response, next))
    (off : step.OffPorts) : cmosPart.get next = cmosPart.get machine :=
  view_of_offPorts (fun _ _ => rfl) (fun _ _ => rfl) (fun _ _ => rfl)
    stepped off

def cmosSlot : Slot CmosSystem where
  index := 0
  part := cmosPart
  handler := cmosHandler
  placed := cmos_placed
  spared := cmos_spared
  offPorts := cmos_offPorts

theorem a20_spared : SparedBy [1] a20Part.get where
  cmos := .inr fun _ _ => rfl
  a20 := .inl List.mem_cons_self
  dma := .inr fun _ _ => rfl
  pci := .inr fun _ _ => rfl
  para := .inr fun _ _ => rfl
  kbd := .inr fun _ _ => rfl
  vga := .inr fun _ _ => rfl
  floppy := .inr fun _ _ => rfl
  ata := .inr fun _ _ => rfl

theorem a20_placed (host : Host) :
    (registeredHandlers host)[1]? = some (ps2PosHandler.onPart a20Part) := rfl

theorem a20_offPorts
    (stepped : deviceStep machine step = .ok (response, next))
    (off : step.OffPorts) : a20Part.get next = a20Part.get machine :=
  view_of_offPorts (fun _ _ => rfl) (fun _ _ => rfl) (fun _ _ => rfl)
    stepped off

def a20Slot : Slot A20En where
  index := 1
  part := a20Part
  handler := fun _ => ps2PosHandler
  placed := a20_placed
  spared := a20_spared
  offPorts := a20_offPorts

theorem para_spared : SparedBy [7] paraPart.get where
  cmos := .inr fun _ _ => rfl
  a20 := .inr fun _ _ => rfl
  dma := .inr fun _ _ => rfl
  pci := .inr fun _ _ => rfl
  para := .inl List.mem_cons_self
  kbd := .inr fun _ _ => rfl
  vga := .inr fun _ _ => rfl
  floppy := .inr fun _ _ => rfl
  ata := .inr fun _ _ => rfl

theorem para_placed (host : Host) :
    (registeredHandlers host)[7]? = some (qemuparaHandler.onPart paraPart) := rfl

theorem para_offPorts
    (stepped : deviceStep machine step = .ok (response, next))
    (off : step.OffPorts) : paraPart.get next = paraPart.get machine :=
  view_of_offPorts (fun _ _ => rfl) (fun _ _ => rfl) (fun _ _ => rfl)
    stepped off

def paraSlot : Slot Qemu.Ctx where
  index := 7
  part := paraPart
  handler := fun _ => qemuparaHandler
  placed := para_placed
  spared := para_spared
  offPorts := para_offPorts

end Small

/-! ## Whole runs -/

/-- What every access, memory access, key event and store of the guest does to
a device is what the device does on its own. -/
structure DevicesAlone (machine : Machine) (given : List DeviceStep)
    (delivered : List Vga.VideoResponse) (final : Machine) : Prop where
  ata : ataAlone.RunsAlone machine given delivered final
  kbd : kbdAlone.RunsAlone machine given delivered final
  dma : dmaAlone.RunsAlone machine given delivered final
  cmos : cmosSlot.component.RunsAlone machine given delivered final
  a20 : a20Slot.component.RunsAlone machine given delivered final
  para : paraSlot.component.RunsAlone machine given delivered final

/-- However the steps for the devices are interleaved, each device sees a run
of its own. -/
theorem devices_run_alone {machine final : Machine}
    {given : List DeviceStep} {delivered : List Vga.VideoResponse}
    (ran : run deviceStep machine given = .ok (delivered, final)) :
    DevicesAlone machine given delivered final where
  ata := Component.runsAlone_of_run ran
  kbd := Component.runsAlone_of_run ran
  dma := Component.runsAlone_of_run ran
  cmos := Component.runsAlone_of_run ran
  a20 := Component.runsAlone_of_run ran
  para := Component.runsAlone_of_run ran

/-- What `devices_register_all` leaves of each device. -/
structure Started (around : Surroundings) (machine : Machine) : Prop where
  sys : machine.sys = around.sys
  cmos : machine.cmos = Cmos.x86CmosInit
  a20En : machine.a20En = 0
  dma : machine.dma = I8237.Controllers.zero
  para : machine.para = Qemu.Ctx.cleared
  kbd : machine.kbd = Keyboard.x86KeyboardInit
  lowMem : machine.lowMem = around.lowMem
  ata : machine.ata = Ata.x86AtaInit around.hddImage

theorem started_of_start {around : Surroundings} {machine : Machine}
    (start : Machine.start around = .ok machine) :
    Started around machine := by
  obtain ⟨video, -, built⟩ := Outcome.bind_eq_ok_iff.mp start
  cases built
  exact ⟨rfl, rfl, rfl, rfl, rfl, rfl, rfl, rfl⟩

theorem devices_run_alone_key :
    ∃ machine final, Machine.start bare = .ok machine ∧
      DevicesAlone machine
        [.key 0x1E true, .port Host.atNoon (.inb 0x60)]
        [.data .none, .data (.byte 0x1E)] final := by
  obtain ⟨machine, start⟩ := exists_start_bare
  have kbd := (started_of_start start).kbd
  have pressed : deviceStep machine (.key 0x1E true) =
      .ok (.data .none,
        { machine with
          kbd := Keyboard.kbdInject Keyboard.x86KeyboardInit 0x1E true }) := by
    rw [← kbd]
    rfl
  have read := @kbd_serves
    { machine with
      kbd := Keyboard.kbdInject Keyboard.x86KeyboardInit 0x1E true }
    (.port Host.atNoon (.inb 0x60)) (.inb 0x60) rfl
  exact ⟨machine, _, start,
    devices_run_alone (run_cons pressed (run_one read))⟩

end Kvmulate.Devices
