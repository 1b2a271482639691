import Kvmulate.Devices.Alone

/-!
# Devices with tables of their own

The devices that have several handlers, or other steps than accesses to their
ports.  The floppy controller, the DMA controllers and the RAM count as one
device, and so do the VGA, its ROM and the PCI bus.
-/

namespace Kvmulate.Devices

open DeviceLib Kvmulate.Io Kvmulate.System

/-! ## Which device a step is for -/

inductive Device where
  | cmos
  | a20
  | para
  | kbd
  | video
  | transfers
  | ata
  | others
deriving DecidableEq, Repr

/-- The device of a handler, by the place in the table.  Ports without a
handler count with the handlers that keep nothing. -/
def deviceOf : Option Nat → Device
  | some 0 => .cmos
  | some 1 => .a20
  | some 3 => .transfers
  | some 4 => .transfers
  | some 5 => .transfers
  | some 6 => .video
  | some 7 => .para
  | some 8 => .kbd
  | some 15 => .video
  | some 16 => .video
  | some 19 => .transfers
  | some 20 => .ata
  | _ => .others

def deviceOfStep : DeviceStep → Device
  | .port _ access => deviceOf (servedBy access.port)
  | .write _ _ _ => .video
  | .read _ _ => .video
  | .key _ _ => .kbd
  | .ram _ => .transfers

theorem servedBy_eq_findIdx? (host : Host) (port : Uint16) :
    servedBy port =
      (registeredHandlers host).findIdx?
        fun handler => handler.decodes port := by
  unfold servedBy
  rw [← map_window host, List.findIdx?_map]
  rfl

theorem servedBy_lt {port : Uint16} {index : Nat}
    (served : servedBy port = some index) : index < 21 :=
  (List.findIdx?_eq_some_iff_getElem.mp served).1

/-! ## Devices with a table of their own -/

/-- A device with several handlers, or with other steps than accesses to its
ports. -/
structure TableDevice (name : Device) (τ ε : Type) where
  part : LawfulPart Machine τ
  indices : List Nat
  handlers : Host → List (IoHandler τ)
  events : DeviceStep → Option ε
  eventCall : Call τ ε Vga.VideoResponse
  room : ∀ host, (handlers host).length < maxHandlers
  placed : ∀ host, (handlers host).map (IoHandler.onPart part) =
    selected (registeredHandlers host) indices
  sorted : indices.Pairwise fun first second => first < second
  belongs : ∀ index < 21, index ∈ indices ↔ deviceOf (some index) = name
  spared : SparedBy indices part.get
  owned : ∀ step, DeviceStep.OffPorts step →
    ((events step).isSome = true ↔ deviceOfStep step = name)
  serves : ∀ {machine step event}, DeviceStep.OffPorts step →
    events step = some event →
      deviceStep machine step = (do
        let (answer, after) ← eventCall (part.get machine) event
        pure (answer, part.set after machine))
  spares : ∀ {machine step response next}, DeviceStep.OffPorts step →
    events step = none →
      deviceStep machine step = .ok (response, next) →
        part.get next = part.get machine

namespace TableDevice

variable {name : Device} {τ ε : Type} (device : TableDevice name τ ε)

/-- The device with its handlers as the only ones. -/
def call : Call τ ((Host × IoAccess) ⊕ ε) Vga.VideoResponse
  | state, .inl (host, access) => do
      let (data, next) ←
        ioAccess (tableOf (device.handlers host)) state access
      pure (.data data, next)
  | state, .inr event => device.eventCall state event

def takes : DeviceStep → Option ((Host × IoAccess) ⊕ ε)
  | .port host access =>
      if deviceOf (servedBy access.port) = name then
        some (.inl (host, access))
      else none
  | step => (device.events step).map .inr

section Ports

variable {host : Host} {machine next : Machine} {access : IoAccess}
variable {port : Uint16} {step : DeviceStep}
variable {own : (Host × IoAccess) ⊕ ε} {response : Vga.VideoResponse}

/-- The lookup in the table of the device is that in the whole table. -/
theorem lookupDevice_eq
    (mine : deviceOf (servedBy port) = name) :
    lookupDevice host port =
      (lookupHandler (tableOf (device.handlers host)) port).map
        (IoHandler.onPart device.part) := by
  have only : ∀ slot item,
      FirstAt (fun handler : IoHandler Machine => handler.decodes port)
          (fun slot => (registeredHandlers host)[slot]?) slot item →
        slot ∈ device.indices := by
    intro slot item first
    obtain ⟨holds, accepted, before⟩ := first
    obtain ⟨inside, same⟩ := List.getElem?_eq_some_iff.mp holds
    have served : servedBy port = some slot := by
      rw [servedBy_eq_findIdx? host, List.findIdx?_eq_some_iff_getElem]
      refine ⟨inside, ?_, ?_⟩
      · rw [same]
        exact accepted
      · intro earlier less
        have rejected := before earlier less _
          (List.getElem?_eq_getElem (Nat.lt_trans less inside))
        simp [rejected]
    rw [served] at mine
    exact (device.belongs slot (servedBy_lt served)).mpr mine
  unfold lookupDevice
  rw [lookupHandler_tableOf (device.room host),
    ← find?_selected device.sorted only, ← device.placed host,
    List.find?_map]
  rfl

theorem portAccess_onTable
    (mine : deviceOf (servedBy access.port) = name) :
    portAccess host machine access = (do
      let (data, after) ← ioAccess (tableOf (device.handlers host))
        (device.part.get machine) access
      pure (data, device.part.set after machine)) := by
  have same := @lookupDevice_eq _ _ _ device host _ mine
  cases found : lookupHandler (tableOf (device.handlers host))
      access.port with
  | none =>
      rw [found] at same
      obtain ⟨table, built, handlers⟩ := exists_registered host
      have unclaimed : lookupHandler table access.port = none := by
        unfold lookupHandler
        rw [handlers]
        exact same
      unfold portAccess
      rw [built]
      exact ioAccess_of_unclaimed unclaimed found
  | some handler =>
      rw [found] at same
      rw [portAccess_of_lookup same, serve_onPart,
        ioAccess_of_lookup found]

theorem call_port (state : τ) :
    device.call state (.inl (host, access)) = (do
      let (data, next) ←
        ioAccess (tableOf (device.handlers host)) state access
      pure (.data data, next)) := rfl

theorem takes_port :
    device.takes (.port host access) =
      if deviceOf (servedBy access.port) = name then
        some (.inl (host, access))
      else none := rfl

theorem takes_of_offPorts (off : step.OffPorts) :
    device.takes step = (device.events step).map .inr := by
  cases step with
  | port => cases off
  | write => rfl
  | read => rfl
  | key => rfl
  | ram => rfl

theorem isSome_takes :
    (device.takes step).isSome = true ↔ deviceOfStep step = name := by
  have others (off : step.OffPorts) :
      (device.takes step).isSome = true ↔ deviceOfStep step = name := by
    rw [device.takes_of_offPorts off, Option.isSome_map]
    exact device.owned step off
  cases step with
  | port host access =>
      rw [takes_port, Option.isSome_ite]
      rfl
  | write => exact others trivial
  | read => exact others trivial
  | key => exact others trivial
  | ram => exact others trivial

theorem serves_own (taken : device.takes step = some own) :
    deviceStep machine step = (do
      let (answer, after) ← device.call (device.part.get machine) own
      pure (answer, device.part.set after machine)) := by
  have others (off : step.OffPorts) :
      deviceStep machine step = (do
        let (answer, after) ← device.call (device.part.get machine) own
        pure (answer, device.part.set after machine)) := by
    rw [device.takes_of_offPorts off, Option.map_eq_some_iff] at taken
    obtain ⟨event, happened, same⟩ := taken
    rw [← same]
    exact device.serves off happened
  cases step with
  | port host access =>
      obtain ⟨mine, same⟩ := Option.ite_none_right_eq_some.mp taken
      cases same
      rw [deviceStep_port, device.portAccess_onTable mine, call_port]
      simp only [bind_assoc, pure_bind]
  | write => exact others trivial
  | read => exact others trivial
  | key => exact others trivial
  | ram => exact others trivial

theorem spares_other (apart : device.takes step = none)
    (stepped : deviceStep machine step = .ok (response, next)) :
    device.part.get next = device.part.get machine := by
  have others (off : step.OffPorts) :
      device.part.get next = device.part.get machine := by
    rw [device.takes_of_offPorts off, Option.map_eq_none_iff] at apart
    exact device.spares off apart stepped
  cases step with
  | port host access =>
      obtain ⟨data, accessed, -⟩ := deviceStep_port_eq_ok_iff.mp stepped
      refine view_of_apart device.spared ?_ accessed
      intro index mem served
      have mine := (device.belongs index (servedBy_lt served)).mp mem
      rw [← served] at mine
      rw [takes_port, if_pos mine] at apart
      cases apart
  | write => exact others trivial
  | read => exact others trivial
  | key => exact others trivial
  | ram => exact others trivial

end Ports

/-- The device in the machine. -/
def component : Component deviceStep device.call where
  get := device.part.get
  set := device.part.set
  takes := device.takes
  shows := id
  get_set := device.part.get_set
  serves := device.serves_own
  spares := device.spares_other

end TableDevice

/-! ## The keyboard controller -/

section Steps

variable {machine next : Machine} {step : DeviceStep}
variable {response : Vga.VideoResponse}

def keyOf : DeviceStep → Option (Uint8 × Bool)
  | .key sc bIsPressed => some (sc, bIsPressed)
  | _ => none

def keyCall : Call Keyboard.KbdRegs (Uint8 × Bool) Vga.VideoResponse
  | regs, (sc, bIsPressed) =>
      pure (.data .none, Keyboard.kbdInject regs sc bIsPressed)

theorem kbd_room (_ : Host) : [kbdHandler].length < maxHandlers := by
  decide

theorem kbd_placed (host : Host) :
    [kbdHandler].map (IoHandler.onPart kbdPart) =
      selected (registeredHandlers host) [8] := rfl

theorem kbd_belongs :
    ∀ index < 21, index ∈ [8] ↔ deviceOf (some index) = .kbd := by
  decide

theorem kbd_owned (step : DeviceStep) (off : step.OffPorts) :
    (keyOf step).isSome = true ↔ deviceOfStep step = .kbd := by
  cases step with
  | port => cases off
  | write => exact iff_of_false Bool.false_ne_true Device.noConfusion
  | read => exact iff_of_false Bool.false_ne_true Device.noConfusion
  | key => exact iff_of_true rfl rfl
  | ram => exact iff_of_false Bool.false_ne_true Device.noConfusion

theorem key_serves {event : Uint8 × Bool} (off : step.OffPorts)
    (happened : keyOf step = some event) :
    deviceStep machine step = (do
      let (answer, after) ← keyCall (kbdPart.get machine) event
      pure (answer, kbdPart.set after machine)) := by
  cases step with
  | port => cases off
  | key sc bIsPressed =>
      cases happened
      rfl
  | write => cases happened
  | read => cases happened
  | ram => cases happened

theorem key_spares (off : step.OffPorts) (apart : keyOf step = none)
    (stepped : deviceStep machine step = .ok (response, next)) :
    kbdPart.get next = kbdPart.get machine := by
  refine kbd_spares ?_ stepped
  cases step with
  | port => cases off
  | key => cases apart
  | write => rfl
  | read => rfl
  | ram => rfl

def kbdDevice : TableDevice .kbd Keyboard.KbdRegs (Uint8 × Bool) where
  part := kbdPart
  indices := [8]
  handlers _ := [kbdHandler]
  events := keyOf
  eventCall := keyCall
  room := kbd_room
  placed := kbd_placed
  sorted := List.pairwise_singleton _ _
  belongs := kbd_belongs
  spared := kbd_spared
  owned := kbd_owned
  serves := key_serves
  spares := key_spares

/-! ## The video devices -/

def pciOfVideo : LawfulPart Vga.Video Pci.PciSystem where
  get video := video.pci
  set after video := { video with pci := after }
  get_set _ _ := rfl
  set_get _ := rfl

def vgaOfVideo : LawfulPart Vga.Video Vga.VgaCtx where
  get video := video.vga
  set after video := { video with vga := after }
  get_set _ _ := rfl
  set_get _ := rfl

def videoHandlers (_ : Host) : List (IoHandler Vga.Video) :=
  [Pci.pciHandler.onPart pciOfVideo,
    (vgaregHandler 0x3C0).onPart vgaOfVideo,
    (vgaregHandler 0x3D0).onPart vgaOfVideo]

def mmioOf : DeviceStep → Option Vga.VideoAccess
  | .write address len pData => some (.write address len pData)
  | .read address len => some (.read address len)
  | _ => none

theorem video_room (host : Host) :
    (videoHandlers host).length < maxHandlers := by
  change 3 < 128
  decide

theorem video_placed (host : Host) :
    (videoHandlers host).map (IoHandler.onPart videoPart) =
      selected (registeredHandlers host) [6, 15, 16] := by
  unfold videoHandlers
  simp only [List.map_cons, List.map_nil, onPart_onPart]
  rfl

theorem video_sorted :
    [6, 15, 16].Pairwise fun first second => first < second := by
  decide

theorem video_belongs :
    ∀ index < 21, index ∈ [6, 15, 16] ↔ deviceOf (some index) = .video := by
  decide

theorem video_spared : SparedBy [6, 15, 16] videoPart.get where
  cmos := .inr fun _ _ => rfl
  a20 := .inr fun _ _ => rfl
  dma := .inr fun _ _ => rfl
  pci := .inl List.mem_cons_self
  para := .inr fun _ _ => rfl
  kbd := .inr fun _ _ => rfl
  vga := .inl (by decide)
  floppy := .inr fun _ _ => rfl
  ata := .inr fun _ _ => rfl

theorem video_owned (step : DeviceStep) (off : step.OffPorts) :
    (mmioOf step).isSome = true ↔ deviceOfStep step = .video := by
  cases step with
  | port => cases off
  | write => exact iff_of_true rfl rfl
  | read => exact iff_of_true rfl rfl
  | key => exact iff_of_false Bool.false_ne_true Device.noConfusion
  | ram => exact iff_of_false Bool.false_ne_true Device.noConfusion

theorem mmio_serves {event : Vga.VideoAccess} (off : step.OffPorts)
    (happened : mmioOf step = some event) :
    deviceStep machine step = (do
      let (answer, after) ← Vga.videoAccess (videoPart.get machine) event
      pure (answer, videoPart.set after machine)) := by
  cases step with
  | port => cases off
  | write address len pData =>
      cases happened
      rfl
  | read address len =>
      cases happened
      rfl
  | key => cases happened
  | ram => cases happened

theorem mmio_spares (off : step.OffPorts) (apart : mmioOf step = none)
    (stepped : deviceStep machine step = .ok (response, next)) :
    videoPart.get next = videoPart.get machine := by
  cases step with
  | port => cases off
  | write => cases apart
  | read => cases apart
  | key =>
      cases stepped
      rfl
  | ram =>
      cases stepped
      rfl

def videoDevice : TableDevice .video Vga.Video Vga.VideoAccess where
  part := videoPart
  indices := [6, 15, 16]
  handlers := videoHandlers
  events := mmioOf
  eventCall := Vga.videoAccess
  room := video_room
  placed := video_placed
  sorted := video_sorted
  belongs := video_belongs
  spared := video_spared
  owned := video_owned
  serves := mmio_serves
  spares := mmio_spares

/-! ## The floppy controller, the DMA controllers and the RAM -/

/-- READ DATA goes through the DMA controllers into the RAM. -/
structure Transfers where
  fdc : Floppy.Fdc
  dma : I8237.Controllers
  lowMem : LowMem

def transfersPart : LawfulPart Machine Transfers where
  get machine := ⟨machine.fdc, machine.dma, machine.lowMem⟩
  set after machine :=
    { machine with
      fdc := after.fdc, dma := after.dma, lowMem := after.lowMem }
  get_set _ _ := rfl
  set_get _ := rfl

def dmaOfTransfers : LawfulPart Transfers I8237.Controllers where
  get transfers := transfers.dma
  set after transfers := { transfers with dma := after }
  get_set _ _ := rfl
  set_get _ := rfl

def floppyOfTransfers : Part Transfers Floppy.FloppySystem where
  get transfers := ⟨transfers.fdc, transfers.dma.dma, transfers.lowMem, []⟩
  set after transfers :=
    { transfers with fdc := after.fdc, lowMem := after.lowMem }

def transfersHandlers (host : Host) : List (IoHandler Transfers) :=
  [(I8237.i8237Handler 0x00 (~~~0x0F)).onPart dmaOfTransfers,
    (I8237.i8237Handler 0xC0 (~~~0x1F)).onPart dmaOfTransfers,
    I8237.i8237PageHandler.onPart dmaOfTransfers,
    (floppyHandler host).onPart floppyOfTransfers]

def ramOf : DeviceStep → Option LowMem
  | .ram lowMem => some lowMem
  | _ => none

def ramCall : Call Transfers LowMem Vga.VideoResponse
  | transfers, lowMem => pure (.data .none, { transfers with lowMem := lowMem })

theorem transfers_room (host : Host) :
    (transfersHandlers host).length < maxHandlers := by
  change 4 < 128
  decide

theorem transfers_placed (host : Host) :
    (transfersHandlers host).map (IoHandler.onPart transfersPart) =
      selected (registeredHandlers host) [3, 4, 5, 19] := by
  unfold transfersHandlers
  simp only [List.map_cons, List.map_nil, onPart_onPart]
  rfl

theorem transfers_sorted :
    [3, 4, 5, 19].Pairwise fun first second => first < second := by
  decide

theorem transfers_belongs :
    ∀ index < 21,
      index ∈ [3, 4, 5, 19] ↔ deviceOf (some index) = .transfers := by
  decide

theorem transfers_spared : SparedBy [3, 4, 5, 19] transfersPart.get where
  cmos := .inr fun _ _ => rfl
  a20 := .inr fun _ _ => rfl
  dma := .inl (by decide)
  pci := .inr fun _ _ => rfl
  para := .inr fun _ _ => rfl
  kbd := .inr fun _ _ => rfl
  vga := .inr fun _ _ => rfl
  floppy := .inl (by decide)
  ata := .inr fun _ _ => rfl

theorem transfers_owned (step : DeviceStep) (off : step.OffPorts) :
    (ramOf step).isSome = true ↔ deviceOfStep step = .transfers := by
  cases step with
  | port => cases off
  | write => exact iff_of_false Bool.false_ne_true Device.noConfusion
  | read => exact iff_of_false Bool.false_ne_true Device.noConfusion
  | key => exact iff_of_false Bool.false_ne_true Device.noConfusion
  | ram => exact iff_of_true rfl rfl

theorem ram_serves {event : LowMem} (off : step.OffPorts)
    (happened : ramOf step = some event) :
    deviceStep machine step = (do
      let (answer, after) ← ramCall (transfersPart.get machine) event
      pure (answer, transfersPart.set after machine)) := by
  cases step with
  | port => cases off
  | ram lowMem =>
      cases happened
      rfl
  | write => cases happened
  | read => cases happened
  | key => cases happened

theorem ram_spares (off : step.OffPorts) (apart : ramOf step = none)
    (stepped : deviceStep machine step = .ok (response, next)) :
    transfersPart.get next = transfersPart.get machine := by
  cases step with
  | port => cases off
  | ram => cases apart
  | key =>
      cases stepped
      rfl
  | write =>
      obtain ⟨after, -, built⟩ := Outcome.bind_eq_ok_iff.mp stepped
      cases built
      rfl
  | read =>
      obtain ⟨after, -, built⟩ := Outcome.bind_eq_ok_iff.mp stepped
      cases built
      rfl

def transfersDevice : TableDevice .transfers Transfers LowMem where
  part := transfersPart
  indices := [3, 4, 5, 19]
  handlers := transfersHandlers
  events := ramOf
  eventCall := ramCall
  room := transfers_room
  placed := transfers_placed
  sorted := transfers_sorted
  belongs := transfers_belongs
  spared := transfers_spared
  owned := transfers_owned
  serves := ram_serves
  spares := ram_spares

/-! ## The handlers that keep nothing -/

def otherPorts (_ : Host) : List (IoHandler Unit) :=
  biosdebugHandler :: parportHandlers ++ serportHandlers ++
    [vgadbgHandler, vbeHandler]

def nothingOf (_ : DeviceStep) : Option Empty := none

def nothingCall : Call Unit Empty Vga.VideoResponse := fun _ => Empty.elim

def otherIndices : List Nat := [2, 9, 10, 11, 12, 13, 14, 17, 18]

theorem others_room (host : Host) :
    (otherPorts host).length < maxHandlers := by
  change 9 < 128
  decide

theorem others_placed (host : Host) :
    (otherPorts host).map (IoHandler.onPart noPart) =
      selected (registeredHandlers host) otherIndices := rfl

theorem others_sorted :
    otherIndices.Pairwise fun first second => first < second := by
  decide

theorem others_belongs :
    ∀ index < 21,
      index ∈ otherIndices ↔ deviceOf (some index) = .others := by
  decide

theorem others_spared : SparedBy otherIndices noPart.get where
  cmos := .inr fun _ _ => rfl
  a20 := .inr fun _ _ => rfl
  dma := .inr fun _ _ => rfl
  pci := .inr fun _ _ => rfl
  para := .inr fun _ _ => rfl
  kbd := .inr fun _ _ => rfl
  vga := .inr fun _ _ => rfl
  floppy := .inr fun _ _ => rfl
  ata := .inr fun _ _ => rfl

theorem others_owned (step : DeviceStep) (off : step.OffPorts) :
    (nothingOf step).isSome = true ↔ deviceOfStep step = .others := by
  cases step with
  | port => cases off
  | write => exact iff_of_false Bool.false_ne_true Device.noConfusion
  | read => exact iff_of_false Bool.false_ne_true Device.noConfusion
  | key => exact iff_of_false Bool.false_ne_true Device.noConfusion
  | ram => exact iff_of_false Bool.false_ne_true Device.noConfusion

theorem others_serves {event : Empty} (_ : step.OffPorts)
    (happened : nothingOf step = some event) :
    deviceStep machine step = (do
      let (answer, after) ← nothingCall (noPart.get machine) event
      pure (answer, noPart.set after machine)) := by
  cases happened

theorem others_spares (_ : step.OffPorts) (_ : nothingOf step = none)
    (_ : deviceStep machine step = .ok (response, next)) :
    noPart.get next = noPart.get machine := rfl

def othersDevice : TableDevice .others Unit Empty where
  part := noPart
  indices := otherIndices
  handlers := otherPorts
  events := nothingOf
  eventCall := nothingCall
  room := others_room
  placed := others_placed
  sorted := others_sorted
  belongs := others_belongs
  spared := others_spared
  owned := others_owned
  serves := others_serves
  spares := others_spares

end Steps

end Kvmulate.Devices
